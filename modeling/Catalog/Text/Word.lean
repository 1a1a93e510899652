import Catalog.Text.Table.Range
import Catalog.Text.Table.Word

/-! Characters of words and numbers. -/
namespace Catalog.Text

/-- A letter or number of any script, or the underscore. -/
def isWordChar (c : Char) : Bool :=
  if c.toNat < 0x80 then c.isAlphanum || c = '_' else inRanges alphanumericRanges c.toNat

/-- The value of a decimal digit of any script. -/
def digitValue? (c : Char) : Option Nat :=
  (digitRanges.find? fun (lo, hi) => decide (lo ≤ c.toNat) && decide (c.toNat ≤ hi)).map fun (lo, _) =>
    (c.toNat - lo) % 10

def isDigit (c : Char) : Bool :=
  (digitValue? c).isSome

def isAsciiLetter (c : Char) : Bool :=
  c.isAlpha

def isAsciiCapital (c : Char) : Bool :=
  c.isUpper

/-- The number written with decimal digits; a character that is none counts as nought. -/
def numberOf (digits : List Char) : Nat :=
  digits.foldl (fun n c => n * 10 + (digitValue? c).getD 0) 0

end Catalog.Text
