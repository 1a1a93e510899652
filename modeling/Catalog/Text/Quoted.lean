import Catalog.Text.Table.Printable
import Catalog.Text.Table.Range

/-! Texts shown between quotes, as messages show the values that they complain of. -/
namespace Catalog.Text

/-- The hexadecimal digits of `n` in lower case, `width` of them. -/
def hexDigits : Nat → Nat → List Char
  | 0, _ => []
  | width + 1, n => hexDigits width (n / 16) ++ [Nat.digitChar (n % 16)]

/-- Whether the character has a visible form; the space has one. -/
def isPrintable (c : Char) : Bool :=
  if c.toNat < 0x7F then decide (0x20 ≤ c.toNat) else !inRanges unprintableRanges c.toNat

/-- A character as it stands between quotes of the kind `quote`. -/
def quotedChar (quote c : Char) : List Char :=
  if c = quote || c = '\\' then ['\\', c]
  else if c = '\t' then ['\\', 't']
  else if c = '\n' then ['\\', 'n']
  else if c = '\r' then ['\\', 'r']
  else if isPrintable c then [c]
  else if c.toNat < 0x100 then '\\' :: 'x' :: hexDigits 2 c.toNat
  else if c.toNat < 0x10000 then '\\' :: 'u' :: hexDigits 4 c.toNat
  else '\\' :: 'U' :: hexDigits 8 c.toNat

/-- A single quote, or a double one if the characters have a single quote among them and no double one. -/
def quoteMark (chars : List Char) : Char :=
  if chars.contains '\x27' && !chars.contains '"' then '"' else '\x27'

/-- The text between quotes. -/
def quoted (text : String) : String :=
  let quote := quoteMark text.toList
  String.ofList (quote :: text.toList.flatMap (quotedChar quote) ++ [quote])

end Catalog.Text
