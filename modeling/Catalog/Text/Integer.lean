import Catalog.Text.Blank
import Catalog.Text.Quoted
import Catalog.Text.Word

/-! Whole numbers in texts. -/
namespace Catalog.Text

/-- Blank characters that may stand around a number: all but the four separators U+001C to U+001F. -/
def isBlankAroundNumber (c : Char) : Bool :=
  isBlank c && !(decide (0x1C ≤ c.toNat) && decide (c.toNat ≤ 0x1F))

/-- The digits of a numeral: at least one, and single underscores only between two of them. -/
def numeralDigits? : List Char → Option (List Char)
  | [] => none
  | [c] => if isDigit c then some [c] else none
  | c :: '_' :: cs => if isDigit c then (numeralDigits? cs).map (c :: ·) else none
  | c :: cs => if isDigit c then (numeralDigits? cs).map (c :: ·) else none

def maxNumeralDigits : Nat := 4300

/-- Why a text is no number. -/
inductive NumberError where
  | notANumber (text : String)
  | tooManyDigits (count : Nat)
  deriving DecidableEq, Repr

/-- What is said of a text that is no number; a long text is cut after 200 characters of its quoted form. -/
def NumberError.message : NumberError → String
  | .notANumber text => "invalid literal for int() with base 10: " ++ takeFirst (quoted text) 200
  | .tooManyDigits count =>
    "Exceeds the limit (" ++ toString maxNumeralDigits ++ " digits) for integer string conversion: value has " ++
      toString count ++ " digits; use sys.set_int_max_str_digits() to increase the limit"

/-- The number of its digits, if they are not too many. -/
def natOfDigits (digits : List Char) : Except NumberError Nat :=
  if digits.length ≤ maxNumeralDigits then .ok (numberOf digits) else .error (.tooManyDigits digits.length)

/-- The number that a text holds: an optional sign and a numeral, with blank characters around them. -/
def readInt (text : String) : Except NumberError Int :=
  let body := ((text.toList.dropWhile isBlankAroundNumber).reverse.dropWhile isBlankAroundNumber).reverse
  let (negative, numeral) :=
    match body with
    | '-' :: rest => (true, rest)
    | '+' :: rest => (false, rest)
    | _ => (false, body)
  match numeralDigits? numeral with
  | none => .error (.notANumber text)
  | some digits => (natOfDigits digits).map fun n => if negative then -(n : Int) else n

end Catalog.Text
