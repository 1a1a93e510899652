import Catalog.Json.Basic

/-! Printing of JSON values in ASCII. -/
namespace Catalog.Json

/-- Four hexadecimal digits in lower case. -/
def unitDigits (n : Nat) : List Char :=
  [n / 4096 % 16, n / 256 % 16, n / 16 % 16, n % 16].map Nat.digitChar

def escapeChar (c : Char) : List Char :=
  let n := c.toNat
  if c = '"' || c = '\\' then ['\\', c]
  else if c = '\n' then ['\\', 'n']
  else if 0x20 ≤ n && n ≤ 0x7E then [c]
  else if n < 0x10000 then '\\' :: 'u' :: unitDigits n
  else
    let m := n - 0x10000
    '\\' :: 'u' :: unitDigits (0xD800 + m / 0x400) ++ '\\' :: 'u' :: unitDigits (0xDC00 + m % 0x400)

def printString (text : String) : String :=
  String.ofList ('"' :: text.toList.flatMap escapeChar ++ ['"'])

def escapePoint : CodePoint → List Char
  | .char c => escapeChar c
  | .half n => '\\' :: 'u' :: unitDigits (CodePoint.unitOf n)

def printText : AnyText → String
  | .whole text => printString text
  | .broken text => String.ofList ('"' :: text.points.flatMap escapePoint ++ ['"'])

mutual

def print : Json → String
  | null => "null"
  | bool b => if b then "true" else "false"
  | int n => toString n
  | decimal d => d.text
  | nonFinite name => name
  | string text => printString text
  | broken text => printText (.broken text)
  | array items => "[" ++ printItems items ++ "]"
  | object members => "\x7b" ++ printMembers members ++ "\x7d"
  | misnamed members => "\x7b" ++ printMisnamed members ++ "\x7d"

def printItems : List Json → String
  | [] => ""
  | [item] => print item
  | item :: items => print item ++ "," ++ printItems items

def printMembers : List (String × Json) → String
  | [] => ""
  | [(name, value)] => printString name ++ ":" ++ print value
  | (name, value) :: members => printString name ++ ":" ++ print value ++ "," ++ printMembers members

def printMisnamed : List (AnyText × Json) → String
  | [] => ""
  | [(name, value)] => printText name ++ ":" ++ print value
  | (name, value) :: members => printText name ++ ":" ++ print value ++ "," ++ printMisnamed members

end

end Catalog.Json
