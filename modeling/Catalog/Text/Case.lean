import Catalog.Text.Table.Letter
import Catalog.Text.Table.Range

/-! Lower and upper case of texts. -/
namespace Catalog.Text

/-- Whether the character is a letter with case that is never passed over. -/
def isCased (c : Char) : Bool :=
  if c.toNat < 0x80 then c.isAlpha else inRanges casedRanges c.toNat

/-- Whether the character is passed over when the neighbours of a letter decide its form. -/
def isCaseIgnorable (c : Char) : Bool :=
  if c.toNat < 0x80 then c = '\x27' || c = '.' || c = ':' || c = '^' || c = '\x60'
  else inRanges caseIgnorableRanges c.toNat

/-- Whether the nearest character that is not passed over is a letter with case. -/
def meetsCased (s : List Char) : Bool :=
  match s.dropWhile isCaseIgnorable with
  | c :: _ => isCased c
  | [] => false

/-- The lower-case form of a character that does not depend on its neighbours. -/
def lowerChar (c : Char) : List Char :=
  if c.toNat < 0x80 then [c.toLower]
  else if c.toNat = 0x130 then ['i', Char.ofNat 0x307]
  else [Char.ofNat (shifted lowerRuns c.toNat)]

/-- Lower-cases the rest of a text whose characters so far are `before`, the last one first. A capital sigma
takes its final form at the end of a word: after a letter and before none. -/
def lowerFrom (before : List Char) : List Char → List Char
  | [] => []
  | c :: cs =>
    if c = 'Σ' then (if meetsCased before && !meetsCased cs then 'ς' else 'σ') :: lowerFrom (c :: before) cs
    else lowerChar c ++ lowerFrom (c :: before) cs

def lower (text : String) : String :=
  String.ofList (lowerFrom [] text.toList)

def upperChar (c : Char) : List Char :=
  if c.toNat < 0x80 then [c.toUpper]
  else
    match upperExpansions.find? fun (n, _) => n = c.toNat with
    | some (_, expansion) => expansion.map Char.ofNat
    | none => [Char.ofNat (shifted upperRuns c.toNat)]

def upper (text : String) : String :=
  String.ofList (text.toList.flatMap upperChar)

/-- Whether a character stands for the lower-case ASCII letter `letter` in a keyword: itself, its capital, and
the relatives of `i`, `k` and `s` outside ASCII. -/
def standsFor (letter c : Char) : Bool :=
  c.toLower == letter ||
    match letter with
    | 'i' => c.toNat == 0x130 || c.toNat == 0x131
    | 'k' => c.toNat == 0x212A
    | 's' => c.toNat == 0x17F
    | _ => false

/-- The text after a keyword in any case; the keyword is given in lower case. -/
def dropKeyword : List Char → List Char → Option (List Char)
  | [], s => some s
  | _ :: _, [] => none
  | k :: ks, c :: cs => if standsFor k c then dropKeyword ks cs else none

/-- The texts without those that an earlier text equals ignoring case; `seen` holds the lower-case forms that
are left out from the start. -/
def distinctIgnoringCase (seen : List String) : List String → List String
  | [] => []
  | text :: texts =>
    if seen.contains (lower text) then distinctIgnoringCase seen texts
    else text :: distinctIgnoringCase (lower text :: seen) texts

end Catalog.Text
