import Catalog.Text.Scan

/-! Blank characters: trimming, collapsing, and the several kinds of line end. -/
namespace Catalog.Text

/-- White space in the sense of the Unicode standard, with the four separators U+001C to U+001F. -/
def isBlank (c : Char) : Bool :=
  let n := c.toNat
  (0x09 ≤ n && n ≤ 0x0D) || (0x1C ≤ n && n ≤ 0x20) || n == 0x85 || n == 0xA0 || n == 0x1680 ||
    (0x2000 ≤ n && n ≤ 0x200A) || n == 0x2028 || n == 0x2029 || n == 0x202F || n == 0x205F || n == 0x3000

/-- The characters without the blank ones at either end. -/
def trimChars (s : List Char) : List Char :=
  ((s.dropWhile isBlank).reverse.dropWhile isBlank).reverse

/-- The characters without blank ones at either end, or the last one if all are blank. -/
def trimmedOrLast (s : List Char) : List Char :=
  match trimChars s with
  | [] => s.getLast?.toList
  | trimmed => trimmed

def trim (text : String) : String :=
  String.ofList (trimChars text.toList)

def trimEnd (text : String) : String :=
  trimEndWhile isBlank text

/-- Whether every character is blank, as in the empty text. -/
def isBlankText (text : String) : Bool :=
  text.toList.all isBlank

/-- The characters with each run of blank ones replaced by one space; `after` tells that a run is open. -/
def collapseFrom (after : Bool) : List Char → List Char
  | [] => []
  | c :: cs =>
    if isBlank c then if after then collapseFrom true cs else ' ' :: collapseFrom true cs
    else c :: collapseFrom false cs

/-- The text with each run of blank characters replaced by one space, and none at either end. -/
def collapse (text : String) : String :=
  trim (String.ofList (collapseFrom false text.toList))

/-- A text that is absent when it holds nothing. -/
def nonEmpty? (text : String) : Option String :=
  if text.isEmpty then none else some text

/-- Whether the character ends a line: the controls from line feed to carriage return, the separators
U+001C to U+001E, next line, and the line and paragraph separators. -/
def endsLine (c : Char) : Bool :=
  let n := c.toNat
  (0x0A ≤ n && n ≤ 0x0D) || (0x1C ≤ n && n ≤ 0x1E) || n == 0x85 || n == 0x2028 || n == 0x2029

/-- The lines of the text without their ends; a carriage return with a line feed is one end, and nothing
follows the last end. `line` holds the open line backwards, and `pair` that a carriage return went before. -/
def linesFrom (line : List Char) (pair : Bool) : List Char → List (List Char)
  | [] => if line.isEmpty then [] else [line.reverse]
  | c :: cs =>
    if pair && c = '\n' then linesFrom [] false cs
    else if endsLine c then line.reverse :: linesFrom [] (c = '\r') cs
    else linesFrom (c :: line) false cs

/-- The lines of the text, without their ends. -/
def lines (text : String) : List String :=
  (linesFrom [] false text.toList).map String.ofList

/-- The characters with every carriage return, alone or with a line feed after it, turned into a line
feed. -/
def unifyLineEnds : List Char → List Char
  | [] => []
  | '\r' :: '\n' :: cs => '\n' :: unifyLineEnds cs
  | c :: cs => (if c = '\r' then '\n' else c) :: unifyLineEnds cs

end Catalog.Text
