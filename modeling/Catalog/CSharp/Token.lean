import Catalog.Text.Blank
import Catalog.Text.Word

/-! Tokens of C# source. -/
namespace Catalog.CSharp

open Text

inductive TokenKind where
  | word
  | literal
  | comment
  | directive
  | punctuation
  deriving DecidableEq, Repr, Inhabited

/-- A token with the blank characters before it, so that source text can be given back as it was. -/
structure Token where
  kind : TokenKind
  gap : List Char
  text : List Char
  deriving DecidableEq, Repr, Inhabited

def Token.isWord (t : Token) (word : String) : Bool :=
  t.kind = .word && t.text = word.toList

def Token.isMark (t : Token) (mark : String) : Bool :=
  t.kind = .punctuation && t.text = mark.toList

/-- What ends the text of a literal. -/
inductive Quote where
  | single
  | regular
  | verbatim
  | raw (length : Nat)
  deriving DecidableEq, Repr

/-- Where in a literal the lexer is: in its text, with the number of braces that open a hole in it (nought if
it has none), or in the code of a hole that as many braces close, inside `depth` brackets. -/
inductive Frame where
  | text (quote : Quote) (braces : Nat)
  | hole (braces depth : Nat)
  deriving DecidableEq, Repr

/-- The front of a literal after its dollar and at signs: the text frame and the opening quotes. -/
def openQuotes (dollars : Nat) (verbatim : Bool) (s : List Char) : Option (Frame × List Char × List Char) :=
  let (quotes, rest) := spanWhile (· = '"') s
  if quotes.isEmpty then none
  else if verbatim then some (.text .verbatim dollars, ['"'], s.drop 1)
  else if 3 ≤ quotes.length then some (.text (.raw quotes.length) dollars, quotes, rest)
  else some (.text .regular dollars, ['"'], s.drop 1)

/-- The front of a literal, if one begins here: its frame, the characters read, and the rest. -/
def openLiteral? (s : List Char) : Option (Frame × List Char × List Char) :=
  match s with
  | '\x27' :: rest => some (.text .single 0, ['\x27'], rest)
  | _ =>
    let (signs, rest) := spanWhile (fun c => c = '$' || c = '@') s
    let dollars := signs.count '$'
    match openQuotes dollars (signs.contains '@') rest with
    | some (frame, quotes, rest') => some (frame, signs ++ quotes, rest')
    | none => none

/-- One step in the text of a literal: the frames afterwards, the characters read, and the rest. -/
def textStep (quote : Quote) (braces : Nat) (frames : List Frame) (s : List Char) :
    List Frame × List Char × List Char :=
  let stay := Frame.text quote braces :: frames
  let (run, afterRun) := spanWhile (· = '{') s
  if 0 < braces && !run.isEmpty then
    let raw := match quote with
      | .raw _ => true
      | _ => false
    if raw then (if braces ≤ run.length then .hole braces 0 :: stay else stay, run, afterRun)
    else if 2 ≤ run.length then (stay, ['{', '{'], s.drop 2)
    else (.hole 1 0 :: stay, run, afterRun)
  else
    match quote, s with
    | _, [] => (stay, [], [])
    | .raw length, c :: rest =>
      let (quotes, after) := spanWhile (· = '"') s
      if quotes.isEmpty then (stay, [c], rest)
      else (if length ≤ quotes.length then frames else stay, quotes, after)
    | .verbatim, '"' :: '"' :: rest => (stay, ['"', '"'], rest)
    | .single, '\\' :: c :: rest => (stay, ['\\', c], rest)
    | .regular, '\\' :: c :: rest => (stay, ['\\', c], rest)
    | .single, '\x27' :: rest => (frames, ['\x27'], rest)
    | .single, c :: rest => (stay, [c], rest)
    | _, '"' :: rest => (frames, ['"'], rest)
    | _, c :: rest => (stay, [c], rest)

def holeStep (braces depth : Nat) (frames : List Frame) (s : List Char) : List Frame × List Char × List Char :=
  match openLiteral? s with
  | some (frame, read, rest) => (frame :: .hole braces depth :: frames, read, rest)
  | none =>
    match s with
    | [] => (.hole braces depth :: frames, [], [])
    | c :: rest =>
      if c = '{' || c = '(' || c = '[' then (.hole braces (depth + 1) :: frames, [c], rest)
      else if c = '}' && depth = 0 then
        let closing := (s.takeWhile (· = '}')).take braces
        (frames, closing, s.drop closing.length)
      else if c = '}' || c = ')' || c = ']' then (.hole braces (depth - 1) :: frames, [c], rest)
      else (.hole braces depth :: frames, [c], rest)

/-- Reads on until no frame is open; `held` are the characters of the literal so far, last one first. Each step
takes a character at least, so that `fuel` need not exceed the length of the text. -/
def finishLiteral : Nat → List Frame → List Char → List Char → List Char × List Char
  | 0, _, held, s => (held.reverse, s)
  | _ + 1, [], held, s => (held.reverse, s)
  | fuel + 1, frame :: frames, held, s =>
    let (frames', read, rest) :=
      match frame with
      | .text quote braces => textStep quote braces frames s
      | .hole braces depth => holeStep braces depth frames s
    if read.isEmpty then (held.reverse, rest) else finishLiteral fuel frames' (read.reverse ++ held) rest

/-- Whether the character can be in a word: a name, a keyword or a number. -/
def isNameChar (c : Char) : Bool :=
  isWordChar c || c = '@' || c = '\\' || (0x80 ≤ c.toNat && !isBlank c)

/-- Punctuation of two characters. -/
def pairs : List (List Char) := [['=', '>'], ['=', '='], ['!', '='], ['<', '='], ['>', '='], [':', ':']]

/-- Whether the character ends a comment or a directive. -/
def isLineBreak (c : Char) : Bool := c = '\n' || c = '\r'

/-- Reads the characters up to and with the end of a block comment. -/
def blockComment (s : List Char) : List Char × List Char :=
  match cutAt ['*', '/'] s with
  | some (inside, rest) => (inside ++ ['*', '/'], rest)
  | none => (s, [])

/-- Reads the token that begins here: its kind, its characters and the rest. -/
def readToken (fuel : Nat) (s : List Char) : TokenKind × List Char × List Char :=
  match s with
  | [] => (.punctuation, [], [])
  | '/' :: '/' :: _ =>
    let (line, rest) := spanWhile (fun c => !isLineBreak c) s
    (.comment, line, rest)
  | '/' :: '*' :: body =>
    let (inside, rest) := blockComment body
    (.comment, '/' :: '*' :: inside, rest)
  | '#' :: _ =>
    let (line, rest) := spanWhile (fun c => !isLineBreak c) s
    (.directive, line, rest)
  | c :: rest =>
    match openLiteral? s with
    | some (frame, read, rest') =>
      let (text, rest'') := finishLiteral fuel [frame] read.reverse rest'
      (.literal, text, rest'')
    | none =>
      if isNameChar c then
        let (word, rest') := spanWhile isNameChar s
        (.word, word, rest')
      else if pairs.contains (s.take 2) then (.punctuation, s.take 2, s.drop 2)
      else (.punctuation, [c], rest)

/-- Whether the character is passed over between tokens. -/
def isGapChar (c : Char) : Bool :=
  isBlank c || c.toNat = 0xFEFF

/-- The tokens of the source; `fuel` bounds their number. -/
def tokensFrom : Nat → List Char → List Token
  | 0, _ => []
  | fuel + 1, s =>
    let (gap, body) := spanWhile isGapChar s
    if body.isEmpty then []
    else
      let (kind, text, rest) := readToken (body.length + 1) body
      ⟨kind, gap, text⟩ :: tokensFrom fuel rest

def tokens (source : List Char) : List Token :=
  tokensFrom source.length source

end Catalog.CSharp
