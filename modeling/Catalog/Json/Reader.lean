import Catalog.Json.Basic

/-! Reading of JSON texts, with the place and the reason where a text is not JSON. -/
namespace Catalog.Json

/-- Why a text is not JSON. -/
inductive Reason where
  | value
  | propertyName
  | colon
  | comma
  | controlCharacter
  | unterminatedString
  | escape
  | unicodeEscape
  | extraData
  | byteOrderMark
  | tooManyDigits (count : Nat)
  | tooDeep
  deriving DecidableEq, Repr

def Reason.message : Reason → String
  | .value => "Expecting value"
  | .propertyName => "Expecting property name enclosed in double quotes"
  | .colon => "Expecting ':' delimiter"
  | .comma => "Expecting ',' delimiter"
  | .controlCharacter => "Invalid control character at"
  | .unterminatedString => "Unterminated string starting at"
  | .escape => "Invalid \\escape"
  | .unicodeEscape => "Invalid \\uXXXX escape"
  | .extraData => "Extra data"
  | .byteOrderMark => "Unexpected UTF-8 BOM (decode using utf-8-sig)"
  | .tooManyDigits count =>
    "Exceeds the limit (4300 digits) for integer string conversion: value has " ++ toString count ++
      " digits; use sys.set_int_max_str_digits() to increase the limit"
  | .tooDeep => "maximum recursion depth exceeded"

/-- A fault while reading, placed by the number of characters left from there to the end. -/
structure Fault where
  reason : Reason
  left : Nat
  deriving DecidableEq, Repr

/-- What a part of the reader gives: a result and the rest of the text, or a fault. -/
abbrev Step (α : Type) := Except Fault (α × List Char)

/-- A fault at the front of the given rest. -/
def faultAt {α : Type} (reason : Reason) (rest : List Char) : Except Fault α :=
  .error ⟨reason, rest.length⟩

/-- The text after the space characters of JSON. -/
def skipSpace (s : List Char) : List Char :=
  s.dropWhile fun c => c = ' ' || c = '\t' || c = '\n' || c = '\r'

/-- The value of a hexadecimal digit. -/
def hexValue? (c : Char) : Option Nat :=
  let n := c.toNat
  if 0x30 ≤ n && n ≤ 0x39 then some (n - 0x30)
  else if 0x41 ≤ n && n ≤ 0x46 then some (n - 0x37)
  else if 0x61 ≤ n && n ≤ 0x66 then some (n - 0x57)
  else none

/-- The value of four hexadecimal digits with something after them, as the string is still open. -/
def fourHex? : List Char → Option (Nat × List Char)
  | a :: b :: c :: d :: next :: rest => do
    let a ← hexValue? a
    let b ← hexValue? b
    let c ← hexValue? c
    let d ← hexValue? d
    some (((a * 16 + b) * 16 + c) * 16 + d, next :: rest)
  | _ => none

/-- The second half of a surrogate pair, written as an escape. -/
def lowHalf? : List Char → Option (Nat × List Char)
  | '\\' :: 'u' :: rest =>
    match fourHex? rest with
    | some (n, rest') => if 0xDC00 ≤ n && n ≤ 0xDFFF then some (n, rest') else none
    | none => none
  | _ => none

/-- The character that a one-letter escape stands for. -/
def simpleEscape? : Char → Option Char
  | '"' => some '"'
  | '\\' => some '\\'
  | '/' => some '/'
  | 'b' => some (Char.ofNat 8)
  | 'f' => some (Char.ofNat 12)
  | 'n' => some '\n'
  | 'r' => some '\r'
  | 't' => some '\t'
  | _ => none

/-- Reads a string after its opening quote, which stands before `start`; `held` is what was read so far, last
character first. `fuel` bounds the length of the string. -/
def readString (start : List Char) : Nat → List CodePoint → List Char → Step AnyText
  | 0, _, _ => .error ⟨.unterminatedString, start.length + 1⟩
  | _ + 1, _, [] => .error ⟨.unterminatedString, start.length + 1⟩
  | fuel + 1, held, c :: rest =>
    if c = '"' then .ok (.ofPoints held.reverse, rest)
    else if c.toNat ≤ 0x1F then faultAt .controlCharacter (c :: rest)
    else if c = '\\' then
      match rest with
      | [] => .error ⟨.unterminatedString, start.length + 1⟩
      | 'u' :: hex =>
        match fourHex? hex with
        | none => faultAt .unicodeEscape rest
        | some (n, after) =>
          match if 0xD800 ≤ n && n ≤ 0xDBFF then lowHalf? after else none with
          | some (low, after') =>
            readString start fuel (.char (Char.ofNat (0x10000 + (n - 0xD800) * 0x400 + (low - 0xDC00))) :: held) after'
          | none => readString start fuel (.ofUnit n :: held) after
      | e :: after =>
        match simpleEscape? e with
        | some ch => readString start fuel (.char ch :: held) after
        | none => faultAt .escape (c :: rest)
    else readString start fuel (.char c :: held) rest

/-- The ASCII digits at the front. -/
def spanDigits (s : List Char) : List Char × List Char :=
  (s.takeWhile Char.isDigit, s.dropWhile Char.isDigit)

/-- The number that ASCII digits write. -/
def digitsNat (digits : List Char) : Nat :=
  digits.foldl (fun n c => n * 10 + (c.toNat - 0x30)) 0

def fraction (s : List Char) : List Char × List Char :=
  match s with
  | '.' :: rest =>
    match spanDigits rest with
    | ([], _) => ([], s)
    | found => found
  | _ => ([], s)

def exponent? (s : List Char) : Option (Int × List Char) :=
  match s with
  | e :: rest =>
    if e = 'e' || e = 'E' then
      let (negative, digits) :=
        match rest with
        | '-' :: r => (true, r)
        | '+' :: r => (false, r)
        | _ => (false, rest)
      match spanDigits digits with
      | ([], _) => none
      | (ds, after) => some (if negative then -(digitsNat ds : Int) else digitsNat ds, after)
    else none
  | [] => none

/-- The digits before the point: a lone nought, or digits that do not begin with one. -/
def wholeDigits (s : List Char) : List Char × List Char :=
  match s with
  | '0' :: rest => (['0'], rest)
  | _ => spanDigits s

def readNumber (s : List Char) : Step Json :=
  let (negative, body) :=
    match s with
    | '-' :: rest => (true, rest)
    | _ => (false, s)
  match wholeDigits body with
  | ([], _) => faultAt .value s
  | (whole, after) =>
    let (frac, after') := fraction after
    match frac, exponent? after' with
    | [], none =>
      if 4300 < whole.length then .error ⟨.tooManyDigits whole.length, s.length⟩
      else .ok (.int (if negative then -(digitsNat whole : Int) else digitsNat whole), after')
    | _, none => .ok (.decimal ⟨negative, digitsNat (whole ++ frac), -(frac.length : Int)⟩, after')
    | _, some (e, after'') =>
      .ok (.decimal ⟨negative, digitsNat (whole ++ frac), e - (frac.length : Int)⟩, after'')

/-- The words that are values. -/
def words : List (String × Json) := [
  ("null", .null), ("true", .bool true), ("false", .bool false), ("NaN", .nonFinite "NaN"),
  ("Infinity", .nonFinite "Infinity"), ("-Infinity", .nonFinite "-Infinity")]

def readScalar (s : List Char) : Step Json :=
  match words.find? fun (word, _) => word.toList.isPrefixOf s with
  | some (word, value) => .ok (value, s.drop word.length)
  | none => readNumber s

mutual

/-- Reads a value that begins here. `fuel` bounds the number of values, members and characters, and `nesting` how deep
arrays and objects may be nested. -/
def readValue : Nat → Nat → List Char → Step Json
  | 0, _, s => faultAt .value s
  | fuel + 1, nesting, s =>
    match s with
    | '"' :: rest =>
      match readString rest fuel [] rest with
      | .error fault => .error fault
      | .ok (text, after) => .ok (.ofText text, after)
    | '{' :: rest =>
      match nesting with
      | 0 => faultAt .tooDeep s
      | nesting + 1 =>
        match skipSpace rest with
        | '}' :: after => .ok (.object [], after)
        | after => readMembers fuel nesting [] after
    | '[' :: rest =>
      match nesting with
      | 0 => faultAt .tooDeep s
      | nesting + 1 =>
        match skipSpace rest with
        | ']' :: after => .ok (.array [], after)
        | after => readItems fuel nesting [] after
    | _ => readScalar s

/-- Reads the items of an array from a value on; `held` are those before, last one first. -/
def readItems : Nat → Nat → List Json → List Char → Step Json
  | 0, _, _, s => faultAt .value s
  | fuel + 1, nesting, held, s =>
    match readValue fuel nesting s with
    | .error fault => .error fault
    | .ok (item, after) =>
      match skipSpace after with
      | ']' :: rest => .ok (.array (item :: held).reverse, rest)
      | ',' :: rest => readItems fuel nesting (item :: held) (skipSpace rest)
      | rest => faultAt .comma rest

/-- Reads the members of an object from a name on; `held` are those before. -/
def readMembers : Nat → Nat → List (AnyText × Json) → List Char → Step Json
  | 0, _, _, s => faultAt .propertyName s
  | fuel + 1, nesting, held, s =>
    match s with
    | '"' :: rest =>
      match readString rest fuel [] rest with
      | .error fault => .error fault
      | .ok (name, after) =>
        match skipSpace after with
        | ':' :: rest' =>
          match readValue fuel nesting (skipSpace rest') with
          | .error fault => .error fault
          | .ok (value, after') =>
            match skipSpace after' with
            | '}' :: rest'' => .ok (.ofMembers (setMember name value held), rest'')
            | ',' :: rest'' => readMembers fuel nesting (setMember name value held) (skipSpace rest'')
            | rest'' => faultAt .comma rest''
        | rest' => faultAt .colon rest'
    | _ => faultAt .propertyName s

end

/-- A fault with its place: the number of characters before it, and its line and column, counted from one. -/
structure ReadError where
  reason : Reason
  offset : Nat
  line : Nat
  column : Nat
  deriving DecidableEq, Repr

/-- The error of a fault in the text. -/
def Fault.place (text : List Char) (fault : Fault) : ReadError :=
  let offset := text.length - fault.left
  let before := text.take offset
  ⟨fault.reason, offset, before.count '\n' + 1, (before.reverse.takeWhile (· ≠ '\n')).length + 1⟩

def ReadError.message (e : ReadError) : String :=
  e.reason.message ++ ": line " ++ toString e.line ++ " column " ++ toString e.column ++ " (char " ++
    toString e.offset ++ ")"

/-- The value that the whole text writes. -/
def readText (nesting : Nat) (s : List Char) : Except Fault Json :=
  if s.head? = some (Char.ofNat 0xFEFF) then faultAt .byteOrderMark s
  else
    match readValue (2 * s.length + 3) nesting (skipSpace s) with
    | .error fault => .error fault
    | .ok (value, after) =>
      match skipSpace after with
      | [] => .ok value
      | rest => faultAt .extraData rest

/-- The value that a text writes, whose arrays and objects may be nested as deep as `nesting`. -/
def read (nesting : Nat) (text : String) : Except ReadError Json :=
  (readText nesting text.toList).mapError (Fault.place text.toList)

end Catalog.Json
