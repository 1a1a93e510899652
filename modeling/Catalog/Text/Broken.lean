import Catalog.Text.Blank
import Catalog.Text.Quoted

/-! Texts as JSON can write them, with halves of surrogate pairs that stand alone. A text with such a half is broken: it
is not made of characters, and no encoding has it. -/
namespace Catalog

/-- What a text is made of: characters, and halves of surrogate pairs, counted from U+D800. -/
inductive CodePoint where
  | char (c : Char)
  | half (n : Fin 2048)
  deriving DecidableEq, Repr

namespace CodePoint

def char? : CodePoint → Option Char
  | char c => some c
  | half _ => none

def isHalf : CodePoint → Bool
  | char _ => false
  | half _ => true

def isBlank : CodePoint → Bool
  | char c => Text.isBlank c
  | half _ => false

/-- The code point of a code unit that is no part of a pair. -/
def ofUnit (n : Nat) : CodePoint :=
  if 0xD800 ≤ n && n ≤ 0xDFFF then half (Fin.ofNat 2048 (n - 0xD800)) else char (Char.ofNat n)

def unitOf (n : Fin 2048) : Nat :=
  0xD800 + n

/-- Half a pair as it is written where only characters can be. -/
def escape (n : Fin 2048) : List Char :=
  '\\' :: 'u' :: Text.hexDigits 4 (unitOf n)

/-- A code point as it stands between quotes of the kind `quote`. -/
def quoted (quote : Char) : CodePoint → List Char
  | char c => Text.quotedChar quote c
  | half n => escape n

def shown : CodePoint → List Char
  | char c => [c]
  | half n => escape n

end CodePoint

/-- A text in which half a surrogate pair stands alone. -/
structure Broken where
  points : List CodePoint
  halved : points.any CodePoint.isHalf = true
  deriving DecidableEq, Repr

namespace Broken

theorem any_isHalf_dropWhile (points : List CodePoint) :
    (points.dropWhile CodePoint.isBlank).any CodePoint.isHalf = points.any CodePoint.isHalf := by
  induction points with
  | nil => rfl
  | cons p points ih =>
    rw [List.dropWhile_cons]
    split
    · next hblank =>
      cases p with
      | char c => simpa [CodePoint.isHalf] using ih
      | half n => cases hblank
    · rfl

/-- The text without blank characters at either end; half a pair is not blank. -/
def trim (b : Broken) : Broken where
  points := ((b.points.dropWhile CodePoint.isBlank).reverse.dropWhile CodePoint.isBlank).reverse
  halved := by
    rw [List.any_reverse, any_isHalf_dropWhile, List.any_reverse, any_isHalf_dropWhile]
    exact b.halved

/-- The text between two others. -/
def within (front back : String) (b : Broken) : Broken where
  points := front.toList.map .char ++ b.points ++ back.toList.map .char
  halved := by simp [b.halved]

/-- Why the text cannot be encoded: for the halves where the first ones stand. -/
def encodingFault (b : Broken) : String :=
  let place := (b.points.takeWhile fun p => !p.isHalf).length
  let halves := ((b.points.dropWhile fun p => !p.isHalf).takeWhile CodePoint.isHalf)
  let what :=
    match halves with
    | [.half n] => " '" ++ String.ofList (CodePoint.escape n) ++ "' in position " ++ toString place
    | _ => "s in position " ++ toString place ++ "-" ++ toString (place + halves.length - 1)
  "'utf-8' codec can't encode character" ++ what ++ ": surrogates not allowed"

end Broken

/-- A text as a caller can give it. -/
inductive AnyText where
  | whole (text : String)
  | broken (text : Broken)
  deriving DecidableEq, Repr

namespace AnyText

instance : Coe String AnyText :=
  ⟨whole⟩

instance : Inhabited AnyText :=
  ⟨whole ""⟩

def ofPoints (points : List CodePoint) : AnyText :=
  if h : points.any CodePoint.isHalf = true then broken ⟨points, h⟩
  else whole (String.ofList (points.filterMap CodePoint.char?))

def whole? : AnyText → Option String
  | whole text => some text
  | broken _ => none

def isEmpty : AnyText → Bool
  | whole text => text.isEmpty
  | broken _ => false

/-- Whether every character is blank; half a pair is not. -/
def isBlank : AnyText → Bool
  | whole text => Text.isBlankText text
  | broken _ => false

def trim : AnyText → AnyText
  | whole text => whole (Text.trim text)
  | broken text => broken text.trim

/-- The text between two others. -/
def within (front back : String) : AnyText → AnyText
  | whole text => whole (front ++ text ++ back)
  | broken text => broken (text.within front back)

/-- The text as an error stream shows it, with halves of pairs escaped. -/
def shown : AnyText → String
  | whole text => text
  | broken text => String.ofList (text.points.flatMap CodePoint.shown)

/-- The text between quotes. -/
def quoted : AnyText → String
  | whole text => Text.quoted text
  | broken text =>
    let quote := Text.quoteMark (text.points.filterMap CodePoint.char?)
    String.ofList (quote :: text.points.flatMap (CodePoint.quoted quote) ++ [quote])

/-- The pieces between the separators. -/
def splitOn (sep : Char) : AnyText → List AnyText
  | whole text => (Text.splitOn text sep).map whole
  | broken text => (Text.splitChars (.char sep) text.points).map ofPoints

@[simp]
theorem isBlank_whole (text : String) : (whole text).isBlank = Text.isBlankText text := rfl

@[simp]
theorem trim_whole (text : String) : (whole text).trim = whole (Text.trim text) := rfl

@[simp]
theorem within_whole (text front back : String) : (whole text).within front back = whole (front ++ text ++ back) := rfl

end AnyText
end Catalog
