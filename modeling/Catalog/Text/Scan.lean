/-! Scanning texts for the places where a form can be read, and putting others in their place. -/
namespace Catalog.Text

/-- A form read at the front of a text: what it held and the text after it. -/
abbrev Reader (α : Type) := List Char → Option (α × List Char)

/-- The text after `lead`, if the text begins with it. -/
def dropLead : List Char → Reader Unit
  | [], s => some ((), s)
  | _ :: _, [] => none
  | p :: ps, c :: cs => if p = c then dropLead ps cs else none

theorem dropLead_append (lead rest : List Char) : dropLead lead (lead ++ rest) = some ((), rest) := by
  induction lead with
  | nil => simp [dropLead]
  | cons p ps ih => simp [dropLead, ih]

/-- The text before and after the first occurrence of `mark`. -/
def cutAt (mark : List Char) : List Char → Option (List Char × List Char)
  | [] => if mark.isEmpty then some ([], []) else none
  | c :: cs =>
    match dropLead mark (c :: cs) with
    | some (_, rest) => some ([], rest)
    | none => (cutAt mark cs).map fun (before, after) => (c :: before, after)

/-- The longest front of the text whose characters satisfy `p`, and the rest. -/
def spanWhile (p : Char → Bool) (s : List Char) : List Char × List Char :=
  (s.takeWhile p, s.dropWhile p)

/-- Everything read from left to right, the first `skip` characters left out; a place where nothing is
read is passed over one character at a time. -/
def findAllAfter {α : Type} (read : Reader α) : Nat → List Char → List α
  | _, [] => []
  | skip + 1, _ :: cs => findAllAfter read skip cs
  | 0, c :: cs =>
    match read (c :: cs) with
    | some (a, rest) => a :: findAllAfter read (cs.length - rest.length) cs
    | none => findAllAfter read 0 cs

/-- Everything read from left to right without overlap. -/
def findAll {α : Type} (read : Reader α) (s : List Char) : List α :=
  findAllAfter read 0 s

/-- The leftmost form in the text. -/
def findFirst {α : Type} (read : Reader α) : List Char → Option α
  | [] => none
  | c :: cs =>
    match read (c :: cs) with
    | some (a, _) => some a
    | none => findFirst read cs

/-- The text with each form replaced by what it was read as, the first `skip` characters dropped. -/
def replaceAfter (read : Reader (List Char)) : Nat → List Char → List Char
  | _, [] => []
  | skip + 1, _ :: cs => replaceAfter read skip cs
  | 0, c :: cs =>
    match read (c :: cs) with
    | some (new, rest) => new ++ replaceAfter read (cs.length - rest.length) cs
    | none => c :: replaceAfter read 0 cs

/-- The text with each form, found from left to right without overlap, replaced by what it was read as. -/
def replaceAll (read : Reader (List Char)) (s : List Char) : List Char :=
  replaceAfter read 0 s

def eraseAll {α : Type} (read : Reader α) (s : List Char) : List Char :=
  replaceAll (fun s => (read s).map fun (_, rest) => ([], rest)) s

def occursIn (needle : List Char) : List Char → Bool
  | [] => needle.isEmpty
  | c :: cs => needle.isPrefixOf (c :: cs) || occursIn needle cs

def contains (text needle : String) : Bool :=
  occursIn needle.toList text.toList

def beginsWith (text lead : String) : Bool :=
  lead.toList.isPrefixOf text.toList

def finishesWith (text tail : String) : Bool :=
  tail.toList.isSuffixOf text.toList

def dropFirst (text : String) (n : Nat) : String :=
  String.ofList (text.toList.drop n)

def dropLast (text : String) (n : Nat) : String :=
  String.ofList (text.toList.take (text.length - n))

def takeFirst (text : String) (n : Nat) : String :=
  String.ofList (text.toList.take n)

/-- The text with every occurrence of the non-empty text `old` replaced by `new`. -/
def replace (text old new : String) : String :=
  String.ofList (replaceAll (fun s => (dropLead old.toList s).map fun (_, rest) => (new.toList, rest)) text.toList)

/-- The pieces between the separators; there is one more piece than there are separators. -/
def splitChars {α : Type} [DecidableEq α] (sep : α) : List α → List (List α)
  | [] => [[]]
  | c :: cs =>
    if c = sep then [] :: splitChars sep cs
    else
      match splitChars sep cs with
      | [] => [[c]]
      | piece :: pieces => (c :: piece) :: pieces

def splitOn (text : String) (sep : Char) : List String :=
  (splitChars sep text.toList).map String.ofList

/-- The part before the first separator, the whole text if there is none. -/
def beforeFirst (text : String) (sep : Char) : String :=
  String.ofList (text.toList.takeWhile (· ≠ sep))

/-- The part after the last separator, the whole text if there is none. -/
def afterLast (text : String) (sep : Char) : String :=
  String.ofList (text.toList.reverse.takeWhile (· ≠ sep)).reverse

def trimEndWhile (p : Char → Bool) (text : String) : String :=
  String.ofList (text.toList.reverse.dropWhile p).reverse

def trimStartWhile (p : Char → Bool) (text : String) : String :=
  String.ofList (text.toList.dropWhile p)

def join (sep : String) (texts : List String) : String :=
  String.intercalate sep texts

end Catalog.Text
