import Catalog.Files.Tree

/-! File name patterns with wildcards, and the search for them in folders. -/
namespace Catalog.Glob

/-- A piece of a pattern for one name. -/
inductive Piece where
  | run
  | one
  | char (c : Char)
  | set (negated : Bool) (ranges : List (Char × Char))
  deriving DecidableEq, Repr

/-- The ranges of a set; a hyphen between two characters makes a range of them. -/
def ranges : List Char → List (Char × Char)
  | lo :: '-' :: hi :: cs => (lo, hi) :: ranges cs
  | c :: cs => (c, c) :: ranges cs
  | [] => []

/-- The set whose opening bracket was read, with what follows it; a closing bracket at its front belongs to
it. -/
def readSet? (s : List Char) : Option (Piece × List Char) :=
  let (negated, body) :=
    match s with
    | '!' :: rest => (true, rest)
    | _ => (false, s)
  let (first, more) :=
    match body with
    | ']' :: rest => ([']'], rest)
    | _ => ([], body)
  let (inside, after) := Text.spanWhile (· ≠ ']') more
  match after with
  | ']' :: rest => some (.set negated (ranges (first ++ inside)), rest)
  | _ => none

/-- The pieces of a pattern, its first `skip` characters left out. -/
def piecesAfter : Nat → List Char → List Piece
  | _, [] => []
  | skip + 1, _ :: cs => piecesAfter skip cs
  | 0, '*' :: cs => .run :: piecesAfter 0 cs
  | 0, '?' :: cs => .one :: piecesAfter 0 cs
  | 0, '[' :: cs =>
    match readSet? cs with
    | some (piece, rest) => piece :: piecesAfter (cs.length - rest.length) cs
    | none => .char '[' :: piecesAfter 0 cs
  | 0, c :: cs => .char c :: piecesAfter 0 cs

def pieces (pattern : String) : List Piece :=
  piecesAfter 0 pattern.toList

/-- Whether a piece other than a run stands for the character. -/
def Piece.accepts : Piece → Char → Bool
  | .run, _ => false
  | .one, _ => true
  | .char c, d => c = d
  | .set negated ranges, d => (ranges.any fun (lo, hi) => decide (lo ≤ d) && decide (d ≤ hi)) != negated

/-- Whether some end of the text satisfies `p`. -/
def someTail (p : List Char → Bool) : List Char → Bool
  | [] => p []
  | c :: cs => p (c :: cs) || someTail p cs

/-- Whether the pieces stand for the whole name. -/
def matchPieces : List Piece → List Char → Bool
  | [], s => s.isEmpty
  | .run :: ps, s => someTail (matchPieces ps) s
  | p :: ps, c :: cs => p.accepts c && matchPieces ps cs
  | _ :: _, [] => false

def fits (pattern name : String) : Bool :=
  matchPieces (pieces pattern) name.toList

def hasWildcard (pattern : String) : Bool :=
  pattern.toList.any fun c => c = '*' || c = '?' || c = '['

/-- The folder and all folders below it, down to the given depth. -/
def foldersFrom (w : Workspace) : Nat → Path → List Path
  | 0, p => [p]
  | depth + 1, p => p :: (w.subfolders p).flatMap (foldersFrom w depth)

/-- A bound for the depth of the folders. -/
def depth (w : Workspace) : Nat :=
  (w.tree.folders.map List.length).foldl max 0

/-- The paths below `p` that fit the patterns for one name after another; two stars stand for any number of
folders. -/
def select (w : Workspace) : List String → Path → List Path
  | [], p => [p]
  | pattern :: patterns, p =>
    let last := patterns.isEmpty
    if pattern = "**" then (foldersFrom w (depth w) p).flatMap (select w patterns)
    else
      let found :=
        if hasWildcard pattern then ((w.list p).filter (fits pattern)).map p.child else [p.child pattern]
      (found.filter fun q => if last then w.exists? q else w.isFolder q).flatMap (select w patterns)

/-- Whether two stars stand inside a name, which means nothing. -/
def hasStrayStars (pattern : String) : Bool :=
  pattern ≠ "**" && Text.contains pattern "**"

/-- All files and folders at any depth below a folder that fit the pattern, in order. -/
def searchBelow (w : Workspace) (p : Path) (pattern : String) : Except Failure (List Path) :=
  let patterns := (Path.ofText pattern).parts
  if patterns.any hasStrayStars then .error .strayStars
  else if w.isFolder p then .ok (Path.sort (select w ("**" :: patterns) p).eraseDups)
  else .ok []

end Catalog.Glob
