import Catalog.CSharp.Token

/-! Token trees: tokens grouped by brackets and by conditional directives. -/
namespace Catalog.CSharp

/-- A token, or what a pair of brackets or of conditional directives encloses. -/
inductive Tree where
  | leaf (token : Token)
  | group (opening : Token) (content : List Tree) (closing : Option Token)
  deriving Repr, Inhabited

/-- What a bracket or directive opens or closes. -/
inductive Bracket where
  | round
  | square
  | curly
  | conditional
  deriving DecidableEq, Repr

def directiveWord (text : List Char) : List Char :=
  ((text.drop 1).dropWhile Text.isBlank).takeWhile Text.isWordChar

def Token.opens? (t : Token) : Option Bracket :=
  if t.isMark "(" then some .round
  else if t.isMark "[" then some .square
  else if t.isMark "\x7b" then some .curly
  else if t.kind = .directive && directiveWord t.text = "if".toList then some .conditional
  else none

def Token.closes? (t : Token) : Option Bracket :=
  if t.isMark ")" then some .round
  else if t.isMark "]" then some .square
  else if t.isMark "\x7d" then some .curly
  else if t.kind = .directive && directiveWord t.text = "endif".toList then some .conditional
  else none

/-- A group that is still open, with its trees so far, last one first. -/
structure OpenGroup where
  opening : Token
  bracket : Bracket
  held : List Tree

/-- Closes groups up to the innermost one of the bracket; `inner` are the trees read since the innermost open
group began, last one first. `none` if no such group is open. -/
def closeUpTo (bracket : Bracket) (closing : Token) (inner : List Tree) :
    List OpenGroup → Option (List Tree × List OpenGroup)
  | [] => none
  | g :: outer =>
    if g.bracket = bracket then some (.group g.opening inner.reverse (some closing) :: g.held, outer)
    else closeUpTo bracket closing (.group g.opening inner.reverse none :: g.held) outer

def closeAll (inner : List Tree) : List OpenGroup → List Tree
  | [] => inner.reverse
  | g :: outer => closeAll (.group g.opening inner.reverse none :: g.held) outer

/-- Groups the tokens; `inner` are the trees of the innermost open group, last one first. -/
def groupFrom (inner : List Tree) (outer : List OpenGroup) : List Token → List Tree
  | [] => closeAll inner outer
  | t :: ts =>
    match t.opens? with
    | some bracket => groupFrom [] (⟨t, bracket, inner⟩ :: outer) ts
    | none =>
      match t.closes?.bind fun bracket => closeUpTo bracket t inner outer with
      | some (inner', outer') => groupFrom inner' outer' ts
      | none => groupFrom (.leaf t :: inner) outer ts

def trees (ts : List Token) : List Tree :=
  groupFrom [] [] ts

namespace Tree

def isWord (word : String) : Tree → Bool
  | leaf t => t.isWord word
  | group .. => false

def isMark (mark : String) : Tree → Bool
  | leaf t => t.isMark mark
  | group .. => false

def word? : Tree → Option String
  | leaf t => if t.kind = .word then some (String.ofList t.text) else none
  | group .. => none

/-- What a group stands in. -/
def bracket? : Tree → Option Bracket
  | leaf _ => none
  | group opening _ _ => opening.opens?

def isRound (t : Tree) : Bool := t.bracket? == some .round

def isSquare (t : Tree) : Bool := t.bracket? == some .square

def isCurly (t : Tree) : Bool := t.bracket? == some .curly

def content : Tree → List Tree
  | leaf _ => []
  | group _ content _ => content

def isComment : Tree → Bool
  | leaf t => t.kind = .comment
  | group .. => false

/-- Whether the tree is a comment or has to do with directives, and so is no part of a declaration. -/
def isAside : Tree → Bool
  | leaf t => t.kind = .comment || t.kind = .directive
  | group opening _ _ => opening.kind = .directive

/-- The blank characters before the tree. -/
def gap : Tree → List Char
  | leaf t => t.gap
  | group opening _ _ => opening.gap

mutual

/-- The source text of a tree, without the blank characters before it. -/
def source : Tree → List Char
  | leaf t => t.text
  | group opening content closing =>
    opening.text ++ sourceWithGaps content ++
      match closing with
      | some t => t.gap ++ t.text
      | none => []

/-- The source text of trees, with the blank characters before each. -/
def sourceWithGaps : List Tree → List Char
  | [] => []
  | t :: ts => t.gap ++ source t ++ sourceWithGaps ts

end

def sourceOf : List Tree → List Char
  | [] => []
  | t :: ts => source t ++ sourceWithGaps ts

def trimComments (ts : List Tree) : List Tree :=
  ((ts.dropWhile isComment).reverse.dropWhile isComment).reverse

end Tree
end Catalog.CSharp
