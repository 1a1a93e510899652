import Catalog.Text.Scan

/-! Paths: a root and the names below it. -/
namespace Catalog

/-- A path. The root is empty for a relative path, else one slash or two. -/
structure Path where
  root : String := ""
  parts : List String := []
  deriving DecidableEq, Repr, Inhabited

namespace Path

/-- The root of a text: two slashes stay two, more count as one. -/
def rootOf : List Char → String
  | '/' :: '/' :: '/' :: _ => "/"
  | '/' :: '/' :: _ => "//"
  | '/' :: _ => "/"
  | _ => ""

/-- The path that a text writes; empty names and single dots are left out. -/
def ofText (text : String) : Path :=
  ⟨rootOf text.toList, (Text.splitOn text '/').filter fun part => part ≠ "" && part ≠ "."⟩

/-- The text of a path, a dot for the empty one. -/
def text (p : Path) : String :=
  if p.root = "" && p.parts.isEmpty then "." else p.root ++ Text.join "/" p.parts

/-- The last name, empty if there is none. -/
def name (p : Path) : String :=
  p.parts.getLast?.getD ""

/-- The last name up to its first dot. -/
def stem (p : Path) : String :=
  Text.beforeFirst p.name '.'

/-- Whether the path has no root and no name. -/
def isEmpty (p : Path) : Bool :=
  p.root = "" && p.parts.isEmpty

def child (p : Path) (name : String) : Path :=
  { p with parts := p.parts ++ [name] }

/-- The path with the names of another below it; another with a root stands alone. -/
def append (p q : Path) : Path :=
  if q.root = "" then { p with parts := p.parts ++ q.parts } else q

def parent (p : Path) : Path :=
  { p with parts := p.parts.dropLast }

/-- The names that lead from `p` down to `q`, if `q` is at or below `p`. -/
def relativeTo? (q p : Path) : Option (List String) :=
  if q.root = p.root && p.parts.isPrefixOf q.parts then some (q.parts.drop p.parts.length) else none

/-- Whether a name stands before another, by their characters. -/
def nameBefore (a b : String) : Bool :=
  a.toList.lex b.toList fun c d => Nat.blt c.toNat d.toNat

def le (p q : Path) : Bool :=
  !(q.root :: q.parts).lex (p.root :: p.parts) nameBefore

def sort (paths : List Path) : List Path :=
  paths.mergeSort le

end Path
end Catalog
