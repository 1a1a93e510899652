import Catalog.Failure
import Catalog.Files.Path
import Catalog.Text.Utf8
import Catalog.Text.Blank

/-! A file system: folders and files with their contents, all named from the root down. -/
namespace Catalog

structure FileTree where
  folders : List (List String) := []
  files : List (List String × List UInt8) := []
  deriving Repr, Inhabited

namespace FileTree

/-- Whether there is a folder; the root always is. -/
def hasFolder (t : FileTree) (parts : List String) : Bool :=
  parts.isEmpty || t.folders.contains parts

def hasFile (t : FileTree) (parts : List String) : Bool :=
  t.files.any fun (p, _) => p = parts

/-- Every front of a list, the empty one and the whole one included. -/
def fronts {α : Type} : List α → List (List α)
  | [] => [[]]
  | a :: as => [] :: (fronts as).map (a :: ·)

/-- Adds a folder and those above it. -/
def addFolder (t : FileTree) (parts : List String) : FileTree :=
  (fronts parts).foldl (fun t p => if t.hasFolder p then t else { t with folders := t.folders ++ [p] }) t

/-- Writes a file, in folders that are made as needed. -/
def write (t : FileTree) (parts : List String) (content : List UInt8) : FileTree :=
  let t := t.addFolder parts.dropLast
  { t with files := (t.files.filter fun (p, _) => p ≠ parts) ++ [(parts, content)] }

/-- Removes a file, or a folder with all in it. -/
def remove (t : FileTree) (parts : List String) : FileTree where
  folders := t.folders.filter fun p => !parts.isPrefixOf p
  files := t.files.filter fun (p, _) => !parts.isPrefixOf p

/-- Follows the names from the folder `here` down, two dots leading up; only a folder leads on. -/
def follow (t : FileTree) (here : List String) : List String → Option (List String)
  | [] => some here
  | part :: parts =>
    if !t.hasFolder here then none
    else if part = ".." then follow t here.dropLast parts
    else follow t (here ++ [part]) parts

/-- What a path leads to from the working folder `here`, if every name but the last is a folder. -/
def resolve (t : FileTree) (here : List String) (p : Path) : Option (List String) :=
  t.follow (if p.root = "" then here else []) p.parts

end FileTree

/-- A file system seen from a working folder. -/
structure Workspace where
  tree : FileTree
  here : List String := []
  deriving Repr, Inhabited

namespace Workspace

def isFolder (w : Workspace) (p : Path) : Bool :=
  match w.tree.resolve w.here p with
  | some parts => w.tree.hasFolder parts
  | none => false

def isFile (w : Workspace) (p : Path) : Bool :=
  match w.tree.resolve w.here p with
  | some parts => w.tree.hasFile parts
  | none => false

/-- Whether a path leads to a file or folder. -/
def exists? (w : Workspace) (p : Path) : Bool :=
  w.isFolder p || w.isFile p

/-- The names of what a folder holds directly, none for what is no folder. -/
def list (w : Workspace) (p : Path) : List String :=
  match w.tree.resolve w.here p with
  | none => []
  | some parts =>
    let direct := fun (q : List String) => if q ≠ [] && q.dropLast = parts then q.getLast? else none
    if w.tree.hasFolder parts then
      w.tree.folders.filterMap direct ++ w.tree.files.filterMap fun (q, _) => direct q
    else []

/-- The paths of what a folder holds directly, in order. -/
def entries (w : Workspace) (p : Path) : List Path :=
  Path.sort ((w.list p).map p.child)

/-- The paths of the folders that a folder holds directly, in order. -/
def subfolders (w : Workspace) (p : Path) : List Path :=
  (w.entries p).filter w.isFolder

def readBytes (w : Workspace) (p : Path) : Except Failure (List UInt8) :=
  if w.isFolder p then .error (.file .isFolder)
  else
    match w.tree.resolve w.here p with
    | none => .error (.file .missing)
    | some parts =>
      match w.tree.files.find? fun (q, _) => q = parts with
      | some (_, content) => .ok content
      | none => .error (.file .missing)

/-- The characters of a file: decoded, with line feeds for all line ends. -/
def readText (w : Workspace) (p : Path) : Except Failure (List Char) := do
  let bytes ← w.readBytes p
  .ok (Text.unifyLineEnds (Text.decodeUtf8 bytes))

/-- Makes the folders that lead from `made` down by the names; a file in the way is a fault. -/
def makeFrom (tree : FileTree) (made : List String) : List String → Except Failure FileTree
  | [] => .ok tree
  | part :: parts =>
    if part = ".." then makeFrom tree made.dropLast parts
    else
      let next := made ++ [part]
      if tree.hasFile next then .error (.file (if parts.isEmpty then .occupied else .notFolder))
      else makeFrom (tree.addFolder next) next parts

/-- Makes a folder, and those above it as needed. -/
def makeFolder (w : Workspace) (p : Path) : Except Failure Workspace := do
  let tree ← makeFrom w.tree (if p.root = "" then w.here else []) p.parts
  .ok { w with tree := tree }

end Workspace
end Catalog
