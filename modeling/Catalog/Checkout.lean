import Catalog.Category
import Catalog.CSharp.ComponentClass
import Catalog.Demo.Page
import Catalog.Demo.Samples
import Catalog.Files.Glob

/-! Where a checkout of the library keeps components, documentation pages and samples, and how each is
read. -/
namespace Catalog.Checkout

open Text

/-- The folders of components, in the order in which they are looked through. -/
def componentRoots : List Path := [
  ⟨"", ["src", "BlazorUI", "Bit.BlazorUI", "Components"]⟩,
  ⟨"", ["src", "BlazorUI", "Bit.BlazorUI.Extras", "Components"]⟩]

def demoRoot : Path :=
  ⟨"", ["src", "BlazorUI", "Demo", "Client", "Bit.BlazorUI.Demo.Client.Core", "Pages", "Components"]⟩

/-- The end of the name of a code file that belongs to markup. -/
def markupCodeSuffix : String := ".razor.cs"

/-- Whether the path leads to a file with the name of a component's code file. -/
def isComponentFile (w : Workspace) (p : Path) : Bool :=
  w.isFile p && beginsWith p.name namePrefix && finishesWith p.name ".cs"

/-- The main file among code files in order: the first one that belongs to markup, else the first one that does
not in any case of letters. -/
def chooseMainFile (files : List Path) : Option Path :=
  match files.find? fun p => finishesWith p.name markupCodeSuffix with
  | some p => some p
  | none => files.find? fun p => !finishesWith (lower p.name) markupCodeSuffix

def mainFile? (w : Workspace) (folder : Path) : Option Path :=
  chooseMainFile ((w.entries folder).filter (isComponentFile w))

/-- The folders of a root that hold components: those with a main file, and the folders in those without. -/
def componentFoldersOf (w : Workspace) (root : Path) : List Path :=
  if w.isFolder root then
    (w.subfolders root).flatMap fun first => if (mainFile? w first).isSome then [first] else w.subfolders first
  else []

/-- The paths without those that an earlier one equals ignoring case; `seen` holds lower-case forms. -/
def distinctPaths (seen : List String) : List Path → List Path
  | [] => []
  | p :: ps =>
    if seen.contains (lower p.text) then distinctPaths seen ps
    else p :: distinctPaths (lower p.text :: seen) ps

def componentFolders (w : Workspace) (repository : Path) : List Path :=
  distinctPaths [] (componentRoots.flatMap fun root => componentFoldersOf w (repository.append root))

def documentationPages (w : Workspace) (repository : Path) : List Path :=
  match Glob.searchBelow w (repository.append demoRoot) "*Demo.razor" with
  | .ok paths => paths.filter w.isFile
  | .error _ => []

/-- Reads the code file of a component; nothing for a file that is not there or has no public class. -/
def readComponent (w : Workspace) (file : Path) (cancelled : Bool) : Except Failure (Option SourceFacts) := do
  checkCancelled cancelled
  if w.exists? file then
    let bytes ← w.readBytes file
    .ok (CSharp.componentClass (decodeUtf8 bytes) file.text)
  else .ok none

/-- Reads a documentation page; nothing for a file that is not there. -/
def readPage (w : Workspace) (file : Path) (cancelled : Bool) : Except Failure (Option PageFacts) := do
  checkCancelled cancelled
  if w.exists? file then
    let content ← w.readText file
    let page ← Demo.parsePage content file.text
    .ok (some page)
  else .ok none

/-- Reads the examples of a samples file; none for a file that is not there. -/
def readSamples (w : Workspace) (file : Path) (componentName : String) (cancelled : Bool) :
    Except Failure (List Example) := do
  if w.exists? file then
    let content ← w.readText file
    Demo.parseSamples file componentName content cancelled
  else .ok []

def samplesPattern (componentName : String) : String :=
  namePrefix ++ bareName componentName ++ Demo.samplesSuffix

/-- The result, or the other one if files or folders could not be used as asked. -/
def unlessFileFault {α : Type} (other : α) : Except Failure α → Except Failure α
  | .error (.file _) => .ok other
  | result => result

/-- The examples of a component: those of the first samples file under its name. -/
def findExamples (w : Workspace) (repository : Path) (componentName : String) (cancelled : Bool) :
    Except Failure (List Example) := do
  requireName componentName "component_name"
  checkCancelled cancelled
  let folder := repository.append demoRoot
  if w.isFolder folder then
    match ← Glob.searchBelow w folder (samplesPattern componentName) with
    | [] => .ok []
    | file :: _ =>
      checkCancelled cancelled
      unlessFileFault [] (readSamples w file componentName cancelled)
  else .ok []

end Catalog.Checkout
