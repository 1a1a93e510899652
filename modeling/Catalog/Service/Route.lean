import Catalog.Json.Reader
import Catalog.Text.Scan
import Catalog.Text.Utf8

/-! The pages of the service and the requests for them. -/
namespace Catalog.Service

/-- A page. -/
inductive Route where
  | health
  | tools
  | tool (name : String)
  | index
  | tasks
  | task (id : String)
  | cancellation (id : String)
  deriving DecidableEq, Repr

namespace Route

def method : Route → String
  | health => "GET"
  | tools => "GET"
  | tool _ => "POST"
  | index => "POST"
  | tasks => "GET"
  | task _ => "GET"
  | cancellation _ => "POST"

/-- The page with the given names; a name that stands for something is not empty. -/
def ofNames : List String → Option Route
  | ["health"] => some health
  | ["tools"] => some tools
  | ["tools", name] => if name.isEmpty then none else some (tool name)
  | ["index"] => some index
  | ["index", "tasks"] => some tasks
  | ["index", "tasks", id] => if id.isEmpty then none else some (task id)
  | ["index", "tasks", id, "cancel"] => if id.isEmpty then none else some (cancellation id)
  | _ => none

/-- The names without one line feed at the end of the last one. -/
def withoutLineFeed (names : List String) : List String :=
  names.dropLast ++ (names.getLast?.toList.map fun last =>
    if Text.finishesWith last "\n" then Text.dropLast last 1 else last)

/-- The names of a path from its root. -/
def namesOf (path : String) : List String :=
  Text.splitOn (Text.dropFirst path 1) '/'

/-- The page of a path. A line feed at the end of the path is passed over unless it belongs to a name that stands
for something. -/
def ofPath (path : String) : Option Route :=
  let names := namesOf path
  (ofNames names).orElse fun _ => ofNames (withoutLineFeed names)

/-- Whether the path leads to a page once the slashes at its end are gone. -/
def isSlashed (path : String) : Bool :=
  Text.finishesWith path "/" && (ofPath (Text.trimEndWhile (· = '/') path)).isSome

end Route

/-- The bytes of a text in which a percent sign and two hexadecimal digits stand for a byte. -/
def percentBytes : List Char → List UInt8
  | [] => []
  | '%' :: a :: b :: rest =>
    match Json.hexValue? a, Json.hexValue? b with
    | some high, some low => UInt8.ofNat (16 * high + low) :: percentBytes rest
    | _, _ => 0x25 :: percentBytes (a :: b :: rest)
  | c :: rest => (String.singleton c).toUTF8.toList ++ percentBytes rest

/-- The path of a target: what is before the query and the fragment, decoded. It has a slash in front. -/
def pathOf (target : String) : String :=
  let chars := target.toList.takeWhile fun c => c ≠ '?' && c ≠ '#'
  let path := String.ofList (Text.decodeUtf8 (percentBytes chars))
  if Text.beginsWith path "/" then path else "/" ++ path

end Catalog.Service
