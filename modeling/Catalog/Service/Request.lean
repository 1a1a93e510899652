import Catalog.Json.Reader
import Catalog.Service.Route
import Catalog.Tool.Call

/-! Requests to the service, and the arguments that their bodies give to a tool. -/
namespace Catalog.Service

structure Request where
  method : String
  target : String
  body : String := ""
  deriving DecidableEq, Repr

/-- An answer: its status, and its body, null where there is none that is JSON. -/
structure Response where
  status : Nat
  body : Json
  deriving Repr, Inhabited

/-- An answer that gives a reason. -/
def Response.because (status : Nat) (reason : String) : Response :=
  ⟨status, .object [("detail", .string reason)]⟩

/-- The most levels of arrays and objects that an answer has of its own, apart from what is told of a body. -/
def Response.levels : Nat := 4

/-- The answer as it is sent, where answers can be nested deeper than that by `deeper` levels. In the place of one that
cannot be encoded, an error of the service is. -/
def Response.sent (deeper : Nat) (r : Response) : Response :=
  if r.body.isEncodable (deeper + levels) then r else ⟨500, .null⟩

/-- What is wrong with a body: it is no JSON, it cannot be read at all, it is no object, or its arguments are none. -/
inductive BodyFault where
  | notJson (error : Json.ReadError)
  | unreadable
  | notObject (body : Json)
  | argumentsNotObject (arguments : Json)
  deriving Repr

/-- What is said of a part of a body, with the part and more that is told in the case. -/
def complaint (place : List Json) (message kind : String) (input : Json) (more : List (String × Json)) : Response :=
  ⟨422, .object [("detail", .array [.object ([
    ("type", .string kind), ("loc", .array (.string "body" :: place)), ("msg", .string message),
    ("input", input)] ++ more)])]⟩

def BodyFault.response : BodyFault → Response
  | notJson e => complaint [.int e.offset] "JSON decode error" "json_invalid" (.object [])
      [("ctx", .object [("error", .string e.reason.message)])]
  | unreadable => .because 400 "There was an error parsing the body"
  | notObject body =>
    complaint [] "Input should be a valid dictionary or object to extract fields from" "model_attributes_type" body []
  | argumentsNotObject arguments =>
    complaint [.string "arguments"] "Input should be a valid dictionary" "dict_type" arguments []

/-- The fault of a text that is not JSON, or has a number or a nesting beyond the limits of the reader. -/
def BodyFault.ofReadError (e : Json.ReadError) : BodyFault :=
  match e.reason with
  | .tooManyDigits _ => unreadable
  | .tooDeep => unreadable
  | _ => notJson e

/-- The text without a byte order mark at its front. -/
def withoutMark (body : String) : String :=
  if body.toList.head? = some (Char.ofNat 0xFEFF) then Text.dropFirst body 1 else body

/-- The arguments that a body gives; none if there is no body, or nothing of the name in it. -/
def argumentsOf (nesting : Nat) (body : String) : Except BodyFault Arguments :=
  if body.isEmpty then .ok (.named [])
  else
    match Json.read nesting (withoutMark body) with
    | .error e => .error (.ofReadError e)
    | .ok value =>
      if value.isObject then
        match value.member? "arguments" with
        | none => .ok (.named [])
        | some arguments =>
          match Arguments.ofJson? arguments with
          | some arguments => .ok arguments
          | none => .error (.argumentsNotObject arguments)
      else .error (.notObject value)

end Catalog.Service
