import Catalog.Text.Broken

/-! JSON values, with whole numbers kept apart from decimal ones, and broken texts from whole ones. -/
namespace Catalog

/-- A decimal number `± digits · 10 ^ exponent`, as written. -/
structure Decimal where
  negative : Bool
  digits : Nat
  exponent : Int
  deriving DecidableEq, Repr, Inhabited

/-- A JSON value. Members of an object are in the order in which their names first occurred; an object with a broken
name among them is one that is misnamed. -/
inductive Json where
  | null
  | bool (value : Bool)
  | int (value : Int)
  | decimal (value : Decimal)
  | nonFinite (name : String)
  | string (text : String)
  | broken (text : Broken)
  | array (items : List Json)
  | object (members : List (String × Json))
  | misnamed (members : List (AnyText × Json))
  deriving Repr, Inhabited

namespace Decimal

/-- The digits without noughts at the end, which go to the exponent. `fuel` bounds their number. -/
def strip : Nat → Nat → Int → Nat × Int
  | 0, digits, exponent => (digits, exponent)
  | fuel + 1, digits, exponent =>
    if digits ≠ 0 && digits % 10 = 0 then strip fuel (digits / 10) (exponent + 1) else (digits, exponent)

/-- Whether the number is nought, or too small to be told from it in 64-bit floating point: at most 2 ^ -1075, half of
the least positive number there. -/
def isZero (d : Decimal) : Bool :=
  let places := d.exponent + (toString d.digits).length
  let shift := d.exponent + 1075
  d.digits = 0 || places < -323 ||
    places = -323 && d.digits * Nat.pow 10 shift.toNat ≤ Nat.pow 5 1075 * Nat.pow 10 (-shift).toNat

/-- Whether the number is past the greatest one in 64-bit floating point by half a step or more. -/
def isInfinite (d : Decimal) : Bool :=
  let places := d.exponent + (toString d.digits).length
  let bound := Nat.pow 2 1024 - Nat.pow 2 970
  d.digits ≠ 0 && (places > 309 ||
    places = 309 && d.digits * Nat.pow 10 d.exponent.toNat ≥ bound * Nat.pow 10 (-d.exponent).toNat)

/-- The text of a decimal number: positional from 0.0001 up to 16 digits before the point, with a point
always, and with an exponent of at least two digits otherwise. -/
def text (d : Decimal) : String :=
  let (n, e) := strip (toString d.digits).length d.digits d.exponent
  let sign := if d.negative then "-" else ""
  if n = 0 then sign ++ "0.0"
  else
    let ds := toString n
    let point := e + ds.length
    if -4 < point && point ≤ 16 then
      if 0 ≤ e then sign ++ ds ++ String.ofList (List.replicate e.toNat '0') ++ ".0"
      else if point ≤ 0 then sign ++ "0." ++ String.ofList (List.replicate (-point).toNat '0') ++ ds
      else sign ++ String.ofList (ds.toList.take point.toNat) ++ "." ++ String.ofList (ds.toList.drop point.toNat)
    else
      let x := point - 1
      let xs := toString x.natAbs
      let fraction := if ds.length = 1 then "" else "." ++ String.ofList (ds.toList.drop 1)
      sign ++ String.ofList (ds.toList.take 1) ++ fraction ++ "e" ++ (if x < 0 then "-" else "+") ++
        (if xs.length < 2 then "0" ++ xs else xs)

end Decimal

namespace Json

/-- The value of the named member of an object. -/
def member? (name : String) : Json → Option Json
  | object members => members.lookup name
  | misnamed members => members.lookup (.whole name)
  | _ => none

/-- Sets a member, which keeps its place if the name is already there. -/
def setMember {ν : Type} [DecidableEq ν] (name : ν) (value : Json) : List (ν × Json) → List (ν × Json)
  | [] => [(name, value)]
  | (n, v) :: members => if n = name then (n, value) :: members else (n, v) :: setMember name value members

/-- The object of members in order. -/
def ofMembers (members : List (AnyText × Json)) : Json :=
  match members.mapM fun (name, value) => name.whole?.map (·, value) with
  | some members => object members
  | none => misnamed members

def isObject : Json → Bool
  | object _ => true
  | misnamed _ => true
  | _ => false

def ofText : AnyText → Json
  | .whole text => string text
  | .broken text => broken text

def text? : Json → Option AnyText
  | string text => some (.whole text)
  | broken text => some (.broken text)
  | _ => none

/-- Whether a value counts as nothing: null, false, nought, and what is empty. -/
def isNothing : Json → Bool
  | null => true
  | bool b => !b
  | int n => n = 0
  | decimal d => d.isZero
  | nonFinite _ => false
  | string s => s.isEmpty
  | broken _ => false
  | array items => items.isEmpty
  | object members => members.isEmpty
  | misnamed _ => false

/-- A text, or null when it is absent. -/
def ofText? : Option String → Json
  | some text => string text
  | none => null

/-! Whether a value can be written in an encoding: it is finite, no text in it is broken, and its arrays and objects are
nested no deeper than `nesting`. -/

mutual

def isEncodable : Nat → Json → Bool
  | _, null => true
  | _, bool _ => true
  | _, int _ => true
  | _, decimal d => !d.isInfinite
  | _, nonFinite _ => false
  | _, string _ => true
  | _, broken _ => false
  | nesting, array items => 0 < nesting && areEncodable (nesting - 1) items
  | nesting, object members => 0 < nesting && membersEncodable (nesting - 1) members
  | _, misnamed _ => false

def areEncodable : Nat → List Json → Bool
  | _, [] => true
  | nesting, item :: items => isEncodable nesting item && areEncodable nesting items

def membersEncodable : Nat → List (String × Json) → Bool
  | _, [] => true
  | nesting, (_, value) :: members => isEncodable nesting value && membersEncodable nesting members

end

end Json
end Catalog
