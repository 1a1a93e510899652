/-! Lists of entries that are found by a key. -/
namespace Catalog.Keyed

variable {α : Type}

/-- The first entry with the key. -/
def find? (keyOf : α → String) (k : String) (entries : List α) : Option α :=
  entries.find? fun a => keyOf a = k

/-- Puts an entry in. It is merged with an entry of the same key and takes its place, or goes to the end. -/
def insert (keyOf : α → String) (merge : α → α → α) (a : α) : List α → List α
  | [] => [a]
  | b :: bs => if keyOf b = keyOf a then merge b a :: bs else b :: insert keyOf merge a bs

end Catalog.Keyed
