import ClusterHealth.Json.Value

/-!
Records in documents: objects with known fields, or arrays that list the values of those fields in
their order. Unknown fields of an object are passed over without being decoded.
-/
namespace ClusterHealth.Json

/-- What a document has for a field. -/
inductive Slot where
  /-- No member of the object. -/
  | absent
  /-- The array ended before. -/
  | beyond
  | given (value : Document)

abbrev Record := List (String × Slot)

/-- The values of the members with the key `name`. -/
def membersNamed (name : String) (members : List (String × Document)) : List Document :=
  (members.filter (·.1 == name)).map (·.2)

/-- A known field is given once at most. -/
def slotOf? (members : List (String × Document)) (name : String) : Option (String × Slot) :=
  match membersNamed name members with
  | [] => some (name, .absent)
  | [value] => some (name, .given value)
  | _ => none

/-- Lines the fields up with the items of an array, which has no more items than fields. -/
def slotsOfItems? : List String → List Document → Option Record
  | [], [] => some []
  | [], _ :: _ => none
  | name :: names, [] => (slotsOfItems? names []).map ((name, .beyond) :: ·)
  | name :: names, item :: items => (slotsOfItems? names items).map ((name, .given item) :: ·)

def decodeKeys? (members : List (List Char × Document)) :
    Option (List (String × Document)) :=
  members.mapM fun (key, value) => (decodeText? key).map (·, value)

def Document.record? (names : List String) : Document → Option Record
  | .object members => do
    let members ← decodeKeys? members
    names.mapM (slotOf? members)
  | .array items => slotsOfItems? names items
  | _ => none

namespace Record

def slot (r : Record) (name : String) : Slot := (r.lookup name).getD .absent

/-- The value of a field that has to be there. -/
def required (r : Record) (name : String) (read : Document → Option α) : Option α :=
  match r.slot name with
  | .given value => read value
  | _ => none

/-- The value of a field, or `default` without it. A null is no value. -/
def orElse (r : Record) (name : String) (default : α) (read : Document → Option α) : Option α :=
  match r.slot name with
  | .given value => read value
  | _ => some default

/-- The value of a field that may be null or left out of an object, but not out of an array. -/
def optional (r : Record) (name : String) (read : Document → Option α) : Option (Option α) :=
  match r.slot name with
  | .absent | .given .null => some none
  | .beyond => none
  | .given value => (read value).map some

end Record

namespace Document

def text? : Document → Option String
  | .string body => decodeText? body
  | _ => none

def list? (read : Document → Option α) : Document → Option (List α)
  | .array items => items.mapM read
  | _ => none

/-- An integer of 32 bits; a negative zero is none. -/
def int32? : Document → Option Int
  | .number literal =>
    match Number.ofLiteral? literal with
    | some (.integer n) => if -(Nat.pow 2 31 : Int) ≤ n ∧ n < Nat.pow 2 31 then some n else none
    | _ => none
  | _ => none

/-- Texts by name; of several members of one name the last counts. -/
def textMap? : Document → Option (List (String × String))
  | .object members => do
    (← decodeKeys? members).mapM fun (key, value) => value.text?.map (key, ·)
  | _ => none

end Document
end ClusterHealth.Json
