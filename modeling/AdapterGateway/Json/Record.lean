import AdapterGateway.Json.Decode
/-!
# Records

One description of a record serves its reader and its writer. A record is read from an object, its
members in any order and unknown ones skipped, or from a list of its fields in their order. Fields
with a fallback may be absent; a list may stop before them.
-/
namespace AdapterGateway.Json
open AdapterGateway.Text

/-- One field of a record. -/
structure Field (α : Type) where
  /-- The name it is written under. -/
  label : String
  read : Reader α
  /-- How its value is written; nothing when the field is left out. -/
  write : α → Option Value
  /-- Its value when it is absent; nothing if it must not be. -/
  fallback : Option α
  /-- A second name it may be read under. -/
  secondName : Option String := none

def required {α : Type} (label : String) (read : Reader α) (write : α → Value) : Field α :=
  ⟨label, read, some ∘ write, none, none⟩

/-- A field that has a value when it is absent. -/
def defaulted {α : Type} (label : String) (read : Reader α) (write : α → Value) (value : α) :
    Field α :=
  ⟨label, read, some ∘ write, some value, none⟩

/-- A field that is left out when it has no value. -/
def omittable {α : Type} (label : String) (read : Reader α) (write : α → Value) :
    Field (Option α) :=
  ⟨label, asOptional read, fun value => value.map write, some none, none⟩

/-- A record type: the names `F` of its fields, the type of each, and how each is read and
written. -/
structure Record (F : Type) (Ty : F → Type) where
  /-- How errors name it. -/
  name : String
  /-- The fields in their order. -/
  order : List F
  field : (f : F) → Field (Ty f)

abbrev Row {F : Type} (Ty : F → Type) := (f : F) → Ty f

/-- The values of the fields that have one. -/
abbrev Slots {F : Type} (Ty : F → Type) := (f : F) → Option (Ty f)

def fill {F : Type} {Ty : F → Type} [DecidableEq F] (slots : Slots Ty) (f : F) (value : Ty f) :
    Slots Ty :=
  fun g => if h : f = g then some (h ▸ value) else slots g

namespace Record
variable {F : Type} {Ty : F → Type}

/-- The field that a member of the given name fills. -/
def find? (r : Record F Ty) (name : String) : Option F :=
  r.order.find? fun f => (r.field f).label == name || (r.field f).secondName == some name

/-- The value of a field, its own or the fallback. -/
def settle (r : Record F Ty) (slots : Slots Ty) (f : F) : Option (Ty f) :=
  (slots f).or (r.field f).fallback

/-- The first field that has neither a value nor a fallback. -/
def missing? (r : Record F Ty) (slots : Slots Ty) : Option F :=
  r.order.find? fun f => (r.settle slots f).isNone

/-- Fills slots from the members of an object. -/
def fillMembers [DecidableEq F] (r : Record F Ty) (slots : Slots Ty) :
    List (Spelling × Tree) → Except DecodeError (Slots Ty)
  | [] => .ok slots
  | (name, t) :: rest => do
    let name ← asName name
    match r.find? name with
    | none =>
      skip t
      r.fillMembers slots rest
    | some f =>
      if (slots f).isSome then throw (.duplicateField (r.field f).label)
      else
        let value ← (r.field f).read t
        r.fillMembers (fill slots f value) rest

/-- Fills slots from the elements of a list, as far as both go. Comes back with the elements left
over. -/
def fillItems [DecidableEq F] (r : Record F Ty) (slots : Slots Ty) :
    List F → List Tree → Except DecodeError (Slots Ty × List Tree)
  | [], items => .ok (slots, items)
  | _ :: _, [] => .ok (slots, [])
  | f :: fs, t :: rest => do
    let value ← (r.field f).read t
    r.fillItems (fill slots f value) fs rest

/-- The row of settled slots; `absent` names the error for a field that has no value. -/
def rowOf [DecidableEq F] (r : Record F Ty) (complete : ∀ f, f ∈ r.order) (absent : F → DecodeError)
    (slots : Slots Ty) : Except DecodeError (Row Ty) :=
  match h : r.missing? slots with
  | some f => .error (absent f)
  | none => .ok fun f => (r.settle slots f).get (by
      have := List.find?_eq_none.mp h f (complete f)
      simpa [Option.isSome_iff_ne_none] using this)

def read [DecidableEq F] (r : Record F Ty) (complete : ∀ f, f ∈ r.order) : Reader (Row Ty)
  | .object members ending => do
    let slots ← r.fillMembers (fun _ => none) members
    ending.check
    r.rowOf complete (fun f => .missingField (r.field f).label) slots
  | .list items ending => do
    let (slots, rest) ← r.fillItems (fun _ => none) r.order items
    if ending = .broken ∧ items.length < r.order.length then throw .malformed
    let row ← r.rowOf complete
      (fun f => .wrongLength (r.order.idxOf f) ("struct " ++ r.name) r.order.length) slots
    if ending = .lax ∨ (ending = .exact ∧ rest.isEmpty) then return row else throw .malformed
  | .deep _ _ => .error .malformed
  | t => t.refuse ("struct " ++ r.name)

/-- Writes a record as an object, its members in the order of the fields. -/
def write (r : Record F Ty) (row : Row Ty) : Value :=
  .object (r.order.filterMap fun f => ((r.field f).write (row f)).map ((r.field f).label, ·))

end Record
end AdapterGateway.Json
