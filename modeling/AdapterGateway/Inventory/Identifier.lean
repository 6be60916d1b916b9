import AdapterGateway.Fault
import AdapterGateway.Json.Record
/-!
# Identifiers

A key and a value that help to identify a monitored object. Identifiers that are not part of the
identity are carried along; their values may change while the object stays the same.
-/
namespace AdapterGateway.Inventory
open Json

/-- A piece of data about an object, part of its identity or not. -/
structure Identifier where
  key : String
  value : String
  unique : Bool := true
deriving DecidableEq, Repr

/-- What identifiers are compared by. -/
inductive IdentifierKey where
  | unique (key value : String)
  | nonUnique (key : String)
deriving DecidableEq, Repr

/-- The order of identifier keys: the unique ones first, then by key and value. -/
instance : Ord IdentifierKey where
  compare
    | .unique k v, .unique k' v' => (compare k k').then (compare v v')
    | .unique _ _, .nonUnique _ => .lt
    | .nonUnique _, .unique _ _ => .gt
    | .nonUnique k, .nonUnique k' => compare k k'

namespace Identifier

/-- The value of an identifier outside the identity does not take part in comparisons. -/
def identityKey (i : Identifier) : IdentifierKey :=
  if i.unique then .unique i.key i.value else .nonUnique i.key

/-- Compares two identifiers; equal keys with different flags cannot be compared. -/
def tryEq (i j : Identifier) : Except Fault Bool :=
  if i.key = j.key ∧ i.unique ≠ j.unique then .error (.identifierUniqueness i.key)
  else .ok (i.identityKey == j.identityKey)

/-- Shows an identifier, with a star on those that are part of the identity. -/
def display (i : Identifier) : String :=
  i.key ++ (if i.unique then "*" else "") ++ ":" ++ i.value

/-- The fields of an identifier. -/
inductive Part where
  | key
  | value
  | unique
deriving DecidableEq, Repr

abbrev Part.Ty : Part → Type
  | .key | .value => String
  | .unique => Bool

/-- Identifiers as records. The flag may be absent and is then set. -/
def record : Record Part Part.Ty where
  name := "Identifier"
  order := [.key, .value, .unique]
  field
    | .key => required "key" asString .string
    | .value => required "value" asString .string
    | .unique => defaulted "isPartOfUniqueness" asBool .bool true

def read : Reader Identifier := fun t => do
  let row ← record.read (by intro f; cases f <;> decide) t
  return ⟨row .key, row .value, row .unique⟩

def toJson (i : Identifier) : Value :=
  record.write fun
    | .key => i.key
    | .value => i.value
    | .unique => i.unique

end Identifier
end AdapterGateway.Inventory
