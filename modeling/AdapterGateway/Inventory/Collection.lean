import AdapterGateway.Inventory.Graph
/-!
# Collections

The result of one pass over the monitored objects. A collection holds one instance for each
identity, in the order in which they came in, and sees to it that identifiers of one kind of objects
agree on whether they are part of the identity. With an error message it is that message and nothing
else.
-/
namespace AdapterGateway.Inventory
open Json

/-- The kinds of objects within which identifiers agree on being part of the identity. -/
structure Scope where
  adapterKind : String
  objectKind : String
deriving DecidableEq, Repr

instance : Ord Scope where
  compare := compareLex (compareOn Scope.adapterKind) (compareOn Scope.objectKind)

instance : Std.TransOrd Scope :=
  inferInstanceAs (Std.TransCmp
    (compareLex (compareOn Scope.adapterKind) (compareOn Scope.objectKind)))

instance : Std.LawfulEqOrd Scope where
  eq_of_compare {a b} h := by
    obtain ⟨hAdapter, hObject⟩ := compareLex_eq_eq.mp h
    cases a
    cases b
    cases Std.LawfulEqCmp.eq_of_compare (α := String) hAdapter
    cases Std.LawfulEqCmp.eq_of_compare (α := String) hObject
    rfl

/-- The kinds of the objects that a key may name. -/
def Key.scope (k : Key) : Scope := ⟨k.adapterKind, k.objectKind⟩

/-- A set of objects, one for each identity, or an error. -/
structure Collection where
  /-- The stored instances by their identities. -/
  table : Dictionary Identity Handle := ∅
  /-- The identities of the stored instances in the order in which they came in. -/
  order : List Identity := []
  /-- What stored instances have laid down: for the identifiers of each scope, by their keys,
  whether they are part of the identity. -/
  flags : Dictionary Scope (Dictionary String Bool) := ∅
  errorMessage : Option String := none
deriving Inhabited

namespace Collection

/-- The stored instance of an identity. -/
def find? (c : Collection) (identity : Identity) : Option Handle := c.table.get? identity

/-- The stored instance that a key names. -/
def get? (c : Collection) (key : Key) : Option Handle := c.find? key.identity

/-- The stored instances in the order in which they came in. -/
def entries (c : Collection) : List Handle := c.order.filterMap c.find?

def size (c : Collection) : Nat := c.table.size

def isEmpty (c : Collection) : Bool := c.table.isEmpty

/-- The stored instances of one object kind. -/
def ofObjectKind (c : Collection) (kind : String) : List Handle :=
  c.entries.filter (·.key.objectKind == kind)

/-- The stored instances of one adapter kind. -/
def ofAdapterKind (c : Collection) (kind : String) : List Handle :=
  c.entries.filter (·.key.adapterKind == kind)

/-- What is laid down about the identifiers of one key in a scope. -/
def flag? (c : Collection) (scope : Scope) (key : String) : Option Bool :=
  (c.flags.get? scope).bind (·.get? key)

/-- The first identifier of a key that contradicts what is laid down. -/
def conflict? (c : Collection) (k : Key) : Option Identifier :=
  k.identifiers.find? fun i => match c.flag? k.scope i.key with
    | some flag => flag != i.unique
    | none => false

/-- Fails with the first identifier that contradicts what is laid down. -/
def checkFlags (c : Collection) (k : Key) : Except Fault Unit :=
  match c.conflict? k with
  | some i => .error (.identifierUniqueness i.key)
  | none => .ok ()

/-- Lays down what an identifier is, unless that is done already. -/
def layDown (flags : Dictionary String Bool) (i : Identifier) : Dictionary String Bool :=
  if flags.contains i.key then flags else flags.insert i.key i.unique

/-- Stores an instance whose identity is new. -/
def insert (c : Collection) (h : Handle) : Except Fault Collection := do
  c.checkFlags h.key
  let flags := (c.flags.get? h.key.scope).getD ∅
  return { c with
    table := c.table.insert h.identity h
    order := c.order ++ [h.identity]
    flags := c.flags.insert h.key.scope (h.key.identifiers.foldl layDown flags) }

/-- The stored instance that a key names; a new one is stored where there is none. -/
def object (c : Collection) (g : Graph) (key : Key) :
    Except Fault (Handle × Collection × Graph) :=
  match c.get? key with
  | some h => do
    c.checkFlags key
    return (h, c, g)
  | none => do
    let (h, g) := g.create key
    let c ← c.insert h
    return (h, c, g)

/-- Stores an instance. One that is stored already stays; another one in its place is refused. -/
def add (c : Collection) (h : Handle) : Except Fault Collection :=
  match c.find? h.identity with
  | some stored =>
    if stored.sameInstance h then .ok c else .error (.duplicateIdentity [h.key.display])
  | none => c.insert h

/-- Stores several instances. Those whose places are taken are passed over and named together in
the end; any other fault stops at once. -/
def addAll (c : Collection) (refused : List String) :
    List Handle → Except Fault Unit × Collection
  | [] => (if refused.isEmpty then .ok () else .error (.duplicateIdentity refused), c)
  | h :: rest => match c.add h with
    | .ok c => c.addAll refused rest
    | .error (.duplicateIdentity keys) => c.addAll (refused ++ keys) rest
    | .error fault => (.error fault, c)

/-- Puts the collection into error mode. The last message counts. -/
def withError (c : Collection) (message : String) : Collection :=
  { c with errorMessage := some message }

def isSuccess (c : Collection) : Bool := c.errorMessage.isNone

/-- The key by which an edge to `key` is shown: that of the stored instance, if there is one. -/
def resolve (c : Collection) (key : Key) : Key :=
  match c.get? key with
  | some h => h.key
  | none => key

/-- The edges of one instance inside a result document. -/
def relationship (c : Collection) (g : Graph) (h : Handle) : Value :=
  .object [
    ("children", .list ((g.children h).map fun key => (c.resolve key).wire)),
    ("parent", h.key.wire)]

def wire (c : Collection) (g : Graph) : Value :=
  match c.errorMessage with
  | some message => .object [("errorMessage", .string message)]
  | none => .object [
      ("nonExistingObjects", .list []),
      ("relationships", .list ((c.entries.filter g.hasChildren).map (c.relationship g))),
      ("result", .list (c.entries.map g.wire))]

end Collection
end AdapterGateway.Inventory
