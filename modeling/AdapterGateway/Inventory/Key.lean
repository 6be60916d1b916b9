import AdapterGateway.Inventory.Identifier
import AdapterGateway.Text.Description
/-!
# Keys and identities

A key names a monitored object: its kinds, a display name and identifiers, of which each key occurs
once. Two keys mean the same object when their identities agree: the kinds and either the unique
identifiers, in whatever order they were given, or the name where there are none.
-/
namespace AdapterGateway.Inventory
open Json Text

/-- What an identity rests on. -/
inductive Basis where
  /-- No identifier is unique: the name decides. -/
  | named (name : String)
  /-- The unique identifiers. -/
  | identified (pairs : Dictionary String String)
deriving DecidableEq

/-- The order of pairs of texts, by their first parts and then by their second. -/
def pairOrder : String × String → String × String → Ordering :=
  compareLex (compareOn Prod.fst) (compareOn Prod.snd)

instance : Std.TransCmp pairOrder :=
  inferInstanceAs (Std.TransCmp (compareLex (compareOn Prod.fst) (compareOn Prod.snd)))

instance : Std.LawfulEqCmp pairOrder where
  eq_of_compare {a b} h := by
    obtain ⟨hFst, hSnd⟩ := compareLex_eq_eq.mp h
    exact Prod.ext (Std.LawfulEqCmp.eq_of_compare (α := String) hFst)
      (Std.LawfulEqCmp.eq_of_compare (α := String) hSnd)

/-- Names come before identifiers; lists of pairs are compared from the front. -/
def Basis.order : Basis → Basis → Ordering
  | .named a, .named b => compare a b
  | .named _, .identified _ => .lt
  | .identified _, .named _ => .gt
  | .identified a, .identified b => List.compareLex pairOrder a.entries b.entries

instance : Ord Basis := ⟨Basis.order⟩

instance : Std.TransOrd Basis where
  eq_swap {a b} := match a, b with
    | .named _, .named _ => @Std.OrientedCmp.eq_swap String compare _ _ _
    | .named _, .identified _ => rfl
    | .identified _, .named _ => rfl
    | .identified _, .identified _ =>
      @Std.OrientedCmp.eq_swap (List (String × String)) (List.compareLex pairOrder) _ _ _
  isLE_trans {a b c} hab hbc := match a, b, c, hab, hbc with
    | .named _, .named _, .named _, hab, hbc =>
      @Std.TransCmp.isLE_trans String compare _ _ _ _ hab hbc
    | .named _, .named _, .identified _, _, _ => rfl
    | .named _, .identified _, .identified _, _, _ => rfl
    | .named _, .identified _, .named _, _, hbc => nomatch hbc
    | .identified _, .named _, _, hab, _ => nomatch hab
    | .identified _, .identified _, .named _, _, hbc => nomatch hbc
    | .identified _, .identified _, .identified _, hab, hbc =>
      @Std.TransCmp.isLE_trans (List (String × String)) (List.compareLex pairOrder) _ _ _ _ hab hbc

instance : Std.LawfulEqOrd Basis where
  eq_of_compare {a b} h := match a, b, h with
    | .named _, .named _, h =>
      congrArg Basis.named (@Std.LawfulEqCmp.eq_of_compare String compare _ _ _ h)
    | .named _, .identified _, h => nomatch h
    | .identified _, .named _, h => nomatch h
    | .identified _, .identified _, h =>
      congrArg Basis.identified (Dictionary.ext
        (@Std.LawfulEqCmp.eq_of_compare _ (List.compareLex pairOrder) _ _ _ h))

/-- The value that two keys are compared on. -/
structure Identity where
  adapterKind : String
  objectKind : String
  basis : Basis
deriving DecidableEq

/-- Identities are ordered by their kinds and then by what they rest on. -/
instance : Ord Identity where
  compare := compareLex (compareOn Identity.adapterKind)
    (compareLex (compareOn Identity.objectKind) (compareOn Identity.basis))

instance : Std.TransOrd Identity :=
  inferInstanceAs (Std.TransCmp (compareLex (compareOn Identity.adapterKind)
    (compareLex (compareOn Identity.objectKind) (compareOn Identity.basis))))

instance : Std.LawfulEqOrd Identity where
  eq_of_compare {a b} h := by
    obtain ⟨hAdapter, hRest⟩ := compareLex_eq_eq.mp h
    obtain ⟨hObject, hBasis⟩ := compareLex_eq_eq.mp hRest
    cases a
    cases b
    cases Std.LawfulEqCmp.eq_of_compare (α := String) hAdapter
    cases Std.LawfulEqCmp.eq_of_compare (α := String) hObject
    cases Std.LawfulEqCmp.eq_of_compare (α := Basis) hBasis
    rfl

def Identity.display (i : Identity) : String :=
  i.adapterKind ++ ":" ++ i.objectKind ++ ":" ++
    match i.basis with
    | .named name => name
    | .identified pairs =>
      "[" ++ String.intercalate "," (pairs.entries.map fun p => p.1 ++ "=" ++ p.2) ++ "]"

/-- Puts an identifier in the place of the one with its key, or at the end. -/
def putIdentifier (i : Identifier) : List Identifier → List Identifier
  | [] => [i]
  | j :: rest => if j.key = i.key then i :: rest else j :: putIdentifier i rest

/-- The keys after one identifier is put. -/
theorem map_key_putIdentifier (i : Identifier) (l : List Identifier) :
    (putIdentifier i l).map (·.key) =
      if i.key ∈ l.map (·.key) then l.map (·.key) else l.map (·.key) ++ [i.key] := by
  induction l with
  | nil => simp [putIdentifier]
  | cons j rest ih =>
    by_cases h : j.key = i.key
    · simp [putIdentifier, h]
    · have hne : ¬ i.key = j.key := fun he => h he.symm
      simp only [putIdentifier, h, if_false, List.map_cons, ih, List.mem_cons, hne, false_or]
      split <;> simp

/-- Putting an identifier keeps the keys distinct. -/
theorem nodup_putIdentifier (i : Identifier) {l : List Identifier}
    (h : (l.map (·.key)).Nodup) : ((putIdentifier i l).map (·.key)).Nodup := by
  rw [map_key_putIdentifier]
  split
  · exact h
  · rename_i hmem
    exact List.nodup_append.mpr
      ⟨h, by simp, fun a ha b hb => by simp at hb; rintro rfl; exact hmem (hb ▸ ha)⟩

/-- A list of identifiers with each key once, at its first place and with its last content. -/
def mergeIdentifiers (l : List Identifier) : List Identifier :=
  l.foldl (fun merged i => putIdentifier i merged) []

/-- Merged identifiers have distinct keys. -/
theorem nodup_mergeIdentifiers (l : List Identifier) :
    ((mergeIdentifiers l).map (·.key)).Nodup := by
  suffices h : ∀ merged : List Identifier, (merged.map (·.key)).Nodup →
      ((l.foldl (fun merged i => putIdentifier i merged) merged).map (·.key)).Nodup from
    h [] (by simp)
  induction l with
  | nil => exact fun _ h => h
  | cons i rest ih => exact fun merged h => ih _ (nodup_putIdentifier i h)

theorem putIdentifier_of_not_mem {i : Identifier} {l : List Identifier}
    (h : i.key ∉ l.map (·.key)) : putIdentifier i l = l ++ [i] := by
  induction l with
  | nil => rfl
  | cons j rest ih =>
    rw [List.map_cons, List.mem_cons, not_or] at h
    rw [putIdentifier, if_neg (Ne.symm h.1), ih h.2]
    rfl

/-- Identifiers with distinct keys are merged already. -/
theorem mergeIdentifiers_of_nodup {l : List Identifier} (h : (l.map (·.key)).Nodup) :
    mergeIdentifiers l = l := by
  suffices hmerge : ∀ merged : List Identifier, ((merged ++ l).map (·.key)).Nodup →
      l.foldl (fun merged i => putIdentifier i merged) merged = merged ++ l from
    hmerge [] h
  clear h
  induction l with
  | nil => exact fun merged _ => (List.append_nil merged).symm
  | cons i rest ih =>
    intro merged h
    have hnew : i.key ∉ merged.map (·.key) := by
      rw [List.map_append, List.nodup_append] at h
      exact fun hmem => h.2.2 _ hmem i.key (by simp) rfl
    rw [List.append_cons] at h
    rw [List.foldl_cons, putIdentifier_of_not_mem hnew, ih _ h, ← List.append_cons]

/-- What is found under a key after one identifier is put. -/
theorem find?_putIdentifier (i : Identifier) (l : List Identifier) (key : String) :
    (putIdentifier i l).find? (·.key == key) =
      if i.key == key then some i else l.find? (·.key == key) := by
  induction l with
  | nil => cases h : i.key == key <;> simp [putIdentifier, h]
  | cons j rest ih =>
    unfold putIdentifier
    split
    · rename_i hsame
      rw [List.find?_cons, List.find?_cons, hsame]
      cases i.key == key <;> rfl
    · rename_i hother
      rw [List.find?_cons, List.find?_cons, ih]
      cases hj : j.key == key
      · rfl
      · rw [← eq_of_beq hj, beq_eq_false_iff_ne.mpr (Ne.symm hother)]
        rfl

/-- The last identifier of a key is the one that is kept. -/
theorem find?_mergeIdentifiers (l : List Identifier) (key : String) :
    (mergeIdentifiers l).find? (·.key == key) = l.reverse.find? (·.key == key) := by
  suffices h : ∀ merged : List Identifier,
      (l.foldl (fun merged i => putIdentifier i merged) merged).find? (·.key == key) =
        (l.reverse.find? (·.key == key)).or (merged.find? (·.key == key)) by
    rw [mergeIdentifiers, h]
    exact Option.or_none
  induction l with
  | nil => exact fun merged => rfl
  | cons i rest ih =>
    intro merged
    rw [List.foldl_cons, ih, find?_putIdentifier, List.reverse_cons, List.find?_append,
      Option.or_assoc, List.find?_singleton]
    cases i.key == key <;> simp

/-- The name of a monitored object. -/
structure Key where
  adapterKind : String
  objectKind : String
  name : String
  identifiers : List Identifier
  distinct : (identifiers.map (·.key)).Nodup
deriving DecidableEq

namespace Key

/-- The key with the given parts; of several identifiers with one key the last counts. -/
def make (adapterKind objectKind name : String) (identifiers : List Identifier) : Key :=
  ⟨adapterKind, objectKind, name, mergeIdentifiers identifiers, nodup_mergeIdentifiers identifiers⟩

/-- A key is made of its own parts. -/
theorem make_self (k : Key) : make k.adapterKind k.objectKind k.name k.identifiers = k := by
  obtain ⟨adapterKind, objectKind, name, identifiers, distinct⟩ := k
  simp only [make, mergeIdentifiers_of_nodup distinct]

/-- The unique identifiers as a dictionary. -/
def uniquePairs (k : Key) : Dictionary String String :=
  Dictionary.ofList ((k.identifiers.filter (·.unique)).map fun i => (i.key, i.value))

def basis (k : Key) : Basis :=
  if k.uniquePairs.isEmpty then .named k.name else .identified k.uniquePairs

def identity (k : Key) : Identity := ⟨k.adapterKind, k.objectKind, k.basis⟩

/-- The identifier of the given key. -/
def find? (k : Key) (key : String) : Option Identifier := k.identifiers.find? (·.key == key)

def value? (k : Key) (key : String) : Option String := (k.find? key).map (·.value)

/-- The first identifier that the other key has too, with the other flag. -/
def conflict? (k other : Key) : Option Identifier :=
  k.identifiers.find? fun mine => match other.find? mine.key with
    | some theirs => mine.unique != theirs.unique
    | none => false

/-- Compares two keys by identity, unless an identifier of both has different flags. -/
def tryEq (k other : Key) : Except Fault Bool :=
  match k.conflict? other with
  | some i => .error (.identifierUniqueness i.key)
  | none => .ok (k.identity == other.identity)

def display (k : Key) : String :=
  k.adapterKind ++ ":" ++ k.objectKind ++ ":" ++ k.name ++ ":[" ++
    String.intercalate ", " (k.identifiers.map Identifier.display) ++ "]"

def description (k : Key) : String :=
  let identifier (i : Identifier) := describeRecord "Identifier" [
    ("key", quoted i.key),
    ("value", quoted i.value),
    ("is_part_of_uniqueness", describeBool i.unique)]
  let basis := match k.basis with
    | .named name => describeWrapped "Name" (quoted name)
    | .identified pairs => describeWrapped "Identifiers" (describeList
        (pairs.entries.map fun p => "(" ++ quoted p.1 ++ ", " ++ quoted p.2 ++ ")"))
  describeRecord "Key" [
    ("adapter_kind", quoted k.adapterKind),
    ("object_kind", quoted k.objectKind),
    ("name", quoted k.name),
    ("identifiers", describeList (k.identifiers.map identifier)),
    ("identity", describeRecord "ObjectIdentity" [
      ("adapter_kind", quoted k.adapterKind),
      ("object_kind", quoted k.objectKind),
      ("basis", basis)])]

/-- The fields of a key. -/
inductive Part where
  | name
  | adapterKind
  | objectKind
  | identifiers
deriving DecidableEq, Repr

abbrev Part.Ty : Part → Type
  | .name | .adapterKind | .objectKind => String
  | .identifiers => List Identifier

/-- Keys as records. Name and identifiers may be absent. -/
def record : Record Part Part.Ty where
  name := "KeyRepr"
  order := [.name, .adapterKind, .objectKind, .identifiers]
  field
    | .name => defaulted "name" asString .string ""
    | .adapterKind => required "adapterKind" asString .string
    | .objectKind => required "objectKind" asString .string
    | .identifiers => defaulted "identifiers" (asList Identifier.read)
        (fun l => .list (l.map Identifier.toJson)) []

def read : Reader Key := fun t => do
  let row ← record.read (by intro f; cases f <;> decide) t
  return make (row .adapterKind) (row .objectKind) (row .name) (row .identifiers)

def toJson (k : Key) : Value :=
  record.write fun
    | .name => k.name
    | .adapterKind => k.adapterKind
    | .objectKind => k.objectKind
    | .identifiers => k.identifiers

/-- The key inside a result document, whose members stand in the order of their names. -/
def wire (k : Key) : Value :=
  .object [
    ("adapterKind", .string k.adapterKind),
    ("identifiers", .list (k.identifiers.map fun i => .object [
      ("isPartOfUniqueness", .bool i.unique),
      ("key", .string i.key),
      ("value", .string i.value)])),
    ("name", .string k.name),
    ("objectKind", .string k.objectKind)]

end Key
end AdapterGateway.Inventory
