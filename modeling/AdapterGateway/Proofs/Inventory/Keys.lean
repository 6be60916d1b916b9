import AdapterGateway.Proofs.Inventory.Identity
import AdapterGateway.Proofs.Inventory.Report
import AdapterGateway.Proofs.Json.Origins

/-!
# Texts of keys

A key is written in two ways, as a record of its own and inside a report, where members stand in the
order of their names.  Both are one document, and either is read back as the key.  A document that is
read as a key lists its parts, of which some may be absent and identifiers may be repeated; the key is
the one made of these parts.
-/

namespace AdapterGateway.Inventory

open Json Text

namespace Identifier

def toRow (i : Identifier) : Row Part.Ty
  | .key => i.key
  | .value => i.value
  | .unique => i.unique

theorem read_toJson (i : Identifier) : read i.toJson.tree = .ok i := by
  refine (Record.bind_read_write (by decide) (fun f => ?_) (fun f v hv => ?_) fun f h => ?_).trans rfl
  · cases f <;> rfl
  · cases f <;> cases hv <;> rfl
  · cases f <;> cases h

theorem plain_toJson (i : Identifier) : i.toJson.Plain 1 := by
  refine Record.plain_write _ _ fun f v hv => ?_
  cases f <;> cases hv
  · exact plain_string _ _
  · exact plain_string _ _
  · exact plain_bool _ _

theorem canonical_toJson (i : Identifier) : i.toJson.canonical = i.wire :=
  i.stable_wire.inOrder.canonical_of_perm (@List.perm_append_comm _ [_, _] [_])

theorem plain_wire (i : Identifier) : i.wire.Plain 1 := by
  have hall : Each (Value.Plain 0) [
      ("isPartOfUniqueness", .bool i.unique), ("key", .string i.key), ("value", .string i.value)] :=
    ⟨plain_bool _ _, plain_string _ _, plain_string _ _⟩
  exact plain_object hall.forall_mem

/-- The order of the members does not matter to the reader. -/
theorem read_wire (i : Identifier) : read i.wire.tree = .ok i := by
  refine (bind_of_eq_ok (@Record.read_told _ _ _ record _ i.toRow [.unique, .key, .value] i.toRow
    (by decide) (fun f => ?_) (fun f v hv => ?_) fun f => ?_)).trans rfl
  · cases f <;> rfl
  · cases f <;> cases hv <;> rfl
  · cases f <;> rfl

/-- `t` lists the identifier: its key and its value, and its flag unless it is set. -/
structure Listed (t : Tree) (i : Identifier) : Prop where
  key : record.Offers .key t (some (.string (some i.key)))
  value : record.Offers .value t (some (.string (some i.value)))
  unique : record.Offers .unique t (some (.bool i.unique)) ∨
    record.Offers .unique t none ∧ i.unique = true

theorem listed_of_read {t : Tree} {i : Identifier} (h : read t = .ok i) : Listed t i := by
  obtain ⟨row, hrow, h⟩ := bind_eq_ok h
  cases h
  obtain ⟨key, hkey, hkeyRead⟩ :=
    Record.offers_some_of_read (by decide) hrow .key rfl rfl rfl
  obtain ⟨value, hvalue, hvalueRead⟩ :=
    Record.offers_some_of_read (by decide) hrow .value rfl rfl rfl
  obtain ⟨flag, hflag, hflagRead⟩ :=
    Record.offers_of_read (by decide) hrow .unique rfl rfl
  rw [asString_eq_ok_iff.mp hkeyRead] at hkey
  rw [asString_eq_ok_iff.mp hvalueRead] at hvalue
  refine ⟨hkey, hvalue, ?_⟩
  cases flag with
  | none => exact .inr ⟨hflag, (Option.some.inj hflagRead).symm⟩
  | some flag =>
    rw [asBool_eq_ok_iff.mp hflagRead] at hflag
    exact .inl hflag

end Identifier

namespace Key

def toRow (k : Key) : Row Part.Ty
  | .name => k.name
  | .adapterKind => k.adapterKind
  | .objectKind => k.objectKind
  | .identifiers => k.identifiers

theorem read_toJson (k : Key) : read k.toJson.tree = .ok k := by
  refine (Record.bind_read_write (by decide) (fun f => ?_) (fun f v hv => ?_) fun f h => ?_).trans
    (congrArg Except.ok k.make_self)
  · cases f <;> rfl
  · cases f with
    | identifiers =>
      cases hv
      exact asList_tree fun i _ => i.read_toJson
    | _ =>
      cases hv
      rfl
  · cases f <;> cases h

theorem plain_toJson (k : Key) : k.toJson.Plain 3 := by
  refine Record.plain_write _ _ fun f v hv => ?_
  cases f <;> cases hv
  · exact plain_string _ _
  · exact plain_string _ _
  · exact plain_string _ _
  · exact plain_listOf Identifier.plain_toJson _

/-- What the key inside a report shows of each part. -/
def shown? (k : Key) : Part → Option Value
  | .name => some (.string k.name)
  | .adapterKind => some (.string k.adapterKind)
  | .objectKind => some (.string k.objectKind)
  | .identifiers => some (.list (k.identifiers.map Identifier.wire))

theorem canonical_toJson (k : Key) : k.toJson.canonical = k.wire := by
  have hitems : (k.identifiers.map Identifier.toJson).map Value.canonical =
      k.identifiers.map Identifier.wire := by
    rw [List.map_map]
    exact List.map_congr_left fun i _ => i.canonical_toJson
  have hlist : (Value.list (k.identifiers.map Identifier.toJson)).canonical =
      .list (k.identifiers.map Identifier.wire) := by
    rw [Value.canonical, canonicalItems_eq, hitems]
  have hperm : List.Perm [
      ("name", Value.string k.name),
      ("adapterKind", .string k.adapterKind),
      ("objectKind", .string k.objectKind),
      ("identifiers", (Value.list (k.identifiers.map Identifier.toJson)).canonical)] [
      ("adapterKind", .string k.adapterKind),
      ("identifiers", .list (k.identifiers.map Identifier.wire)),
      ("name", .string k.name),
      ("objectKind", .string k.objectKind)] := by
    rw [hlist]
    -- the kinds are written between the name and the identifiers, and read around both
    exact (List.Perm.swap _ _ _).trans (.cons _ (@List.perm_append_comm _ [_, _] [_]))
  exact k.stable_wire.inOrder.canonical_of_perm hperm

theorem plain_wire (k : Key) : k.wire.Plain 3 := by
  have hall : Each (Value.Plain 2) [
      ("adapterKind", .string k.adapterKind),
      ("identifiers", .list (k.identifiers.map Identifier.wire)),
      ("name", .string k.name),
      ("objectKind", .string k.objectKind)] :=
    ⟨plain_string _ _, plain_listOf Identifier.plain_wire _, plain_string _ _, plain_string _ _⟩
  exact plain_object hall.forall_mem

theorem read_wire (k : Key) : read k.wire.tree = .ok k := by
  refine (bind_of_eq_ok (@Record.read_shown _ _ _ record _ k.toRow k.shown? [.adapterKind,
    .identifiers, .name, .objectKind] k.toRow (by decide) (fun f => ?_) (fun f v hv => ?_)
    fun f => ?_)).trans (congrArg Except.ok k.make_self)
  · cases f <;> rfl
  · cases f with
    | identifiers =>
      cases hv
      exact asList_tree fun i _ => i.read_wire
    | _ =>
      cases hv
      rfl
  · cases f <;> rfl

/-- Two keys are written as one document only if they are the same. -/
theorem wire_injective : Function.Injective wire := by
  intro k k' h
  have hread := k.read_wire
  rw [h, read_wire] at hread
  exact (Except.ok.inj hread).symm

/-- What the two texts of a key are to the readers. -/
structure Coded (k : Key) : Prop where
  written : k.toJson = .object [
    ("name", .string k.name),
    ("adapterKind", .string k.adapterKind),
    ("objectKind", .string k.objectKind),
    ("identifiers", .list (k.identifiers.map fun i => .object [
      ("key", .string i.key),
      ("value", .string i.value),
      ("isPartOfUniqueness", .bool i.unique)]))]
  /-- Both texts hold one document. -/
  parsed : parse (encode k.toJson.text) = .ok k.wire ∧ parse (encode k.wire.text) = .ok k.wire
  /-- Either is read back as the key. -/
  back : decode read (encode k.toJson.text) = .ok k ∧ decode read (encode k.wire.text) = .ok k

theorem coded (k : Key) : k.Coded where
  written := rfl
  parsed := by
    constructor
    · rw [parse_plain (k.plain_toJson.mono (by decide)), canonical_toJson]
    · rw [parse_plain (k.plain_wire.mono (by decide)), k.stable_wire.inOrder.canonical_eq]
  back := by
    constructor
    · rw [decode_plain read (k.plain_toJson.mono (by decide)), read_toJson]
    · rw [decode_plain read (k.plain_wire.mono (by decide)), read_wire]

/-! ## Documents that are accepted -/

/-- `root` lists the parts of a key.  The name is empty and there are no identifiers where nothing stands
    for them. -/
structure Lists (root : Tree) (adapterKind objectKind name : String)
    (identifiers : List Identifier) : Prop where
  adapterKind : record.Offers .adapterKind root (some (.string (some adapterKind)))
  objectKind : record.Offers .objectKind root (some (.string (some objectKind)))
  name : record.Offers .name root (some (.string (some name))) ∨
    record.Offers .name root none ∧ name = ""
  identifiers :
    (∃ items ending, record.Offers .identifiers root (some (.list items ending)) ∧
      List.Forall₂ Identifier.Listed items identifiers) ∨
    record.Offers .identifiers root none ∧ identifiers = []

theorem lists_of_read {root : Tree} {k : Key} (h : read root = .ok k) :
    ∃ adapterKind objectKind name identifiers,
      Lists root adapterKind objectKind name identifiers ∧
      k = make adapterKind objectKind name identifiers := by
  obtain ⟨row, hrow, h⟩ := bind_eq_ok h
  cases h
  obtain ⟨adapterKind, hadapterKind, hadapterKindRead⟩ :=
    Record.offers_some_of_read (by decide) hrow .adapterKind rfl rfl rfl
  obtain ⟨objectKind, hobjectKind, hobjectKindRead⟩ :=
    Record.offers_some_of_read (by decide) hrow .objectKind rfl rfl rfl
  obtain ⟨name, hname, hnameRead⟩ :=
    Record.offers_of_read (by decide) hrow .name rfl rfl
  obtain ⟨identifiers, hidentifiers, hidentifiersRead⟩ :=
    Record.offers_of_read (by decide) hrow .identifiers rfl rfl
  rw [asString_eq_ok_iff.mp hadapterKindRead] at hadapterKind
  rw [asString_eq_ok_iff.mp hobjectKindRead] at hobjectKind
  refine ⟨row .adapterKind, row .objectKind, row .name, row .identifiers,
    ⟨hadapterKind, hobjectKind, ?_, ?_⟩, rfl⟩
  · cases name with
    | none => exact .inr ⟨hname, (Option.some.inj hnameRead).symm⟩
    | some name =>
      rw [asString_eq_ok_iff.mp hnameRead] at hname
      exact .inl hname
  · cases identifiers with
    | none => exact .inr ⟨hidentifiers, (Option.some.inj hidentifiersRead).symm⟩
    | some t =>
      obtain ⟨items, ending, rfl, hitems⟩ := list_of_asList hidentifiersRead
      refine .inl ⟨items, ending, hidentifiers, ?_⟩
      exact (forall₂_of_readItems hitems).imp fun t i => Identifier.listed_of_read

/-- What is accepted as a key. -/
structure Accepted (root : Tree) (k : Key) : Prop where
  /-- It is the key made of the parts that are listed. -/
  made : ∃ adapterKind objectKind name identifiers,
    Lists root adapterKind objectKind name identifiers ∧
    k = make adapterKind objectKind name identifiers ∧ Merges identifiers k.identifiers
  /-- Read and written once more, its text is the same. -/
  again : (decode read (encode k.toJson.text)).map (fun k => k.toJson.text) = .ok k.toJson.text

theorem accepted_of_decode {octets : Octets} {k : Key} (h : decode read octets = .ok k) :
    Accepted (Document.ofOctets octets).root k where
  made := by
    obtain ⟨adapterKind, objectKind, name, identifiers, hlists, rfl⟩ :=
      lists_of_read (decode_eq_ok_iff.mp h).2
    exact ⟨adapterKind, objectKind, name, identifiers, hlists, rfl,
      merges_mergeIdentifiers identifiers⟩
  again := by
    rw [k.coded.back.1]
    rfl

/-- **Keys come back from their texts**, and what is accepted as a key is made of the parts that the text
    lists. -/
theorem keysKept :
    (∀ k : Key, k.Coded) ∧
      ∀ octets k, decode read octets = .ok k → Accepted (Document.ofOctets octets).root k :=
  ⟨coded, fun _ _ h => accepted_of_decode h⟩

/-- A key without a name.  Its identifier is listed twice, without its flag and then with no word of
    it. -/
def repeatingText : Octets :=
  encode ("\x7b\"objectKind\":\"Y\",\"identifiers\":[" ++
    "\x7b\"key\":\"i\",\"value\":\"1\",\"isPartOfUniqueness\":false\x7d," ++
    "\x7b\"value\":\"2\",\"key\":\"i\"\x7d],\"adapterKind\":\"X\"\x7d")

set_option maxRecDepth 1000 in
theorem decode_repeatingText : decode read repeatingText =
    .ok (make "X" "Y" "" [⟨"i", "1", false⟩, ⟨"i", "2", true⟩]) := rfl

theorem keysKept_repeatingText :
    decode read repeatingText = .ok (make "X" "Y" "" [⟨"i", "1", false⟩, ⟨"i", "2", true⟩]) ∧
    (make "X" "Y" "" [⟨"i", "1", false⟩, ⟨"i", "2", true⟩]).identifiers = [⟨"i", "2", true⟩] ∧
    Accepted (Document.ofOctets repeatingText).root
      (make "X" "Y" "" [⟨"i", "1", false⟩, ⟨"i", "2", true⟩]) :=
  ⟨decode_repeatingText, rfl, keysKept.2 _ _ decode_repeatingText⟩

end Key

end AdapterGateway.Inventory
