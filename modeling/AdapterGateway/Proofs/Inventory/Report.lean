import AdapterGateway.Inventory.Collection
import AdapterGateway.Inventory.Outcome
import AdapterGateway.Proofs.Json.Records
import AdapterGateway.Text.Blank

/-!
# Reports

What an adapter sends: a collection, the outcome of a test or a list of addresses.  However large it is
and whatever its objects hold, its document is in order, is nested a few levels deep and begins with
a bracket, so that it comes back from its text.
-/

namespace AdapterGateway.Inventory

open Json Text

/-- The identifier inside a report. -/
def Identifier.wire (i : Identifier) : Value :=
  .object [
    ("isPartOfUniqueness", .bool i.unique),
    ("key", .string i.key),
    ("value", .string i.value)]

theorem Identifier.stable_wire (i : Identifier) : i.wire.Stable 1 :=
  stable_object ["isPartOfUniqueness", "key", "value"] (by decide) rfl
    ⟨stable_bool _, stable_string _, stable_string _⟩

theorem Key.stable_wire (k : Key) : k.wire.Stable 3 :=
  stable_object ["adapterKind", "identifiers", "name", "objectKind"] (by decide) rfl
    ⟨stable_string _, stable_listOf Identifier.stable_wire _, stable_string _, stable_string _⟩

/-! ## Samples and events -/

theorem fits_int64Json (n : Int64) (depth : Nat) : (int64Json n).Fits depth := by
  have hlow := n.le_toInt
  have hhigh := n.toInt_lt
  exact .integer (by omega) (by omega)

theorem Metric.fits_toJson (m : Metric) : m.toJson.Fits 1 := by
  refine Record.fits_write _ _ fun f v hv => ?_
  cases f <;> cases hv
  · exact .string _
  · exact .real _
  · exact fits_int64Json _ _

theorem PropertyValue.fits_member (v : PropertyValue) : v.member.2.Fits 0 := by
  cases v with
  | text s => exact .string s
  | number x => exact .real x

theorem Property.fits_toJson (p : Property) : p.toJson.Fits 1 := by
  have hall : Each (Value.Fits 0) [
      ("key", .string p.key), p.value.member, ("timestamp", int64Json p.timestamp)] :=
    ⟨.string _, p.value.fits_member, fits_int64Json _ _⟩
  exact .object hall.forall_mem

theorem plain_int64Json (n : Int64) (depth : Nat) : (int64Json n).Plain depth :=
  ⟨fits_int64Json n depth, rfl⟩

theorem Criticality.plain_toJson (c : Criticality) (depth : Nat) : c.toJson.Plain depth := by
  cases c <;> exact plain_natural (by decide) depth

theorem Cycles.plain_toJson (c : Cycles) (depth : Nat) : c.toJson.Plain depth :=
  plain_natural (Nat.lt_trans c.count.toNat_lt (by decide)) depth

/-- A field that is written only when it is set. -/
theorem plain_omittable {α : Type} {write : α → Value} (h : ∀ a, (write a).Plain 0) {value : Option α}
    {v : Value} (hv : value.map write = some v) : v.Plain 0 := by
  obtain ⟨a, _, rfl⟩ := Option.map_eq_some_iff.mp hv
  exact h a

theorem Event.plain_toJson (e : Event) : e.toJson.Plain 1 := by
  refine Record.plain_write _ _ fun f v hv => ?_
  cases f with
  | message =>
    cases hv
    exact plain_string _ _
  | criticality =>
    cases hv
    exact Criticality.plain_toJson _ _
  | faultKey => exact plain_omittable (fun s => plain_string s 0) hv
  | autoCancel =>
    cases hv
    exact plain_bool _ _
  | startDate | updateDate | cancelDate => exact plain_omittable (fun n => plain_int64Json n 0) hv
  | watchWaitCycle | cancelWaitCycle =>
    cases hv
    exact Cycles.plain_toJson _ _

/-! ## Objects and collections -/

theorem Graph.stable_wire (g : Graph) (h : Handle) : (g.wire h).Stable 4 := by
  -- samples and events are written as they come, and put in order with the whole object
  have hall : Each (Value.Fits 3) [
      ("key", h.key.wire),
      ("metrics", .list ((g.look h).metrics.map Metric.toJson)),
      ("properties", .list ((g.look h).properties.map Property.toJson)),
      ("events", .list ((g.look h).events.map Event.toJson))] :=
    ⟨(Key.stable_wire _).fits, (fits_listOf Metric.fits_toJson _).mono (by decide),
      (fits_listOf Property.fits_toJson _).mono (by decide),
      (fits_listOf (fun e : Event => e.plain_toJson.fits) _).mono (by decide)⟩
  exact Value.Fits.stable_canonical (.object hall.forall_mem)

theorem Collection.stable_relationship (c : Collection) (g : Graph) (h : Handle) :
    (c.relationship g h).Stable 5 :=
  stable_object ["children", "parent"] (by decide) rfl
    ⟨stable_listOf (fun key => Key.stable_wire _) _, (Key.stable_wire _).mono (by decide)⟩

theorem Collection.stable_wire (c : Collection) (g : Graph) : (c.wire g).Stable 7 := by
  unfold Collection.wire
  split
  · exact stable_object ["errorMessage"] (by decide) rfl (stable_string _)
  · exact stable_object ["nonExistingObjects", "relationships", "result"] (by decide) rfl
      ⟨stable_listOf (fun s => stable_string s) [], stable_listOf (c.stable_relationship g) _,
        (stable_listOf g.stable_wire _).mono (by decide)⟩

theorem TestOutcome.stable_wire (t : TestOutcome) : t.wire.Stable 1 := by
  unfold TestOutcome.wire
  split
  · exact stable_object ["errorMessage"] (by decide) rfl (stable_string _)
  · exact stable_object [] .nil rfl trivial

theorem EndpointList.stable_wire (e : EndpointList) : e.wire.Stable 2 :=
  stable_object ["endpointUrls"] (by decide) rfl (stable_listOf (fun url => stable_string url) _)

/-! ## Reports -/

/-- What an adapter reports, with the instances that a collection refers to. -/
inductive Report where
  | collection (c : Collection) (g : Graph)
  | test (t : TestOutcome)
  | endpoints (e : EndpointList)

namespace Report

def wire : Report → Value
  | .collection c g => c.wire g
  | .test t => t.wire
  | .endpoints e => e.wire

theorem stable_wire (r : Report) : r.wire.Stable maxDepth := by
  cases r with
  | collection c g => exact (c.stable_wire g).mono (by decide)
  | test t => exact t.stable_wire.mono (by decide)
  | endpoints e => exact e.stable_wire.mono (by decide)

theorem exists_wire (r : Report) : ∃ members, r.wire = .object members := by
  cases r with
  | collection c g =>
    change ∃ members, c.wire g = .object members
    unfold Collection.wire
    split <;> exact ⟨_, rfl⟩
  | test t =>
    change ∃ members, t.wire = .object members
    unfold TestOutcome.wire
    split <;> exact ⟨_, rfl⟩
  | endpoints e => exact ⟨_, rfl⟩

/-- The text of a report is not blank. -/
theorem not_blank (r : Report) : (encode r.wire.text).all isAsciiBlank = false := by
  obtain ⟨members, hwire⟩ := r.exists_wire
  have hopen : encode "\x7b" = [0x7B] := rfl
  rw [hwire, Value.text, encode_append, encode_append, hopen, List.append_assoc,
    List.singleton_append, List.all_cons]
  rfl

/-- A report comes back from its text. -/
theorem parse_wire (r : Report) (hreals : ∀ x ∈ r.wire.reals, ReadsBack x) :
    parse (encode r.wire.text) = .ok r.wire := by
  rw [parse_text r.stable_wire.fits hreals, r.stable_wire.inOrder.canonical_eq]

end Report

end AdapterGateway.Inventory
