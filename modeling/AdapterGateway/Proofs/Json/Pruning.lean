import AdapterGateway.Proofs.Json.Records

/-!
# Documents with members taken away

A place in a document is named by the members that lead to it.  A written record from which members are
taken away, its own or those inside its fields, is read as the record in which each field that lost its
member is what it falls back to.
-/

namespace AdapterGateway.Json

open Decimal

mutual

/-- The document without the members at some places.  A place inside a list has no name. -/
def Value.prune : Value → (List String → Bool) → Value
  | .object members, removed => .object (pruneMembers members removed)
  | v, _ => v

def pruneMembers : List (String × Value) → (List String → Bool) → List (String × Value)
  | [], _ => []
  | (name, v) :: rest, removed =>
    if removed [name] then pruneMembers rest removed
    else (name, v.prune fun place => removed (name :: place)) :: pruneMembers rest removed

end

/-- What is left of a member: nothing if it is taken away, and otherwise its pruned document. -/
def leftOf (removed : List String → Bool) (m : String × Value) : Option (String × Value) :=
  if removed [m.1] then none else some (m.1, m.2.prune fun place => removed (m.1 :: place))

section
variable {removed : List String → Bool} {m : String × Value}

theorem leftOf_of_removed (h : removed [m.1] = true) : leftOf removed m = none := if_pos h

theorem leftOf_of_kept (h : removed [m.1] = false) :
    leftOf removed m = some (m.1, m.2.prune fun place => removed (m.1 :: place)) :=
  if_neg (ne_true_of_eq_false h)

end

theorem pruneMembers_eq (members : List (String × Value)) (removed : List String → Bool) :
    pruneMembers members removed = members.filterMap (leftOf removed) := by
  induction members with
  | nil => rfl
  | cons m rest ih =>
    rw [pruneMembers, ih]
    cases hm : removed [m.1] with
    | true => rw [if_pos rfl, List.filterMap_cons_none (leftOf_of_removed hm)]
    | false => rw [if_neg Bool.false_ne_true, List.filterMap_cons_some (leftOf_of_kept hm)]

theorem exists_of_mem_pruneMembers {members : List (String × Value)} {removed : List String → Bool}
    {n : String × Value} (hn : n ∈ pruneMembers members removed) :
    ∃ m ∈ members, n = (m.1, m.2.prune fun place => removed (m.1 :: place)) := by
  rw [pruneMembers_eq] at hn
  obtain ⟨m, hm, hleft⟩ := List.mem_filterMap.mp hn
  refine ⟨m, hm, ?_⟩
  cases hremoved : removed [m.1] with
  | true =>
    rw [leftOf_of_removed hremoved] at hleft
    cases hleft
  | false =>
    rw [leftOf_of_kept hremoved] at hleft
    exact (Option.some.inj hleft).symm

/-- Nothing is taken away from a document that has no place to lose. -/
theorem Value.prune_eq_self (v : Value) {removed : List String → Bool}
    (h : ∀ name place, removed (name :: place) = false) : v.prune removed = v := by
  induction v generalizing removed with
  | object members ih =>
    -- every member stays, and so does everything inside it
    rw [prune, pruneMembers_eq, List.filterMap_congr fun m hm => ?_, List.filterMap_some]
    rw [leftOf_of_kept (h m.1 []), ih m hm fun name place => h m.1 (name :: place)]
  | _ => rfl

/-- Taking members away makes nothing deeper and brings no doubles in. -/
theorem Value.Plain.prune {depth : Nat} {v : Value} (hv : v.Plain depth)
    (removed : List String → Bool) : (v.prune removed).Plain depth := by
  induction v generalizing depth removed with
  | object members ih =>
    cases depth with
    | zero => cases hv.fits
    | succ depth =>
      refine plain_object fun n hn => ?_
      obtain ⟨m, hm, rfl⟩ := exists_of_mem_pruneMembers hn
      exact ih m hm (hv.of_mem hm) _
  | _ => exact hv

namespace Record

variable {F : Type} {Ty : F → Type} {r : Record F Ty} {row row' : Row Ty}

/-- What a pruned record shows of a field: nothing if its member is taken away, and otherwise what is
    left of it. -/
def left (r : Record F Ty) (row : Row Ty) (removed : List String → Bool) (f : F) : Option Value :=
  if removed [(r.field f).label] then none
  else ((r.field f).write (row f)).map (·.prune fun place => removed ((r.field f).label :: place))

theorem prune_write (r : Record F Ty) (row : Row Ty) (removed : List String → Bool) :
    (r.write row).prune removed = .object (r.shown (r.left row removed) r.order) := by
  rw [write, Value.prune, pruneMembers_eq, List.filterMap_filterMap]
  refine congrArg Value.object (List.filterMap_congr fun f _ => ?_)
  unfold left
  cases (r.field f).write (row f) with
  | none => rw [Option.map_none, Option.map_none, ite_self]; rfl
  | some v =>
    rw [Option.map_some, Option.bind_some]
    cases hremoved : removed [(r.field f).label] with
    | true => rw [leftOf_of_removed hremoved]; rfl
    | false => rw [leftOf_of_kept hremoved]; rfl

/-- **A pruned record is read as one that has what is left of its fields, and their fallbacks.** -/
theorem read_prune [DecidableEq F] {complete : ∀ f, f ∈ r.order} (row row' : Row Ty)
    {removed : List String → Bool} (hnodup : r.order.Nodup) (hfind : ∀ f, r.find? (r.field f).label = some f)
    (hkept : ∀ f v, removed [(r.field f).label] = false → (r.field f).write (row f) = some v →
      (r.field f).read (v.prune fun place => removed ((r.field f).label :: place)).tree =
        .ok (row' f))
    (habsent : ∀ f, removed [(r.field f).label] = false → (r.field f).write (row f) = none →
      (r.field f).fallback = some (row' f))
    (hremoved : ∀ f, removed [(r.field f).label] = true →
      (r.field f).fallback = some (row' f)) :
    r.read complete ((r.write row).prune removed).tree = .ok row' := by
  have hread : ∀ f v, r.left row removed f = some v → (r.field f).read v.tree = .ok (row' f) := by
    intro f v hv
    unfold left at hv
    cases h : removed [(r.field f).label] with
    | true =>
      rw [h] at hv
      cases hv
    | false =>
      rw [h] at hv
      obtain ⟨w, hwrite, rfl⟩ := Option.map_eq_some_iff.mp hv
      exact hkept f w h hwrite
  rw [prune_write]
  refine read_shown hnodup hfind hread fun f => ?_
  rw [if_pos (complete f)]
  unfold left
  cases h : removed [(r.field f).label] with
  | true => exact hremoved f h
  | false =>
    cases hwrite : (r.field f).write (row f) with
    | none => exact habsent f h hwrite
    | some v => rfl

/-- The row in which the removed fields are as in the row of defaults. -/
def overlay (removed : F → Bool) (defaults row : Row Ty) : Row Ty := fun f =>
  if removed f then defaults f else row f

/-- The same for a record that is read back whole, whose fields have no members of their own and fall
    back to the row of defaults. -/
theorem read_prune_flat [DecidableEq F] {complete : ∀ f, f ∈ r.order} (row defaults : Row Ty)
    (removed : List String → Bool) (hnodup : r.order.Nodup)
    (hfind : ∀ f, r.find? (r.field f).label = some f)
    (hread : ∀ f v, (r.field f).write (row f) = some v →
      (r.field f).read v.tree = .ok (row f) ∧ ∀ removed, v.prune removed = v)
    (hwritten : ∀ f, (r.field f).write (row f) ≠ none)
    (hfallback : ∀ f, (r.field f).fallback = some (defaults f)) :
    r.read complete ((r.write row).prune removed).tree =
      .ok (overlay (fun f => removed [(r.field f).label]) defaults row) := by
  refine read_prune row _ hnodup hfind (fun f v hkept hv => ?_) (fun f _ habsent => ?_)
    fun f hremoved => ?_
  · obtain ⟨hvalue, hflat⟩ := hread f v hv
    rw [hflat, hvalue, overlay, hkept, if_neg Bool.false_ne_true]
  · exact absurd habsent (hwritten f)
  · rw [hfallback, overlay, if_pos hremoved]

end Record

end AdapterGateway.Json
