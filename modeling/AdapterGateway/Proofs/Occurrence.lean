import AdapterGateway.Dictionary

/-!
# First and last occurrences

A check that stops at the first thing wrong and a map in which a later entry replaces an earlier one
both pick one element out of a list.  `IsFirst` and `IsLast` say which one, without a search.
-/

namespace AdapterGateway

variable {α β : Type}

/-- What stands in one of two lists that are put together stands in the first or in the second. -/
theorem append_eq_append_cons {t u before later : List α} {x : α}
    (h : t ++ u = before ++ x :: later) :
    (∃ rest, t = before ++ x :: rest) ∨ ∃ front, before = t ++ front ∧ u = front ++ x :: later := by
  rcases List.append_eq_append_iff.mp h with hbehind | ⟨rest, ht, hrest⟩
  · exact .inr hbehind
  · cases rest with
    | nil =>
      rw [List.append_nil] at ht
      exact .inr ⟨[], by rw [ht, List.append_nil], hrest.symm⟩
    | cons y rest =>
      obtain ⟨rfl, _⟩ := List.cons.inj hrest
      exact .inl ⟨rest, ht⟩

/-- `x` is the first element of `l` with `P`. -/
def IsFirst (P : α → Prop) (l : List α) (x : α) : Prop :=
  P x ∧ ∃ before behind, l = before ++ x :: behind ∧ ∀ y ∈ before, ¬ P y

/-- `x` is the last element of `l` with `P`. -/
def IsLast (P : α → Prop) (l : List α) (x : α) : Prop :=
  P x ∧ ∃ before behind, l = before ++ x :: behind ∧ ∀ y ∈ behind, ¬ P y

section
variable {P : α → Prop} {l : List α} {x : α}

theorem IsFirst.mem (h : IsFirst P l x) : x ∈ l := by
  obtain ⟨_, before, behind, heq, _⟩ := h
  rw [heq]
  exact List.mem_append_right _ List.mem_cons_self

/-- A search finds the first match. -/
theorem find?_eq_some_iff_isFirst {p : α → Bool} (hp : ∀ y, p y = true ↔ P y) :
    l.find? p = some x ↔ IsFirst P l x := by
  simp only [List.find?_eq_some_iff_append, IsFirst, ← hp, Bool.not_eq_true, Bool.not_eq_true']

theorem exists_isFirst_iff : (∃ x, IsFirst P l x) ↔ ∃ x ∈ l, P x := by
  classical
  constructor
  · intro ⟨x, hx⟩
    exact ⟨x, hx.mem, hx.1⟩
  · intro ⟨x, hmem, hx⟩
    have hp : ∀ y, decide (P y) = true ↔ P y := fun y => decide_eq_true_iff
    have hsome : (l.find? fun y => decide (P y)).isSome := by
      rw [List.find?_isSome]
      exact ⟨x, hmem, (hp x).mpr hx⟩
    obtain ⟨first, hfirst⟩ := Option.isSome_iff_exists.mp hsome
    exact ⟨first, (find?_eq_some_iff_isFirst hp).mp hfirst⟩

/-- A check that names the first element with `P` fails exactly where there is one. -/
theorem exists_eq_error_iff {ε γ : Type} {outcome : Except ε γ} {fault : α → ε}
    (h : ∀ e, outcome = .error e ↔ ∃ x, IsFirst P l x ∧ e = fault x) :
    (∃ e, outcome = .error e) ↔ ∃ x ∈ l, P x := by
  simp only [h, ← exists_isFirst_iff]
  constructor
  · intro ⟨_, x, hx, _⟩
    exact ⟨x, hx⟩
  · intro ⟨x, hx⟩
    exact ⟨_, x, hx, rfl⟩

theorem isFirst_reverse : IsFirst P l.reverse x ↔ IsLast P l x := by
  unfold IsFirst IsLast
  apply and_congr_right
  intro _
  constructor
  · intro ⟨before, behind, heq, hnone⟩
    refine ⟨behind.reverse, before.reverse, ?_, fun y hy => hnone y (List.mem_reverse.mp hy)⟩
    rw [← List.reverse_reverse l, heq]
    simp
  · intro ⟨before, behind, heq, hnone⟩
    refine ⟨behind.reverse, before.reverse, ?_, fun y hy => hnone y (List.mem_reverse.mp hy)⟩
    rw [heq]
    simp

/-- A search from the end finds the last match. -/
theorem find?_reverse_eq_some_iff {p : α → Bool} (hp : ∀ y, p y = true ↔ P y) :
    l.reverse.find? p = some x ↔ IsLast P l x := by
  rw [find?_eq_some_iff_isFirst hp, isFirst_reverse]

theorem isLast_cons {a : α} :
    IsLast P (a :: l) x ↔ IsLast P l x ∨ (x = a ∧ P a ∧ ∀ y ∈ l, ¬ P y) := by
  constructor
  · intro ⟨hx, before, behind, heq, hnone⟩
    -- `a` is what stands first before `x`, or `x` itself
    cases before with
    | nil =>
      obtain ⟨rfl, rfl⟩ := List.cons.inj heq
      exact .inr ⟨rfl, hx, hnone⟩
    | cons b before =>
      obtain ⟨rfl, rfl⟩ := List.cons.inj heq
      exact .inl ⟨hx, before, behind, rfl, hnone⟩
  · rintro (⟨hx, before, behind, rfl, hnone⟩ | ⟨rfl, hx, hnone⟩)
    · exact ⟨hx, a :: before, behind, rfl, hnone⟩
    · exact ⟨hx, [], l, rfl, hnone⟩

end

/-- The last of what comes of some elements comes of the last of those elements. -/
theorem isLast_filterMap {P : β → Prop} {f : α → Option β} {l : List α} {y : β} :
    IsLast P (l.filterMap f) y ↔
      ∃ x, f x = some y ∧ IsLast (fun x => ∃ y, f x = some y ∧ P y) l x := by
  induction l with
  | nil => simp [IsLast]
  | cons a l ih =>
    -- nothing with `P` comes of the rest when no element of the rest leads to `P`
    have hnone : (∀ y ∈ l.filterMap f, ¬ P y) ↔ ∀ x ∈ l, ¬ ∃ y, f x = some y ∧ P y := by
      simp only [List.mem_filterMap]
      exact ⟨fun h x hx ⟨y, hy, hP⟩ => h y ⟨x, hx, hy⟩ hP,
        fun h y ⟨x, hx, hy⟩ hP => h x hx ⟨y, hy, hP⟩⟩
    simp only [isLast_cons, and_or_left, exists_or, exists_eq_left, and_left_comm, ← ih, ← hnone]
    cases ha : f a with
    | none => simp [ha]
    | some b =>
      rw [List.filterMap_cons_some ha, isLast_cons]
      apply or_congr_right
      constructor
      · intro ⟨hy, hP, hrest⟩
        exact ⟨by rw [hy], ⟨b, rfl, hP⟩, hrest⟩
      · intro ⟨hy, ⟨c, hc, hP⟩, hrest⟩
        cases hc
        exact ⟨(Option.some.inj hy).symm, hP, hrest⟩

/-! ## Last values -/

section
variable {κ : Type} [BEq κ] [LawfulBEq κ]

theorem lastValue?_eq_some_iff_isLast {pairs : List (κ × α)} {key : κ} {value : α} :
    lastValue? pairs key = some value ↔ IsLast (fun p => p.1 = key) pairs (key, value) := by
  unfold lastValue?
  rw [← isFirst_reverse, List.lookup_eq_some_iff]
  simp only [IsFirst, bne_iff_ne, true_and, ne_comm]

theorem lastValue?_map_eq_some_iff {f : β → κ} {g : β → α} {l : List β} {key : κ} {value : α} :
    lastValue? (l.map fun x => (f x, g x)) key = some value ↔
      ∃ x, IsLast (fun x => f x = key) l x ∧ g x = value := by
  rw [lastValue?_eq_some_iff_isLast, ← List.filterMap_eq_map, isLast_filterMap]
  simp only [Function.comp_apply, Option.some.injEq, Prod.mk.injEq, exists_eq_left']
  constructor
  · intro ⟨x, ⟨_, hvalue⟩, hx⟩
    exact ⟨x, hx, hvalue⟩
  · intro ⟨x, hx, hvalue⟩
    exact ⟨x, ⟨hx.1, hvalue⟩, hx⟩

theorem lastValue?_map_eq_none_iff {f : β → κ} {g : β → α} {l : List β} {key : κ} :
    lastValue? (l.map fun x => (f x, g x)) key = none ↔ ∀ x ∈ l, f x ≠ key := by
  rw [lastValue?_eq_none_iff, List.map_map, List.mem_map]
  simp only [Function.comp_apply, not_exists, not_and, ne_eq]

end

end AdapterGateway
