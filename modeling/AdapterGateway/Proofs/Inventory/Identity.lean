import AdapterGateway.Inventory.Key
import AdapterGateway.Proofs.Occurrence
import Mathlib.Data.List.Induction
import Mathlib.Data.Set.Basic

/-!
# Identity of keys

A key keeps of each identifier what was said last, and two keys have one identity when their kinds
agree and so do their unique identifiers, taken as a set, or their names where there are none.  Two
keys are compared only if they treat the identifiers alike that both have.  Keys of one identity
always do, so that comparing keys is an equivalence although it can fail.
-/

namespace AdapterGateway.Inventory

/-! ## Merged identifiers -/

theorem mergeIdentifiers_concat (l : List Identifier) (i : Identifier) :
    mergeIdentifiers (l ++ [i]) = putIdentifier i (mergeIdentifiers l) := by
  unfold mergeIdentifiers
  rw [List.foldl_append]
  rfl

/-- Each key stands where it occurred first. -/
theorem map_key_mergeIdentifiers (l : List Identifier) :
    (mergeIdentifiers l).map (·.key) = (l.map (·.key)).eraseDups := by
  induction l using List.reverseRecOn with
  | nil => rfl
  | append_singleton l i ih =>
    rw [mergeIdentifiers_concat, map_key_putIdentifier, ih, List.map_append, List.map_singleton,
      List.eraseDups_append]
    generalize l.map (·.key) = keys
    -- a key that is there is replaced in its place, and any other one goes to the end
    by_cases hmem : i.key ∈ keys
    · simp [List.removeAll, hmem]
    · simp [List.removeAll, List.eraseDups_cons, hmem]

/-- Where no key stands twice, a search for the key of an identifier finds it. -/
theorem mem_iff_find?_of_nodup {l : List Identifier} (hl : (l.map (·.key)).Nodup)
    {i : Identifier} : i ∈ l ↔ l.find? (·.key == i.key) = some i := by
  constructor
  · intro hmem
    have hp : ∀ j : Identifier, (j.key == i.key) = true ↔ j.key = i.key := fun j => beq_iff_eq
    rw [find?_eq_some_iff_isFirst hp]
    obtain ⟨before, behind, heq⟩ := List.append_of_mem hmem
    refine ⟨rfl, before, behind, heq, fun j hj hkey => ?_⟩
    -- an earlier identifier of that key would be the second one
    rw [heq, List.map_append, List.map_cons, List.nodup_append] at hl
    exact hl.2.2 j.key (List.mem_map_of_mem hj) i.key List.mem_cons_self hkey
  · exact List.mem_of_find?_eq_some

/-- What is left of a list of identifiers, each key once. -/
structure Merges (l merged : List Identifier) : Prop where
  nodup : (merged.map (·.key)).Nodup
  /-- The keys stand in the order in which they occurred first. -/
  keys_eq : merged.map (·.key) = (l.map (·.key)).eraseDups
  /-- Value and flag of each key are those of its last occurrence. -/
  mem_iff : ∀ i, i ∈ merged ↔ IsLast (fun j => j.key = i.key) l i

theorem merges_mergeIdentifiers (l : List Identifier) : Merges l (mergeIdentifiers l) where
  nodup := nodup_mergeIdentifiers l
  keys_eq := map_key_mergeIdentifiers l
  mem_iff i := by
    have hp : ∀ j : Identifier, (j.key == i.key) = true ↔ j.key = i.key := fun j => beq_iff_eq
    rw [mem_iff_find?_of_nodup (nodup_mergeIdentifiers l), find?_mergeIdentifiers,
      find?_reverse_eq_some_iff hp]

namespace Key

/-! ## Sets of unique identifiers -/

/-- The unique identifiers of a key, each as its key and its value. -/
def uniqueSet (k : Key) : Set (String × String) :=
  {p | (⟨p.1, p.2, true⟩ : Identifier) ∈ k.identifiers}

theorem get?_uniquePairs_eq_some_iff (k : Key) (name value : String) :
    k.uniquePairs.get? name = some value ↔ (name, value) ∈ k.uniqueSet := by
  have hkeys :
      (((k.identifiers.filter (·.unique)).map fun i => (i.key, i.value)).map (·.1)).Nodup := by
    rw [List.map_map]
    exact k.distinct.sublist (List.filter_sublist.map _)
  rw [uniquePairs, Dictionary.get?_ofList, lastValue?_eq_some_iff hkeys, List.mem_map]
  constructor
  · intro ⟨i, hi, hpair⟩
    obtain ⟨hmem, hunique⟩ := List.mem_filter.mp hi
    cases i
    cases hpair
    cases hunique
    exact hmem
  · intro hmem
    exact ⟨_, List.mem_filter.mpr ⟨hmem, rfl⟩, rfl⟩

/-- The dictionary of the unique identifiers says no more than the set of them. -/
theorem uniquePairs_eq_iff {k k' : Key} :
    k.uniquePairs = k'.uniquePairs ↔ k.uniqueSet = k'.uniqueSet := by
  constructor
  · intro h
    ext ⟨name, value⟩
    rw [← get?_uniquePairs_eq_some_iff, ← get?_uniquePairs_eq_some_iff, h]
  · intro h
    apply Dictionary.ext_get?
    intro name
    apply Option.ext
    intro value
    rw [get?_uniquePairs_eq_some_iff, get?_uniquePairs_eq_some_iff, h]

theorem isEmpty_uniquePairs_iff {k : Key} :
    k.uniquePairs.isEmpty = true ↔ k.uniqueSet = ∅ := by
  rw [Dictionary.isEmpty, List.isEmpty_iff, Set.eq_empty_iff_forall_notMem]
  constructor
  · intro h ⟨name, value⟩ hmem
    rw [← get?_uniquePairs_eq_some_iff, ← Dictionary.mem_entries_iff, h] at hmem
    cases hmem
  · intro h
    apply List.eq_nil_iff_forall_not_mem.mpr
    intro ⟨name, value⟩ hmem
    rw [Dictionary.mem_entries_iff, get?_uniquePairs_eq_some_iff] at hmem
    exact h _ hmem

/-! ## Identities -/

/-- Two keys name the same object. -/
def SameObject (k k' : Key) : Prop :=
  k.adapterKind = k'.adapterKind ∧ k.objectKind = k'.objectKind ∧
    ((k.uniqueSet.Nonempty ∧ k'.uniqueSet.Nonempty ∧ k.uniqueSet = k'.uniqueSet) ∨
      (k.uniqueSet = ∅ ∧ k'.uniqueSet = ∅ ∧ k.name = k'.name))

theorem basis_of_empty {k : Key} (h : k.uniqueSet = ∅) : k.basis = .named k.name :=
  if_pos (isEmpty_uniquePairs_iff.mpr h)

theorem basis_of_nonempty {k : Key} (h : k.uniqueSet.Nonempty) :
    k.basis = .identified k.uniquePairs :=
  if_neg fun hempty => h.ne_empty (isEmpty_uniquePairs_iff.mp hempty)

-- What is said last of an identifier counts: nothing of this key is unique.
example : (make "a" "o" "n" [⟨"id", "1", true⟩, ⟨"id", "1", false⟩]).basis = .named "n" := rfl

theorem basis_eq_iff {k k' : Key} :
    k.basis = k'.basis ↔
      (k.uniqueSet.Nonempty ∧ k'.uniqueSet.Nonempty ∧ k.uniqueSet = k'.uniqueSet) ∨
        (k.uniqueSet = ∅ ∧ k'.uniqueSet = ∅ ∧ k.name = k'.name) := by
  -- a name is no set of identifiers, so the keys agree only where they rest on the same
  rcases k.uniqueSet.eq_empty_or_nonempty with hk | hk <;>
    rcases k'.uniqueSet.eq_empty_or_nonempty with hk' | hk'
  · rw [basis_of_empty hk, basis_of_empty hk']
    simp [hk, hk']
  · rw [basis_of_empty hk, basis_of_nonempty hk']
    simp [hk, hk'.ne_empty]
  · rw [basis_of_nonempty hk, basis_of_empty hk']
    simp [hk', hk.ne_empty]
  · rw [basis_of_nonempty hk, basis_of_nonempty hk', Basis.identified.injEq, uniquePairs_eq_iff]
    simp [hk, hk', hk.ne_empty]

theorem identity_eq_iff {k k' : Key} : k.identity = k'.identity ↔ k.SameObject k' := by
  unfold identity SameObject
  rw [Identity.mk.injEq, basis_eq_iff]

theorem exists_named_iff {k : Key} :
    (∃ name, k.identity.basis = .named name) ↔ k.uniqueSet = ∅ := by
  constructor
  · intro ⟨name, hname⟩
    rcases k.uniqueSet.eq_empty_or_nonempty with hk | hk
    · exact hk
    · have hbasis : k.basis = .named name := hname
      rw [basis_of_nonempty hk] at hbasis
      cases hbasis
  · intro hk
    exact ⟨k.name, basis_of_empty hk⟩

/-- What keys are made of and when they have one identity. -/
structure IdentityExact : Prop where
  /-- A key keeps each of its identifiers once. -/
  merges : ∀ adapterKind objectKind name l,
    Merges l (make adapterKind objectKind name l).identifiers
  /-- To make a key of its own parts changes nothing. -/
  rebuilt : ∀ k : Key, make k.adapterKind k.objectKind k.name k.identifiers = k
  identity_eq_iff : ∀ k k' : Key, k.identity = k'.identity ↔ k.SameObject k'
  /-- Identifiers with distinct keys can be given in any order. -/
  identity_perm : ∀ adapterKind objectKind name l l', (l.map Identifier.key).Nodup → l.Perm l' →
    (make adapterKind objectKind name l).identity = (make adapterKind objectKind name l').identity
  /-- An identity rests on the name where nothing is unique, and is then none of the others. -/
  named_iff : ∀ k : Key, (∃ name, k.identity.basis = .named name) ↔ k.uniqueSet = ∅
  named_ne_identified : ∀ (k k' : Key) name pairs, k.identity.basis = .named name →
    k'.identity.basis = .identified pairs → k.identity ≠ k'.identity

/-- **Keys are identified by their kinds and by what is unique about them.** -/
theorem identityExact : IdentityExact where
  merges adapterKind objectKind name l := merges_mergeIdentifiers l
  rebuilt := make_self
  identity_eq_iff k k' := identity_eq_iff
  identity_perm adapterKind objectKind name l l' hl hperm := by
    have hl' : (l'.map (·.key)).Nodup := (hperm.map _).nodup_iff.mp hl
    have hset : (make adapterKind objectKind name l).uniqueSet =
        (make adapterKind objectKind name l').uniqueSet := by
      ext p
      show _ ∈ mergeIdentifiers l ↔ _ ∈ mergeIdentifiers l'
      rw [mergeIdentifiers_of_nodup hl, mergeIdentifiers_of_nodup hl', hperm.mem_iff]
    -- the kinds and the name are the same as well, so whichever the identity rests on is
    rw [identity_eq_iff]
    refine ⟨rfl, rfl, ?_⟩
    rcases Set.eq_empty_or_nonempty (make adapterKind objectKind name l).uniqueSet with hk | hk
    · exact .inr ⟨hk, hset ▸ hk, rfl⟩
    · exact .inl ⟨hk, hset ▸ hk, hset⟩
  named_iff k := exists_named_iff
  named_ne_identified k k' name pairs hk hk' heq := by
    rw [heq, hk'] at hk
    cases hk

/-! ## Comparison -/

/-- The key has the identifier too, with the other flag. -/
def Opposes (k : Key) (i : Identifier) : Prop :=
  ∃ j ∈ k.identifiers, j.key = i.key ∧ j.unique ≠ i.unique

theorem find?_eq_some_iff {k : Key} {name : String} {i : Identifier} :
    k.find? name = some i ↔ i ∈ k.identifiers ∧ i.key = name := by
  constructor
  · intro h
    have hkey := List.find?_some h
    exact ⟨List.mem_of_find?_eq_some h, eq_of_beq hkey⟩
  · rintro ⟨hmem, rfl⟩
    exact (mem_iff_find?_of_nodup k.distinct).mp hmem

theorem conflict?_eq_some_iff {a b : Key} {i : Identifier} :
    a.conflict? b = some i ↔ IsFirst b.Opposes a.identifiers i := by
  unfold conflict?
  apply find?_eq_some_iff_isFirst
  intro mine
  unfold Opposes
  constructor
  · intro h
    split at h
    · rename_i theirs hfind
      obtain ⟨hmem, hkey⟩ := find?_eq_some_iff.mp hfind
      exact ⟨theirs, hmem, hkey, Ne.symm (bne_iff_ne.mp h)⟩
    · cases h
  · intro ⟨theirs, hmem, hkey, hflags⟩
    rw [find?_eq_some_iff.mpr ⟨hmem, hkey⟩]
    exact bne_iff_ne.mpr (Ne.symm hflags)

/-- Opposition is mutual. -/
theorem exists_opposes_comm {a b : Key} :
    (∃ i ∈ a.identifiers, b.Opposes i) ↔ ∃ j ∈ b.identifiers, a.Opposes j := by
  have hturn : ∀ a b : Key,
      (∃ i ∈ a.identifiers, b.Opposes i) → ∃ j ∈ b.identifiers, a.Opposes j := by
    intro a b ⟨i, hi, j, hj, hkey, hflags⟩
    exact ⟨j, hj, i, hi, hkey.symm, hflags.symm⟩
  exact ⟨hturn a b, hturn b a⟩

/-- Keys of one identity treat the identifiers alike that both have. -/
theorem not_opposes_of_identity_eq {a b : Key} (h : a.identity = b.identity) {i : Identifier}
    (hi : i ∈ a.identifiers) : ¬ b.Opposes i := by
  have hset : a.uniqueSet = b.uniqueSet := by
    obtain ⟨_, _, ⟨_, _, hset⟩ | ⟨ha, hb, _⟩⟩ := identity_eq_iff.mp h
    · exact hset
    · rw [ha, hb]
  -- whichever of two opposed identifiers is unique would be one of the other key as well
  have hnone : ∀ k k' : Key, k.uniqueSet = k'.uniqueSet → ∀ i ∈ k.identifiers,
      i.unique = true → ¬ k'.Opposes i := by
    intro k k' hset i hi hunique ⟨j, hj, hkey, hflags⟩
    have hsame : (i.key, i.value) ∈ k.uniqueSet := by
      cases i
      cases hunique
      exact hi
    rw [hset] at hsame
    have hfind := find?_eq_some_iff.mpr ⟨hsame, rfl⟩
    rw [← hkey, find?_eq_some_iff.mpr ⟨hj, rfl⟩] at hfind
    have hflag : j.unique = true := congrArg Identifier.unique (Option.some.inj hfind)
    exact hflags (hflag.trans hunique.symm)
  intro ⟨j, hj, hkey, hflags⟩
  cases hunique : i.unique with
  | true => exact hnone a b hset i hi hunique ⟨j, hj, hkey, hflags⟩
  | false =>
    have hother : j.unique = true := by
      rw [hunique] at hflags
      exact Bool.eq_true_of_not_eq_false hflags
    exact hnone b a hset.symm j hj hother ⟨i, hi, hkey.symm, hflags.symm⟩

theorem tryEq_eq_error_iff {a b : Key} {fault : Fault} :
    a.tryEq b = .error fault ↔
      ∃ i, IsFirst b.Opposes a.identifiers i ∧ fault = .identifierUniqueness i.key := by
  simp only [← conflict?_eq_some_iff]
  unfold tryEq
  cases a.conflict? b with
  | none => simp
  | some i => simp [eq_comm]

theorem exists_tryEq_eq_error_iff {a b : Key} :
    (∃ fault, a.tryEq b = .error fault) ↔ ∃ i ∈ a.identifiers, b.Opposes i :=
  exists_eq_error_iff fun _ => tryEq_eq_error_iff

theorem tryEq_of_not_opposes {a b : Key} (h : ¬ ∃ i ∈ a.identifiers, b.Opposes i) :
    a.tryEq b = .ok (decide (a.identity = b.identity)) := by
  rw [← exists_tryEq_eq_error_iff] at h
  unfold tryEq at h ⊢
  cases hconflict : a.conflict? b with
  | none => simp [Bool.beq_eq_decide_eq]
  | some i => simp [hconflict] at h

theorem tryEq_eq_ok_true_iff {a b : Key} : a.tryEq b = .ok true ↔ a.identity = b.identity := by
  by_cases h : ∃ i ∈ a.identifiers, b.Opposes i
  · obtain ⟨fault, hfault⟩ := exists_tryEq_eq_error_iff.mpr h
    obtain ⟨i, hi, hopposes⟩ := h
    rw [hfault]
    constructor
    · intro hok
      cases hok
    · intro heq
      exact absurd hopposes (not_opposes_of_identity_eq heq hi)
  · rw [tryEq_of_not_opposes h, Except.ok.injEq, decide_eq_true_iff]

/-- What comes of comparing two keys. -/
structure ComparisonExact (a b : Key) : Prop where
  /-- The comparison fails when an identifier of both has different flags, and only then. -/
  fails_iff : (∃ fault, a.tryEq b = .error fault) ↔
    ∃ i ∈ a.identifiers, ∃ j ∈ b.identifiers, j.key = i.key ∧ j.unique ≠ i.unique
  /-- The fault names the first such identifier of the first key. -/
  error_iff : ∀ fault, a.tryEq b = .error fault ↔
    ∃ i, IsFirst b.Opposes a.identifiers i ∧ fault = .identifierUniqueness i.key
  eq_ok : (¬ ∃ fault, a.tryEq b = .error fault) →
    a.tryEq b = .ok (decide (a.identity = b.identity))
  fails_comm : (∃ fault, a.tryEq b = .error fault) ↔ ∃ fault, b.tryEq a = .error fault
  not_fails_of_identity_eq : a.identity = b.identity → ¬ ∃ fault, a.tryEq b = .error fault
  ok_true_iff : a.tryEq b = .ok true ↔ a.identity = b.identity

/-- **Comparing keys is an equivalence.**  It fails in both directions or in none, and never between
    keys of one identity. -/
theorem comparisonExact :
    (∀ a b, ComparisonExact a b) ∧ Equivalence fun a b : Key => a.tryEq b = .ok true := by
  constructor
  · intro a b
    refine {
      fails_iff := exists_tryEq_eq_error_iff
      error_iff := fun fault => tryEq_eq_error_iff
      eq_ok := fun h => tryEq_of_not_opposes (mt exists_tryEq_eq_error_iff.mpr h)
      fails_comm := ?_
      not_fails_of_identity_eq := fun heq hfails => ?_
      ok_true_iff := tryEq_eq_ok_true_iff }
    · rw [exists_tryEq_eq_error_iff, exists_tryEq_eq_error_iff, exists_opposes_comm]
    · obtain ⟨i, hi, hopposes⟩ := exists_tryEq_eq_error_iff.mp hfails
      exact not_opposes_of_identity_eq heq hi hopposes
  · simp only [tryEq_eq_ok_true_iff]
    exact ⟨fun a => rfl, fun h => h.symm, fun h h' => h.trans h'⟩

end Key
end AdapterGateway.Inventory
