import AdapterGateway.Inventory.Collection
import Mathlib.Data.List.Basic

/-!
# Acceptance of an instance

All that a collection does with an instance that it does not refuse: nothing when the instance is
stored already, and otherwise the instance is put behind the others under its own identity.  The
table and the order of a collection stay in step with the instances accepted so far.
-/

namespace AdapterGateway.Inventory

namespace Collection

/-- `c` accepts the instance `h` and is `c'` afterwards. -/
inductive Accepts (c : Collection) (h : Handle) : Collection → Prop where
  | stored : c.find? h.identity = some h → Accepts c h c
  | inserted {c' : Collection} : c.find? h.identity = none →
      c'.table = c.table.insert h.identity h → c'.order = c.order ++ [h.identity] → Accepts c h c'

/-- All that a collection does with an instance that it stores. -/
theorem eq_of_insert_eq_ok {c c' : Collection} {h : Handle} (hc : c.insert h = .ok c') :
    c.checkFlags h.key = .ok () ∧ c' = { c with
      table := c.table.insert h.identity h
      order := c.order ++ [h.identity]
      flags := c.flags.insert h.key.scope
        (h.key.identifiers.foldl layDown ((c.flags.get? h.key.scope).getD ∅)) } := by
  unfold insert at hc
  cases hflags : c.checkFlags h.key with
  | error fault =>
    rw [hflags] at hc
    cases hc
  | ok _ =>
    rw [hflags] at hc
    cases hc
    exact ⟨rfl, rfl⟩

theorem insert_eq_ok {c c' : Collection} {h : Handle} (hc : c.insert h = .ok c') :
    c'.table = c.table.insert h.identity h ∧ c'.order = c.order ++ [h.identity] := by
  obtain ⟨_, rfl⟩ := eq_of_insert_eq_ok hc
  exact ⟨rfl, rfl⟩

theorem add_eq_ok {c c' : Collection} {h : Handle} (hc : c.add h = .ok c') :
    (∃ stored, c.find? h.identity = some stored ∧ stored.sameInstance h = true ∧ c' = c) ∨
      (c.find? h.identity = none ∧ c.insert h = .ok c') := by
  unfold add at hc
  cases hfind : c.find? h.identity with
  | none =>
    simp only [hfind] at hc
    exact .inr ⟨rfl, hc⟩
  | some stored =>
    simp only [hfind] at hc
    split at hc
    · rename_i hsame
      cases hc
      exact .inl ⟨stored, rfl, hsame, rfl⟩
    · cases hc

theorem object_eq_ok {c c' : Collection} {g g' : Graph} {key : Key} {h : Handle}
    (hc : c.object g key = .ok (h, c', g')) :
    (c.get? key = some h ∧ c.checkFlags key = .ok () ∧ c' = c ∧ g' = g) ∨
      (c.get? key = none ∧ (h, g') = g.create key ∧ c.insert h = .ok c') := by
  unfold object at hc
  cases hget : c.get? key with
  | some stored =>
    simp only [hget] at hc
    cases hcheck : c.checkFlags key with
    | error fault =>
      rw [hcheck] at hc
      cases hc
    | ok _ =>
      rw [hcheck] at hc
      cases hc
      exact .inl ⟨rfl, rfl, rfl, rfl⟩
  | none =>
    simp only [hget] at hc
    cases hinsert : c.insert (g.create key).1 with
    | error fault =>
      rw [hinsert] at hc
      cases hc
    | ok next =>
      rw [hinsert] at hc
      cases hc
      exact .inr ⟨rfl, rfl, hinsert⟩

/-- An instance that is added is accepted, when only the instance itself is the same instance. -/
theorem accepts_of_add {c c' : Collection} {h : Handle} (hc : c.add h = .ok c')
    (hsame : ∀ stored, c.find? h.identity = some stored → stored.sameInstance h = true → stored = h) :
    c.Accepts h c' := by
  rcases add_eq_ok hc with ⟨stored, hfind, hinstance, rfl⟩ | ⟨hfind, hinsert⟩
  · cases hsame stored hfind hinstance
    exact .stored hfind
  · obtain ⟨htable, horder⟩ := insert_eq_ok hinsert
    exact .inserted hfind htable horder

/-- The instance that a key is resolved to is accepted, and it is stored already or new. -/
theorem accepts_of_object {c c' : Collection} {g g' : Graph} {key : Key} {h : Handle}
    (hkey : ∀ stored, c.find? key.identity = some stored → stored.identity = key.identity)
    (hc : c.object g key = .ok (h, c', g')) :
    c.Accepts h c' ∧ h.identity = key.identity ∧
      ((c.find? key.identity = some h ∧ g' = g) ∨ (h, g') = g.create key) := by
  rcases object_eq_ok hc with ⟨hfind, _, rfl, rfl⟩ | ⟨hfind, hnew, hinsert⟩
  · have hidentity := hkey h hfind
    refine ⟨.stored ?_, hidentity, .inl ⟨hfind, rfl⟩⟩
    rw [hidentity]
    exact hfind
  · have hidentity : h.identity = key.identity := congrArg (·.1.identity) hnew
    obtain ⟨htable, horder⟩ := insert_eq_ok hinsert
    refine ⟨.inserted ?_ htable horder, hidentity, .inr hnew⟩
    rw [hidentity]
    exact hfind

/-! ## What acceptance keeps -/

theorem Accepts.find?_self {c c' : Collection} {h : Handle} (ha : c.Accepts h c') :
    c'.find? h.identity = some h := by
  cases ha with
  | stored hfind => exact hfind
  | inserted _ htable _ =>
    unfold find?
    rw [htable, Dictionary.get?_insert, if_pos (BEq.refl _)]

/-- A stored instance is neither replaced nor removed. -/
theorem Accepts.find?_mono {c c' : Collection} {h stored : Handle} {identity : Identity}
    (ha : c.Accepts h c') (hfind : c.find? identity = some stored) :
    c'.find? identity = some stored := by
  cases ha with
  | stored _ => exact hfind
  | inserted hnone htable _ =>
    have hne : (identity == h.identity) = false := by
      rw [beq_eq_false_iff_ne]
      rintro rfl
      rw [hnone] at hfind
      cases hfind
    unfold find? at hfind ⊢
    rw [htable, Dictionary.get?_insert, hne]
    exact hfind

/-- What is stored afterwards was stored before or is the accepted instance. -/
theorem Accepts.of_find? {c c' : Collection} {h stored : Handle} {identity : Identity}
    (ha : c.Accepts h c') (hfind : c'.find? identity = some stored) :
    c.find? identity = some stored ∨ (stored = h ∧ identity = h.identity) := by
  cases ha with
  | stored _ => exact .inl hfind
  | inserted hnone htable _ =>
    unfold find? at hfind ⊢
    rw [htable, Dictionary.get?_insert] at hfind
    split at hfind
    · rename_i heq
      exact .inr ⟨(Option.some.inj hfind).symm, eq_of_beq heq⟩
    · exact .inl hfind

/-- Table and order of a collection are in step, and list what was accepted in the order in which
    it was accepted first. -/
structure InStep (c : Collection) (accepted : List Handle) : Prop where
  nodup : c.order.Nodup
  mem_order : ∀ identity, identity ∈ c.order ↔ (c.find? identity).isSome
  identity_eq : ∀ identity h, c.find? identity = some h → h.identity = identity
  entries_eq : c.entries = accepted.eraseDups

theorem inStep_empty : InStep {} [] where
  nodup := .nil
  mem_order identity := by simp [find?]
  identity_eq identity h hfind := by cases hfind
  entries_eq := rfl

theorem InStep.mem_entries {c : Collection} {accepted : List Handle} (hs : c.InStep accepted)
    {h : Handle} : h ∈ c.entries ↔ c.find? h.identity = some h := by
  unfold entries
  rw [List.mem_filterMap]
  constructor
  · rintro ⟨identity, _, hfind⟩
    rw [hs.identity_eq identity h hfind]
    exact hfind
  · intro hfind
    exact ⟨h.identity, (hs.mem_order _).mpr (by rw [hfind]; rfl), hfind⟩

theorem InStep.find?_eq_some_iff {c : Collection} {accepted : List Handle} (hs : c.InStep accepted)
    {identity : Identity} {h : Handle} :
    c.find? identity = some h ↔ h ∈ c.entries ∧ h.identity = identity := by
  constructor
  · intro hfind
    have hidentity := hs.identity_eq identity h hfind
    refine ⟨?_, hidentity⟩
    rw [hs.mem_entries, hidentity]
    exact hfind
  · rintro ⟨hmem, rfl⟩
    exact hs.mem_entries.mp hmem

theorem InStep.find?_eq_none {c : Collection} {accepted : List Handle} (hs : c.InStep accepted)
    {identity : Identity} (hfree : ∀ h ∈ c.entries, h.identity ≠ identity) :
    c.find? identity = none := by
  apply Option.eq_none_iff_forall_ne_some.mpr
  intro h hfind
  obtain ⟨hmem, hidentity⟩ := hs.find?_eq_some_iff.mp hfind
  exact hfree h hmem hidentity

/-- The table has the listed instance of an identity. -/
theorem InStep.find?_entries {c : Collection} {accepted : List Handle} (hs : c.InStep accepted)
    (identity : Identity) : c.entries.find? (·.identity == identity) = c.find? identity := by
  symm
  cases hlisted : c.entries.find? (·.identity == identity) with
  | some h =>
    have hbeq := List.find?_some hlisted
    rw [hs.find?_eq_some_iff]
    exact ⟨List.mem_of_find?_eq_some hlisted, eq_of_beq hbeq⟩
  | none =>
    apply hs.find?_eq_none
    intro h hmem hidentity
    exact List.find?_eq_none.mp hlisted h hmem (beq_iff_eq.mpr hidentity)

/-- Acceptance keeps table and order in step. -/
theorem InStep.accepts {c c' : Collection} {accepted : List Handle} {h : Handle}
    (hs : c.InStep accepted) (ha : c.Accepts h c') : c'.InStep (accepted ++ [h]) := by
  have hdups : (accepted ++ [h]).eraseDups =
      accepted.eraseDups ++ if h ∈ c.entries then [] else [h] := by
    rw [List.eraseDups_append, hs.entries_eq]
    by_cases hmem : h ∈ accepted <;> simp [List.removeAll, List.eraseDups_cons, hmem]
  cases ha with
  | stored hfind =>
    refine ⟨hs.nodup, hs.mem_order, hs.identity_eq, ?_⟩
    rw [hdups, if_pos (hs.mem_entries.mpr hfind), List.append_nil]
    exact hs.entries_eq
  | inserted hnone htable horder =>
    have hnew : h.identity ∉ c.order := by
      rw [hs.mem_order, hnone]
      decide
    have hfind (identity : Identity) :
        c'.find? identity = if identity == h.identity then some h else c.find? identity := by
      unfold find?
      rw [htable, Dictionary.get?_insert]
    refine ⟨?_, fun identity => ?_, fun identity stored hstored => ?_, ?_⟩
    · rw [horder]
      refine List.nodup_append.mpr ⟨hs.nodup, by simp, fun identity hmem last hlast heq => hnew ?_⟩
      rw [← List.mem_singleton.mp hlast, ← heq]
      exact hmem
    · rw [horder, List.mem_append, List.mem_singleton, hfind, hs.mem_order]
      by_cases heq : identity = h.identity <;> simp [heq]
    · rw [hfind] at hstored
      split at hstored
      · rename_i heq
        rw [← Option.some.inj hstored]
        exact (eq_of_beq heq).symm
      · exact hs.identity_eq identity stored hstored
    · -- the new identity stands nowhere in the old order, so what was listed is listed as before
      have hold : c.order.filterMap c'.find? = c.order.filterMap c.find? := by
        refine List.filterMap_congr fun identity hmem => ?_
        have hne : identity ≠ h.identity := fun heq => hnew (heq ▸ hmem)
        rw [hfind, beq_eq_false_iff_ne.mpr hne]
        rfl
      have hlast : h ∉ c.entries := by
        rw [hs.mem_entries, hnone]
        simp
      rw [hdups, if_neg hlast, ← hs.entries_eq]
      unfold entries
      have hself : c'.find? h.identity = some h := by rw [hfind, if_pos (BEq.refl _)]
      rw [horder, List.filterMap_append, hold, List.filterMap_cons_some hself, List.filterMap_nil]

theorem InStep.map_entries {c : Collection} {accepted : List Handle} (hs : c.InStep accepted) :
    c.entries.map Handle.identity = c.order := by
  unfold entries
  rw [List.map_filterMap]
  have hsome : ∀ identity ∈ c.order,
      (c.find? identity).map Handle.identity = some identity := by
    intro identity hmem
    obtain ⟨h, hfind⟩ := Option.isSome_iff_exists.mp ((hs.mem_order identity).mp hmem)
    rw [hfind, Option.map_some, hs.identity_eq identity h hfind]
  rw [List.filterMap_congr hsome, List.filterMap_some]

/-- As many instances are listed as the table has entries. -/
theorem InStep.size_eq {c : Collection} {accepted : List Handle} (hs : c.InStep accepted) :
    c.size = c.entries.length := by
  -- the keys of the table and the order are the same identities, each of them once
  have hperm : c.table.keys.Perm c.order :=
    (List.perm_ext_iff_of_nodup c.table.nodup_keys hs.nodup).mpr fun identity => by
      rw [Dictionary.mem_keys_iff, hs.mem_order]
      rfl
  have hlength := hperm.length_eq
  rw [← hs.map_entries, List.length_map, Dictionary.keys, List.length_map] at hlength
  exact hlength

end Collection

end AdapterGateway.Inventory
