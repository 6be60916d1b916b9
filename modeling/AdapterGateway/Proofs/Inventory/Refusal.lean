import AdapterGateway.Proofs.Inventory.Identity
import AdapterGateway.Proofs.Inventory.Survey

/-!
# Refusal of objects

What a collection laid down is what its stored instances say, so it refuses a key for one reason
only: some stored instance of the same scope has one of its identifiers with the other flag.  An
instance is refused before that when another one has its identity.  What is stored of other scopes
decides nothing.
-/

namespace AdapterGateway.Inventory

/-! ## Outcomes -/

/-- Calls that come to the same fail alike. -/
theorem eq_error_iff_of_map_eq {ε α β γ : Type} {x : Except ε α} {y : Except ε β} {f : α → γ}
    {g : β → γ} (h : x.map f = y.map g) (e : ε) : x = .error e ↔ y = .error e := by
  cases x <;> cases y <;> simp_all [Except.map]

namespace Collection

theorem insert_outcome (c : Collection) (h : Handle) :
    (c.insert h).map (fun _ => ()) = c.checkFlags h.key := by
  unfold insert
  cases c.checkFlags h.key <;> rfl

/-- A key is checked, whether it finds an instance or makes one. -/
theorem object_outcome (c : Collection) (g : Graph) (key : Key) :
    (c.object g key).map (·.1) =
      (c.checkFlags key).map fun _ => (c.get? key).getD (g.create key).1 := by
  unfold object
  cases c.get? key with
  | some h =>
    cases c.checkFlags key <;> rfl
  | none =>
    have hinsert := c.insert_outcome (g.create key).1
    have hkey : (g.create key).1.key = key := rfl
    rw [hkey] at hinsert
    rw [← hinsert]
    -- the instance that is made has the key, so its being stored depends on the check of the key
    show Except.map _ (do let c ← c.insert (g.create key).1; return ((g.create key).1, c, _)) = _
    cases c.insert (g.create key).1 <;> rfl

/-- An instance is checked where its identity is free. -/
theorem add_outcome {c : Collection} {h : Handle} (hfree : c.find? h.identity = none) :
    (c.add h).map (fun _ => ()) = c.checkFlags h.key := by
  unfold add
  rw [hfree]
  exact c.insert_outcome h

theorem add_of_sameInstance {c : Collection} {h stored : Handle}
    (hfind : c.find? h.identity = some stored) (hsame : stored.sameInstance h = true) :
    c.add h = .ok c := by
  unfold add
  rw [hfind]
  exact if_pos hsame

theorem add_of_otherInstance {c : Collection} {h stored : Handle}
    (hfind : c.find? h.identity = some stored) (hother : stored.sameInstance h = false) :
    c.add h = .error (.duplicateIdentity [h.key.display]) := by
  unfold add
  rw [hfind]
  apply if_neg
  rw [hother]
  exact Bool.false_ne_true

/-! ## What stored instances say -/

/-- Some stored instance of the scope has the identifier too, with the other flag. -/
def Opposes (c : Collection) (scope : Scope) (i : Identifier) : Prop :=
  ∃ h ∈ c.entries, h.key.scope = scope ∧ h.key.Opposes i

section
variable {c : Collection} {accepted : List Handle}

theorem opposes_iff_flag? (hc : c.InStep accepted) (hflags : c.Flagged) {scope : Scope}
    {i : Identifier} :
    c.Opposes scope i ↔ ∃ flag, c.flag? scope i.key = some flag ∧ flag ≠ i.unique := by
  constructor
  · intro ⟨h, hmem, hscope, j, hj, hkey, hne⟩
    have hmarks : c.Marks scope i.key j.unique :=
      ⟨h.identity, h, hc.mem_entries.mp hmem, hscope, j, hj, hkey, rfl⟩
    exact ⟨j.unique, (hflags _ _ _).mpr hmarks, hne⟩
  · intro ⟨flag, hflag, hne⟩
    obtain ⟨identity, h, hfind, hscope, j, hj, hkey, rfl⟩ := (hflags _ _ _).mp hflag
    exact ⟨h, (hc.find?_eq_some_iff.mp hfind).1, hscope, j, hj, hkey, hne⟩

theorem conflict?_eq_some_iff (hc : c.InStep accepted) (hflags : c.Flagged) {key : Key}
    {i : Identifier} :
    c.conflict? key = some i ↔ IsFirst (c.Opposes key.scope) key.identifiers i := by
  unfold conflict?
  apply find?_eq_some_iff_isFirst
  intro j
  rw [opposes_iff_flag? hc hflags]
  cases c.flag? key.scope j.key <;> simp

theorem checkFlags_eq_error_iff (hc : c.InStep accepted) (hflags : c.Flagged) {key : Key}
    {fault : Fault} :
    c.checkFlags key = .error fault ↔
      ∃ i, IsFirst (c.Opposes key.scope) key.identifiers i ∧
        fault = .identifierUniqueness i.key := by
  simp only [← conflict?_eq_some_iff hc hflags]
  unfold checkFlags
  cases c.conflict? key with
  | none => simp
  | some i => simp [eq_comm]

/-- A call comes down to whether some stored instance contradicts the key. -/
structure DecidedBy {α : Type} (c : Collection) (key : Key) (outcome : Except Fault α) : Prop where
  fails_iff : (∃ fault, outcome = .error fault) ↔ ∃ i ∈ key.identifiers, c.Opposes key.scope i
  /-- The fault names the first identifier of the key that is contradicted. -/
  error_iff : ∀ fault, outcome = .error fault ↔
    ∃ i, IsFirst (c.Opposes key.scope) key.identifiers i ∧ fault = .identifierUniqueness i.key
  succeeds_iff : (∃ result, outcome = .ok result) ↔
    ¬ ∃ i ∈ key.identifiers, c.Opposes key.scope i

theorem decidedBy_of_map_eq (hc : c.InStep accepted) (hflags : c.Flagged) {key : Key}
    {α β : Type} {outcome : Except Fault α} {f : α → β} {g : Unit → β}
    (h : outcome.map f = (c.checkFlags key).map g) : c.DecidedBy key outcome := by
  have herror : ∀ fault, outcome = .error fault ↔
      ∃ i, IsFirst (c.Opposes key.scope) key.identifiers i ∧
        fault = .identifierUniqueness i.key := by
    intro fault
    rw [eq_error_iff_of_map_eq h, checkFlags_eq_error_iff hc hflags]
  have hfails := exists_eq_error_iff herror
  refine ⟨hfails, herror, ?_⟩
  rw [← hfails]
  cases outcome <;> simp

end

/-! ## Collections that are alike in one scope -/

/-- The collections hold the same instances of the scope. -/
def AlikeIn (scope : Scope) (c c' : Collection) : Prop :=
  ∀ h : Handle, h.key.scope = scope → (h ∈ c.entries ↔ h ∈ c'.entries)

theorem scope_eq_of_identity_eq {k k' : Key} (h : k.identity = k'.identity) :
    k.scope = k'.scope := by
  have hadapter : k.adapterKind = k'.adapterKind := congrArg Identity.adapterKind h
  have hobject : k.objectKind = k'.objectKind := congrArg Identity.objectKind h
  unfold Key.scope
  rw [hadapter, hobject]

section
variable {c c' : Collection} {accepted accepted' : List Handle}

theorem AlikeIn.get?_eq {key : Key} (h : AlikeIn key.scope c c') (hc : c.InStep accepted)
    (hc' : c'.InStep accepted') : c.get? key = c'.get? key := by
  apply Option.ext
  intro stored
  unfold get?
  rw [hc.find?_eq_some_iff, hc'.find?_eq_some_iff]
  -- an instance of that identity has the scope of the key
  apply and_congr_left
  intro hidentity
  exact h stored (scope_eq_of_identity_eq hidentity)

theorem AlikeIn.opposes_iff {scope : Scope} (h : AlikeIn scope c c') (i : Identifier) :
    c.Opposes scope i ↔ c'.Opposes scope i := by
  constructor
  · intro ⟨stored, hmem, hscope, hopposes⟩
    exact ⟨stored, (h stored hscope).mp hmem, hscope, hopposes⟩
  · intro ⟨stored, hmem, hscope, hopposes⟩
    exact ⟨stored, (h stored hscope).mpr hmem, hscope, hopposes⟩

theorem AlikeIn.checkFlags_eq {key : Key} (h : AlikeIn key.scope c c') (hc : c.InStep accepted)
    (hflags : c.Flagged) (hc' : c'.InStep accepted') (hflags' : c'.Flagged) :
    c.checkFlags key = c'.checkFlags key := by
  -- the same identifiers are opposed, and of them the first is found
  have hopposes : c.Opposes key.scope = c'.Opposes key.scope := by
    funext i
    exact propext (h.opposes_iff i)
  have hconflict : c.conflict? key = c'.conflict? key := by
    apply Option.ext
    intro i
    rw [conflict?_eq_some_iff hc hflags, conflict?_eq_some_iff hc' hflags', hopposes]
  unfold checkFlags
  rw [hconflict]

theorem AlikeIn.object_eq {key : Key} (h : AlikeIn key.scope c c') (hc : c.InStep accepted)
    (hflags : c.Flagged) (hc' : c'.InStep accepted') (hflags' : c'.Flagged) (g : Graph) :
    (c.object g key).map (·.1) = (c'.object g key).map (·.1) := by
  rw [object_outcome, object_outcome, h.get?_eq hc hc', h.checkFlags_eq hc hflags hc' hflags']

theorem AlikeIn.add_eq {added : Handle} (h : AlikeIn added.key.scope c c')
    (hc : c.InStep accepted) (hflags : c.Flagged) (hc' : c'.InStep accepted')
    (hflags' : c'.Flagged) :
    (c.add added).map (fun _ => ()) = (c'.add added).map fun _ => () := by
  have hfind : c.find? added.identity = c'.find? added.identity := h.get?_eq hc hc'
  cases hplace : c.find? added.identity with
  | none =>
    rw [hplace] at hfind
    rw [add_outcome hplace, add_outcome hfind.symm, h.checkFlags_eq hc hflags hc' hflags']
  | some stored =>
    rw [hplace] at hfind
    cases hsame : stored.sameInstance added with
    | true =>
      rw [add_of_sameInstance hplace hsame, add_of_sameInstance hfind.symm hsame]
      rfl
    | false =>
      rw [add_of_otherInstance hplace hsame, add_of_otherInstance hfind.symm hsame]

end
end Collection

/-! ## Surveys -/

namespace Survey

def collection (s : Survey) (n : Nat) : Collection := (s.tallies n).collection

/-- In every collection what is laid down is what its stored instances say. -/
def Flagged (s : Survey) : Prop := ∀ n, (s.collection n).Flagged

theorem Flagged.perform {s : Survey} (hs : s.Flagged) (step : Step) : (s.perform step).Flagged := by
  intro m
  cases step with
  | act n act =>
    by_cases hm : m = n
    · simp only [collection, Survey.perform, hm, Function.update_self]
      exact Pass.flagged_perform (hs n) act
    · simp only [collection, Survey.perform, Function.update_of_ne hm]
      exact hs m
  | fail n message =>
    by_cases hm : m = n
    · -- a message touches neither the flags nor the table
      simp only [collection, Survey.perform, hm, Function.update_self]
      exact hs n
    · simp only [collection, Survey.perform, Function.update_of_ne hm]
      exact hs m
  | parent | child | parents | children | metrics | properties | events => exact hs m

theorem flagged_after (steps : List Step) : (after steps).Flagged := by
  suffices h : ∀ s : Survey, s.Flagged → (steps.foldl Survey.perform s).Flagged from
    h {} fun n => Collection.flagged_empty
  induction steps with
  | nil => exact fun s hs => hs
  | cons step steps ih => exact fun s hs => ih _ (hs.perform step)

/-- What a collection of a survey refuses, and with which fault. -/
structure RefusalExact (s : Survey) (n : Nat) : Prop where
  object_decided : ∀ g key, (s.collection n).DecidedBy key ((s.collection n).object g key)
  /-- An instance that is stored itself is taken, and nothing changes. -/
  add_stored : ∀ h ∈ s.known,
    (∃ stored ∈ (s.collection n).entries, stored.sameInstance h = true) →
    (s.collection n).add h = .ok (s.collection n)
  /-- Another one of a stored identity is refused. -/
  add_taken : ∀ h : Handle,
    (∃ stored ∈ (s.collection n).entries,
      stored.identity = h.identity ∧ stored.sameInstance h = false) →
    (s.collection n).add h = .error (.duplicateIdentity [h.key.display])
  /-- Where its identity is free, its key decides. -/
  add_decided : ∀ h : Handle,
    (∀ stored ∈ (s.collection n).entries, stored.identity ≠ h.identity) →
    (s.collection n).DecidedBy h.key ((s.collection n).add h)
  /-- Another collection, of this or of any other survey, that holds the same instances of the
      scope comes to the same. -/
  outcome_eq : ∀ steps m key,
    Collection.AlikeIn key.scope (s.collection n) ((after steps).collection m) →
    (∀ g, ((s.collection n).object g key).map (·.1) =
      (((after steps).collection m).object g key).map (·.1)) ∧
    ∀ h : Handle, h.key = key →
      ((s.collection n).add h).map (fun _ => ()) =
        (((after steps).collection m).add h).map fun _ => ()

/-- **Refusals have their reason in the same scope.**  This is so after every sequence of steps. -/
theorem refusalExact (steps : List Step) (n : Nat) : (after steps).RefusalExact n := by
  have hp := (sound_after steps).pass n
  have hc : ((after steps).collection n).InStep _ := hp.inStep
  have hflags := flagged_after steps n
  refine {
    object_decided := fun g key =>
      Collection.decidedBy_of_map_eq hc hflags (Collection.object_outcome _ g key)
    add_stored := fun h hknown hstored => ?_
    add_taken := fun h htaken => ?_
    add_decided := fun h hfree => ?_
    outcome_eq := fun steps' m key halike => ?_ }
  · obtain ⟨stored, hmem, hsame⟩ := hstored
    -- handles of one instance are the same handle, so it is stored under the identity of `h`
    have hfind := hc.mem_entries.mp hmem
    cases hp.eq_of_sameInstance hfind hknown hsame
    exact Collection.add_of_sameInstance hfind hsame
  · obtain ⟨stored, hmem, hidentity, hother⟩ := htaken
    exact Collection.add_of_otherInstance (hc.find?_eq_some_iff.mpr ⟨hmem, hidentity⟩) hother
  · -- what is returned on success is another matter
    apply Collection.decidedBy_of_map_eq hc hflags (f := fun _ => ()) (g := id)
    rw [Collection.add_outcome (hc.find?_eq_none hfree)]
    cases ((after steps).collection n).checkFlags h.key <;> rfl
  · have hc' : ((after steps').collection m).InStep _ := ((sound_after steps').pass m).inStep
    have hflags' := flagged_after steps' m
    constructor
    · intro g
      exact halike.object_eq hc hflags hc' hflags' g
    · rintro h rfl
      exact halike.add_eq hc hflags hc' hflags'

end Survey
end AdapterGateway.Inventory
