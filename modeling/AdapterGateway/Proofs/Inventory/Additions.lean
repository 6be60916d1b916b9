import AdapterGateway.Proofs.Inventory.Refusal

/-!
# Failed additions

A collection is changed in its place, in several steps: what a key says about its identifiers is laid
down one by one, then the order and the table grow.  A call that fails leaves all of it as it was,
because it fails before the first of these steps.  So adding several instances at once is adding them
one by one, and what is reported in the end is what the single calls came to.
-/

namespace AdapterGateway.Inventory

namespace Collection

/-! ## Calls step by step -/

/-- A call on a collection that is changed in its place.  What has been changed by the time that the
    call fails stays changed. -/
abbrev InPlace (α : Type) := EStateM Fault Collection α

namespace InPlace

def checkFlags (k : Key) : InPlace Unit := do
  MonadExcept.ofExcept ((← get).checkFlags k)

/-- Makes room for the identifiers of a scope, unless there is some. -/
def openScope (scope : Scope) : InPlace Unit :=
  modify fun c => { c with flags := c.flags.insert scope ((c.flags.get? scope).getD ∅) }

/-- Lays down what an identifier of a scope is. -/
def layDown (scope : Scope) (i : Identifier) : InPlace Unit :=
  modify fun c => { c with
    flags := c.flags.insert scope (Collection.layDown ((c.flags.get? scope).getD ∅) i) }

def insert (h : Handle) : InPlace Handle := do
  checkFlags h.key
  openScope h.key.scope
  h.key.identifiers.forM (layDown h.key.scope)
  modify fun c => { c with order := c.order ++ [h.identity] }
  modify fun c => { c with table := c.table.insert h.identity h }
  return h

def object (g : Graph) (key : Key) : InPlace (Handle × Graph) := do
  match (← get).get? key with
  | some h =>
    checkFlags key
    return (h, g)
  | none =>
    let h ← insert (g.create key).1
    return (h, (g.create key).2)

def add (h : Handle) : InPlace Handle := do
  match (← get).find? h.identity with
  | some stored =>
    if stored.sameInstance h then return h else throw (.duplicateIdentity [h.key.display])
  | none => insert h

end InPlace

/-- What is found after a call: what it came to, and the collection.  A call that fails leaves the
    one that was there before it. -/
def leaves {α : Type} (c : Collection) :
    Except Fault (α × Collection) → EStateM.Result Fault Collection α
  | .ok (a, c') => .ok a c'
  | .error fault => .error fault c

theorem eq_of_leaves_error {α : Type} {c c' : Collection} {outcome : Except Fault (α × Collection)}
    {fault : Fault} (h : c.leaves outcome = .error fault c') : c' = c := by
  cases outcome <;> cases h
  rfl

namespace InPlace

section
variable {α β : Type} {x : InPlace α} {f : α → InPlace β} {c c' : Collection}

/-- What follows a step that succeeds goes on with the collection that the step leaves. -/
theorem run_bind_of_ok {a : α} (h : x.run c = .ok a c') : (x >>= f).run c = (f a).run c' := by
  show EStateM.bind x f c = _
  unfold EStateM.bind
  rw [show x c = .ok a c' from h]
  rfl

/-- Nothing that follows a step that fails is done. -/
theorem run_bind_of_error {fault : Fault} (h : x.run c = .error fault c') :
    (x >>= f).run c = .error fault c' := by
  show EStateM.bind x f c = _
  unfold EStateM.bind
  rw [show x c = .error fault c' from h]

end

theorem run_checkFlags (k : Key) (c : Collection) :
    (checkFlags k).run c = c.leaves ((c.checkFlags k).map fun _ => ((), c)) := by
  show (MonadExcept.ofExcept (c.checkFlags k) : InPlace Unit).run c = _
  cases c.checkFlags k <;> rfl

theorem run_layDown (c : Collection) (scope : Scope) (flags : Dictionary String Bool)
    (is : List Identifier) :
    (is.forM (layDown scope)).run { c with flags := c.flags.insert scope flags } =
      .ok () { c with flags := c.flags.insert scope (is.foldl Collection.layDown flags) } := by
  induction is generalizing flags with
  | nil => rfl
  | cons i is ih =>
    -- what was laid down for the scope is replaced by what is laid down with the identifier
    have hfirst : (layDown scope i).run { c with flags := c.flags.insert scope flags } =
        .ok () { c with flags := c.flags.insert scope (Collection.layDown flags i) } := by
      have hget : ((c.flags.insert scope flags).get? scope).getD ∅ = flags := by
        rw [Dictionary.get?_insert, if_pos (BEq.refl _)]
        rfl
      show EStateM.Result.ok () { c with
        flags := (c.flags.insert scope flags).insert scope
          (Collection.layDown (((c.flags.insert scope flags).get? scope).getD ∅) i) } = _
      rw [hget, Dictionary.insert_insert]
    show (layDown scope i >>= fun _ => is.forM (layDown scope)).run _ = _
    rw [run_bind_of_ok hfirst, ih, List.foldl_cons]

/-- An instance is stored as a whole or not at all. -/
theorem run_insert (h : Handle) (c : Collection) :
    (insert h).run c = c.leaves ((c.insert h).map fun c' => (h, c')) := by
  have hcheck := run_checkFlags h.key c
  unfold insert Collection.insert
  cases hflags : c.checkFlags h.key with
  | error fault =>
    rw [hflags] at hcheck
    rw [run_bind_of_error hcheck]
    rfl
  | ok _ =>
    rw [hflags] at hcheck
    have hopen : (openScope h.key.scope).run c = .ok () { c with
        flags := c.flags.insert h.key.scope ((c.flags.get? h.key.scope).getD ∅) } := rfl
    rw [run_bind_of_ok hcheck, run_bind_of_ok hopen, run_bind_of_ok (run_layDown ..)]
    rfl

theorem run_add (h : Handle) (c : Collection) :
    (add h).run c = c.leaves ((c.add h).map fun c' => (h, c')) := by
  have hget : (get : InPlace Collection).run c = .ok c c := rfl
  unfold add Collection.add
  rw [run_bind_of_ok hget]
  cases c.find? h.identity with
  | none => exact run_insert h c
  | some stored =>
    by_cases hsame : stored.sameInstance h = true
    · simp only [if_pos hsame]
      rfl
    · simp only [if_neg hsame]
      rfl

theorem run_object (g : Graph) (key : Key) (c : Collection) :
    (object g key).run c = c.leaves ((c.object g key).map fun r => ((r.1, r.2.2), r.2.1)) := by
  have hget : (get : InPlace Collection).run c = .ok c c := rfl
  unfold object Collection.object
  rw [run_bind_of_ok hget]
  cases c.get? key with
  | some h =>
    have hcheck := run_checkFlags key c
    show (checkFlags key >>= fun _ => return (h, g)).run c = _
    cases hflags : c.checkFlags key with
    | error fault =>
      rw [hflags] at hcheck
      rw [run_bind_of_error hcheck]
      rfl
    | ok _ =>
      rw [hflags] at hcheck
      rw [run_bind_of_ok hcheck]
      rfl
  | none =>
    have hinsert := run_insert (g.create key).1 c
    show (insert (g.create key).1 >>= fun h => return (h, (g.create key).2)).run c =
      c.leaves ((c.insert (g.create key).1 >>= fun c => return ((g.create key).1, c, _)).map _)
    cases hstored : c.insert (g.create key).1 with
    | error fault =>
      rw [hstored] at hinsert
      rw [run_bind_of_error hinsert]
      rfl
    | ok c' =>
      rw [hstored] at hinsert
      rw [run_bind_of_ok hinsert]
      rfl

end InPlace

/-! ## Several instances -/

theorem add_of_run_ok {h stored : Handle} {c c' : Collection}
    (hrun : (InPlace.add h).run c = .ok stored c') : c.add h = .ok c' := by
  rw [InPlace.run_add] at hrun
  cases hadd : c.add h with
  | error fault =>
    rw [hadd] at hrun
    cases hrun
  | ok next =>
    rw [hadd] at hrun
    cases hrun
    rfl

theorem add_of_run_error {h : Handle} {c c' : Collection} {fault : Fault}
    (hrun : (InPlace.add h).run c = .error fault c') : c.add h = .error fault ∧ c' = c := by
  rw [InPlace.run_add] at hrun
  have hsame := eq_of_leaves_error hrun
  cases hadd : c.add h with
  | error other =>
    rw [hadd] at hrun
    cases hrun
    exact ⟨rfl, rfl⟩
  | ok next =>
    rw [hadd] at hrun
    cases hrun

/-- An instance is refused because its place is taken or because of one of its identifiers. -/
theorem add_eq_error {c : Collection} {h : Handle} {fault : Fault} (hadd : c.add h = .error fault) :
    fault = .duplicateIdentity [h.key.display] ∨ ∃ key, fault = .identifierUniqueness key := by
  unfold add at hadd
  cases hfind : c.find? h.identity with
  | some stored =>
    simp only [hfind] at hadd
    by_cases hsame : stored.sameInstance h = true
    · rw [if_pos hsame] at hadd
      cases hadd
    · rw [if_neg hsame] at hadd
      cases hadd
      exact .inl rfl
  | none =>
    right
    simp only [hfind] at hadd
    have hcheck : (c.insert h).map (fun _ => ()) = c.checkFlags h.key := insert_outcome c h
    rw [hadd] at hcheck
    unfold checkFlags at hcheck
    cases hconflict : c.conflict? h.key with
    | none =>
      rw [hconflict] at hcheck
      cases hcheck
    | some i =>
      rw [hconflict] at hcheck
      cases hcheck
      exact ⟨i.key, rfl⟩

/-- What came of the call for one instance. -/
abbrev Attempt := Handle × Except Fault Handle

/-- Instances are added one by one.  Those whose places are taken are passed over, and the first whose
    identifiers are contradicted is the last that is tried. -/
inductive Singly : Collection → List Handle → List Attempt → Collection → Prop where
  | done (c : Collection) : Singly c [] [] c
  | taken {c c' last : Collection} {h stored : Handle} {rest : List Handle}
      {attempts : List Attempt} : (InPlace.add h).run c = .ok stored c' →
      Singly c' rest attempts last → Singly c (h :: rest) ((h, .ok stored) :: attempts) last
  | passed {c c' last : Collection} {h : Handle} {rest : List Handle} {keys : List String}
      {attempts : List Attempt} : (InPlace.add h).run c = .error (.duplicateIdentity keys) c' →
      Singly c' rest attempts last →
      Singly c (h :: rest) ((h, .error (.duplicateIdentity keys)) :: attempts) last
  | stopped {c last : Collection} {h : Handle} {rest : List Handle} {key : String} :
      (InPlace.add h).run c = .error (.identifierUniqueness key) last →
      Singly c (h :: rest) [(h, .error (.identifierUniqueness key))] last

theorem exists_singly (c : Collection) (hs : List Handle) :
    ∃ attempts last, Singly c hs attempts last := by
  induction hs generalizing c with
  | nil => exact ⟨[], c, .done c⟩
  | cons h rest ih =>
    have hrun := InPlace.run_add h c
    cases hadd : c.add h with
    | ok c' =>
      rw [hadd] at hrun
      obtain ⟨attempts, last, hrest⟩ := ih c'
      exact ⟨_, last, .taken hrun hrest⟩
    | error fault =>
      rw [hadd] at hrun
      rcases add_eq_error hadd with rfl | ⟨key, rfl⟩
      · obtain ⟨attempts, last, hrest⟩ := ih c
        exact ⟨_, last, .passed hrun hrest⟩
      · exact ⟨_, c, .stopped hrun⟩

/-- The instances whose places were taken, in order. -/
def refusedIn (attempts : List Attempt) : List Handle :=
  attempts.filterMap fun attempt => match attempt.2 with
    | .error (.duplicateIdentity _) => some attempt.1
    | _ => none

/-- What is reported of the keys whose places were taken. -/
def reported (keys : List String) : Except Fault Unit :=
  if keys.isEmpty then .ok () else .error (.duplicateIdentity keys)

theorem mem_refusedIn {attempts : List Attempt} {h : Handle} :
    h ∈ refusedIn attempts ↔ ∃ keys, (h, .error (.duplicateIdentity keys)) ∈ attempts := by
  unfold refusedIn
  rw [List.mem_filterMap]
  constructor
  · intro ⟨attempt, hmem, hrefused⟩
    obtain ⟨other, outcome⟩ := attempt
    split at hrefused
    · rename_i keys houtcome
      cases hrefused
      cases houtcome
      exact ⟨keys, hmem⟩
    · cases hrefused
  · intro ⟨keys, hmem⟩
    exact ⟨_, hmem, rfl⟩

namespace Singly

variable {c last : Collection} {hs : List Handle} {attempts : List Attempt}

theorem tried (h : Singly c hs attempts last) : attempts.map (·.1) <+: hs := by
  induction h with
  | done c => exact List.prefix_rfl
  | taken _ _ ih | passed _ _ ih => exact List.cons_prefix_cons.mpr ⟨rfl, ih⟩
  | stopped _ => exact List.cons_prefix_cons.mpr ⟨rfl, List.nil_prefix⟩

/-- Without a contradicted identifier every instance is tried. -/
theorem tried_all (h : Singly c hs attempts last)
    (hnone : ∀ x key, (x, .error (.identifierUniqueness key)) ∉ attempts) :
    attempts.map (·.1) = hs := by
  induction h with
  | done c => rfl
  | taken _ _ ih | passed _ _ ih =>
    rw [List.map_cons, ih fun x key hmem => hnone x key (List.mem_cons_of_mem _ hmem)]
  | stopped _ => exact absurd List.mem_cons_self (hnone _ _)

theorem outcomes (h : Singly c hs attempts last) : ∀ attempt ∈ attempts,
    (∃ stored, attempt.2 = .ok stored) ∨ (∃ keys, attempt.2 = .error (.duplicateIdentity keys)) ∨
      ∃ key, attempt.2 = .error (.identifierUniqueness key) := by
  induction h with
  | done c => exact fun _ hmem => nomatch hmem
  | taken _ _ ih => exact List.forall_mem_cons.mpr ⟨.inl ⟨_, rfl⟩, ih⟩
  | passed _ _ ih => exact List.forall_mem_cons.mpr ⟨.inr (.inl ⟨_, rfl⟩), ih⟩
  | stopped _ => exact List.forall_mem_singleton.mpr (.inr (.inr ⟨_, rfl⟩))

theorem addAll_snd (h : Singly c hs attempts last) (refused : List String) :
    (c.addAll refused hs).2 = last := by
  induction h generalizing refused with
  | done c => rfl
  | taken hrun _ ih =>
    unfold addAll
    rw [add_of_run_ok hrun]
    exact ih refused
  | @passed _ _ _ _ _ keys _ hrun _ ih =>
    obtain ⟨hadd, rfl⟩ := add_of_run_error hrun
    unfold addAll
    rw [hadd]
    exact ih (refused ++ keys)
  | stopped hrun =>
    obtain ⟨hadd, rfl⟩ := add_of_run_error hrun
    unfold addAll
    rw [hadd]

/-- A contradicted identifier is reported alone, whatever was refused before it. -/
theorem addAll_contradicted (h : Singly c hs attempts last) {x : Handle} {key : String}
    (hmem : (x, .error (.identifierUniqueness key)) ∈ attempts) (refused : List String) :
    (c.addAll refused hs).1 = .error (.identifierUniqueness key) := by
  -- only the last attempt can be the one, and what was gathered before it is dropped
  induction h generalizing refused with
  | done c => cases hmem
  | taken hrun _ ih =>
    cases hmem with
    | tail _ hmem =>
      unfold addAll
      rw [add_of_run_ok hrun]
      exact ih hmem refused
  | @passed _ _ _ _ _ keys _ hrun _ ih =>
    cases hmem with
    | tail _ hmem =>
      obtain ⟨hadd, rfl⟩ := add_of_run_error hrun
      unfold addAll
      rw [hadd]
      exact ih hmem (refused ++ keys)
  | stopped hrun =>
    cases List.mem_singleton.mp hmem
    obtain ⟨hadd, rfl⟩ := add_of_run_error hrun
    unfold addAll
    rw [hadd]

/-- Without one, all keys whose places are taken are reported together. -/
theorem addAll_reported (h : Singly c hs attempts last)
    (hnone : ∀ x key, (x, .error (.identifierUniqueness key)) ∉ attempts) (refused : List String) :
    (c.addAll refused hs).1 =
      reported (refused ++ (refusedIn attempts).map fun x => x.key.display) := by
  induction h generalizing refused with
  | done c =>
    show _ = reported (refused ++ [])
    rw [List.append_nil]
    rfl
  | taken hrun _ ih =>
    have hrest := ih (fun x key hmem => hnone x key (List.mem_cons_of_mem _ hmem)) refused
    unfold addAll
    rw [add_of_run_ok hrun]
    exact hrest
  | @passed _ _ _ x _ keys attempts hrun _ ih =>
    have hrest := ih (fun x key hmem => hnone x key (List.mem_cons_of_mem _ hmem))
      (refused ++ [x.key.display])
    obtain ⟨hadd, rfl⟩ := add_of_run_error hrun
    have hkeys : keys = [x.key.display] := by
      rcases add_eq_error hadd with heq | ⟨key, heq⟩ <;> cases heq
      rfl
    have hrefused : refusedIn ((x, .error (.duplicateIdentity keys)) :: attempts) =
        x :: refusedIn attempts := rfl
    unfold addAll
    rw [hadd, hrefused, List.map_cons, List.append_cons, ← hrest, hkeys]
  | stopped _ => exact absurd List.mem_cons_self (hnone _ _)

end Singly

/-! ## What additions come to -/

/-- What adding several instances at once comes to, when adding them one by one makes these attempts
    and ends with this collection. -/
structure BatchExact (c : Collection) (hs : List Handle) (attempts : List Attempt)
    (last : Collection) : Prop where
  /-- The attempts are made in the order of the instances, up to a contradicted identifier. -/
  tried : attempts.map (·.1) <+: hs
  tried_all : (∀ h key, (h, .error (.identifierUniqueness key)) ∉ attempts) →
    attempts.map (·.1) = hs
  collection_eq : (c.addAll [] hs).2 = last
  ok_iff : (c.addAll [] hs).1 = .ok () ↔ ∀ attempt ∈ attempts, ∃ stored, attempt.2 = .ok stored
  contradicted : ∀ h key, (h, .error (.identifierUniqueness key)) ∈ attempts →
    (c.addAll [] hs).1 = .error (.identifierUniqueness key)
  /-- Where nothing is contradicted, one fault names all keys whose places are taken. -/
  taken : (∀ h key, (h, .error (.identifierUniqueness key)) ∉ attempts) →
    (∃ attempt ∈ attempts, ∃ fault, attempt.2 = .error fault) →
    (c.addAll [] hs).1 =
      .error (.duplicateIdentity ((refusedIn attempts).map fun h => h.key.display))

theorem reported_eq_ok_iff {keys : List String} : reported keys = .ok () ↔ keys = [] := by
  unfold reported
  cases keys <;> simp

theorem reported_of_ne_nil {keys : List String} (h : keys ≠ []) :
    reported keys = .error (.duplicateIdentity keys) := by
  unfold reported
  rw [List.isEmpty_eq_false_iff.mpr h]
  rfl

namespace Singly

variable {c last : Collection} {hs : List Handle} {attempts : List Attempt}

theorem exists_error_iff (h : Singly c hs attempts last)
    (hnone : ∀ x key, (x, .error (.identifierUniqueness key)) ∉ attempts) :
    (∃ attempt ∈ attempts, ∃ fault, attempt.2 = .error fault) ↔ refusedIn attempts ≠ [] := by
  constructor
  · intro ⟨⟨x, outcome⟩, hmem, fault, houtcome⟩
    cases houtcome
    rcases h.outcomes _ hmem with ⟨_, hok⟩ | ⟨keys, hkeys⟩ | ⟨key, hkey⟩
    · cases hok
    · cases hkeys
      exact List.ne_nil_of_mem (mem_refusedIn.mpr ⟨keys, hmem⟩)
    · cases hkey
      exact absurd hmem (hnone x key)
  · intro hne
    obtain ⟨x, hx⟩ := List.exists_mem_of_ne_nil _ hne
    obtain ⟨keys, hmem⟩ := mem_refusedIn.mp hx
    exact ⟨_, hmem, _, rfl⟩

theorem addAll_eq_ok_iff (h : Singly c hs attempts last) :
    (c.addAll [] hs).1 = .ok () ↔ ∀ attempt ∈ attempts, ∃ stored, attempt.2 = .ok stored := by
  by_cases hnone : ∀ x key, (x, .error (.identifierUniqueness key)) ∉ attempts
  · have hall : (∀ attempt ∈ attempts, ∃ stored, attempt.2 = .ok stored) ↔
        ¬ ∃ attempt ∈ attempts, ∃ fault, attempt.2 = .error fault := by
      simp only [not_exists, not_and]
      apply forall₂_congr
      intro attempt _
      cases attempt.2 <;> simp
    rw [h.addAll_reported hnone, List.nil_append, reported_eq_ok_iff, List.map_eq_nil_iff, hall,
      h.exists_error_iff hnone, not_not]
  · simp only [not_forall, not_not] at hnone
    obtain ⟨x, key, hmem⟩ := hnone
    rw [h.addAll_contradicted hmem]
    constructor
    · intro hok
      cases hok
    · intro hall
      obtain ⟨_, hok⟩ := hall _ hmem
      cases hok

theorem batchExact (h : Singly c hs attempts last) : c.BatchExact hs attempts last where
  tried := h.tried
  tried_all := h.tried_all
  collection_eq := h.addAll_snd []
  ok_iff := h.addAll_eq_ok_iff
  contradicted x key hmem := h.addAll_contradicted hmem []
  taken hnone hfailed := by
    have hne := (h.exists_error_iff hnone).mp hfailed
    rw [h.addAll_reported hnone, List.nil_append]
    exact reported_of_ne_nil (mt List.map_eq_nil_iff.mp hne)

end Singly

/-- What the calls that add to a collection come to and leave. -/
structure AdditionsExact (c : Collection) : Prop where
  /-- Done step by step on the collection itself, the calls come to what they come to at once. -/
  object_run : ∀ g key, (InPlace.object g key).run c =
    c.leaves ((c.object g key).map fun r => ((r.1, r.2.2), r.2.1))
  add_run : ∀ h, (InPlace.add h).run c = c.leaves ((c.add h).map fun c' => (h, c'))
  /-- A call that fails leaves table, order, flags and message as they were. -/
  object_failed : ∀ g key fault c', (InPlace.object g key).run c = .error fault c' → c' = c
  add_failed : ∀ h fault c', (InPlace.add h).run c = .error fault c' → c' = c
  /-- Several instances can be added one by one, and at once they come to the same. -/
  exists_singly : ∀ hs, ∃ attempts last, Singly c hs attempts last
  batch : ∀ hs attempts last, Singly c hs attempts last → c.BatchExact hs attempts last
  /-- The fault for several keys names them behind one another. -/
  message_eq : ∀ keys, (Fault.duplicateIdentity keys).message =
    "A different object with key " ++ String.intercalate "; " keys ++ " already exists"

/-- **Failed additions leave no trace, and several additions are single ones.**  This is so for every
    collection, whatever it holds. -/
theorem additionsExact (c : Collection) : c.AdditionsExact where
  object_run g key := InPlace.run_object g key c
  add_run h := InPlace.run_add h c
  object_failed g key fault c' h := by
    rw [InPlace.run_object] at h
    exact eq_of_leaves_error h
  add_failed h fault c' hrun := (add_of_run_error hrun).2
  exists_singly hs := c.exists_singly hs
  batch hs attempts last h := h.batchExact
  message_eq keys := rfl

end Collection
end AdapterGateway.Inventory
