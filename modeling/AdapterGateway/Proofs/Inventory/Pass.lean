import AdapterGateway.Proofs.Inventory.Acceptance

/-!
# Passes

Everything that a pass can do with a collection, one call after the other: instances are made, keys
are resolved, and handles that were made or returned before are added, alone or several at once, as
often as one likes.  After any such sequence the collection is a map from identities to instances
that lists them in the order in which they came in.
-/

namespace AdapterGateway.Inventory

/-- The handles that a collection takes when several are added at once. -/
def Collection.taken (c : Collection) : List Handle → List Handle
  | [] => []
  | h :: rest => match c.add h with
    | .ok c => h :: c.taken rest
    | .error (.duplicateIdentity _) => c.taken rest
    | .error _ => []

/-- A call of a pass.  A handle is named by its place among those that the pass has come to know. -/
inductive Act where
  /-- Make an instance that is stored nowhere. -/
  | make (key : Key)
  /-- Resolve a key. -/
  | object (key : Key)
  /-- Add the instance of a handle. -/
  | add (n : Nat)
  /-- Add the instances of several handles. -/
  | addAll (ns : List Nat)

/-- A pass in the middle of its work. -/
structure Pass where
  graph : Graph := {}
  collection : Collection := {}
  /-- The handles that were made or returned, in order. -/
  known : List Handle := []
  /-- The handles that were returned for a key or an instance, each with its key. -/
  returned : List (Key × Handle) := []
  /-- The handles that the collection took, in order. -/
  accepted : List Handle := []

namespace Pass

/-- What comes of one call. -/
def perform (p : Pass) : Act → Pass
  | .make key =>
    let (h, graph) := p.graph.create key
    { p with graph, known := p.known ++ [h] }
  | .object key => match p.collection.object p.graph key with
    | .ok (h, collection, graph) =>
      { graph, collection
        known := p.known ++ [h]
        returned := p.returned ++ [(key, h)]
        accepted := p.accepted ++ [h] }
    | .error _ => p
  | .add n => match p.known[n]? with
    | some h => match p.collection.add h with
      | .ok collection =>
        { p with
          collection
          returned := p.returned ++ [(h.key, h)]
          accepted := p.accepted ++ [h] }
      | .error _ => p
    | none => p
  | .addAll ns =>
    let hs := ns.filterMap (p.known[·]?)
    { p with
      collection := (p.collection.addAll [] hs).2
      accepted := p.accepted ++ p.collection.taken hs }

/-- What comes of several calls on a pass that has just begun. -/
def after (acts : List Act) : Pass := acts.foldl perform {}

theorem after_append (acts more : List Act) :
    after (acts ++ more) = more.foldl perform (after acts) :=
  List.foldl_append

/-! ## Instances -/

/-- No two handles that a pass knows denote the same instance, and all instances are there. -/
structure Genuine (graph : Graph) (known : List Handle) : Prop where
  lt_size : ∀ h ∈ known, h.id < graph.contents.size
  eq_of_id : ∀ h ∈ known, ∀ h' ∈ known, h.id = h'.id → h = h'

theorem genuine_nil : Genuine {} [] where
  lt_size h hmem := by cases hmem
  eq_of_id h hmem := by cases hmem

/-- A new instance is none of those that are known. -/
theorem Genuine.create {graph : Graph} {known : List Handle} (hg : Genuine graph known) (key : Key) :
    Genuine (graph.create key).2 (known ++ [(graph.create key).1]) where
  lt_size h hmem := by
    rw [Graph.create, Array.size_push]
    rcases List.mem_append.mp hmem with hold | hnew
    · exact Nat.lt_succ_of_lt (hg.lt_size h hold)
    · rw [List.mem_singleton.mp hnew]
      exact Nat.lt_succ_self _
  eq_of_id h hmem h' hmem' hid := by
    -- a new handle has the number of places that were filled before, which no known one has
    rcases List.mem_append.mp hmem with hold | hnew <;>
      rcases List.mem_append.mp hmem' with hold' | hnew'
    · exact hg.eq_of_id h hold h' hold' hid
    · rw [List.mem_singleton.mp hnew'] at hid
      exact absurd hid (Nat.ne_of_lt (hg.lt_size h hold))
    · rw [List.mem_singleton.mp hnew] at hid
      exact absurd hid.symm (Nat.ne_of_lt (hg.lt_size h' hold'))
    · rw [List.mem_singleton.mp hnew, List.mem_singleton.mp hnew']

theorem Genuine.copy {graph : Graph} {known : List Handle} (hg : Genuine graph known) {h : Handle}
    (hmem : h ∈ known) : Genuine graph (known ++ [h]) := by
  have hsub : ∀ x ∈ known ++ [h], x ∈ known := by
    intro x hx
    rcases List.mem_append.mp hx with hold | hnew
    · exact hold
    · rwa [List.mem_singleton.mp hnew]
  exact ⟨fun x hx => hg.lt_size x (hsub x hx),
    fun x hx y hy => hg.eq_of_id x (hsub x hx) y (hsub y hy)⟩

/-! ## The invariant -/

/-- The collection of a pass holds known instances only, in the order in which they were accepted,
    and still holds every instance that was returned. -/
structure Sound (p : Pass) : Prop where
  genuine : Genuine p.graph p.known
  inStep : p.collection.InStep p.accepted
  find?_known : ∀ identity h, p.collection.find? identity = some h → h ∈ p.known
  find?_returned : ∀ key h, (key, h) ∈ p.returned → p.collection.find? key.identity = some h

theorem sound_begin : Sound {} where
  genuine := genuine_nil
  inStep := Collection.inStep_empty
  find?_known identity h hfind := by cases hfind
  find?_returned key h hmem := by cases hmem

/-- The same instance as a stored one is that one. -/
theorem Sound.eq_of_sameInstance {p : Pass} (hp : p.Sound) {identity : Identity}
    {stored h : Handle} (hfind : p.collection.find? identity = some stored) (hmem : h ∈ p.known)
    (hsame : stored.sameInstance h = true) : stored = h :=
  hp.genuine.eq_of_id stored (hp.find?_known identity stored hfind) h hmem (eq_of_beq hsame)

/-- A pass whose collection accepts one known instance stays sound, whether the instance is returned
    or not. -/
theorem Sound.accept {p : Pass} (hp : p.Sound) {h : Handle} {c : Collection}
    (ha : p.collection.Accepts h c) {graph : Graph} {known : List Handle} (hg : Genuine graph known)
    (hknown : ∀ x ∈ p.known, x ∈ known) (hmem : h ∈ known) {returned : List (Key × Handle)}
    (hreturned : ∀ key x, (key, x) ∈ returned →
      (key, x) ∈ p.returned ∨ (key.identity = h.identity ∧ x = h)) :
    Sound ⟨graph, c, known, returned, p.accepted ++ [h]⟩ where
  genuine := hg
  inStep := hp.inStep.accepts ha
  find?_known identity x hfind := by
    rcases ha.of_find? hfind with hold | ⟨rfl, _⟩
    · exact hknown x (hp.find?_known identity x hold)
    · exact hmem
  find?_returned key x hx := by
    rcases hreturned key x hx with hold | ⟨hkey, rfl⟩
    · exact ha.find?_mono (hp.find?_returned key x hold)
    · rw [hkey]
      exact ha.find?_self

/-- So it is when the instance is returned for a key of its identity. -/
theorem Sound.acceptReturned {p : Pass} (hp : p.Sound) {h : Handle} {c : Collection}
    (ha : p.collection.Accepts h c) {graph : Graph} {known : List Handle} (hg : Genuine graph known)
    (hknown : ∀ x ∈ p.known, x ∈ known) (hmem : h ∈ known) {key : Key}
    (hkey : key.identity = h.identity) :
    Sound ⟨graph, c, known, p.returned ++ [(key, h)], p.accepted ++ [h]⟩ := by
  apply hp.accept ha hg hknown hmem
  intro other x hx
  rcases List.mem_append.mp hx with hold | hlast
  · exact .inl hold
  · cases List.mem_singleton.mp hlast
    exact .inr ⟨hkey, rfl⟩

/-- Adding several known instances is to accept those that are taken, one after the other. -/
theorem Sound.acceptAll {p : Pass} (hp : p.Sound) {hs : List Handle} (hmem : ∀ h ∈ hs, h ∈ p.known)
    (refused : List String) :
    Sound { p with
        collection := (p.collection.addAll refused hs).2
        accepted := p.accepted ++ p.collection.taken hs } ∧
      ∀ identity h, p.collection.find? identity = some h →
        (p.collection.addAll refused hs).2.find? identity = some h := by
  -- on the instances: a duplicate is passed over and any other refusal stops, and neither changes
  -- anything; that a stored instance stays is carried along for the instances that follow
  induction hs generalizing p refused with
  | nil =>
    refine ⟨?_, fun identity h hfind => hfind⟩
    rw [Collection.taken, List.append_nil]
    exact hp
  | cons h rest ih =>
    have hrest : ∀ x ∈ rest, x ∈ p.known := fun x hx => hmem x (List.mem_cons_of_mem h hx)
    unfold Collection.addAll Collection.taken
    cases hadd : p.collection.add h with
    | ok c =>
      have ha := Collection.accepts_of_add hadd fun stored hfind hsame =>
        hp.eq_of_sameInstance hfind (hmem h List.mem_cons_self) hsame
      have hnext := hp.accept ha hp.genuine (fun _ hx => hx) (hmem h List.mem_cons_self)
        (fun key x hx => .inl hx)
      obtain ⟨hsound, hmono⟩ := ih hnext hrest refused
      refine ⟨?_, fun identity x hfind => hmono identity x (ha.find?_mono hfind)⟩
      simpa [List.append_assoc] using hsound
    | error fault =>
      cases fault with
      | duplicateIdentity keys => exact ih hp hrest (refused ++ keys)
      | _ =>
        refine ⟨?_, fun identity x hfind => hfind⟩
        rw [List.append_nil]
        exact hp

/-- One call keeps a pass sound and every stored instance where it is. -/
theorem sound_perform {p : Pass} (hp : p.Sound) (act : Act) :
    (p.perform act).Sound ∧ ∀ identity h, p.collection.find? identity = some h →
      (p.perform act).collection.find? identity = some h := by
  cases act with
  | make key =>
    refine ⟨⟨hp.genuine.create key, hp.inStep, ?_, hp.find?_returned⟩, fun _ _ hfind => hfind⟩
    intro identity h hfind
    exact List.mem_append_left _ (hp.find?_known identity h hfind)
  | object key =>
    cases hobject : p.collection.object p.graph key with
    | error fault =>
      simp only [perform, hobject]
      exact ⟨hp, fun _ _ hfind => hfind⟩
    | ok result =>
      obtain ⟨h, c, graph⟩ := result
      simp only [perform, hobject]
      obtain ⟨ha, hidentity, horigin⟩ :=
        Collection.accepts_of_object (hp.inStep.identity_eq key.identity) hobject
      -- the instance was stored before, and so is known, or has just been made
      have hg : Genuine graph (p.known ++ [h]) := by
        rcases horigin with ⟨hfind, rfl⟩ | hnew
        · exact hp.genuine.copy (hp.find?_known _ h hfind)
        · obtain ⟨rfl, rfl⟩ := Prod.mk.inj hnew
          exact hp.genuine.create key
      exact ⟨hp.acceptReturned ha hg (fun _ hx => List.mem_append_left _ hx) (by simp)
        hidentity.symm, fun _ _ hfind => ha.find?_mono hfind⟩
  | add n =>
    cases hn : p.known[n]? with
    | none =>
      simp only [perform, hn]
      exact ⟨hp, fun _ _ hfind => hfind⟩
    | some h =>
      have hmem : h ∈ p.known := List.mem_of_getElem? hn
      cases hadd : p.collection.add h with
      | error fault =>
        simp only [perform, hn, hadd]
        exact ⟨hp, fun _ _ hfind => hfind⟩
      | ok c =>
        simp only [perform, hn, hadd]
        have ha := Collection.accepts_of_add hadd fun stored hfind hsame =>
          hp.eq_of_sameInstance hfind hmem hsame
        exact ⟨hp.acceptReturned ha hp.genuine (fun _ hx => hx) hmem rfl,
          fun _ _ hfind => ha.find?_mono hfind⟩
  | addAll ns =>
    refine hp.acceptAll (fun h hmem => ?_) []
    obtain ⟨n, _, hn⟩ := List.mem_filterMap.mp hmem
    exact List.mem_of_getElem? hn

theorem sound_foldl {p : Pass} (hp : p.Sound) (acts : List Act) :
    (acts.foldl perform p).Sound ∧ ∀ identity h, p.collection.find? identity = some h →
      (acts.foldl perform p).collection.find? identity = some h := by
  induction acts generalizing p with
  | nil => exact ⟨hp, fun _ _ hfind => hfind⟩
  | cons act acts ih =>
    obtain ⟨hstep, hkeep⟩ := sound_perform hp act
    obtain ⟨hrun, hkeeps⟩ := ih hstep
    exact ⟨hrun, fun identity h hfind => hkeeps identity h (hkeep identity h hfind)⟩

theorem sound_after (acts : List Act) : (after acts).Sound := (sound_foldl sound_begin acts).1

/-- Two returned handles denote the same instance when their keys have the same identity, and only
    then. -/
theorem Sound.sameInstance_iff {p : Pass} (hp : p.Sound) {key key' : Key} {h h' : Handle}
    (hmem : (key, h) ∈ p.returned) (hmem' : (key', h') ∈ p.returned) :
    h.sameInstance h' = true ↔ key.identity = key'.identity := by
  have hfind := hp.find?_returned key h hmem
  have hfind' := hp.find?_returned key' h' hmem'
  constructor
  · intro hsame
    have heq := hp.eq_of_sameInstance hfind (hp.find?_known _ h' hfind') hsame
    rw [← hp.inStep.identity_eq _ h hfind, ← hp.inStep.identity_eq _ h' hfind', heq]
  · intro hkeys
    rw [hkeys, hfind'] at hfind
    cases hfind
    exact BEq.refl _

theorem Sound.nodup_ids {p : Pass} (hp : p.Sound) : (p.collection.entries.map Handle.id).Nodup := by
  -- listed instances differ in their identities, and those of one number are one instance
  have hidentities : (p.collection.entries.map Handle.identity).Nodup := by
    rw [hp.inStep.map_entries]
    exact hp.inStep.nodup
  rw [List.Nodup, List.pairwise_map] at hidentities ⊢
  refine hidentities.imp_of_mem fun {h h'} hmem hmem' hne hid => hne ?_
  have hknown := hp.find?_known _ h (hp.inStep.mem_entries.mp hmem)
  have hknown' := hp.find?_known _ h' (hp.inStep.mem_entries.mp hmem')
  rw [hp.genuine.eq_of_id h hknown h' hknown' hid]

/-- What a collection is after a pass: a map from identities to instances that lists them in the
    order in which they came in. -/
structure InsertionOrdered (acts : List Act) : Prop where
  /-- The order lists the identities of the table, each once. -/
  nodup : (after acts).collection.order.Nodup
  mem_order : ∀ identity, identity ∈ (after acts).collection.order ↔
    ((after acts).collection.table.get? identity).isSome
  /-- Every instance is stored under the identity of its own key. -/
  identity_eq : ∀ identity h, (after acts).collection.table.get? identity = some h →
    h.key.identity = identity
  /-- Nothing that happens later replaces or removes a stored instance. -/
  kept : ∀ more identity h, (after acts).collection.table.get? identity = some h →
    (after (acts ++ more)).collection.table.get? identity = some h
  /-- Each stored instance is listed once, in the order in which they were accepted first. -/
  size_eq : (after acts).collection.size = (after acts).collection.entries.length
  mem_entries : ∀ h, h ∈ (after acts).collection.entries ↔
    ∃ identity, (after acts).collection.table.get? identity = some h
  nodup_ids : ((after acts).collection.entries.map Handle.id).Nodup
  entries_eq : (after acts).collection.entries = (after acts).accepted.eraseDups
  /-- Two returned handles denote one instance when their keys have one identity, and only then. -/
  sameInstance_iff : ∀ key h key' h', (key, h) ∈ (after acts).returned →
    (key', h') ∈ (after acts).returned →
    (h.sameInstance h' = true ↔ key.identity = key'.identity)
  /-- That instance is found by every key of its identity. -/
  get?_eq : ∀ key h key', (key, h) ∈ (after acts).returned → key'.identity = key.identity →
    (after acts).collection.get? key' = some h

/-- **Collections are insertion-ordered maps.**  This is so after every sequence of calls. -/
theorem insertionOrdered (acts : List Act) : InsertionOrdered acts := by
  have hp := sound_after acts
  refine {
    nodup := hp.inStep.nodup
    mem_order := hp.inStep.mem_order
    identity_eq := hp.inStep.identity_eq
    kept := fun more identity h hfind => ?_
    size_eq := hp.inStep.size_eq
    mem_entries := fun h => ⟨fun hmem => ?_, fun hfound => ?_⟩
    nodup_ids := hp.nodup_ids
    entries_eq := hp.inStep.entries_eq
    sameInstance_iff := fun key h key' h' hmem hmem' => hp.sameInstance_iff hmem hmem'
    get?_eq := fun key h key' hmem hkeys => ?_ }
  · rw [after_append]
    exact (sound_foldl hp more).2 identity h hfind
  · exact ⟨h.identity, hp.inStep.mem_entries.mp hmem⟩
  · obtain ⟨identity, hfind⟩ := hfound
    have hidentity : h.identity = identity := hp.inStep.identity_eq identity h hfind
    rw [hp.inStep.mem_entries, hidentity]
    exact hfind
  · rw [Collection.get?, hkeys]
    exact hp.find?_returned key h hmem

end Pass

end AdapterGateway.Inventory
