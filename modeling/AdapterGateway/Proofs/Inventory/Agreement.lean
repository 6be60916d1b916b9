import AdapterGateway.Proofs.Inventory.Identity
import AdapterGateway.Proofs.Inventory.Pass

/-!
# Agreement of identifiers

Within one scope the identifiers of one key should all be part of the identity or all be outside of
it.  A collection keeps a note of what its stored instances say and refuses a key that says otherwise.
What a key says that only found a stored instance is noted nowhere, so such a key binds nobody.
-/

namespace AdapterGateway.Inventory

/-! ## What keys and collections say -/

/-- The key has an identifier of that name, which is part of the identity or not. -/
def Key.Marks (k : Key) (name : String) (flag : Bool) : Prop :=
  ∃ i ∈ k.identifiers, i.key = name ∧ i.unique = flag

theorem Key.marks_iff_find? {k : Key} {name : String} {flag : Bool} :
    k.Marks name flag ↔ (k.find? name).map (·.unique) = some flag := by
  unfold Marks
  rw [Option.map_eq_some_iff]
  simp only [find?_eq_some_iff, and_assoc]

namespace Collection

/-- Some stored instance of the scope has an identifier of that name, with that flag. -/
def Marks (c : Collection) (scope : Scope) (name : String) (flag : Bool) : Prop :=
  ∃ identity h, c.find? identity = some h ∧ h.key.scope = scope ∧ h.key.Marks name flag

/-- What is laid down is what the stored instances say. -/
def Flagged (c : Collection) : Prop :=
  ∀ scope name flag, c.flag? scope name = some flag ↔ c.Marks scope name flag

theorem flagged_empty : Flagged {} := by
  intro scope name flag
  refine ⟨fun hflag => ?_, fun ⟨_, _, hfind, _⟩ => ?_⟩
  · cases hflag
  · cases hfind

theorem Flagged.unique {c : Collection} (hc : c.Flagged) {scope : Scope} {name : String}
    {flag flag' : Bool} (h : c.Marks scope name flag) (h' : c.Marks scope name flag') :
    flag = flag' := by
  have hsome := (hc scope name flag).mpr h
  rw [(hc scope name flag').mpr h'] at hsome
  exact (Option.some.inj hsome).symm

theorem checkFlags_eq_ok_iff {c : Collection} {k : Key} :
    c.checkFlags k = .ok () ↔
      ∀ name flag laid, k.Marks name flag → c.flag? k.scope name = some laid → laid = flag := by
  have hnone : c.checkFlags k = .ok () ↔ c.conflict? k = none := by
    unfold checkFlags
    cases c.conflict? k <;> simp
  rw [hnone, conflict?, List.find?_eq_none]
  constructor
  · rintro h name flag laid ⟨i, hmem, rfl, rfl⟩ hlaid
    have hi := h i hmem
    rw [hlaid] at hi
    simpa using hi
  · intro h i hmem
    cases hlaid : c.flag? k.scope i.key with
    | none => simp
    | some laid => simpa using h i.key i.unique laid ⟨i, hmem, rfl, rfl⟩ hlaid

theorem get?_foldl_layDown (identifiers : List Identifier) (flags : Dictionary String Bool)
    (name : String) :
    (identifiers.foldl layDown flags).get? name =
      (flags.get? name).or ((identifiers.find? (·.key == name)).map (·.unique)) := by
  induction identifiers generalizing flags with
  | nil => exact Option.or_none.symm
  | cons i rest ih =>
    have hstep : (layDown flags i).get? name =
        (flags.get? name).or (if i.key == name then some i.unique else none) := by
      unfold layDown Dictionary.contains
      by_cases hname : i.key = name
      · subst hname
        cases hold : flags.get? i.key <;> simp [hold, Dictionary.get?_insert]
      · cases hold : flags.get? i.key <;>
          simp [hname, Ne.symm hname, Dictionary.get?_insert]
    rw [List.foldl_cons, ih, hstep, List.find?_cons, Option.or_assoc]
    cases i.key == name <;> simp

/-- Storing an instance lays down what its key says, beside what was laid down before. -/
theorem flag?_insert {c c' : Collection} {h : Handle} (hc : c.insert h = .ok c') (scope : Scope)
    (name : String) (flag : Bool) :
    c'.flag? scope name = some flag ↔
      c.flag? scope name = some flag ∨ (scope = h.key.scope ∧ h.key.Marks name flag) := by
  obtain ⟨hcheck, rfl⟩ := eq_of_insert_eq_ok hc
  have hagree := checkFlags_eq_ok_iff.mp hcheck name
  unfold flag? at hagree ⊢
  by_cases hscope : scope = h.key.scope
  · subst hscope
    have hbind : ((c.flags.get? h.key.scope).getD ∅).get? name =
        (c.flags.get? h.key.scope).bind (·.get? name) := by
      cases c.flags.get? h.key.scope <;> rfl
    simp only [Dictionary.get?_insert, beq_self_eq_true, if_true, Option.bind_some,
      get?_foldl_layDown, hbind, true_and, Key.marks_iff_find?] at hagree ⊢
    -- what is laid down already stands, and the check has seen that the key does not contradict it
    cases hlaid : (c.flags.get? h.key.scope).bind (·.get? name) with
    | none => simp [Key.find?]
    | some laid =>
      rw [Option.some_or]
      constructor
      · exact .inl
      · rintro (hsame | hmarks)
        · exact hsame
        · rw [hagree flag laid hmarks hlaid]
  · have hne : (scope == h.key.scope) = false := beq_eq_false_iff_ne.mpr hscope
    simp [Dictionary.get?_insert, hne, hscope]

/-! ## What each call keeps -/

theorem Flagged.insert {c c' : Collection} {h : Handle} (hc : c.Flagged)
    (hnew : c.find? h.identity = none) (hinsert : c.insert h = .ok c') : c'.Flagged := by
  obtain ⟨htable, horder⟩ := insert_eq_ok hinsert
  have ha : c.Accepts h c' := .inserted hnew htable horder
  intro scope name flag
  rw [flag?_insert hinsert, hc scope name flag]
  constructor
  · rintro (⟨identity, stored, hfind, hstored⟩ | ⟨hscope, hmarks⟩)
    · exact ⟨identity, stored, ha.find?_mono hfind, hstored⟩
    · exact ⟨h.identity, h, ha.find?_self, hscope.symm, hmarks⟩
  · rintro ⟨identity, stored, hfind, hscope, hmarks⟩
    rcases ha.of_find? hfind with hold | ⟨rfl, _⟩
    · exact .inl ⟨identity, stored, hold, hscope, hmarks⟩
    · exact .inr ⟨hscope.symm, hmarks⟩

theorem Flagged.add {c c' : Collection} {h : Handle} (hc : c.Flagged) (hadd : c.add h = .ok c') :
    c'.Flagged := by
  rcases add_eq_ok hadd with ⟨_, _, _, rfl⟩ | ⟨hfind, hinsert⟩
  · exact hc
  · exact hc.insert hfind hinsert

theorem Flagged.addAll {c : Collection} (hc : c.Flagged) (refused : List String)
    (hs : List Handle) : (c.addAll refused hs).2.Flagged := by
  induction hs generalizing c refused with
  | nil => exact hc
  | cons h rest ih =>
    unfold Collection.addAll
    cases hadd : c.add h with
    | ok c' => exact ih (hc.add hadd) refused
    | error fault =>
      cases fault with
      | duplicateIdentity keys => exact ih hc (refused ++ keys)
      | _ => exact hc

theorem exists_object_eq_ok {c : Collection} {key : Key} (g : Graph)
    (hcheck : c.checkFlags key = .ok ()) : ∃ result, c.object g key = .ok result := by
  unfold object
  cases c.get? key with
  | some stored =>
    rw [hcheck]
    exact ⟨_, rfl⟩
  | none =>
    have hinsert : ∃ c', c.insert (g.create key).1 = .ok c' := by
      have hnew : c.checkFlags (g.create key).1.key = .ok () := hcheck
      unfold insert
      rw [hnew]
      exact ⟨_, rfl⟩
    obtain ⟨c', hinsert⟩ := hinsert
    refine ⟨((g.create key).1, c', (g.create key).2), ?_⟩
    change (do let c ← c.insert (g.create key).1; return ((g.create key).1, c, (g.create key).2)) = _
    rw [hinsert]
    rfl

end Collection

/-! ## Granted keys -/

namespace Pass

/-- The keys with which a call succeeds: that of the instance that is asked for, or those of the
    instances that the collection takes. -/
def granted (p : Pass) : Act → List Key
  | .make _ => []
  | .object key => match p.collection.object p.graph key with
    | .ok _ => [key]
    | .error _ => []
  | .add n => match p.known[n]? with
    | some h => match p.collection.add h with
      | .ok _ => [h.key]
      | .error _ => []
    | none => []
  | .addAll ns => (p.collection.taken (ns.filterMap (p.known[·]?))).map Handle.key

theorem flagged_perform {p : Pass} (hp : p.collection.Flagged) (act : Act) :
    (p.perform act).collection.Flagged := by
  cases act with
  | make key => exact hp
  | object key =>
    cases hobject : p.collection.object p.graph key with
    | error fault =>
      simp only [perform, hobject]
      exact hp
    | ok result =>
      obtain ⟨h, c, graph⟩ := result
      simp only [perform, hobject]
      rcases Collection.object_eq_ok hobject with ⟨_, _, rfl, _⟩ | ⟨hnone, hnew, hinsert⟩
      · exact hp
      · cases hnew
        refine hp.insert ?_ hinsert
        exact hnone
  | add n =>
    cases hn : p.known[n]? with
    | none =>
      simp only [perform, hn]
      exact hp
    | some h =>
      cases hadd : p.collection.add h with
      | error fault =>
        simp only [perform, hn, hadd]
        exact hp
      | ok c =>
        simp only [perform, hn, hadd]
        exact hp.add hadd
  | addAll ns => exact hp.addAll [] _

theorem flagged_after (acts : List Act) : (after acts).collection.Flagged := by
  have hfold (p : Pass) (hp : p.collection.Flagged) : (acts.foldl perform p).collection.Flagged := by
    induction acts generalizing p with
    | nil => exact hp
    | cons act acts ih => exact ih _ (flagged_perform hp act)
  exact hfold {} Collection.flagged_empty

theorem Sound.find?_accepted {p : Pass} (hp : p.Sound) {h : Handle} (hmem : h ∈ p.accepted) :
    p.collection.find? h.identity = some h := by
  rw [← hp.inStep.mem_entries, hp.inStep.entries_eq, List.mem_eraseDups]
  exact hmem

theorem eq_ok_of_granted_object {p : Pass} {asked key : Key} (hkey : key ∈ p.granted (.object asked)) :
    key = asked ∧ ∃ result, p.collection.object p.graph asked = .ok result := by
  unfold granted at hkey
  cases hobject : p.collection.object p.graph asked with
  | error fault =>
    simp only [hobject] at hkey
    cases hkey
  | ok result =>
    simp only [hobject] at hkey
    exact ⟨List.mem_singleton.mp hkey, result, rfl⟩

/-- A granted key is the key of an instance that is stored now, or it has been resolved to an
    instance that was stored before, and then nothing but the note of that has changed. -/
theorem stored_or_resolved {p : Pass} {act : Act} (hp : (p.perform act).Sound) {key : Key}
    (hkey : key ∈ p.granted act) :
    (∃ h, (p.perform act).collection.find? h.identity = some h ∧ h.key = key) ∨
      (act = .object key ∧ (p.collection.get? key).isSome ∧ p.collection.checkFlags key = .ok () ∧
        (p.perform act).collection = p.collection) := by
  have htaken (h : Handle) (hmem : h ∈ (p.perform act).accepted) (hsame : h.key = key) :
      ∃ h, (p.perform act).collection.find? h.identity = some h ∧ h.key = key :=
    ⟨h, hp.find?_accepted hmem, hsame⟩
  cases act with
  | make key => cases hkey
  | object asked =>
    obtain ⟨rfl, ⟨h, c, graph⟩, hobject⟩ := eq_ok_of_granted_object hkey
    simp only [perform, hobject] at htaken ⊢
    rcases Collection.object_eq_ok hobject with ⟨hget, hcheck, rfl, _⟩ | ⟨_, hnew, _⟩
    · exact .inr ⟨trivial, by rw [hget]; rfl, hcheck, rfl⟩
    · exact .inl (htaken h (by simp) (congrArg (·.1.key) hnew))
  | add n =>
    cases hn : p.known[n]? with
    | none =>
      simp only [granted, hn] at hkey
      cases hkey
    | some h =>
      cases hadd : p.collection.add h with
      | error fault =>
        simp only [granted, hn, hadd] at hkey
        cases hkey
      | ok c =>
        simp only [granted, hn, hadd, List.mem_singleton] at hkey
        simp only [perform, hn, hadd] at htaken ⊢
        exact .inl (htaken h (by simp) hkey.symm)
  | addAll ns =>
    obtain ⟨h, hmem, hsame⟩ := List.mem_map.mp hkey
    exact .inl (htaken h (List.mem_append_right _ hmem) hsame)

/-- A granted key contradicts nothing that is laid down once it is granted. -/
theorem flag?_of_granted {p : Pass} {act : Act} (hp : (p.perform act).Sound)
    (hflagged : (p.perform act).collection.Flagged) {key : Key} (hkey : key ∈ p.granted act)
    {name : String} {flag laid : Bool} (hmarks : key.Marks name flag)
    (hlaid : (p.perform act).collection.Marks key.scope name laid) : laid = flag := by
  rcases stored_or_resolved hp hkey with ⟨h, hfind, rfl⟩ | ⟨_, _, hcheck, hsame⟩
  · exact hflagged.unique hlaid ⟨_, h, hfind, rfl, hmarks⟩
  · rw [← hsame] at hcheck
    exact Collection.checkFlags_eq_ok_iff.mp hcheck name flag laid hmarks
      ((hflagged _ name laid).mpr hlaid)

/-- Two keys do not disagree on an identifier. -/
def Agree (key key' : Key) : Prop :=
  key.scope = key'.scope → ∀ name flag flag', key.Marks name flag → key'.Marks name flag' →
    flag = flag'

/-- Every key that a call is granted from now on treats the identifiers of that name alike. -/
def Binding (p : Pass) (scope : Scope) (name : String) (flag : Bool) : Prop :=
  ∀ (more : List Act) (act : Act), ∀ key ∈ (more.foldl perform p).granted act, key.scope = scope →
    ∀ other, key.Marks name other → other = flag

theorem binding_of_marks {acts : List Act} {scope : Scope} {name : String} {flag : Bool}
    (h : (after acts).collection.Marks scope name flag) : (after acts).Binding scope name flag := by
  rintro more act key hkey rfl other hother
  rw [← after_append] at hkey
  have hlast : (after (acts ++ more)).perform act = after (acts ++ (more ++ [act])) := by
    rw [← List.append_assoc, after_append (acts ++ more) [act]]
    rfl
  -- the instance that says so is still stored when the later key is granted
  obtain ⟨identity, stored, hfind, hscope, hmarks⟩ := h
  have hkept := (sound_foldl (sound_after acts) (more ++ [act])).2 identity stored hfind
  rw [← after_append, ← hlast] at hkept
  refine (flag?_of_granted ?_ ?_ hkey hother ⟨identity, stored, hkept, hscope, hmarks⟩).symm
  · rw [hlast]
    exact sound_after _
  · rw [hlast]
    exact flagged_after _

theorem not_binding_of_unmarked {p : Pass} (hp : p.collection.Flagged) {scope : Scope}
    {name : String} (h : ∀ laid, ¬ p.collection.Marks scope name laid) (flag : Bool) :
    ¬ p.Binding scope name flag := by
  intro hbinding
  -- the key of a new object with the other flag, which nothing that is laid down contradicts
  let key := Key.make scope.adapterKind scope.objectKind "" [⟨name, "", !flag⟩]
  have hcheck : p.collection.checkFlags key = .ok () := by
    rw [Collection.checkFlags_eq_ok_iff]
    rintro other treated laid ⟨i, hmem, rfl, rfl⟩ hlaid
    rw [List.mem_singleton.mp hmem] at hlaid
    exact absurd ((hp _ _ laid).mp hlaid) (h laid)
  obtain ⟨result, hobject⟩ := Collection.exists_object_eq_ok p.graph hcheck
  have hgranted : key ∈ p.granted (.object key) := by
    simp only [granted, hobject]
    exact List.mem_singleton_self key
  have hflag := hbinding [] (.object key) key hgranted rfl (!flag)
    ⟨_, List.mem_singleton_self _, rfl, rfl⟩
  cases flag <;> cases hflag

/-- How far the keys that one call is granted are agreed with. -/
structure Agreed (acts : List Act) (act : Act) : Prop where
  /-- Keys that are granted together agree. -/
  together : ∀ key ∈ (after acts).granted act, ∀ key' ∈ (after acts).granted act, Agree key key'
  /-- A granted key agrees with what the instances say that are stored then. -/
  marks_eq : ∀ key ∈ (after acts).granted act, ∀ name flag laid, key.Marks name flag →
    (after (acts ++ [act])).collection.Marks key.scope name laid → laid = flag
  /-- What it says of an identifier is binding for all calls to come when some instance that is
      stored then has that identifier, and only then. -/
  binding_iff : ∀ key ∈ (after acts).granted act, ∀ name flag, key.Marks name flag →
    ((after (acts ++ [act])).Binding key.scope name flag ↔
      ∃ laid, (after (acts ++ [act])).collection.Marks key.scope name laid)
  /-- That is so for all its identifiers unless it was resolved to an instance stored before. -/
  stored_or_resolved : ∀ key ∈ (after acts).granted act,
    (∀ name flag, key.Marks name flag →
      (after (acts ++ [act])).collection.Marks key.scope name flag) ∨
    (act = .object key ∧ ((after acts).collection.get? key).isSome)

/-- **Whom a granted key binds.**  After any calls, each further call that succeeds is agreed with by
    all later ones as far as the stored instances have its identifiers, and no further. -/
theorem agreed (acts : List Act) (act : Act) : Agreed acts act := by
  have hnext : (after acts).perform act = after (acts ++ [act]) := by
    rw [after_append]
    rfl
  have hsound := sound_after (acts ++ [act])
  have hflagged := flagged_after (acts ++ [act])
  have hmarks : ∀ key ∈ (after acts).granted act, ∀ name flag laid, key.Marks name flag →
      (after (acts ++ [act])).collection.Marks key.scope name laid → laid = flag := by
    intro key hkey name flag laid
    rw [← hnext] at hsound hflagged ⊢
    exact flag?_of_granted hsound hflagged hkey
  have hstored : ∀ key ∈ (after acts).granted act,
      (∀ name flag, key.Marks name flag →
        (after (acts ++ [act])).collection.Marks key.scope name flag) ∨
      (act = .object key ∧ ((after acts).collection.get? key).isSome) := by
    intro key hkey
    rw [← hnext] at hsound ⊢
    rcases Pass.stored_or_resolved hsound hkey with ⟨h, hfind, rfl⟩ | ⟨hact, hget, _⟩
    · exact .inl fun name flag hmark => ⟨_, h, hfind, rfl, hmark⟩
    · exact .inr ⟨hact, hget⟩
  refine ⟨fun key hkey key' hkey' hscope name flag flag' hmark hmark' => ?_, hmarks,
    fun key hkey name flag hmark => ⟨fun hbinding => ?_, fun ⟨laid, hlaid⟩ => ?_⟩, hstored⟩
  · rcases hstored key hkey with hall | ⟨hact, _⟩
    · exact hmarks key' hkey' name flag' flag hmark' (hscope ▸ hall name flag hmark)
    · -- a call that resolves a key is granted that key alone
      subst hact
      obtain ⟨rfl, _⟩ := eq_ok_of_granted_object hkey'
      rw [Key.marks_iff_find?] at hmark hmark'
      rw [hmark] at hmark'
      exact Option.some.inj hmark'
  · by_contra hnone
    exact not_binding_of_unmarked hflagged (fun laid hlaid => hnone ⟨laid, hlaid⟩) flag hbinding
  · rw [← hmarks key hkey name flag laid hmark hlaid]
    exact binding_of_marks hlaid

/-! ## Two keys that disagree -/

def plainKey : Key := Key.make "X" "host" "h1" []

/-- The key of the same host, with an identifier outside the identity. -/
def carriedKey : Key := Key.make "X" "host" "h1" [⟨"id", "1", false⟩]

def identifiedKey : Key := Key.make "X" "host" "h2" [⟨"id", "1", true⟩]

/-- A key that finds a stored instance is granted, and a later one that contradicts it as well. -/
theorem disagreeing_keys_granted :
    carriedKey ∈ (after [.object plainKey]).granted (.object carriedKey) ∧
      identifiedKey ∈ (after [.object plainKey, .object carriedKey]).granted (.object identifiedKey) ∧
      carriedKey.scope = identifiedKey.scope ∧ ¬ Agree carriedKey identifiedKey := by
  refine ⟨by decide, by decide, rfl, fun hagree => ?_⟩
  have hflags := hagree rfl "id" false true ⟨_, List.mem_singleton_self _, rfl, rfl⟩
    ⟨_, List.mem_singleton_self _, rfl, rfl⟩
  cases hflags

end Pass

end AdapterGateway.Inventory
