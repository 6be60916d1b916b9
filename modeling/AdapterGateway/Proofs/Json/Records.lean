import AdapterGateway.Json.Record
import AdapterGateway.Proofs.Json.RoundTrip
import Mathlib.Data.List.Basic

/-!
# Reading records

An object is read by filling slots, member by member, so the order of its members does not matter.
What a record is written as is read back.
-/

namespace AdapterGateway.Json

open Text

theorem refuse_ne_ok {α : Type} (expected : String) (t : Tree) (a : α) :
    t.refuse expected ≠ .ok a := by
  intro h
  unfold Tree.refuse at h
  split at h <;> cases h

section
variable {α β : Type} {x : Except DecodeError α}

/-- A program that comes to a value does so step by step. -/
theorem bind_eq_ok {f : α → Except DecodeError β} {b : β} (h : x >>= f = .ok b) :
    ∃ a, x = .ok a ∧ f a = .ok b := by
  cases x with
  | error e => cases h
  | ok a => exact ⟨a, rfl, h⟩

theorem bind_of_eq_ok {f : α → Except DecodeError β} {a : α} (h : x = .ok a) : x >>= f = f a := by
  rw [h]
  rfl

theorem map_eq_ok {f : α → β} {b : β} (h : x.map f = .ok b) : ∃ a, x = .ok a ∧ f a = b := by
  cases x with
  | error e => cases h
  | ok a => exact ⟨a, rfl, Except.ok.inj h⟩

end

theorem decode_eq_ok_iff {α : Type} {read : Reader α} {octets : Octets} {a : α} :
    decode read octets = .ok a ↔ (Document.ofOctets octets).complete = true ∧
      read (Document.ofOctets octets).root = .ok a := by
  unfold decode
  dsimp only
  cases read (Document.ofOctets octets).root with
  | error e =>
    constructor
    · intro h
      cases h
    · rintro ⟨_, h⟩
      cases h
  | ok b =>
    cases (Document.ofOctets octets).complete with
    | true => exact (and_iff_right rfl).symm
    | false =>
      constructor
      · intro h
        cases h
      · rintro ⟨h, _⟩
        cases h

/-- A text is refused where it is read, or for what is wrong with it behind that. -/
theorem decode_eq_error_iff {α : Type} {read : Reader α} {octets : Octets} {e : DecodeError} :
    decode read octets = .error e ↔ read (Document.ofOctets octets).root = .error e ∨
      (∃ a, read (Document.ofOctets octets).root = .ok a) ∧
        (Document.ofOctets octets).complete = false ∧ e = .malformed := by
  unfold decode
  dsimp only
  cases read (Document.ofOctets octets).root with
  | error e' => simp
  | ok a => cases (Document.ofOctets octets).complete <;> simp [eq_comm]

/-- A text is refused when what it says is read as nothing. -/
theorem exists_decode_eq_error {α : Type} {read : Reader α} {octets : Octets}
    (h : ∀ a, read (Document.ofOctets octets).root ≠ .ok a) : ∃ e, decode read octets = .error e := by
  cases hdecode : decode read octets with
  | error e => exact ⟨e, rfl⟩
  | ok a => exact absurd (decode_eq_ok_iff.mp hdecode).2 (h a)

/-! ## Slots -/

section
variable {F : Type} {Ty : F → Type} [DecidableEq F]

theorem fill_self (slots : Slots Ty) (f : F) (value : Ty f) : fill slots f value f = some value :=
  dif_pos rfl

theorem fill_of_ne {f g : F} (h : f ≠ g) (slots : Slots Ty) (value : Ty f) :
    fill slots f value g = slots g :=
  dif_neg h

theorem fill_comm {f g : F} (h : f ≠ g) (slots : Slots Ty) (v : Ty f) (w : Ty g) :
    fill (fill slots f v) g w = fill (fill slots g w) f v := by
  funext k
  by_cases hf : f = k
  · subst hf
    rw [fill_of_ne (Ne.symm h), fill_self, fill_self]
  · by_cases hg : g = k
    · subst hg
      rw [fill_self, fill_of_ne h, fill_self]
    · rw [fill_of_ne hg, fill_of_ne hf, fill_of_ne hf, fill_of_ne hg]

end

namespace Record

variable {F : Type} {Ty : F → Type} [DecidableEq F] {r : Record F Ty} {slots slots' out : Slots Ty}

theorem fillMembers_unknown {name : String} (h : r.find? name = none) (t : Tree)
    (rest : List (Spelling × Tree)) : r.fillMembers slots ((some name, t) :: rest) =
      (skip t >>= fun _ => r.fillMembers slots rest) := by
  rw [fillMembers, asName]
  dsimp only [bind, Except.bind]
  rw [h]

theorem fillMembers_known {name : String} {f : F} (h : r.find? name = some f) (t : Tree)
    (rest : List (Spelling × Tree)) : r.fillMembers slots ((some name, t) :: rest) =
      if (slots f).isSome then .error (.duplicateField (r.field f).label)
      else (r.field f).read t >>= fun value => r.fillMembers (fill slots f value) rest := by
  rw [fillMembers, asName]
  dsimp only [bind, Except.bind]
  rw [h]
  rfl

/-- How an object is read: the members fill slots one after the other, those of unknown names none. -/
inductive Fills (r : Record F Ty) : Slots Ty → List (Spelling × Tree) → Slots Ty → Prop where
  | nil (slots : Slots Ty) : Fills r slots [] slots
  | skipped {slots out : Slots Ty} {name : String} {t : Tree} {rest : List (Spelling × Tree)} :
      r.find? name = none → skip t = .ok () → Fills r slots rest out →
      Fills r slots ((some name, t) :: rest) out
  | filled {slots out : Slots Ty} {name : String} {f : F} {t : Tree} {value : Ty f}
      {rest : List (Spelling × Tree)} :
      r.find? name = some f → slots f = none → (r.field f).read t = .ok value →
      Fills r (fill slots f value) rest out → Fills r slots ((some name, t) :: rest) out

theorem fills_of_fillMembers {members : List (Spelling × Tree)}
    (h : r.fillMembers slots members = .ok out) : r.Fills slots members out := by
  induction members generalizing slots with
  | nil =>
    cases h
    exact .nil _
  | cons m rest ih =>
    obtain ⟨name, t⟩ := m
    cases name with
    | none => cases h
    | some name =>
      cases hfind : r.find? name with
      | none =>
        rw [fillMembers_unknown hfind] at h
        obtain ⟨_, hskip, hrest⟩ := bind_eq_ok h
        exact .skipped hfind hskip (ih hrest)
      | some f =>
        rw [fillMembers_known hfind] at h
        by_cases hslot : (slots f).isSome
        · rw [if_pos hslot] at h
          cases h
        · rw [if_neg hslot] at h
          obtain ⟨value, hread, hrest⟩ := bind_eq_ok h
          exact .filled hfind (Option.not_isSome_iff_eq_none.mp hslot) hread (ih hrest)

theorem Fills.fillMembers_eq {members : List (Spelling × Tree)} (h : r.Fills slots members out) :
    r.fillMembers slots members = .ok out := by
  induction h with
  | nil slots => rfl
  | skipped hfind hskip _ ih =>
    rw [fillMembers_unknown hfind, hskip]
    exact ih
  | filled hfind hslot hread _ ih =>
    rw [fillMembers_known hfind, hslot, hread]
    exact ih

/-- Members fill the same slots in any order. -/
theorem Fills.perm {members members' : List (Spelling × Tree)} (hperm : members.Perm members')
    (h : r.Fills slots members out) : r.Fills slots members' out := by
  induction hperm generalizing slots with
  | nil => exact h
  | cons m _ ih =>
    cases h with
    | skipped hfind hskip hrest => exact .skipped hfind hskip (ih hrest)
    | filled hfind hslot hread hrest => exact .filled hfind hslot hread (ih hrest)
  | swap m n rest =>
    cases h with
    | skipped hfind hskip hrest =>
      cases hrest with
      | skipped hfind' hskip' hrest => exact .skipped hfind' hskip' (.skipped hfind hskip hrest)
      | filled hfind' hslot' hread' hrest =>
        exact .filled hfind' hslot' hread' (.skipped hfind hskip hrest)
    | @filled _ _ _ f _ _ _ hfind hslot hread hrest =>
      cases hrest with
      | skipped hfind' hskip' hrest => exact .skipped hfind' hskip' (.filled hfind hslot hread hrest)
      | @filled _ _ _ g _ _ _ hfind' hslot' hread' hrest =>
        -- the second finds its slot empty, so it is not that of the first
        have hne : f ≠ g := by
          rintro rfl
          rw [fill_self] at hslot'
          cases hslot'
        rw [fill_of_ne hne] at hslot'
        rw [fill_comm hne] at hrest
        refine .filled hfind' hslot' hread' (.filled hfind ?_ hread hrest)
        rw [fill_of_ne (Ne.symm hne)]
        exact hslot
  | trans _ _ ih ih' => exact ih' (ih h)

/-- No member fills the slot of the field. -/
def Lacks (r : Record F Ty) (f : F) (members : List (Spelling × Tree)) : Prop :=
  ∀ name t, (some name, t) ∈ members → r.find? name ≠ some f

/-- What is in a slot that no member fills does not matter to the others. -/
theorem Fills.fill_lacking {members : List (Spelling × Tree)} (h : r.Fills slots members out) {f : F}
    (hlacks : r.Lacks f members) (value : Ty f) :
    out f = slots f ∧ r.Fills (fill slots f value) members (fill out f value) := by
  -- members of the other fields find in their slots what they found there before
  induction h with
  | nil slots => exact ⟨rfl, .nil _⟩
  | skipped hfind hskip _ ih =>
    obtain ⟨hsame, hfills⟩ := ih fun name t hm => hlacks name t (List.mem_cons_of_mem _ hm)
    exact ⟨hsame, .skipped hfind hskip hfills⟩
  | @filled slots out name g t w rest hfind hslot hread _ ih =>
    obtain ⟨hsame, hfills⟩ := ih fun name t hm => hlacks name t (List.mem_cons_of_mem _ hm)
    have hne : g ≠ f := by
      rintro rfl
      exact hlacks name t List.mem_cons_self hfind
    rw [fill_of_ne hne] at hsame
    rw [fill_comm hne] at hfills
    refine ⟨hsame, .filled hfind ?_ hread hfills⟩
    rw [fill_of_ne (Ne.symm hne)]
    exact hslot

/-! ## Rows -/

section
variable {complete : ∀ f, f ∈ r.order} {absent : F → DecodeError}

theorem rowOf_of_missing {f : F} (h : r.missing? slots = some f) :
    r.rowOf complete absent slots = .error (absent f) := by
  unfold rowOf
  split
  · rename_i g hg
    rw [hg] at h
    cases h
    rfl
  · rename_i hnone
    rw [hnone] at h
    cases h

theorem rowOf_eq_ok_iff {row : Row Ty} :
    r.rowOf complete absent slots = .ok row ↔ ∀ f, r.settle slots f = some (row f) := by
  cases hmissing : r.missing? slots with
  | some f =>
    have hnone : r.settle slots f = none := by simpa using List.find?_some hmissing
    rw [rowOf_of_missing hmissing]
    constructor
    · intro h
      cases h
    · intro h
      have hsome := h f
      rw [hnone] at hsome
      cases hsome
  | none =>
    unfold rowOf
    split
    · rename_i f hf
      rw [hf] at hmissing
      cases hmissing
    · constructor
      · intro h f
        cases h
        exact (Option.some_get _).symm
      · intro h
        congr 1
        funext f
        exact Option.get_of_eq_some _ (h f)

theorem exists_rowOf (complete : ∀ f, f ∈ r.order) (absent : F → DecodeError)
    (h : r.missing? slots = none) : ∃ row, r.rowOf complete absent slots = .ok row := by
  unfold rowOf
  split
  · rename_i f hf
    rw [hf] at h
    cases h
  · exact ⟨_, rfl⟩

end

theorem read_object_eq_ok_iff {complete : ∀ f, f ∈ r.order} {members : List (Spelling × Tree)}
    {ending : Ending} {row : Row Ty} : r.read complete (.object members ending) = .ok row ↔
      ∃ slots, r.Fills (fun _ => none) members slots ∧ ending.check = .ok () ∧
        ∀ f, r.settle slots f = some (row f) := by
  constructor
  · intro h
    rw [read] at h
    obtain ⟨slots, hfill, h⟩ := bind_eq_ok h
    obtain ⟨_, hend, hrow⟩ := bind_eq_ok h
    exact ⟨slots, fills_of_fillMembers hfill, hend, rowOf_eq_ok_iff.mp hrow⟩
  · rintro ⟨slots, hfills, hend, hrow⟩
    have hok : r.rowOf complete (fun f => .missingField (r.field f).label) slots = .ok row :=
      rowOf_eq_ok_iff.mpr hrow
    rw [read, hfills.fillMembers_eq, hend]
    exact hok

/-! ## What is written is read back -/

variable {complete : ∀ f, f ∈ r.order} {row : Row Ty}

omit [DecidableEq F] in
/-- What an object shows of some fields: a member for each that has a document. -/
def shown (r : Record F Ty) (show? : F → Option Value) (fs : List F) : List (String × Value) :=
  fs.filterMap fun f => (show? f).map ((r.field f).label, ·)

omit [DecidableEq F] in
/-- What an object tells of some fields of a row: a member for each that is written. -/
def told (r : Record F Ty) (row : Row Ty) (fs : List F) : List (String × Value) :=
  fs.filterMap fun f => ((r.field f).write (row f)).map ((r.field f).label, ·)

omit [DecidableEq F] in
/-- To take fields away is to take away the members with their labels. -/
theorem told_filter {fs : List F} {kept : F → Bool} (keptLabel : String → Bool)
    (h : ∀ f, keptLabel (r.field f).label = kept f) :
    r.told row (fs.filter kept) = (r.told row fs).filter fun m => keptLabel m.1 := by
  induction fs with
  | nil => rfl
  | cons f fs ih =>
    unfold told at ih ⊢
    cases hwrite : (r.field f).write (row f) with
    | none =>
      cases hkept : kept f <;> simp [hwrite, hkept, ih]
    | some v =>
      cases hkept : kept f <;> simp [hwrite, hkept, h, ih]

/-- The members of shown fields fill the slots of these fields. -/
theorem fills_shown (slots : Slots Ty) {show? : F → Option Value} {fs : List F} (hfs : fs.Nodup)
    (hfind : ∀ f, r.find? (r.field f).label = some f)
    (hread : ∀ f v, show? f = some v → (r.field f).read v.tree = .ok (row f))
    (hslots : ∀ f ∈ fs, slots f = none) :
    ∃ out, r.Fills slots (memberTrees (r.shown show? fs)) out ∧
      ∀ f, out f = if f ∈ fs then (show? f).map fun _ => row f else slots f := by
  unfold shown
  -- the fields are shown in turn, and each finds its slot empty as no field is shown twice
  induction fs generalizing slots with
  | nil => exact ⟨slots, .nil _, fun f => rfl⟩
  | cons g fs ih =>
    obtain ⟨hg, hfs⟩ := List.nodup_cons.mp hfs
    obtain ⟨hfirst, hrest⟩ := List.forall_mem_cons.mp hslots
    have hrow : ∀ f, f ≠ g → (f ∈ g :: fs ↔ f ∈ fs) := fun f hf => by simp [hf]
    cases hshow : show? g with
    | none =>
      obtain ⟨out, hfills, hout⟩ := ih slots hfs hrest
      rw [List.filterMap_cons_none (by rw [hshow]; rfl)]
      refine ⟨out, hfills, fun f => ?_⟩
      rw [hout f]
      by_cases hf : f = g
      · subst hf
        rw [if_neg hg, if_pos List.mem_cons_self, hshow, hfirst]
        rfl
      · simp only [hrow f hf]
    | some v =>
      have hothers : ∀ f ∈ fs, fill slots g (row g) f = none := by
        intro f hf
        rw [fill_of_ne fun hsame : g = f => hg (hsame ▸ hf)]
        exact hrest f hf
      obtain ⟨out, hfills, hout⟩ := ih (fill slots g (row g)) hfs hothers
      rw [List.filterMap_cons_some (by rw [hshow]; rfl)]
      refine ⟨out, .filled (hfind g) hfirst (hread g v hshow) hfills, fun f => ?_⟩
      rw [hout f]
      by_cases hf : f = g
      · subst hf
        rw [if_neg hg, if_pos List.mem_cons_self, hshow, fill_self]
        rfl
      · simp only [hrow f hf, fill_of_ne (Ne.symm hf)]

/-- An object that shows some fields is read as a row that has what these show, and what all others
    fall back to. -/
theorem read_shown {show? : F → Option Value} {fs : List F} {row' : Row Ty} (hfs : fs.Nodup)
    (hfind : ∀ f, r.find? (r.field f).label = some f)
    (hread : ∀ f v, show? f = some v → (r.field f).read v.tree = .ok (row f))
    (hrow : ∀ f, (if f ∈ fs then (show? f).map fun _ => row f else none).or
      (r.field f).fallback = some (row' f)) :
    r.read complete (Value.object (r.shown show? fs)).tree = .ok row' := by
  obtain ⟨slots, hfills, hslots⟩ := fills_shown (fun _ => none) hfs hfind hread fun _ _ => rfl
  refine read_object_eq_ok_iff.mpr ⟨slots, hfills, rfl, fun f => ?_⟩
  rw [settle, hslots f]
  exact hrow f

/-- The same for an object that tells some fields of a row. -/
theorem read_told {fs : List F} {row' : Row Ty} (hfs : fs.Nodup)
    (hfind : ∀ f, r.find? (r.field f).label = some f)
    (hread : ∀ f v, (r.field f).write (row f) = some v → (r.field f).read v.tree = .ok (row f))
    (hrow : ∀ f, (if f ∈ fs then ((r.field f).write (row f)).map fun _ => row f else none).or
      (r.field f).fallback = some (row' f)) :
    r.read complete (Value.object (r.told row fs)).tree = .ok row' :=
  read_shown hfs hfind hread hrow

theorem read_write (hnodup : r.order.Nodup) (hfind : ∀ f, r.find? (r.field f).label = some f)
    (hread : ∀ f v, (r.field f).write (row f) = some v → (r.field f).read v.tree = .ok (row f))
    (habsent : ∀ f, (r.field f).write (row f) = none → (r.field f).fallback = some (row f)) :
    r.read complete (r.write row).tree = .ok row := by
  refine read_told hnodup hfind hread fun f => ?_
  rw [if_pos (complete f)]
  cases hwrite : (r.field f).write (row f) with
  | none => exact habsent f hwrite
  | some v => rfl

/-- The same for a reader that makes something of the row. -/
theorem bind_read_write {α : Type} {make : Row Ty → Except DecodeError α} (hnodup : r.order.Nodup)
    (hfind : ∀ f, r.find? (r.field f).label = some f)
    (hread : ∀ f v, (r.field f).write (row f) = some v → (r.field f).read v.tree = .ok (row f))
    (habsent : ∀ f, (r.field f).write (row f) = none → (r.field f).fallback = some (row f)) :
    (r.read complete (r.write row).tree >>= make) = make row :=
  bind_of_eq_ok (read_write hnodup hfind hread habsent)

omit [DecidableEq F] in
/-- A record is one level deeper than its fields. -/
theorem fits_write {depth : Nat} (r : Record F Ty) (row : Row Ty)
    (h : ∀ f v, (r.field f).write (row f) = some v → v.Fits depth) :
    (r.write row).Fits (depth + 1) := by
  refine .object fun m hm => ?_
  obtain ⟨f, _, hf⟩ := List.mem_filterMap.mp hm
  obtain ⟨v, hv, rfl⟩ := Option.map_eq_some_iff.mp hf
  exact h f v hv

omit [DecidableEq F] in
theorem plain_write {depth : Nat} (r : Record F Ty) (row : Row Ty)
    (h : ∀ f v, (r.field f).write (row f) = some v → v.Plain depth) :
    (r.write row).Plain (depth + 1) := by
  refine plain_object fun m hm => ?_
  obtain ⟨f, _, hf⟩ := List.mem_filterMap.mp hm
  obtain ⟨v, hv, rfl⟩ := Option.map_eq_some_iff.mp hf
  exact h f v hv

end Record

/-! ## Values of fields -/

theorem asNatBelow_eq_ok_iff {bound : Nat} {expected : String} {i : Int} {n : Nat} :
    asNatBelow bound expected (.number (.integer i)) = .ok n ↔ i = n ∧ n < bound := by
  unfold asNatBelow asIntegerIn
  dsimp only
  by_cases hrange : 0 ≤ i ∧ i ≤ bound - 1
  · rw [if_pos hrange]
    constructor
    · intro h
      cases h
      omega
    · rintro ⟨rfl, _⟩
      rfl
  · rw [if_neg hrange]
    constructor
    · intro h
      cases h
    · rintro ⟨rfl, hlt⟩
      exact absurd ⟨Int.natCast_nonneg n, by omega⟩ hrange

/-- A written list is read back when its elements are. -/
theorem asList_tree {α : Type} {read : Reader α} {write : α → Value} {l : List α}
    (h : ∀ a ∈ l, read (write a).tree = .ok a) :
    asList read (Value.list (l.map write)).tree = .ok l := by
  have hitems : readItems read (itemTrees (l.map write)) = .ok l := by
    induction l with
    | nil => rfl
    | cons a rest ih =>
      obtain ⟨hfirst, hrest⟩ := List.forall_mem_cons.mp h
      rw [List.map_cons, itemTrees, readItems, hfirst, ih hrest]
      rfl
  rw [Value.tree, asList, hitems]
  rfl

end AdapterGateway.Json
