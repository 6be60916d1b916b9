import AdapterGateway.Proofs.Json.Records
import Mathlib.Data.List.Forall2

/-!
# Edits of records

Two ways to write one record.  Trees that differ inside some of their fields only are read to rows that
differ in these fields only, unless one of the fields is refused.  Putting members in another order,
adding some of unknown names and writing null for what is absent keep the row.
-/

namespace AdapterGateway.Json

/-! ## Outcomes side by side -/

/-- Two outcomes are values related by `Q` or the same error.  All others have an error with `P` on the
    left or one with `P'` on the right. -/
def Agree {α β : Type} (P P' : DecodeError → Prop) (Q : α → β → Prop) :
    Except DecodeError α → Except DecodeError β → Prop
  | .ok a, .ok b => Q a b
  | .error e, .error e' => e = e' ∨ P e ∨ P' e'
  | .error e, .ok _ => P e
  | .ok _, .error e' => P' e'

/-- The two are equal if that is asked for. -/
def Like {α : Type} (strict : Prop) (a b : α) : Prop := strict → a = b

section
variable {α β γ δ : Type} {P P' : DecodeError → Prop} {Q : α → β → Prop} {R : γ → δ → Prop}
  {strict : Prop}

theorem agree_refl {Q : α → α → Prop} (hQ : ∀ a, Q a a) (x : Except DecodeError α) :
    Agree P P' Q x x := by
  cases x with
  | error e => exact .inl rfl
  | ok a => exact hQ a

theorem agree_like_refl (x : Except DecodeError α) : Agree P P' (Like strict) x x :=
  agree_refl (fun _ _ => rfl) x

theorem Agree.bind {x : Except DecodeError α} {y : Except DecodeError β}
    {f : α → Except DecodeError γ} {g : β → Except DecodeError δ} (h : Agree P P' Q x y)
    (hf : ∀ a b, Q a b → Agree P P' R (f a) (g b)) : Agree P P' R (x >>= f) (y >>= g) := by
  cases x with
  | error e =>
    cases y with
    | error e' => exact h
    -- one side has stopped with an error, and whatever comes of the other does not undo it
    | ok b =>
      change Agree P P' R (.error e) (g b)
      cases g b with
      | error e' => exact .inr (.inl h)
      | ok d => exact h
  | ok a =>
    cases y with
    | error e' =>
      change Agree P P' R (f a) (.error e')
      cases f a with
      | error e => exact .inr (.inr h)
      | ok c => exact h
    | ok b => exact hf a b h

/-- Two programs with one first step. -/
theorem agree_bind (x : Except DecodeError α) {f : α → Except DecodeError γ}
    {g : α → Except DecodeError δ} (hf : ∀ a, Agree P P' R (f a) (g a)) :
    Agree P P' R (x >>= f) (x >>= g) := by
  cases x with
  | error e => exact .inl rfl
  | ok a => exact hf a

theorem Agree.map {x y : Except DecodeError α} (h : Agree P P' (Like strict) x y) (f : α → γ) :
    Agree P P' (Like strict) (x.map f) (y.map f) := by
  cases x <;> cases y
  · exact h
  · exact h
  · exact h
  · exact fun hstrict => congrArg f (h hstrict)

variable {read : Reader α} {t t' : Tree}

/-- What is read out of the one tree is read out of the other too. -/
def Keeps (read : Reader α) (t t' : Tree) : Prop := ∀ a, read t = .ok a → read t' = .ok a

theorem keeps_iff_agree : Keeps read t t' ↔
    Agree (fun _ => True) (fun _ => False) (Like True) (read t) (read t') := by
  unfold Keeps
  cases read t with
  | error e =>
    have hagree (y : Except DecodeError α) :
        Agree (fun _ => True) (fun _ => False) (Like True) (.error e) y := by
      cases y
      · exact .inr (.inl trivial)
      · trivial
    refine ⟨fun _ => hagree _, fun _ a h => ?_⟩
    cases h
  | ok a =>
    constructor
    · intro h
      rw [h a rfl]
      exact fun _ => rfl
    · rintro h _ ⟨⟩
      cases hread : read t' with
      | error e' =>
        rw [hread] at h
        exact h.elim
      | ok b =>
        rw [hread] at h
        rw [h trivial]

theorem Keeps.bind (h : Keeps read t t') (f : α → Except DecodeError γ) :
    Keeps (fun t => read t >>= f) t t' := by
  intro c hc
  obtain ⟨a, hread, hmade⟩ := bind_eq_ok hc
  dsimp only
  rw [h a hread]
  exact hmade

theorem asOptional_of_ne (ht : t ≠ .null) : asOptional read t = (read t).map some := by
  cases t <;> first | rfl | exact absurd rfl ht

theorem read_of_asOptional {a : α} (h : asOptional read t = .ok (some a)) : read t = .ok a := by
  have ht : t ≠ .null := by
    rintro rfl
    cases h
  rw [asOptional_of_ne ht] at h
  obtain ⟨b, hread, hb⟩ := map_eq_ok h
  cases hb
  exact hread

theorem agree_asOptional (ht : t ≠ .null) (ht' : t' ≠ .null)
    (h : Agree P P' (Like strict) (read t) (read t')) :
    Agree P P' (Like strict) (asOptional read t) (asOptional read t') := by
  rw [asOptional_of_ne ht, asOptional_of_ne ht']
  exact h.map some

/-- Trees that are equal or related stand beside each other in two lists. -/
inductive ListBeside (S : Tree → Tree → Prop) : Tree → Tree → Prop where
  | list {items items' : List Tree} (ending : Ending) :
      List.Forall₂ (fun t t' => t = t' ∨ S t t') items items' →
      ListBeside S (.list items ending) (.list items' ending)

variable {S : Tree → Tree → Prop}

theorem agree_readItems (hS : ∀ t t', S t t' → Agree P P' (Like strict) (read t) (read t'))
    {items items' : List Tree} (h : List.Forall₂ (fun t t' => t = t' ∨ S t t') items items') :
    Agree P P' (Like strict) (readItems read items) (readItems read items') := by
  induction h with
  | nil => exact agree_like_refl _
  | @cons t t' _ _ hfirst _ ih =>
    have hread : Agree P P' (Like strict) (read t) (read t') := by
      rcases hfirst with rfl | hfirst
      · exact agree_like_refl _
      · exact hS t t' hfirst
    refine hread.bind fun a b hab => ih.bind fun as bs hrest => ?_
    exact fun hstrict => congrArg₂ List.cons (hab hstrict) (hrest hstrict)

theorem agree_asList (hS : ∀ t t', S t t' → Agree P P' (Like strict) (read t) (read t'))
    (h : ListBeside S t t') : Agree P P' (Like strict) (asList read t) (asList read t') := by
  obtain ⟨ending, hitems⟩ := h
  refine (agree_readItems hS hitems).bind fun as bs hrest => ?_
  exact agree_bind ending.check fun _ => hrest

theorem keeps_asOptional (ht : t ≠ .null) (ht' : t' ≠ .null) (h : Keeps read t t') :
    Keeps (asOptional read) t t' :=
  keeps_iff_agree.mpr (agree_asOptional ht ht' (keeps_iff_agree.mp h))

theorem keeps_asList (hS : ∀ t t', S t t' → Keeps read t t') (h : ListBeside S t t') :
    Keeps (asList read) t t' :=
  keeps_iff_agree.mpr (agree_asList (fun t t' h => keeps_iff_agree.mp (hS t t' h)) h)

end

namespace Record

variable {F : Type} {Ty : F → Type} [DecidableEq F] {r : Record F Ty} {slots slots' out : Slots Ty}

/-! ## Edits that keep the row -/

/-- Null stands for the field being absent. -/
def Nullable (r : Record F Ty) (f : F) : Prop :=
  ∃ value, (r.field f).read .null = .ok value ∧ (r.field f).fallback = some value

/-- Members of one name and with equal contents, or with contents related by `S` for their field. -/
inductive MemberBeside (r : Record F Ty) (S : F → Tree → Tree → Prop) :
    Spelling × Tree → Spelling × Tree → Prop where
  | same (m : Spelling × Tree) : MemberBeside r S m m
  | content {name : String} {f : F} {t t' : Tree} : r.find? name = some f → S f t t' →
      MemberBeside r S (some name, t) (some name, t')

/-- Elements in the places of the given fields that are equal, or related by `S` for the field. -/
def ItemsBeside (S : F → Tree → Tree → Prop) : List F → List Tree → List Tree → Prop
  | f :: fs, t :: rest, t' :: rest' => (t = t' ∨ S f t t') ∧ ItemsBeside S fs rest rest'
  | _, items, items' => items = items'

/-- Two objects or two lists that are the same but for trees related by `S`, each in the place of its
    field. -/
inductive Beside (r : Record F Ty) (S : F → Tree → Tree → Prop) : Tree → Tree → Prop where
  | object {members members' : List (Spelling × Tree)} (ending : Ending) :
      List.Forall₂ (r.MemberBeside S) members members' →
      Beside r S (.object members ending) (.object members' ending)
  | list {items items' : List Tree} (ending : Ending) : ItemsBeside S r.order items items' →
      Beside r S (.list items ending) (.list items' ending)

section
variable {P P' : DecodeError → Prop} {strict : Prop} {S : F → Tree → Tree → Prop}

/-- Slots that are filled alike. -/
def SlotsLike (strict : Prop) (slots slots' : Slots Ty) : Prop :=
  ∀ f, (slots f).isSome = (slots' f).isSome ∧ Like strict (slots f) (slots' f)

theorem SlotsLike.fill {f : F} {value value' : Ty f} (h : SlotsLike strict slots slots')
    (hvalue : Like strict value value') :
    SlotsLike strict (fill slots f value) (fill slots' f value') := by
  intro g
  by_cases hg : f = g
  · subst hg
    rw [fill_self, fill_self]
    exact ⟨rfl, fun hstrict => congrArg some (hvalue hstrict)⟩
  · rw [fill_of_ne hg, fill_of_ne hg]
    exact h g

omit [DecidableEq F] in
theorem SlotsLike.settle (h : SlotsLike strict slots slots') (f : F) :
    (r.settle slots f).isSome = (r.settle slots' f).isSome ∧
      Like strict (r.settle slots f) (r.settle slots' f) := by
  obtain ⟨hsome, hlike⟩ := h f
  refine ⟨?_, fun hstrict => ?_⟩
  · rw [Record.settle, Record.settle, Option.isSome_or, Option.isSome_or, hsome]
  · rw [Record.settle, Record.settle, hlike hstrict]

theorem agree_rowOf {complete : ∀ f, f ∈ r.order} {absent : F → DecodeError}
    (h : SlotsLike strict slots slots') : Agree P P' (Like strict)
      (r.rowOf complete absent slots) (r.rowOf complete absent slots') := by
  have hmissing : r.missing? slots = r.missing? slots' := by
    have hnone : (fun f => (r.settle slots f).isNone) = fun f => (r.settle slots' f).isNone := by
      funext f
      rw [← Option.not_isSome, ← Option.not_isSome, (h.settle f).1]
    rw [missing?, missing?, hnone]
  cases hslots : r.missing? slots with
  | some f =>
    rw [rowOf_of_missing hslots, rowOf_of_missing (hmissing ▸ hslots)]
    exact .inl rfl
  | none =>
    obtain ⟨row, hrow⟩ := exists_rowOf complete absent hslots
    obtain ⟨row', hrow'⟩ := exists_rowOf complete absent (hmissing ▸ hslots)
    rw [hrow, hrow']
    -- both rows are there; if they are to be equal, so are the settled slots they are made of
    intro hstrict
    funext f
    have hsettle := (h.settle (r := r) f).2 hstrict
    rw [rowOf_eq_ok_iff.mp hrow f, rowOf_eq_ok_iff.mp hrow' f] at hsettle
    exact Option.some.inj hsettle

theorem agree_fillMembers
    (hS : ∀ f t t', S f t t' → Agree P P' (Like strict) ((r.field f).read t) ((r.field f).read t'))
    {members members' : List (Spelling × Tree)} (h : List.Forall₂ (r.MemberBeside S) members members')
    (hslots : SlotsLike strict slots slots') :
    Agree P P' (SlotsLike strict) (r.fillMembers slots members) (r.fillMembers slots' members') := by
  induction h generalizing slots slots' with
  | nil => exact hslots
  | @cons m m' rest rest' hfirst _ ih =>
    -- both members have one name, and what they hold is read alike by the field of that name
    have hmember : ∃ name t t', m = (name, t) ∧ m' = (name, t') ∧
        (∀ n, name = some n → r.find? n = none → t = t') ∧
        ∀ n f, name = some n → r.find? n = some f →
          Agree P P' (Like strict) ((r.field f).read t) ((r.field f).read t') := by
      cases hfirst with
      | same => exact ⟨m.1, m.2, m.2, rfl, rfl, fun _ _ _ => rfl, fun _ _ _ _ => agree_like_refl _⟩
      | @content name f t t' hfind hrelated =>
        refine ⟨some name, t, t', rfl, rfl, ?_, ?_⟩
        · rintro n ⟨⟩ hnone
          rw [hfind] at hnone
          cases hnone
        · rintro n g ⟨⟩ hg
          rw [hfind] at hg
          cases hg
          exact hS f t t' hrelated
    obtain ⟨name, t, t', rfl, rfl, hunknown, hknown⟩ := hmember
    cases name with
    | none => exact .inl rfl
    | some n =>
      cases hfind : r.find? n with
      | none =>
        rw [fillMembers_unknown hfind, fillMembers_unknown hfind, hunknown n rfl hfind]
        exact agree_bind (skip t') fun _ => ih hslots
      | some f =>
        rw [fillMembers_known hfind, fillMembers_known hfind, (hslots f).1]
        by_cases hfull : (slots' f).isSome
        · rw [if_pos hfull, if_pos hfull]
          exact .inl rfl
        · rw [if_neg hfull, if_neg hfull]
          exact (hknown n f rfl hfind).bind fun _ _ hvalue => ih (hslots.fill hvalue)

theorem agree_fillItems
    (hS : ∀ f t t', S f t t' → Agree P P' (Like strict) ((r.field f).read t) ((r.field f).read t'))
    {fs : List F} {items items' : List Tree} (h : ItemsBeside S fs items items')
    (hslots : SlotsLike strict slots slots') :
    Agree P P' (fun x x' => SlotsLike strict x.1 x'.1 ∧ x.2 = x'.2)
      (r.fillItems slots fs items) (r.fillItems slots' fs items') := by
  induction fs generalizing slots slots' items items' with
  | nil =>
    have hsame : items = items' := by cases items <;> exact h
    rw [hsame]
    exact ⟨hslots, rfl⟩
  | cons f fs ih =>
    cases items with
    | nil =>
      cases items' with
      | nil => exact ⟨hslots, rfl⟩
      | cons t' rest' => cases h
    | cons t rest =>
      cases items' with
      | nil => cases h
      | cons t' rest' =>
        have hread : Agree P P' (Like strict) ((r.field f).read t) ((r.field f).read t') := by
          rcases h.1 with rfl | hrelated
          · exact agree_like_refl _
          · exact hS f t t' hrelated
        exact hread.bind fun _ _ hvalue => ih h.2 (hslots.fill hvalue)

omit [DecidableEq F] in
theorem ItemsBeside.length_eq {fs : List F} {items items' : List Tree}
    (h : ItemsBeside S fs items items') : items.length = items'.length := by
  induction fs generalizing items items' with
  | nil =>
    have hsame : items = items' := by cases items <;> exact h
    rw [hsame]
  | cons f fs ih =>
    cases items with
    | nil =>
      cases items' with
      | nil => rfl
      | cons t' rest' => cases h
    | cons t rest =>
      cases items' with
      | nil => cases h
      | cons t' rest' => rw [List.length_cons, List.length_cons, ih h.2]

/-- Trees that stand beside each other are read alike, as far as their fields are. -/
theorem agree_read (complete : ∀ f, f ∈ r.order)
    (hS : ∀ f t t', S f t t' → Agree P P' (Like strict) ((r.field f).read t) ((r.field f).read t'))
    {t t' : Tree} (h : r.Beside S t t') :
    Agree P P' (Like strict) (r.read complete t) (r.read complete t') := by
  have hempty : SlotsLike strict (fun _ => none : Slots Ty) fun _ => none :=
    fun _ => ⟨rfl, fun _ => rfl⟩
  cases h with
  | object ending hmembers =>
    refine (agree_fillMembers hS hmembers hempty).bind fun slots slots' hslots => ?_
    exact agree_bind ending.check fun _ => agree_rowOf hslots
  | @list items items' ending hitems =>
    rw [read, read, hitems.length_eq]
    refine (agree_fillItems hS hitems hempty).bind fun x x' hx => ?_
    obtain ⟨slots, rest⟩ := x
    obtain ⟨slots', rest'⟩ := x'
    obtain ⟨hslots, rfl⟩ := hx
    dsimp only
    by_cases hshort : ending = .broken ∧ items'.length < r.order.length
    · rw [if_pos hshort, if_pos hshort]
      exact .inl rfl
    · rw [if_neg hshort, if_neg hshort]
      refine (agree_rowOf hslots).bind fun row row' hrow => ?_
      by_cases hended : ending = .lax ∨ (ending = .exact ∧ rest.isEmpty)
      · rw [if_pos hended, if_pos hended]
        exact hrow
      · rw [if_neg hended, if_neg hended]
        exact .inl rfl

theorem agree_read_map {α : Type} {complete : ∀ f, f ∈ r.order}
    (hS : ∀ f t t', S f t t' → Agree P P' (Like strict) ((r.field f).read t) ((r.field f).read t'))
    (g : Row Ty → α) {t t' : Tree} (h : r.Beside S t t') :
    Agree P P' (Like strict) (do return g (← r.read complete t)) (do return g (← r.read complete t')) :=
  (agree_read complete hS h).bind fun _ _ hrow hstrict => congrArg g (hrow hstrict)

end

/-- One change to how a record is written. -/
inductive Edit (r : Record F Ty) (S : F → Tree → Tree → Prop) : Tree → Tree → Prop where
  | permute {members members' : List (Spelling × Tree)} (ending : Ending) :
      members.Perm members' → Edit r S (.object members ending) (.object members' ending)
  /-- A member of a name that no field has, with any value. -/
  | add {name : String} {t : Tree} (members : List (Spelling × Tree)) (ending : Ending) :
      r.find? name = none → skip t = .ok () →
      Edit r S (.object members ending) (.object ((some name, t) :: members) ending)
  /-- Another name of the same field. -/
  | rename {name name' : String} {f : F} (t : Tree) (members : List (Spelling × Tree))
      (ending : Ending) : r.find? name = some f → r.find? name' = some f →
      Edit r S (.object ((some name, t) :: members) ending)
        (.object ((some name', t) :: members) ending)
  | null {name : String} {f : F} {members : List (Spelling × Tree)} (ending : Ending) :
      r.find? name = some f → r.Lacks f members → r.Nullable f →
      Edit r S (.object members ending) (.object ((some name, .null) :: members) ending)
  /-- Changes to the contents of fields. -/
  | inside {t t' : Tree} : r.Beside S t t' → Edit r S t t'

omit [DecidableEq F] in
theorem Beside.ne_null {S : F → Tree → Tree → Prop} {t t' : Tree} (h : r.Beside S t t') :
    t ≠ .null ∧ t' ≠ .null := by
  cases h <;> constructor <;> intro hnull <;> cases hnull

omit [DecidableEq F] in
theorem Edit.ne_null {S : F → Tree → Tree → Prop} {t t' : Tree} (h : r.Edit S t t') :
    t ≠ .null ∧ t' ≠ .null := by
  cases h with
  | inside h => exact h.ne_null
  | _ => constructor <;> intro hnull <;> cases hnull

theorem Edit.keeps {complete : ∀ f, f ∈ r.order} {S : F → Tree → Tree → Prop}
    (hS : ∀ f t t', S f t t' → Keeps (r.field f).read t t') {t t' : Tree} (h : r.Edit S t t') :
    Keeps (r.read complete) t t' := by
  intro row hread
  cases h with
  | permute ending hperm =>
    obtain ⟨slots, hfills, hend, hrow⟩ := read_object_eq_ok_iff.mp hread
    exact read_object_eq_ok_iff.mpr ⟨slots, hfills.perm hperm, hend, hrow⟩
  | add members ending hfind hskip =>
    obtain ⟨slots, hfills, hend, hrow⟩ := read_object_eq_ok_iff.mp hread
    exact read_object_eq_ok_iff.mpr ⟨slots, .skipped hfind hskip hfills, hend, hrow⟩
  | rename t members ending hfind hfind' =>
    obtain ⟨slots, hfills, hend, hrow⟩ := read_object_eq_ok_iff.mp hread
    refine read_object_eq_ok_iff.mpr ⟨slots, ?_, hend, hrow⟩
    cases hfills with
    | skipped hnone _ _ =>
      rw [hfind] at hnone
      cases hnone
    | filled hsome hslot hvalue hrest =>
      rw [hfind] at hsome
      cases hsome
      exact .filled hfind' hslot hvalue hrest
  | @null name f members ending hfind hlacks hnull =>
    obtain ⟨slots, hfills, hend, hrow⟩ := read_object_eq_ok_iff.mp hread
    obtain ⟨value, hvalue, hfallback⟩ := hnull
    obtain ⟨hslot, hfilled⟩ := hfills.fill_lacking hlacks value
    refine read_object_eq_ok_iff.mpr
      ⟨fill slots f value, .filled hfind rfl hvalue hfilled, hend, fun g => ?_⟩
    -- the slot holds what its field falls back to
    rw [← hrow g, settle, settle]
    by_cases hg : f = g
    · subst hg
      rw [fill_self, hslot, hfallback]
      rfl
    · rw [fill_of_ne hg]
  | inside hbeside =>
    have hagree := agree_read complete
      (fun f t t' h => keeps_iff_agree.mp (hS f t t' h)) hbeside
    exact keeps_iff_agree.mpr hagree row hread

end Record

end AdapterGateway.Json
