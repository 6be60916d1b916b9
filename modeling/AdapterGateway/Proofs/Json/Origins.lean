import AdapterGateway.Proofs.Json.Records
import Mathlib.Data.List.Forall2

/-!
# Where a row comes from

A document that is read as a record has for each field at most one tree, under the label of the field
in an object and at its place in a list.  The value of the field is read out of this tree, and where
there is none it is what the field falls back to.
-/

namespace AdapterGateway.Json

/-! ## Values -/

theorem asString_eq_ok_iff {t : Tree} {s : String} : asString t = .ok s ↔ t = .string (some s) := by
  constructor
  · intro h
    unfold asString at h
    split at h
    · cases h
      rfl
    · exact absurd h (refuse_ne_ok _ _ _)
  · rintro rfl
    rfl

/-- What is no text is refused for what it is. -/
theorem asString_of_ne {t : Tree} (h : ∀ s, t ≠ .string (some s)) :
    asString t = t.refuse "a string" := by
  unfold asString
  split
  · rename_i s
    exact absurd rfl (h s)
  · rfl

theorem found?_eq_string_iff {t : Tree} {s : String} :
    t.found? = some (.string s) ↔ t = .string (some s) := by
  constructor
  · intro h
    cases t with
    | number n => cases n <;> cases h
    | string spelling =>
      cases spelling with
      | none => cases h
      | some s' =>
        cases h
        rfl
    | deep isList ending => cases isList <;> cases h
    | _ => cases h
  · rintro rfl
    rfl

theorem asBool_eq_ok_iff {t : Tree} {b : Bool} : asBool t = .ok b ↔ t = .bool b := by
  constructor
  · intro h
    unfold asBool at h
    split at h
    · cases h
      rfl
    · exact absurd h (refuse_ne_ok _ _ _)
  · rintro rfl
    rfl

/-- The trees inside a pair of brackets. -/
def Tree.children : Tree → List Tree
  | .list items _ => items
  | .object members _ => members.map (·.2)
  | _ => []

section
variable {α : Type} {read : Reader α} {items : List Tree} {t : Tree} {values : List α}

theorem forall₂_of_readItems (h : readItems read items = .ok values) :
    List.Forall₂ (fun t a => read t = .ok a) items values := by
  induction items generalizing values with
  | nil =>
    cases h
    exact .nil
  | cons t rest ih =>
    rw [readItems] at h
    obtain ⟨a, hread, h⟩ := bind_eq_ok h
    obtain ⟨as, hrest, h⟩ := bind_eq_ok h
    cases h
    exact .cons hread (ih hrest)

theorem list_of_asList (h : asList read t = .ok values) :
    ∃ items ending, t = .list items ending ∧ readItems read items = .ok values := by
  have hrefused (h : t.refuse "a sequence" = .ok values) :
      ∃ items ending, t = .list items ending ∧ readItems read items = .ok values :=
    absurd h (refuse_ne_ok _ _ _)
  cases t with
  | list items ending =>
    rw [asList] at h
    obtain ⟨as, hitems, h⟩ := bind_eq_ok h
    obtain ⟨_, _, h⟩ := bind_eq_ok h
    cases h
    exact ⟨items, ending, rfl, hitems⟩
  | deep isList ending =>
    cases isList with
    | true => cases h
    | false => exact hrefused h
  | _ => exact hrefused h

/-- The elements of a list that is read are read out of the trees inside it. -/
theorem exists_child_of_asList (h : asList read t = .ok values) {a : α} (ha : a ∈ values) :
    ∃ child ∈ t.children, read child = .ok a := by
  obtain ⟨items, ending, rfl, hitems⟩ := list_of_asList h
  have hall := forall₂_of_readItems hitems
  clear hitems h
  change ∃ child ∈ items, read child = .ok a
  induction hall with
  | nil => cases ha
  | cons hread _ ih =>
    rcases List.mem_cons.mp ha with rfl | ha
    · exact ⟨_, List.mem_cons_self, hread⟩
    · obtain ⟨child, hchild, hvalue⟩ := ih ha
      exact ⟨child, List.mem_cons_of_mem _ hchild, hvalue⟩

end

/-! ## Records -/

namespace Record

variable {F : Type} {Ty : F → Type} {r : Record F Ty}

/-- A field without a second name is found under its label only. -/
theorem eq_label_of_find? {f : F} (hsecond : (r.field f).secondName = none) {name : String}
    (h : r.find? name = some f) : name = (r.field f).label := by
  have hfound := List.find?_some h
  rw [hsecond, Bool.or_eq_true, beq_iff_eq] at hfound
  rcases hfound with hlabel | hnone
  · exact hlabel.symm
  · cases hnone

variable [DecidableEq F] {slots out : Slots Ty} {row : Row Ty}

/-- Once the slot of a field is filled, no member behind fills it. -/
theorem Fills.lacks_of_filled {members : List (Spelling × Tree)} (h : r.Fills slots members out)
    {f : F} {value : Ty f} (hslot : slots f = some value) :
    r.Lacks f members ∧ out f = some value := by
  induction h with
  | nil slots => exact ⟨fun _ _ hm => (nomatch hm), hslot⟩
  | skipped hfind _ _ ih =>
    obtain ⟨hlacks, hout⟩ := ih hslot
    refine ⟨fun name t hm => ?_, hout⟩
    rcases List.mem_cons.mp hm with heq | hm
    · cases heq
      rw [hfind]
      exact (Option.some_ne_none f).symm
    · exact hlacks name t hm
  | @filled slots out name g t w rest hfind hempty _ _ ih =>
    have hne : g ≠ f := by
      rintro rfl
      rw [hempty] at hslot
      cases hslot
    obtain ⟨hlacks, hout⟩ := ih (by rw [fill_of_ne hne, hslot])
    refine ⟨fun name t hm => ?_, hout⟩
    rcases List.mem_cons.mp hm with heq | hm
    · cases heq
      rw [hfind]
      exact fun h => hne (Option.some.inj h)
    · exact hlacks name t hm

/-- What becomes of an empty slot: the one member under the label of its field is read into it, and it
    stays empty where there is none. -/
theorem Fills.member_of_empty {members : List (Spelling × Tree)} (h : r.Fills slots members out)
    {f : F} (hfind : r.find? (r.field f).label = some f)
    (hsecond : (r.field f).secondName = none) (hslot : slots f = none) :
    ∃ given : Option Tree, (∀ t, (some (r.field f).label, t) ∈ members ↔ given = some t) ∧
      given.elim (out f = none) fun t =>
        ∃ value, (r.field f).read t = .ok value ∧ out f = some value := by
  induction h with
  | nil slots => exact ⟨none, fun t => by simp, hslot⟩
  | @skipped slots out name t rest hunknown _ _ ih =>
    obtain ⟨given, hgiven, hout⟩ := ih hslot
    refine ⟨given, fun u => ?_, hout⟩
    rw [List.mem_cons, ← hgiven u]
    refine or_iff_right fun heq => ?_
    cases heq
    rw [hfind] at hunknown
    cases hunknown
  | @filled slots out name g t w rest hknown hempty hread hrest ih =>
    by_cases hg : g = f
    · -- the member is the first that fills the slot, and so the last
      subst hg
      obtain ⟨hlacks, hout⟩ := hrest.lacks_of_filled (fill_self slots g w)
      cases eq_label_of_find? hsecond hknown
      refine ⟨some t, fun u => ?_, w, hread, hout⟩
      rw [List.mem_cons, or_iff_left fun hm => hlacks _ u hm hfind]
      simp [eq_comm]
    · obtain ⟨given, hgiven, hout⟩ := ih (by rw [fill_of_ne hg, hslot])
      refine ⟨given, fun u => ?_, hout⟩
      rw [List.mem_cons, ← hgiven u]
      refine or_iff_right fun heq => ?_
      cases heq
      rw [hfind] at hknown
      exact hg (Option.some.inj hknown).symm

theorem fillItems_of_not_mem {fs : List F} {items rest : List Tree}
    (h : r.fillItems slots fs items = .ok (out, rest)) {f : F} (hf : f ∉ fs) : out f = slots f := by
  induction fs generalizing slots items with
  | nil =>
    cases h
    rfl
  | cons g fs ih =>
    cases items with
    | nil =>
      cases h
      rfl
    | cons t items =>
      rw [fillItems] at h
      obtain ⟨value, _, hrest⟩ := bind_eq_ok h
      rw [List.mem_cons, not_or] at hf
      rw [ih hrest hf.2, fill_of_ne (Ne.symm hf.1)]

/-- The item at the place of a field is read into its slot, which stays empty where the list stops
    before. -/
theorem item_of_fillItems {fs : List F} (hfs : fs.Nodup) {items rest : List Tree}
    (h : r.fillItems slots fs items = .ok (out, rest)) {f : F} (hf : f ∈ fs) (hslot : slots f = none) :
    items[fs.idxOf f]?.elim (out f = none) fun t =>
      ∃ value, (r.field f).read t = .ok value ∧ out f = some value := by
  induction fs generalizing slots items with
  | nil => cases hf
  | cons g fs ih =>
    obtain ⟨hg, hfs⟩ := List.nodup_cons.mp hfs
    cases items with
    | nil =>
      cases h
      exact hslot
    | cons t items =>
      rw [fillItems] at h
      obtain ⟨value, hread, hrest⟩ := bind_eq_ok h
      by_cases hsame : g = f
      · subst hsame
        rw [List.idxOf_cons_self, List.getElem?_cons_zero, Option.elim_some]
        exact ⟨value, hread, by rw [fillItems_of_not_mem hrest hg, fill_self]⟩
      · rw [List.idxOf_cons_ne fs hsame, List.getElem?_cons_succ]
        have hf := (List.mem_cons.mp hf).resolve_left (Ne.symm hsame)
        exact ih hfs hrest hf (by rw [fill_of_ne hsame, hslot])

theorem slots_of_read_list {complete : ∀ f, f ∈ r.order} {items : List Tree} {ending : Ending}
    (h : r.read complete (.list items ending) = .ok row) :
    ∃ slots rest, r.fillItems (fun _ => none) r.order items = .ok (slots, rest) ∧
      ∀ f, r.settle slots f = some (row f) := by
  rw [read] at h
  obtain ⟨x, hfill, h⟩ := bind_eq_ok h
  obtain ⟨slots, rest⟩ := x
  refine ⟨slots, rest, hfill, ?_⟩
  dsimp only at h
  split at h
  · cases h
  · obtain ⟨found, hrow, h⟩ := bind_eq_ok h
    split at h
    · cases h
      exact rowOf_eq_ok_iff.mp hrow
    · cases h

/-- `r.Gives f t root`: `t` stands for the field in `root`, under its label in an object or at its place
    in a list. -/
inductive Gives (r : Record F Ty) (f : F) (t : Tree) : Tree → Prop where
  | member {members : List (Spelling × Tree)} {ending : Ending} :
      (some (r.field f).label, t) ∈ members → Gives r f t (.object members ending)
  | item {items : List Tree} {ending : Ending} :
      items[r.order.idxOf f]? = some t → Gives r f t (.list items ending)

/-- `given` is all that stands for the field in `root`. -/
def Offers (r : Record F Ty) (f : F) (root : Tree) (given : Option Tree) : Prop :=
  ∀ t, r.Gives f t root ↔ given = some t

/-- **Where the value of a field comes from**: the one tree that stands for it or its fallback. -/
theorem offers_of_read {complete : ∀ f, f ∈ r.order} (hnodup : r.order.Nodup) {root : Tree}
    (h : r.read complete root = .ok row) (f : F) (hfind : r.find? (r.field f).label = some f)
    (hsecond : (r.field f).secondName = none) :
    ∃ given, r.Offers f root given ∧ given.elim ((r.field f).fallback = some (row f)) fun t =>
      (r.field f).read t = .ok (row f) := by
  have hsettled {slots : Slots Ty} {given : Option Tree} (hrow : r.settle slots f = some (row f))
      (hslot : given.elim (slots f = none) fun t =>
        ∃ value, (r.field f).read t = .ok value ∧ slots f = some value) :
      given.elim ((r.field f).fallback = some (row f)) fun t => (r.field f).read t = .ok (row f) := by
    rw [settle] at hrow
    cases given with
    | none =>
      change slots f = none at hslot
      rw [hslot] at hrow
      exact hrow
    | some t =>
      obtain ⟨value, hread, hvalue⟩ := hslot
      rw [hvalue] at hrow
      cases hrow
      exact hread
  cases root with
  | object members ending =>
    obtain ⟨slots, hfills, _, hrow⟩ := read_object_eq_ok_iff.mp h
    obtain ⟨given, hgiven, hslot⟩ := hfills.member_of_empty hfind hsecond rfl
    refine ⟨given, fun t => ?_, hsettled (hrow f) hslot⟩
    rw [← hgiven t]
    constructor
    · intro hgives
      cases hgives with
      | member hmem => exact hmem
    · exact .member
  | list items ending =>
    obtain ⟨slots, rest, hfill, hrow⟩ := slots_of_read_list h
    have hslot := item_of_fillItems hnodup hfill (complete f) rfl
    refine ⟨_, fun t => ?_, hsettled (hrow f) hslot⟩
    constructor
    · intro hgives
      cases hgives with
      | item hitem => exact hitem
    · exact .item
  | null | bool | deep | broken => cases h
  | number n => exact absurd h (refuse_ne_ok ("struct " ++ r.name) (.number n) row)
  | string s => exact absurd h (refuse_ne_ok ("struct " ++ r.name) (.string s) row)

/-- Something stands for a field that has no fallback. -/
theorem offers_some_of_read {complete : ∀ f, f ∈ r.order} (hnodup : r.order.Nodup) {root : Tree}
    (h : r.read complete root = .ok row) (f : F) (hfind : r.find? (r.field f).label = some f)
    (hsecond : (r.field f).secondName = none) (hfallback : (r.field f).fallback = none) :
    ∃ t, r.Offers f root (some t) ∧ (r.field f).read t = .ok (row f) := by
  obtain ⟨given, hoffers, hvalue⟩ := offers_of_read hnodup h f hfind hsecond
  cases given with
  | none =>
    change (r.field f).fallback = some (row f) at hvalue
    rw [hfallback] at hvalue
    cases hvalue
  | some t => exact ⟨t, hoffers, hvalue⟩

theorem Gives.mem_children {f : F} {t root : Tree} (h : r.Gives f t root) : t ∈ root.children := by
  cases h with
  | member hmem => exact List.mem_map_of_mem hmem
  | item hitem => exact List.mem_of_getElem? hitem

/-- A field that is read has its fallback or what is read out of a tree inside the record. -/
theorem exists_child_of_read {complete : ∀ f, f ∈ r.order} (hnodup : r.order.Nodup) {root : Tree}
    (h : r.read complete root = .ok row) (f : F) (hfind : r.find? (r.field f).label = some f)
    (hsecond : (r.field f).secondName = none) :
    (r.field f).fallback = some (row f) ∨
      ∃ child ∈ root.children, (r.field f).read child = .ok (row f) := by
  obtain ⟨given, hoffers, hvalue⟩ := offers_of_read hnodup h f hfind hsecond
  cases given with
  | none => exact .inl hvalue
  | some t => exact .inr ⟨t, ((hoffers t).mpr rfl).mem_children, hvalue⟩

/-- A record is read only if everything that stands for one of its fields is. -/
theorem exists_read_of_gives {complete : ∀ f, f ∈ r.order} (hnodup : r.order.Nodup) {root : Tree}
    (h : r.read complete root = .ok row) {f : F} (hfind : r.find? (r.field f).label = some f)
    (hsecond : (r.field f).secondName = none) {t : Tree} (hgives : r.Gives f t root) :
    ∃ value, (r.field f).read t = .ok value := by
  obtain ⟨given, hoffers, hvalue⟩ := offers_of_read hnodup h f hfind hsecond
  cases (hoffers t).mp hgives
  exact ⟨row f, hvalue⟩

end Record

end AdapterGateway.Json
