import AdapterGateway.Json.Decode

/-!
# Forms of documents

Induction over documents, and what is asked of one so that its text can be read back: its integers fit
64 bits and its brackets are not nested too deep.  Documents whose members are in order are their own
canonical forms.
-/

namespace AdapterGateway.Json

open Decimal

/-- Documents by cases; lists and objects with what holds of the documents in them. -/
@[induction_eliminator]
theorem Value.induction {motive : Value → Prop} (null : motive .null) (bool : ∀ b, motive (.bool b))
    (integer : ∀ i, motive (.integer i)) (real : ∀ x, motive (.real x))
    (string : ∀ s, motive (.string s))
    (list : ∀ items, (∀ v ∈ items, motive v) → motive (.list items))
    (object : ∀ members, (∀ m ∈ members, motive m.2) → motive (.object members)) (v : Value) :
    motive v :=
  @Value.rec motive (fun items => ∀ v ∈ items, motive v) (fun members => ∀ m ∈ members, motive m.2)
    (fun m => motive m.2) null bool integer real string list object (fun _ h => nomatch h)
    (fun _ _ hv hrest => List.forall_mem_cons.mpr ⟨hv, hrest⟩) (fun _ h => nomatch h)
    (fun _ _ hm hrest => List.forall_mem_cons.mpr ⟨hm, hrest⟩) (fun _ _ hv => hv) v

theorem itemTexts_eq (items : List Value) : itemTexts items = items.map Value.text := by
  induction items with
  | nil => rfl
  | cons v rest ih => rw [itemTexts, ih, List.map_cons]

theorem memberTexts_eq (members : List (String × Value)) :
    memberTexts members = members.map fun m => stringText m.1 ++ ":" ++ m.2.text := by
  induction members with
  | nil => rfl
  | cons m rest ih => rw [memberTexts, ih, List.map_cons]

theorem canonicalItems_eq (items : List Value) : canonicalItems items = items.map Value.canonical := by
  induction items with
  | nil => rfl
  | cons v rest ih => rw [canonicalItems, ih, List.map_cons]

/-! ## The doubles of a document -/

mutual

def Value.reals : Value → List Binary64
  | .real x => [x]
  | .list items => itemReals items
  | .object members => memberReals members
  | _ => []

def itemReals : List Value → List Binary64
  | [] => []
  | v :: rest => v.reals ++ itemReals rest

def memberReals : List (String × Value) → List Binary64
  | [] => []
  | (_, v) :: rest => v.reals ++ memberReals rest

end

theorem mem_reals_list {items : List Value} {v : Value} (hv : v ∈ items) {x : Binary64}
    (hx : x ∈ v.reals) : x ∈ (Value.list items).reals := by
  rw [Value.reals]
  induction items with
  | nil => cases hv
  | cons w rest ih =>
    rw [itemReals, List.mem_append]
    rcases List.mem_cons.mp hv with rfl | hrest
    · exact .inl hx
    · exact .inr (ih hrest)

theorem mem_reals_object {members : List (String × Value)} {m : String × Value} (hm : m ∈ members)
    {x : Binary64} (hx : x ∈ m.2.reals) : x ∈ (Value.object members).reals := by
  rw [Value.reals]
  induction members with
  | nil => cases hm
  | cons n rest ih =>
    rw [memberReals, List.mem_append]
    rcases List.mem_cons.mp hm with rfl | hrest
    · exact .inl hx
    · exact .inr (ih hrest)

theorem reals_object_eq_nil {members : List (String × Value)} (h : ∀ m ∈ members, m.2.reals = []) :
    (Value.object members).reals = [] := by
  rw [Value.reals]
  induction members with
  | nil => rfl
  | cons m rest ih =>
    rw [List.forall_mem_cons] at h
    rw [memberReals, h.1, ih h.2, List.append_nil]

theorem reals_list_eq_nil {items : List Value} (h : ∀ v ∈ items, v.reals = []) :
    (Value.list items).reals = [] := by
  rw [Value.reals]
  induction items with
  | nil => rfl
  | cons v rest ih =>
    rw [List.forall_mem_cons] at h
    rw [itemReals, h.1, ih h.2, List.append_nil]

/-! ## Members in order -/

/-- The members of every object stand in the order of their names, each name once, and every number
    has a text. -/
inductive Value.InOrder : Value → Prop where
  | null : InOrder .null
  | bool (b : Bool) : InOrder (.bool b)
  | integer (i : Int) : InOrder (.integer i)
  | real {x : Binary64} : x.isFinite = true → InOrder (.real x)
  | string (s : String) : InOrder (.string s)
  | list {items : List Value} : (∀ v ∈ items, v.InOrder) → InOrder (.list items)
  | object {members : List (String × Value)} :
      members.Pairwise (fun m n => compare m.1 n.1 = .lt) → (∀ m ∈ members, m.2.InOrder) →
      InOrder (.object members)

/-- An entry whose key comes after all others is put at the end. -/
theorem insertEntry_last {κ α : Type} [Ord κ] [Std.TransOrd κ] {key : κ} {value : α}
    {entries : List (κ × α)} (h : ∀ e ∈ entries, compare e.1 key = .lt) :
    insertEntry key value entries = entries ++ [(key, value)] := by
  induction entries with
  | nil => rfl
  | cons e rest ih =>
    obtain ⟨hfirst, hrest⟩ := List.forall_mem_cons.mp h
    rw [insertEntry, Std.OrientedCmp.gt_of_lt hfirst]
    exact congrArg (e :: ·) (ih hrest)

theorem canonicalMembers_of_inOrder {members done : List (String × Value)}
    (hsame : ∀ m ∈ members, m.2.canonical = m.2)
    (horder : (done ++ members).Pairwise fun m n => compare m.1 n.1 = .lt) :
    canonicalMembers members done = done ++ members := by
  induction members generalizing done with
  | nil => rw [canonicalMembers, List.append_nil]
  | cons m rest ih =>
    obtain ⟨hfirst, hrest⟩ := List.forall_mem_cons.mp hsame
    have hlast : insertEntry m.1 m.2.canonical done = done ++ [m] := by
      rw [hfirst]
      refine insertEntry_last fun n hn => ?_
      exact (List.pairwise_append.mp horder).2.2 n hn m List.mem_cons_self
    rw [List.append_cons] at horder ⊢
    rw [canonicalMembers, hlast, ih hrest horder]

/-- A document in order is its own canonical form. -/
theorem Value.InOrder.canonical_eq {v : Value} (hv : v.InOrder) : v.canonical = v := by
  induction hv with
  | null => rfl
  | bool b => rfl
  | integer i => rfl
  | real hfinite => rw [canonical, if_pos hfinite]
  | string s => rfl
  | @list items _ ih => rw [canonical, canonicalItems_eq, List.map_congr_left ih, List.map_id']
  | object horder _ ih =>
    rw [canonical, canonicalMembers_of_inOrder ih]
    · rfl
    · exact horder

/-- What holds of the canonical forms of members holds of the members of the canonical form. -/
theorem forall_canonicalMembers {P : Value → Prop} {members done : List (String × Value)}
    (h : ∀ m ∈ members, P m.2.canonical) (hdone : ∀ m ∈ done, P m.2) :
    ∀ m ∈ canonicalMembers members done, P m.2 := by
  induction members generalizing done with
  | nil => exact hdone
  | cons n rest ih =>
    obtain ⟨hfirst, hrest⟩ := List.forall_mem_cons.mp h
    refine ih hrest fun m hm => ?_
    rcases eq_or_mem_of_mem_insertEntry hm with rfl | hm
    · exact hfirst
    · exact hdone m hm

theorem pairwise_canonicalMembers {members done : List (String × Value)}
    (hdone : done.Pairwise fun m n => compare m.1 n.1 = .lt) :
    (canonicalMembers members done).Pairwise fun m n => compare m.1 n.1 = .lt := by
  induction members generalizing done with
  | nil => exact hdone
  | cons m rest ih => exact ih (pairwise_insertEntry m.1 m.2.canonical hdone)

theorem Value.inOrder_canonical (v : Value) : v.canonical.InOrder := by
  induction v with
  | null => exact .null
  | bool b => exact .bool b
  | integer i => exact .integer i
  | real x =>
    rw [canonical]
    split
    · rename_i hfinite
      exact .real hfinite
    · exact .null
  | string s => exact .string s
  | list items ih =>
    rw [canonical, canonicalItems_eq]
    refine .list fun v hv => ?_
    obtain ⟨w, hw, rfl⟩ := List.mem_map.mp hv
    exact ih w hw
  | object members ih =>
    rw [canonical]
    exact .object (pairwise_canonicalMembers .nil)
      (forall_canonicalMembers ih fun m hm => nomatch hm)

theorem canonicalMembers_entries (members : List (String × Value)) (d : Dictionary String Value) :
    canonicalMembers members d.entries =
      ((members.map fun m => (m.1, m.2.canonical)).foldl (fun d m => d.insert m.1 m.2) d).entries := by
  induction members generalizing d with
  | nil => rfl
  | cons m rest ih => exact ih (d.insert m.1 m.2.canonical)

/-- An object in order is the canonical form of every object with these members, each brought into
    order, in whatever order they stand. -/
theorem Value.InOrder.canonical_of_perm {members ordered : List (String × Value)}
    (hordered : (Value.object ordered).InOrder)
    (hperm : (members.map fun m => (m.1, m.2.canonical)).Perm ordered) :
    (Value.object members).canonical = .object ordered := by
  cases hordered with
  | object horder _ =>
    have hlisted : Dictionary.ofList (members.map fun m => (m.1, m.2.canonical)) =
        ⟨ordered, horder⟩ := Dictionary.ofList_eq_of_perm hperm
    rw [Value.canonical]
    exact congrArg Value.object
      ((canonicalMembers_entries members ∅).trans (congrArg Dictionary.entries hlisted))

/-! ## Documents that can be read back -/

/-- The integers of a document fit 64 bits, with or without a sign, and its brackets are nested at
    most so many levels deep. -/
inductive Value.Fits : Nat → Value → Prop where
  | null {depth : Nat} : Fits depth .null
  | bool {depth : Nat} (b : Bool) : Fits depth (.bool b)
  | integer {depth : Nat} {i : Int} : -9223372036854775808 ≤ i → i < 18446744073709551616 →
      Fits depth (.integer i)
  | real {depth : Nat} (x : Binary64) : Fits depth (.real x)
  | string {depth : Nat} (s : String) : Fits depth (.string s)
  | list {depth : Nat} {items : List Value} : (∀ v ∈ items, Fits depth v) →
      Fits (depth + 1) (.list items)
  | object {depth : Nat} {members : List (String × Value)} : (∀ m ∈ members, Fits depth m.2) →
      Fits (depth + 1) (.object members)

theorem Value.Fits.mono {depth more : Nat} {v : Value} (hv : v.Fits depth) (hle : depth ≤ more) :
    v.Fits more := by
  induction hv generalizing more with
  | null => exact .null
  | bool b => exact .bool b
  | integer hlow hhigh => exact .integer hlow hhigh
  | real x => exact .real x
  | string s => exact .string s
  | list _ ih =>
    obtain ⟨most, rfl⟩ := Nat.exists_eq_add_of_lt hle
    exact .list fun v hv => ih v hv (Nat.le_add_right _ _)
  | object _ ih =>
    obtain ⟨most, rfl⟩ := Nat.exists_eq_add_of_lt hle
    exact .object fun m hm => ih m hm (Nat.le_add_right _ _)

/-- Putting members in order makes nothing deeper. -/
theorem Value.Fits.canonical {depth : Nat} {v : Value} (hv : v.Fits depth) :
    v.canonical.Fits depth := by
  induction hv with
  | null => exact .null
  | bool b => exact .bool b
  | integer hlow hhigh => exact .integer hlow hhigh
  | real x =>
    rw [Value.canonical]
    split
    · exact .real x
    · exact .null
  | string s => exact .string s
  | list _ ih =>
    rw [Value.canonical, canonicalItems_eq]
    refine .list fun v hv => ?_
    obtain ⟨w, hw, rfl⟩ := List.mem_map.mp hv
    exact ih w hw
  | object _ ih =>
    rw [Value.canonical]
    exact .object (forall_canonicalMembers ih fun m hm => nomatch hm)

/-- A document that comes back from its text as it is, as far as its doubles do. -/
structure Value.Stable (depth : Nat) (v : Value) : Prop where
  fits : v.Fits depth
  inOrder : v.InOrder

theorem Value.Stable.mono {depth more : Nat} {v : Value} (hv : v.Stable depth) (hle : depth ≤ more) :
    v.Stable more :=
  ⟨hv.fits.mono hle, hv.inOrder⟩

theorem stable_bool {depth : Nat} (b : Bool) : (Value.bool b).Stable depth := ⟨.bool b, .bool b⟩

theorem stable_string {depth : Nat} (s : String) : (Value.string s).Stable depth :=
  ⟨.string s, .string s⟩

theorem fits_listOf {α : Type} {depth : Nat} {f : α → Value} (h : ∀ a, (f a).Fits depth) (l : List α) :
    (Value.list (l.map f)).Fits (depth + 1) := by
  refine .list fun v hv => ?_
  obtain ⟨a, _, rfl⟩ := List.mem_map.mp hv
  exact h a

theorem stable_listOf {α : Type} {depth : Nat} {f : α → Value} (h : ∀ a, (f a).Stable depth)
    (l : List α) : (Value.list (l.map f)).Stable (depth + 1) := by
  refine ⟨fits_listOf (fun a => (h a).fits) l, .list fun v hv => ?_⟩
  obtain ⟨a, _, rfl⟩ := List.mem_map.mp hv
  exact (h a).inOrder

/-- `P` holds of the documents of written-out members, of one after the other. -/
def Each (P : Value → Prop) : List (String × Value) → Prop
  | [] => True
  | [m] => P m.2
  | m :: rest => P m.2 ∧ Each P rest

theorem Each.forall_mem {P : Value → Prop} {members : List (String × Value)} (h : Each P members) :
    ∀ m ∈ members, P m.2 := by
  induction members with
  | nil => exact fun _ hm => nomatch hm
  | cons m rest ih =>
    cases rest with
    | nil => exact List.forall_mem_singleton.mpr h
    | cons n rest => exact List.forall_mem_cons.mpr ⟨h.1, ih h.2⟩

theorem stable_object {depth : Nat} {members : List (String × Value)} (names : List String)
    (horder : names.Pairwise fun a b => compare a b = .lt) (hnames : members.map (·.1) = names)
    (h : Each (Value.Stable depth) members) : (Value.object members).Stable (depth + 1) := by
  rw [← hnames, List.pairwise_map] at horder
  have hall := h.forall_mem
  exact ⟨.object fun m hm => (hall m hm).fits, .object horder fun m hm => (hall m hm).inOrder⟩

/-- A document without doubles, which comes back from its text whatever else it holds. -/
structure Value.Plain (depth : Nat) (v : Value) : Prop where
  fits : v.Fits depth
  reals : v.reals = []

section
variable {depth more : Nat}

theorem Value.Plain.mono {v : Value} (hv : v.Plain depth) (hle : depth ≤ more) : v.Plain more :=
  ⟨hv.fits.mono hle, hv.reals⟩

theorem plain_null (depth : Nat) : Value.null.Plain depth := ⟨.null, rfl⟩

theorem plain_bool (b : Bool) (depth : Nat) : (Value.bool b).Plain depth := ⟨.bool b, rfl⟩

theorem plain_natural {n : Nat} (h : n < 18446744073709551616) (depth : Nat) :
    (Value.integer n).Plain depth :=
  ⟨.integer (by omega) (by omega), rfl⟩

theorem plain_string (s : String) (depth : Nat) : (Value.string s).Plain depth := ⟨.string s, rfl⟩

theorem plain_listOf {α : Type} {f : α → Value} (h : ∀ a, (f a).Plain depth) (l : List α) :
    (Value.list (l.map f)).Plain (depth + 1) := by
  refine ⟨fits_listOf (fun a => (h a).fits) l, reals_list_eq_nil fun v hv => ?_⟩
  obtain ⟨a, _, rfl⟩ := List.mem_map.mp hv
  exact (h a).reals

theorem plain_object {members : List (String × Value)} (h : ∀ m ∈ members, m.2.Plain depth) :
    (Value.object members).Plain (depth + 1) :=
  ⟨.object fun m hm => (h m hm).fits, reals_object_eq_nil fun m hm => (h m hm).reals⟩

theorem Value.Plain.of_mem {members : List (String × Value)}
    (h : (Value.object members).Plain (depth + 1)) {m : String × Value} (hm : m ∈ members) :
    m.2.Plain depth := by
  obtain ⟨hfits, hreals⟩ := h
  cases hfits with
  | object hall =>
    refine ⟨hall m hm, List.eq_nil_iff_forall_not_mem.mpr fun x hx => ?_⟩
    have hwhole := mem_reals_object hm hx
    rw [hreals] at hwhole
    cases hwhole

end

theorem Value.Fits.stable_canonical {depth : Nat} {v : Value} (hv : v.Fits depth) :
    v.canonical.Stable depth :=
  ⟨hv.canonical, v.inOrder_canonical⟩

end AdapterGateway.Json
