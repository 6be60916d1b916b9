/-!
# Dictionaries

A finite map that lists its keys in increasing order. Equality of dictionaries is equality of what
they map, since the order leaves one list for each map.
-/
namespace AdapterGateway

/-- Puts `value` at `key` into a list of entries in increasing order, replacing what was there. -/
def insertEntry {κ α : Type} [Ord κ] (key : κ) (value : α) : List (κ × α) → List (κ × α)
  | [] => [(key, value)]
  | entry :: rest =>
    match compare key entry.1 with
    | .lt => (key, value) :: entry :: rest
    | .eq => (key, value) :: rest
    | .gt => entry :: insertEntry key value rest

/-- Every entry of an extended list is the new one or was there before. -/
theorem eq_or_mem_of_mem_insertEntry {κ α : Type} [Ord κ] {key : κ} {value : α}
    {entries : List (κ × α)} {e : κ × α} (h : e ∈ insertEntry key value entries) :
    e = (key, value) ∨ e ∈ entries := by
  induction entries with
  | nil => exact .inl (List.mem_singleton.mp h)
  | cons entry rest ih =>
    unfold insertEntry at h
    split at h
    · exact List.mem_cons.mp h
    · rcases List.mem_cons.mp h with rfl | h
      · exact .inl rfl
      · exact .inr (List.mem_cons_of_mem _ h)
    · rcases List.mem_cons.mp h with rfl | h
      · exact .inr List.mem_cons_self
      · exact (ih h).imp id (List.mem_cons_of_mem _)

/-- Inserting keeps the order. -/
theorem pairwise_insertEntry {κ α : Type} [Ord κ] [Std.TransOrd κ] (key : κ) (value : α)
    {entries : List (κ × α)} (h : entries.Pairwise fun a b => compare a.1 b.1 = .lt) :
    (insertEntry key value entries).Pairwise fun a b => compare a.1 b.1 = .lt := by
  induction entries with
  | nil => simp [insertEntry]
  | cons entry rest ih =>
    obtain ⟨hHead, hRest⟩ := List.pairwise_cons.mp h
    unfold insertEntry
    split
    · rename_i hlt
      refine List.pairwise_cons.mpr ⟨fun b hb => ?_, h⟩
      rcases List.mem_cons.mp hb with rfl | hb
      · exact hlt
      · exact Std.TransCmp.lt_trans hlt (hHead b hb)
    · rename_i heq
      refine List.pairwise_cons.mpr ⟨fun b hb => ?_, hRest⟩
      exact Std.TransCmp.lt_of_eq_of_lt heq (hHead b hb)
    · rename_i hgt
      refine List.pairwise_cons.mpr ⟨fun b hb => ?_, ih hRest⟩
      rcases eq_or_mem_of_mem_insertEntry hb with rfl | hb
      · exact Std.OrientedCmp.gt_iff_lt.mp hgt
      · exact hHead b hb

/-- What a key is mapped to after an entry is put. -/
theorem lookup_insertEntry {κ α : Type} [Ord κ] [Std.LawfulEqOrd κ] [BEq κ] [LawfulBEq κ] (key : κ)
    (value : α) (entries : List (κ × α)) (k : κ) :
    (insertEntry key value entries).lookup k =
      if k == key then some value else entries.lookup k := by
  induction entries with
  | nil => cases h : k == key <;> simp [insertEntry, List.lookup_cons, h]
  | cons entry rest ih =>
    obtain ⟨name, old⟩ := entry
    unfold insertEntry
    split
    · cases h : k == key <;> simp [List.lookup_cons, h]
    · rename_i heq
      have hkey : key = name := Std.LawfulEqCmp.eq_of_compare heq
      cases h : k == key <;> simp [List.lookup_cons, h, ← hkey]
    · rename_i hgt
      have hne : key ≠ name := by
        rintro rfl
        simp [Std.ReflCmp.compare_self] at hgt
      simp only [List.lookup_cons, ih]
      cases hk : k == name
      · rfl
      · rw [eq_of_beq hk, beq_eq_false_iff_ne.mpr hne.symm]
        rfl

/-! ## Last values -/

/-- The last value that a list of pairs has for `key`. -/
def lastValue? {κ α : Type} [BEq κ] (pairs : List (κ × α)) (key : κ) : Option α :=
  pairs.reverse.lookup key

section
variable {κ α : Type} [BEq κ]

theorem lastValue?_append (first last : List (κ × α)) (key : κ) :
    lastValue? (first ++ last) key = (lastValue? last key).or (lastValue? first key) := by
  unfold lastValue?
  rw [List.reverse_append, List.lookup_append]

theorem lastValue?_cons (pair : κ × α) (rest : List (κ × α)) (key : κ) :
    lastValue? (pair :: rest) key =
      (lastValue? rest key).or (if key == pair.1 then some pair.2 else none) := by
  rw [← List.singleton_append, lastValue?_append]
  unfold lastValue?
  rw [List.reverse_singleton, List.lookup_cons, List.lookup_nil]
  cases key == pair.1 <;> rfl

theorem lastValue?_eq_none_iff [LawfulBEq κ] {pairs : List (κ × α)} {key : κ} :
    lastValue? pairs key = none ↔ key ∉ pairs.map (·.1) := by
  unfold lastValue?
  simp only [List.lookup_eq_none_iff, List.mem_reverse, bne_iff_ne, List.mem_map, not_exists,
    not_and]
  exact ⟨fun h pair hmem heq => h pair hmem heq.symm, fun h pair hmem heq => h pair hmem heq.symm⟩

theorem mem_of_lastValue? [LawfulBEq κ] {pairs : List (κ × α)} {key : κ} {value : α}
    (h : lastValue? pairs key = some value) : (key, value) ∈ pairs := by
  obtain ⟨before, behind, heq, _⟩ := List.lookup_eq_some_iff.mp h
  rw [← List.mem_reverse, heq]
  simp

/-- Where no key is listed twice, what is looked up is what is listed. -/
theorem lookup_eq_some_iff_mem [LawfulBEq κ] {pairs : List (κ × α)}
    (hkeys : (pairs.map (·.1)).Nodup) {key : κ} {value : α} :
    pairs.lookup key = some value ↔ (key, value) ∈ pairs := by
  induction pairs with
  | nil => simp
  | cons pair rest ih =>
    obtain ⟨name, old⟩ := pair
    obtain ⟨hname, hrest⟩ := List.nodup_cons.mp hkeys
    rw [List.mem_cons, List.lookup_cons, ← ih hrest]
    cases h : key == name
    · have hne : key ≠ name := beq_eq_false_iff_ne.mp h
      simp [hne]
    · -- the key of the first pair is not listed again
      have hnone : rest.lookup name = none := by
        rw [List.lookup_eq_none_iff]
        intro other hmem
        rw [bne_iff_ne]
        rintro rfl
        exact hname (List.mem_map.mpr ⟨other, hmem, rfl⟩)
      rw [eq_of_beq h, hnone]
      simp [eq_comm]

theorem lastValue?_eq_some_iff [LawfulBEq κ] {pairs : List (κ × α)}
    (hkeys : (pairs.map (·.1)).Nodup) {key : κ} {value : α} :
    lastValue? pairs key = some value ↔ (key, value) ∈ pairs := by
  unfold lastValue?
  rw [lookup_eq_some_iff_mem, List.mem_reverse]
  rw [List.map_reverse]
  exact List.pairwise_reverse.mpr (hkeys.imp Ne.symm)

end

/-- A finite map from `κ` to `α`. -/
structure Dictionary (κ α : Type) [Ord κ] where
  /-- The entries in increasing order of their keys. -/
  entries : List (κ × α)
  ordered : entries.Pairwise fun a b => compare a.1 b.1 = .lt

namespace Dictionary
variable {κ α : Type} [Ord κ]

def empty : Dictionary κ α := ⟨[], .nil⟩

/-- Maps `key` to `value`, whatever it was mapped to before. -/
def insert [Std.TransOrd κ] (d : Dictionary κ α) (key : κ) (value : α) : Dictionary κ α :=
  ⟨insertEntry key value d.entries, pairwise_insertEntry key value d.ordered⟩

/-- What `key` is mapped to. -/
def get? [BEq κ] (d : Dictionary κ α) (key : κ) : Option α := d.entries.lookup key

def contains [BEq κ] (d : Dictionary κ α) (key : κ) : Bool := (d.get? key).isSome

def keys (d : Dictionary κ α) : List κ := d.entries.map (·.1)

def values (d : Dictionary κ α) : List α := d.entries.map (·.2)

def size (d : Dictionary κ α) : Nat := d.entries.length

def isEmpty (d : Dictionary κ α) : Bool := d.entries.isEmpty

/-- The dictionary of a list of pairs, of which the last one for a key counts. -/
def ofList [Std.TransOrd κ] (pairs : List (κ × α)) : Dictionary κ α :=
  pairs.foldl (fun d pair => d.insert pair.1 pair.2) empty

@[ext] theorem ext {d e : Dictionary κ α} (h : d.entries = e.entries) : d = e := by
  cases d; cases e; cases h; rfl

instance [DecidableEq κ] [DecidableEq α] : DecidableEq (Dictionary κ α) := fun d e =>
  if h : d.entries = e.entries then isTrue (ext h) else isFalse fun he => h (he ▸ rfl)

instance : Inhabited (Dictionary κ α) := ⟨empty⟩

instance : EmptyCollection (Dictionary κ α) := ⟨empty⟩

/-! ## What is looked up -/

@[simp] theorem get?_empty [BEq κ] (key : κ) : (∅ : Dictionary κ α).get? key = none := rfl

/-- After an insertion the new key has the new value and every other key what it had. -/
theorem get?_insert [Std.TransOrd κ] [Std.LawfulEqOrd κ] [BEq κ] [LawfulBEq κ]
    (d : Dictionary κ α) (key : κ) (value : α) (k : κ) :
    (d.insert key value).get? k = if k == key then some value else d.get? k :=
  lookup_insertEntry key value d.entries k

/-- No key is listed twice. -/
theorem nodup_keys [Std.ReflOrd κ] (d : Dictionary κ α) : d.keys.Nodup := by
  unfold keys
  rw [List.Nodup, List.pairwise_map]
  refine d.ordered.imp fun {a b} h he => ?_
  rw [he, @Std.ReflCmp.compare_self κ compare] at h
  cases h

/-- The listed keys are those that are mapped to something. -/
theorem mem_keys_iff [BEq κ] [LawfulBEq κ] (d : Dictionary κ α) (key : κ) :
    key ∈ d.keys ↔ (d.get? key).isSome := by
  unfold keys get?
  induction d.entries with
  | nil => simp
  | cons entry rest ih =>
    obtain ⟨name, value⟩ := entry
    rw [List.map_cons, List.mem_cons, List.lookup_cons]
    cases h : key == name
    · simp only [beq_eq_false_iff_ne.mp h, false_or, ih]
    · simp [eq_of_beq h]

/-- The entries are what the dictionary maps. -/
theorem mem_entries_iff [Std.ReflOrd κ] [BEq κ] [LawfulBEq κ] (d : Dictionary κ α) (key : κ)
    (value : α) : (key, value) ∈ d.entries ↔ d.get? key = some value :=
  (lookup_eq_some_iff_mem d.nodup_keys).symm

/-- Dictionaries that map every key to the same are equal. -/
theorem ext_get? [Std.TransOrd κ] [BEq κ] [LawfulBEq κ] {d e : Dictionary κ α}
    (h : ∀ key, d.get? key = e.get? key) : d = e := by
  have hirrefl (a : κ × α) : ¬ compare a.1 a.1 = .lt := by
    rw [@Std.ReflCmp.compare_self κ compare]
    decide
  have hnodup (f : Dictionary κ α) : f.entries.Nodup := by
    refine f.ordered.imp fun {a b} hab => ?_
    rintro rfl
    exact hirrefl a hab
  have hmem : ∀ entry, entry ∈ d.entries ↔ entry ∈ e.entries := by
    rintro ⟨key, value⟩
    rw [mem_entries_iff, mem_entries_iff, h]
  refine ext (List.Perm.eq_of_pairwise ?_ d.ordered e.ordered
    ((List.perm_ext_iff_of_nodup (hnodup d) (hnodup e)).mpr hmem))
  intro a b _ _ hab hba
  exact absurd (Std.TransCmp.lt_trans hab hba) (hirrefl a)

/-- A value that is put where one was put before replaces it. -/
theorem insert_insert [Std.TransOrd κ] [Std.LawfulEqOrd κ] [BEq κ] [LawfulBEq κ]
    (d : Dictionary κ α) (key : κ) (old new : α) :
    (d.insert key old).insert key new = d.insert key new := by
  apply ext_get?
  intro k
  rw [get?_insert, get?_insert, get?_insert]
  by_cases h : k == key
  · rw [if_pos h, if_pos h]
  · rw [if_neg h, if_neg h, if_neg h]

theorem get?_ofList [Std.TransOrd κ] [Std.LawfulEqOrd κ] [BEq κ] [LawfulBEq κ]
    (pairs : List (κ × α)) (key : κ) : (ofList pairs).get? key = lastValue? pairs key := by
  suffices h : ∀ d : Dictionary κ α,
      (pairs.foldl (fun d pair => d.insert pair.1 pair.2) d).get? key =
        (lastValue? pairs key).or (d.get? key) by
    rw [ofList, h]
    exact Option.or_none
  induction pairs with
  | nil => exact fun d => rfl
  | cons pair rest ih =>
    intro d
    rw [List.foldl_cons, ih, get?_insert, lastValue?_cons, Option.or_assoc]
    cases key == pair.1 <;> simp

theorem ofList_concat [Std.TransOrd κ] (pairs : List (κ × α)) (pair : κ × α) :
    ofList (pairs ++ [pair]) = (ofList pairs).insert pair.1 pair.2 := by
  unfold ofList
  rw [List.foldl_append]
  rfl

/-- A dictionary is the one of its entries in any order. -/
theorem ofList_eq_of_perm [Std.TransOrd κ] [Std.LawfulEqOrd κ] [BEq κ] [LawfulBEq κ]
    {pairs : List (κ × α)} {d : Dictionary κ α} (h : pairs.Perm d.entries) : ofList pairs = d := by
  have hkeys : (pairs.map (·.1)).Nodup := (h.map _).nodup_iff.mpr d.nodup_keys
  refine ext_get? fun key => Option.ext fun value => ?_
  rw [get?_ofList, ← mem_entries_iff, ← h.mem_iff]
  exact lastValue?_eq_some_iff hkeys

theorem ofList_entries [Std.TransOrd κ] [Std.LawfulEqOrd κ] [BEq κ] [LawfulBEq κ]
    (d : Dictionary κ α) : ofList d.entries = d :=
  ofList_eq_of_perm (.refl _)

end Dictionary
end AdapterGateway
