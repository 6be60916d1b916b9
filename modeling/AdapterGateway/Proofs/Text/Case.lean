import AdapterGateway.Text.Case
import Mathlib.Data.List.Basic

/-!
# What upper case leaves alone

All images in the tables of upper case are capital letters or lie behind them.  So the characters
before the capital letters, among them the zero and the equals sign, stand in the upper case of a
text where they stand in the text, and no text vanishes.
-/

namespace AdapterGateway.Text

namespace CaseTable

theorem Run.exists_of_find? {runs : List Run} {n m : Nat} (h : Run.find? runs n = some m) :
    ∃ r ∈ runs, ∃ k ≤ r.last - r.first, m = r.target + k := by
  induction runs with
  | nil => cases h
  | cons r rest ih =>
    unfold Run.find? at h
    split at h
    · cases h
    split at h
    · rename_i _ hin
      simp only [Bool.and_eq_true, decide_eq_true_eq] at hin
      exact ⟨r, List.mem_cons_self, n - r.first, by omega, (Option.some.inj h).symm⟩
    · obtain ⟨r', hr', hm⟩ := ih h
      exact ⟨r', List.mem_cons_of_mem r hr', hm⟩

theorem upperRuns_target : ∀ r ∈ upperRuns, 0x41 ≤ r.target ∧
    (r.target + (r.last - r.first) < 0xD800 ∨
      0xDFFF < r.target ∧ r.target + (r.last - r.first) < 0x110000) := by
  decide +kernel

theorem upperSpecial_image : ∀ s ∈ upperSpecial, s.2 ≠ [] ∧
    ∀ n ∈ s.2, 0x41 ≤ n ∧ n.isValidChar := by
  decide +kernel

end CaseTable

open CaseTable

theorem toNat_ofNat {n : Nat} (h : n.isValidChar) : (Char.ofNat n).toNat = n := by
  unfold Char.ofNat
  rw [dif_pos h]
  rfl

theorem le_toNat_toUpper {c : Char} (h : c.toUpper ≠ c) :
    0x41 ≤ c.toNat ∧ 0x41 ≤ c.toUpper.toNat := by
  unfold Char.toUpper at h ⊢
  split at h
  · rename_i hletter
    obtain ⟨hlow, hhigh⟩ := hletter
    rw [dif_pos ⟨hlow, hhigh⟩]
    rw [UInt32.le_iff_toNat_le] at hlow hhigh
    have hshift : ('A'.val - 'a'.val).toNat = 4294967264 := by decide
    change 97 ≤ c.val.toNat at hlow
    change c.val.toNat ≤ 122 at hhigh
    unfold Char.toNat
    rw [UInt32.toNat_add, hshift]
    omega
  · exact absurd rfl h

/-- The upper case of a character is the character, or both lie at the capital letters or behind
    them. -/
theorem upperChar_cases (c : Char) :
    upperChar c = [c] ∨ upperChar c ≠ [] ∧ ∀ d ∈ c :: upperChar c, 0x41 ≤ d.toNat := by
  unfold upperChar
  split
  · by_cases hsame : c.toUpper = c
    · rw [hsame]
      exact .inl rfl
    · obtain ⟨hc, hupper⟩ := le_toNat_toUpper hsame
      refine .inr ⟨List.cons_ne_nil _ _, ?_⟩
      rw [List.forall_mem_cons, List.forall_mem_singleton]
      exact ⟨hc, hupper⟩
  unfold mapCase
  split
  · rename_i hbehind image hspecial
    obtain ⟨before, behind, heq, _⟩ := List.lookup_eq_some_iff.mp hspecial
    have hmem : (c.toNat, image) ∈ upperSpecial := by
      rw [heq]
      exact List.mem_append_right _ List.mem_cons_self
    obtain ⟨hne, himage⟩ := upperSpecial_image _ hmem
    refine .inr ⟨mt List.map_eq_nil_iff.mp hne, ?_⟩
    rw [List.forall_mem_cons, List.forall_mem_map]
    refine ⟨by omega, fun n hn => ?_⟩
    rw [toNat_ofNat (himage n hn).2]
    exact (himage n hn).1
  split
  · rename_i hbehind _ m hrun
    obtain ⟨r, hr, k, hk, rfl⟩ := Run.exists_of_find? hrun
    obtain ⟨htarget, hvalid⟩ := upperRuns_target r hr
    have hscalar : (r.target + k).isValidChar := by
      rcases hvalid with hlow | ⟨hhigh, hlast⟩
      · exact .inl (by omega)
      · exact .inr ⟨by omega, by omega⟩
    refine .inr ⟨List.cons_ne_nil _ _, ?_⟩
    rw [List.forall_mem_cons, List.forall_mem_singleton, toNat_ofNat hscalar]
    exact ⟨by omega, by omega⟩
  · exact .inl rfl

/-! ## Characters before the capital letters -/

section

variable {d : Char} (hd : d.toNat < 0x41)

include hd

theorem exists_upperChar_eq (c : Char) :
    ∃ first more, upperChar c = first :: more ∧ (d = first ↔ d = c) ∧ d ∉ more := by
  rcases upperChar_cases c with hsame | ⟨hne, hletters⟩
  · exact ⟨c, [], hsame, Iff.rfl, List.not_mem_nil⟩
  · obtain ⟨first, more, heq⟩ := List.exists_cons_of_ne_nil hne
    rw [heq] at hletters
    have hnot : d ∉ c :: first :: more := fun hmem => absurd (hletters d hmem) (by omega)
    simp only [List.mem_cons, not_or] at hnot
    exact ⟨first, more, heq, iff_of_false hnot.2.1 hnot.1, hnot.2.2⟩

theorem mem_flatMap_upperChar (cs : List Char) : d ∈ cs.flatMap upperChar ↔ d ∈ cs := by
  induction cs with
  | nil => rfl
  | cons c cs ih =>
    obtain ⟨first, more, heq, hfirst, hmore⟩ := exists_upperChar_eq hd c
    rw [List.flatMap_cons, List.mem_append, ih, heq, List.mem_cons, hfirst, List.mem_cons,
      or_iff_left hmore]

theorem mem_upper_iff (s : String) : d ∈ (upper s).toList ↔ d ∈ s.toList := by
  unfold upper
  rw [String.toList_ofList]
  exact mem_flatMap_upperChar hd s.toList

theorem mem_tail_upper_iff (s : String) : d ∈ (upper s).toList.tail ↔ d ∈ s.toList.tail := by
  unfold upper
  rw [String.toList_ofList]
  cases s.toList with
  | nil => rfl
  | cons c cs =>
    obtain ⟨first, more, heq, _, hmore⟩ := exists_upperChar_eq hd c
    rw [List.flatMap_cons, heq, List.cons_append, List.tail_cons, List.tail_cons, List.mem_append,
      mem_flatMap_upperChar hd, or_iff_right hmore]

end

theorem upper_eq_empty_iff (s : String) : upper s = "" ↔ s = "" := by
  unfold upper
  rw [← String.toList_eq_nil_iff, ← String.toList_eq_nil_iff, String.toList_ofList]
  cases s.toList with
  | nil => simp
  | cons c cs =>
    obtain ⟨first, more, heq, _⟩ := exists_upperChar_eq (d := '\x00') (by decide) c
    rw [List.flatMap_cons, heq]
    simp

end AdapterGateway.Text
