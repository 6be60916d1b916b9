import AdapterGateway.Text.Blank
import Mathlib.Data.List.TakeWhile

/-!
# Lines, words and marks

A text that was put together out of lines, words or parts on both sides of a mark comes apart into
them again, as long as none of them holds what they are told apart by.
-/

namespace AdapterGateway.Text

/-! ## Lines -/

theorem linesFrom_append (line : List Char) {cs : List Char} (h : '\n' ∉ cs) (rest : List Char) :
    linesFrom line (cs ++ rest) = linesFrom (cs.reverse ++ line) rest := by
  -- on the characters, each of which is laid on the open line
  induction cs generalizing line with
  | nil => rfl
  | cons c cs ih =>
    rw [List.mem_cons, not_or] at h
    rw [List.cons_append, linesFrom, ih (c :: line) h.2, List.reverse_cons, List.append_assoc]
    · rfl
    · exact fun hfeed => h.1 hfeed.symm

theorem linesFrom_nil {line : List Char} (h : line ≠ []) :
    linesFrom line [] = [String.ofList line.reverse] := by
  rw [linesFrom, List.isEmpty_eq_false_iff.mpr h]
  rfl

/-- A line without a line feed is the only one. -/
theorem lines_of_not_mem {line : String} (hne : line ≠ "") (h : '\n' ∉ line.toList) :
    lines line = [line] := by
  have hopen : line.toList.reverse ≠ [] := by
    rw [ne_eq, List.reverse_eq_nil_iff]
    exact fun hnil => hne (String.toList_eq_nil_iff.mp hnil)
  have hline := linesFrom_append [] h []
  rw [List.append_nil, List.append_nil] at hline
  rw [lines, hline, linesFrom_nil hopen, List.reverse_reverse, String.ofList_toList]

theorem lines_append {line : String} (h : '\n' ∉ line.toList) (rest : String) :
    lines (line ++ "\r\n" ++ rest) = line :: lines rest := by
  -- the line feed ends the line, and the return before it is dropped
  have hend : linesFrom line.toList.reverse ('\r' :: '\n' :: rest.toList) =
      String.ofList line.toList.reverse.reverse :: linesFrom [] rest.toList := rfl
  rw [lines, String.toList_append, String.toList_append, List.append_assoc, linesFrom_append [] h,
    List.append_nil]
  exact hend.trans (by rw [List.reverse_reverse, String.ofList_toList, lines])

/-- A text that no end of a line breaks up. -/
def Unbroken (s : String) : Prop := '\r' ∉ s.toList ∧ '\n' ∉ s.toList

instance (s : String) : Decidable (Unbroken s) := inferInstanceAs (Decidable (_ ∧ _))

theorem Unbroken.append {s t : String} (hs : Unbroken s) (ht : Unbroken t) : Unbroken (s ++ t) := by
  unfold Unbroken
  simp only [String.toList_append, List.mem_append, not_or]
  exact ⟨⟨hs.1, ht.1⟩, hs.2, ht.2⟩

/-- A line: a text that is not empty and not broken up. -/
def IsLine (s : String) : Prop := s ≠ "" ∧ Unbroken s

instance (s : String) : Decidable (IsLine s) := inferInstanceAs (Decidable (_ ∧ _))

theorem IsLine.append {s t : String} (hs : IsLine s) (ht : Unbroken t) : IsLine (s ++ t) :=
  ⟨fun hempty => hs.1 (String.append_eq_empty_iff.mp hempty).1, hs.2.append ht⟩

theorem Unbroken.append_isLine {s t : String} (hs : Unbroken s) (ht : IsLine t) : IsLine (s ++ t) :=
  ⟨fun hempty => ht.1 (String.append_eq_empty_iff.mp hempty).2, hs.append ht.2⟩

/-- Lines that were joined come apart again. -/
theorem lines_intercalate {ls : List String} (h : ∀ line ∈ ls, IsLine line) :
    lines ("\r\n".intercalate ls) = ls := by
  induction ls with
  | nil => rfl
  | cons line ls ih =>
    rw [List.forall_mem_cons] at h
    obtain ⟨⟨hne, hline⟩, hrest⟩ := h
    by_cases hlast : ls = []
    · rw [hlast, String.intercalate_singleton, lines_of_not_mem hne hline.2]
    · rw [String.intercalate_cons_of_ne_nil hlast, lines_append hline.2, ih hrest]

/-- Where no line is empty, all of them stand before an empty one. -/
theorem takeWhile_not_isEmpty {ls : List String} (h : ∀ line ∈ ls, IsLine line) :
    ls.takeWhile (!·.isEmpty) = ls := by
  rw [List.takeWhile_eq_self_iff]
  intro line hline
  rw [Bool.not_eq_true', String.isEmpty_eq_false_iff]
  exact (h line hline).1

/-! ## Words -/

/-- A word: a text without blanks that is not empty. -/
def IsWord (s : String) : Prop := s ≠ "" ∧ ∀ c ∈ s.toList, isBlank c = false

theorem IsWord.isLine {s : String} (h : IsWord s) : IsLine s := by
  have hblank : ∀ c : Char, isBlank c = true → c ∉ s.toList := by
    intro c hc hmem
    rw [h.2 c hmem] at hc
    exact Bool.false_ne_true hc
  exact ⟨h.1, hblank _ (by decide), hblank _ (by decide)⟩

theorem wordsFrom_append (word : List Char) {cs : List Char} (h : ∀ c ∈ cs, isBlank c = false)
    (rest : List Char) : wordsFrom word (cs ++ rest) = wordsFrom (cs.reverse ++ word) rest := by
  induction cs generalizing word with
  | nil => rfl
  | cons c cs ih =>
    rw [List.forall_mem_cons] at h
    rw [List.cons_append, wordsFrom, if_neg (by rw [h.1]; exact Bool.false_ne_true),
      ih (c :: word) h.2, List.reverse_cons, List.append_assoc]
    rfl

theorem closeWord_reverse {s : String} (hne : s ≠ "") (rest : List String) :
    closeWord s.toList.reverse rest = s :: rest := by
  have hopen : s.toList.reverse.isEmpty = false := by
    rw [List.isEmpty_eq_false_iff, ne_eq, List.reverse_eq_nil_iff]
    exact fun hnil => hne (String.toList_eq_nil_iff.mp hnil)
  rw [closeWord, hopen, List.reverse_reverse, String.ofList_toList]
  rfl

theorem words_of_isWord {s : String} (h : IsWord s) : words s = [s] := by
  have hword := wordsFrom_append [] h.2 []
  rw [List.append_nil, List.append_nil] at hword
  rw [words, hword, wordsFrom, closeWord_reverse h.1]

theorem words_append {s : String} (h : IsWord s) (rest : String) :
    words (s ++ " " ++ rest) = s :: words rest := by
  have hspace : wordsFrom s.toList.reverse (' ' :: rest.toList) =
      closeWord s.toList.reverse (wordsFrom [] rest.toList) := by
    rw [wordsFrom, if_pos (by decide)]
  rw [words, String.toList_append, String.toList_append, List.append_assoc,
    wordsFrom_append [] h.2, List.append_nil]
  exact hspace.trans (closeWord_reverse h.1 _)

/-- A space in front of a text without blanks is trimmed. -/
theorem trim_append {s : String} (h : ∀ c ∈ s.toList, isBlank c = false) : trim (" " ++ s) = s := by
  have hkeep : ∀ {cs : List Char}, (∀ c ∈ cs, isBlank c = false) → cs.dropWhile isBlank = cs := by
    intro cs hcs
    cases cs with
    | nil => rfl
    | cons c cs =>
      rw [List.dropWhile_cons_of_neg]
      rw [hcs c List.mem_cons_self]
      exact Bool.false_ne_true
  have hspace : (" " ++ s).toList.dropWhile isBlank = s.toList.dropWhile isBlank := by
    rw [String.toList_append]
    exact List.dropWhile_cons_of_pos (by decide)
  rw [trim, hspace, hkeep h, hkeep fun c hc => h c (List.mem_reverse.mp hc), List.reverse_reverse,
    String.ofList_toList]

/-! ## Marks -/

theorem splitFirst_append (mark : Char) {before : String} (h : mark ∉ before.toList)
    (after : String) :
    splitFirst mark (before ++ String.singleton mark ++ after) = some (before, after) := by
  have hbefore : ∀ c ∈ before.toList, (c != mark) = true := by
    intro c hc
    rw [bne_iff_ne]
    exact fun heq => h (heq ▸ hc)
  have hdrop : (mark :: after.toList).dropWhile (· != mark) = mark :: after.toList :=
    List.dropWhile_cons_of_neg (by simp)
  have htake : (mark :: after.toList).takeWhile (· != mark) = [] :=
    List.takeWhile_cons_of_neg (by simp)
  unfold splitFirst
  rw [String.toList_append, String.toList_append, String.toList_singleton, List.append_assoc,
    List.singleton_append, List.dropWhile_append_of_pos hbefore,
    List.takeWhile_append_of_pos hbefore, hdrop, htake]
  dsimp only
  rw [List.append_nil, String.ofList_toList, String.ofList_toList]

end AdapterGateway.Text
