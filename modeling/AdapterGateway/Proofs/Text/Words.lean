import AdapterGateway.Proofs.Text.Lines

/-!
# Words of a text

The words of a text are its maximal runs without blanks, and there is only one way to divide a text
into such runs.  A text that is nothing but blanks has no words, and nothing is left when it is trimmed.
-/

namespace AdapterGateway.Text

/-- `ws` are the maximal runs without blanks in `cs`, in order: before each stands the start or a
    blank, and behind it a blank or the end. -/
inductive MaximalRuns : List Char → List String → Prop where
  | blank {gap : List Char} : (∀ c ∈ gap, isBlank c = true) → MaximalRuns gap []
  | word {gap rest : List Char} {w : String} {ws : List String} :
      (∀ c ∈ gap, isBlank c = true) → IsWord w → (∀ c ∈ rest.head?, isBlank c = true) →
      MaximalRuns rest ws → MaximalRuns (gap ++ w.toList ++ rest) (w :: ws)

namespace MaximalRuns

variable {cs : List Char} {ws : List String}

/-- A blank in front belongs to no run. -/
theorem cons {c : Char} (hc : isBlank c = true) (h : MaximalRuns cs ws) :
    MaximalRuns (c :: cs) ws := by
  cases h with
  | blank hgap => exact .blank (List.forall_mem_cons.mpr ⟨hc, hgap⟩)
  | word hgap hw hend hrest => exact .word (List.forall_mem_cons.mpr ⟨hc, hgap⟩) hw hend hrest

theorem isWord (h : MaximalRuns cs ws) : ∀ w ∈ ws, IsWord w := by
  induction h with
  | blank => exact fun w hw => absurd hw List.not_mem_nil
  | word _ hw _ _ ih => exact List.forall_mem_cons.mpr ⟨hw, ih⟩

/-- The runs put together are the text without its blanks. -/
theorem flatMap_toList (h : MaximalRuns cs ws) : ws.flatMap String.toList = cs.filter (!isBlank ·) := by
  have hnone {gap : List Char} (hgap : ∀ c ∈ gap, isBlank c = true) :
      gap.filter (!isBlank ·) = [] := by
    rw [List.filter_eq_nil_iff]
    intro c hc
    rw [hgap c hc]
    decide
  induction h with
  | blank hgap => rw [hnone hgap, List.flatMap_nil]
  | @word gap rest w ws hgap hw _ _ ih =>
    have hall : w.toList.filter (!isBlank ·) = w.toList := by
      rw [List.filter_eq_self]
      intro c hc
      rw [hw.2 c hc]
      rfl
    rw [List.filter_append, List.filter_append, hnone hgap, hall, ← ih, List.flatMap_cons,
      List.nil_append]

theorem nil_iff : MaximalRuns cs [] ↔ ∀ c ∈ cs, isBlank c = true := by
  constructor
  · intro h
    cases h with
    | blank hgap => exact hgap
  · exact .blank

end MaximalRuns

/-- The words behind an open one are the runs of the open word and what follows it. -/
theorem maximalRuns_wordsFrom {word : List Char} (hword : ∀ c ∈ word, isBlank c = false)
    (cs : List Char) : MaximalRuns (word.reverse ++ cs) (wordsFrom word cs) := by
  have hclose {word rest : List Char} {ws : List String} (hword : ∀ c ∈ word, isBlank c = false)
      (hend : ∀ c ∈ rest.head?, isBlank c = true) (hrest : MaximalRuns rest ws) :
      MaximalRuns (word.reverse ++ rest) (closeWord word ws) := by
    cases word with
    | nil => exact hrest
    | cons c word =>
      have hw : IsWord (String.ofList (c :: word).reverse) := by
        refine ⟨fun hempty => ?_, fun d hd => ?_⟩
        · have hnil := String.toList_eq_nil_iff.mpr hempty
          rw [String.toList_ofList, List.reverse_eq_nil_iff] at hnil
          cases hnil
        · rw [String.toList_ofList, List.mem_reverse] at hd
          exact hword d hd
      have hruns : MaximalRuns ([] ++ (String.ofList (c :: word).reverse).toList ++ rest) _ :=
        .word (List.forall_mem_nil _) hw hend hrest
      rw [List.nil_append, String.toList_ofList] at hruns
      exact hruns
  -- on the characters: a blank closes the open word, and any other character is laid on it
  induction cs generalizing word with
  | nil => exact hclose hword (fun c hc => nomatch hc) (.blank (List.forall_mem_nil _))
  | cons c cs ih =>
    rw [wordsFrom]
    cases hc : isBlank c with
    | true =>
      rw [if_pos rfl]
      refine hclose hword (fun d hd => ?_) ((ih (List.forall_mem_nil _)).cons hc)
      cases hd
      exact hc
    | false =>
      rw [if_neg Bool.false_ne_true]
      have hnext := ih (List.forall_mem_cons.mpr ⟨hc, hword⟩)
      rw [List.reverse_cons, List.append_assoc] at hnext
      exact hnext

theorem maximalRuns_words (s : String) : MaximalRuns s.toList (words s) :=
  maximalRuns_wordsFrom (List.forall_mem_nil _) s.toList

/-- A text is divided into its maximal runs in one way only. -/
theorem MaximalRuns.wordsFrom_eq {cs : List Char} {ws : List String} (h : MaximalRuns cs ws) :
    wordsFrom [] cs = ws := by
  have hskip {gap : List Char} (hgap : ∀ c ∈ gap, isBlank c = true) (rest : List Char) :
      wordsFrom [] (gap ++ rest) = wordsFrom [] rest := by
    induction gap with
    | nil => rfl
    | cons c gap ih =>
      rw [List.forall_mem_cons] at hgap
      rw [List.cons_append, wordsFrom, if_pos hgap.1, ih hgap.2]
      rfl
  induction h with
  | @blank gap hgap =>
    have hnil := hskip hgap []
    rwa [List.append_nil] at hnil
  | @word gap rest w ws hgap hw hend _ ih =>
    rw [List.append_assoc, hskip hgap, wordsFrom_append [] hw.2, List.append_nil]
    -- the end or a blank closes the word, and the blank is none of the words behind it
    cases rest with
    | nil => rw [wordsFrom, closeWord_reverse hw.1, ← ih]; rfl
    | cons c rest =>
      have hc : isBlank c = true := hend c rfl
      rw [wordsFrom, if_pos hc, closeWord_reverse hw.1, ← ih, wordsFrom, if_pos hc]
      rfl

theorem words_eq_iff {s : String} {ws : List String} : words s = ws ↔ MaximalRuns s.toList ws :=
  ⟨fun h => h ▸ maximalRuns_words s, fun h => h.wordsFrom_eq⟩

/-! ## Texts without words -/

theorem words_eq_nil_iff {s : String} : words s = [] ↔ ∀ c ∈ s.toList, isBlank c = true := by
  rw [words_eq_iff, MaximalRuns.nil_iff]

/-- Trimming leaves nothing exactly where there are no words. -/
theorem isEmpty_trim {s : String} : (trim s).isEmpty = true ↔ words s = [] := by
  rw [words_eq_nil_iff, String.isEmpty_iff, ← String.toList_eq_nil_iff, trim, String.toList_ofList,
    List.reverse_eq_nil_iff, List.dropWhile_eq_nil_iff]
  simp only [List.mem_reverse]
  constructor
  · intro h
    -- what is left behind the first blanks would begin with a character that is none
    have hnil : s.toList.dropWhile isBlank = [] := by
      cases hleft : s.toList.dropWhile isBlank with
      | nil => rfl
      | cons c cs =>
        have hhead := List.head?_dropWhile_not isBlank s.toList
        rw [hleft] at hhead h
        rw [List.head?_cons] at hhead
        simp [h c List.mem_cons_self] at hhead
    exact List.dropWhile_eq_nil_iff.mp hnil
  · intro h c hc
    exact h c ((List.dropWhile_sublist isBlank).subset hc)

end AdapterGateway.Text
