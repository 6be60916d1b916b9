import AdapterGateway.Host
import AdapterGateway.Proofs.Conversation

/-!
# Interleavings

Conversations with a host on which the adapter and the reader go on between any two questions, one
move at a time and in any order, or not at all.  What the host is asked is answered as it then
stands; how long a wait has lasted is anybody's guess.
-/

namespace AdapterGateway

namespace Host

/-- Lets the reader and the adapter make several moves. -/
def moves (h : Host) (turns : List Turn) : Host := turns.foldl (fun h turn => h.move turn) h

@[simp] theorem moves_nil (h : Host) : h.moves [] = h := rfl

@[simp] theorem moves_cons (h : Host) (turn : Turn) (turns : List Turn) :
    h.moves (turn :: turns) = (h.move turn).moves turns := rfl

/-- A conversation `t` that begins on the host `h` and leaves the host `h'`. -/
inductive Interleaved : Host → List Exchange → Host → Prop where
  | still {h : Host} (turns : List Turn) : Interleaved h [] (h.moves turns)
  | answer {h h' : Host} {t : List Exchange} (turns : List Turn) {question : Call}
      (answer : question.Answer) :
      ((∀ milliseconds, question ≠ .isOver milliseconds) →
        answer = (reply question (h.moves turns)).1) →
      Interleaved (reply question (h.moves turns)).2 t h' →
      Interleaved h (⟨question, answer⟩ :: t) h'

/-- What begins an interleaving: some moves, then an answer. -/
theorem interleaved_cons {h h' : Host} {question : Call} {answer : question.Answer}
    {t : List Exchange} (ht : Interleaved h (⟨question, answer⟩ :: t) h') :
    ∃ turns,
      ((∀ milliseconds, question ≠ .isOver milliseconds) →
        answer = (reply question (h.moves turns)).1) ∧
      Interleaved (reply question (h.moves turns)).2 t h' := by
  cases ht with
  | answer turns _ hanswer hrest => exact ⟨turns, hanswer, hrest⟩

theorem interleaved_append {h h' : Host} {t u : List Exchange} (ht : Interleaved h (t ++ u) h') :
    ∃ between, Interleaved h t between ∧ Interleaved between u h' := by
  induction t generalizing h with
  -- no moves are left to the end of the first part: they count for the beginning of the second
  | nil => exact ⟨h, .still [], ht⟩
  | cons x t ih =>
    obtain ⟨question, answer⟩ := x
    obtain ⟨turns, hanswer, hrest⟩ := interleaved_cons ht
    obtain ⟨between, hfirst, hlast⟩ := ih hrest
    exact ⟨between, .answer turns answer hanswer hfirst, hlast⟩

/-! ## What a host keeps -/

@[simp] theorem makeDirectory_moves (h : Host) (turns : List Turn) :
    (h.moves turns).makeDirectory = h.makeDirectory := by
  induction turns generalizing h with
  | nil => rfl
  | cons turn turns ih =>
    rw [moves_cons, ih]
    unfold move
    split
    · rfl
    · split <;> rfl

@[simp] theorem programs_moves (h : Host) (turns : List Turn) :
    (h.moves turns).programs = h.programs := by
  induction turns generalizing h with
  | nil => rfl
  | cons turn turns ih =>
    rw [moves_cons, ih]
    unfold move
    split
    · rfl
    · split <;> rfl

theorem find_congr {h h' : Host} (hprograms : h.programs = h'.programs) (words : List String)
    (environment : Environment) : h.find words environment = h'.find words environment := by
  unfold find
  rw [hprograms]

end Host

end AdapterGateway
