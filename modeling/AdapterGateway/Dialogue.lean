/-!
# Dialogues

A program as data: it asks one question after the other and goes on with the answers. What a program
does can so be stated for all answers at once, and be followed with answers from anywhere.
-/
namespace AdapterGateway

/-- A program that asks questions and delivers an `α`. -/
inductive Dialogue (Ask : Type) (Answer : Ask → Type) (α : Type) where
  /-- The program is over. -/
  | done (result : α)
  /-- The program waits for the answer to a question. -/
  | ask (question : Ask) (next : Answer question → Dialogue Ask Answer α)
  /-- The program still waits for something to happen, and is not followed any further. -/
  | suspended

namespace Dialogue
variable {Ask : Type} {Answer : Ask → Type} {α β σ : Type}

def bind : Dialogue Ask Answer α → (α → Dialogue Ask Answer β) → Dialogue Ask Answer β
  | done result, rest => rest result
  | ask question next, rest => ask question fun answer => (next answer).bind rest
  | suspended, _ => suspended

instance : Monad (Dialogue Ask Answer) where
  pure := done
  bind := bind

@[simp] theorem pure_eq (result : α) : (pure result : Dialogue Ask Answer α) = done result := rfl

@[simp] theorem done_bind (result : α) (rest : α → Dialogue Ask Answer β) :
    (done result >>= rest) = rest result := rfl

@[simp] theorem ask_bind (question : Ask) (next : Answer question → Dialogue Ask Answer α)
    (rest : α → Dialogue Ask Answer β) :
    (ask question next >>= rest) = ask question fun answer => next answer >>= rest := rfl

@[simp] theorem suspended_bind (rest : α → Dialogue Ask Answer β) :
    ((suspended : Dialogue Ask Answer α) >>= rest) = suspended := rfl

def question (q : Ask) : Dialogue Ask Answer (Answer q) := ask q done

/-- Somebody in a state of type `σ` who answers questions. -/
abbrev Responder (Ask : Type) (Answer : Ask → Type) (σ : Type) :=
  (question : Ask) → σ → Answer question × σ

/-- Follows a program with the answers of a responder. The result is missing when the program was
still waiting. -/
def follow (respond : Responder Ask Answer σ) : Dialogue Ask Answer α → σ → Option α × σ
  | done result, s => (some result, s)
  | ask question next, s =>
    (next (respond question s).1).follow respond (respond question s).2
  | suspended, s => (none, s)

end Dialogue
end AdapterGateway
