import AdapterGateway.Proofs.Supervision.Holdings

/-!
# Starting

How often an operation starts a process, whatever it is answered and wherever it is left: once at
most, and then with the words of its command line and the environment of its request.  Whatever else
it does, before and after, starts none.
-/

namespace AdapterGateway

/-- The call starts no process. -/
def Call.Still : Call → Prop
  | .spawn _ _ => False
  | _ => True

theorem Call.still_iff {c : Call} : c.Still ↔ c.role ≠ .starts := by
  cases c <;> simp [Still, role]

section

variable {α : Type} {p : Program α} {Q : Call → Prop} {t : List Exchange}

theorem countP_starts_le_of_once (hp : p.Once Call.Still Q) (h : p.Begins t) :
    t.countP (·.1.role = .starts) ≤ 1 := by
  have hzero : ∀ u : List Exchange, (∀ x ∈ u, x.1.Still) → u.countP (·.1.role = .starts) = 0 := by
    intro u hu
    rw [List.countP_eq_zero]
    intro x hx
    simpa using Call.still_iff.mp (hu x hx)
  rcases hp.of_begins h with hnone | ⟨before, x, later, rfl, _, hbefore, hlater⟩
  · rw [hzero t hnone]
    decide
  · rw [List.countP_append, List.countP_cons, hzero before hbefore, hzero later hlater]
    split <;> decide

theorem of_mem_of_once (hp : p.Once Call.Still Q) (h : p.Begins t) {x : Exchange} (hmem : x ∈ t)
    (hstarts : x.1.role = .starts) : Q x.1 := by
  rcases hp.of_begins h with hnone | ⟨before, y, later, rfl, hy, hbefore, hlater⟩
  · exact absurd hstarts (Call.still_iff.mp (hnone x hmem))
  · rcases List.mem_append.mp hmem with hmem | hmem
    · exact absurd hstarts (Call.still_iff.mp (hbefore x hmem))
    · rcases List.mem_cons.mp hmem with rfl | hmem
      · exact hy
      · exact absurd hstarts (Call.still_iff.mp (hlater x hmem))

end

namespace Supervision

open Dialogue

/-! ## The parts that start nothing -/

theorem only_releaseReader (attempts : Nat) : (releaseReader attempts).Only Call.Still := by
  induction attempts with
  | zero => trivial
  | succ attempts ih =>
    unfold releaseReader
    refine only_call_bind trivial fun opened => ?_
    cases opened with
    | true =>
      refine only_call_bind trivial fun _ => only_call_bind trivial fun outcome => ?_
      cases outcome with
      | some octets => trivial
      | none => exact ih
    | false =>
      refine only_call_bind trivial fun outcome => ?_
      cases outcome with
      | some octets => trivial
      | none => exact ih

theorem only_tryWait (c : Child) : c.tryWait.Only Call.Still := by
  unfold Child.tryWait
  split
  · trivial
  · refine only_call_bind trivial fun status => ?_
    cases status <;> trivial

theorem only_waitFor (c : Child) (milliseconds patience : Nat) :
    (c.waitFor milliseconds patience).Only Call.Still := by
  induction patience generalizing c with
  | zero => trivial
  | succ patience ih =>
    unfold Child.waitFor
    refine (only_tryWait c).bind fun waited => ?_
    obtain ⟨status, c⟩ := waited
    dsimp only
    split
    · refine only_call_bind trivial fun passed => ?_
      cases passed with
      | true => trivial
      | false => exact ih c
    · trivial

section
variable {P : Call → Prop}

theorem only_terminate (hkill : P .kill) (hwait : P .wait) (c : Child) : c.terminate.Only P := by
  unfold Child.terminate
  split
  · trivial
  · refine only_call_bind hkill fun answer => ?_
    cases answer with
    | failed text => trivial
    | _ =>
      refine only_call_bind hwait fun waited => ?_
      cases waited <;> trivial

theorem only_finish (hcapture : P .capture) (c : Child) : c.finish.Only P := by
  unfold Child.finish
  split
  · trivial
  · exact only_call_bind hcapture fun _ => trivial

theorem only_release (hkill : P .kill) (hwait : P .wait) (c : Child) : c.release.Only P := by
  unfold Child.release
  split
  · trivial
  · exact (only_terminate hkill hwait c).bind fun _ => trivial

end

theorem only_await (limit : Option Nat) (c : Child) (patience : Nat) :
    (await limit c patience).Only Call.Still := by
  induction patience generalizing c with
  | zero => trivial
  | succ patience ih =>
    unfold await
    refine only_call_bind trivial fun polled => ?_
    cases polled with
    | some octets => trivial
    | none =>
      refine (only_tryWait c).bind fun waited => ?_
      obtain ⟨status, c⟩ := waited
      dsimp only
      split
      · trivial
      · exact (only_releaseReader _).bind fun _ => trivial
      · split
        · exact ih c
        · refine only_call_bind trivial fun passed => ?_
          cases passed with
          | true => trivial
          | false => exact ih c

theorem only_collect (s : SupervisionSettings) (status patience : Nat) (c : Child) :
    (collect s status patience c).Only Call.Still := by
  unfold collect
  refine (only_await _ c patience).bind fun awaited => ?_
  obtain ⟨arrival, c⟩ := awaited
  dsimp only
  split
  · exact (only_terminate trivial trivial c).bind fun _ => (only_releaseReader _).bind fun _ => trivial
  · split
    · exact (only_terminate trivial trivial c).bind fun _ => trivial
    · refine (only_waitFor c _ patience).bind fun waited => ?_
      obtain ⟨ending, c⟩ := waited
      dsimp only
      split
      · trivial
      · trivial
      · exact (only_terminate trivial trivial c).bind fun _ => trivial

theorem only_openChannel (parent : Option String) : (openChannel parent).Only Call.Still := by
  unfold openChannel
  refine only_call_bind trivial fun made => ?_
  cases made with
  | error e => trivial
  | ok directory =>
    refine only_call_bind trivial fun piped => ?_
    cases piped with
    | error reason => exact only_call_bind trivial fun _ => trivial
    | ok _ => trivial

/-! ## The operation -/

/-- An operation starts one process at most, the adapter that its command line names. -/
theorem once_run (s : Settings) (inherited : Environment.Raw) (operation : String)
    (further : List String) (request : Option Request) (status patience : Nat) :
    (run s inherited operation further request status patience).Once Call.Still fun c =>
      ∃ words path, s.commandFor operation = .ok words ∧ c = .spawn (words ++ further ++ [path])
        (Environment.build inherited s.supervision.inherited request) := by
  unfold run
  cases hwords : s.commandFor operation with
  | error fault => exact .never trivial
  | ok words =>
    refine (only_openChannel _).bind_once fun opened => ?_
    cases opened with
    | error fault => exact .never trivial
    | ok path =>
      refine .later trivial fun reading => ?_
      cases reading with
      | error e => exact .never (only_call_bind trivial fun _ => trivial)
      | ok _ =>
        refine .now ⟨words, path, rfl, rfl⟩ fun launched => ?_
        cases launched with
        | error fault =>
          exact (only_releaseReader _).bind fun _ => only_call_bind trivial fun _ => trivial
        | ok _ =>
          refine (only_collect ..).bind fun collected => (only_finish trivial _).bind fun finished => ?_
          exact only_call_bind trivial fun _ => (only_release trivial trivial _).bind fun _ => trivial

end Supervision

end AdapterGateway
