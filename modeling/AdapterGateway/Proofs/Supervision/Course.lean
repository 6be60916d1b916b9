import AdapterGateway.Proofs.Conversation
import AdapterGateway.Supervision

/-!
# Courses of an operation

Everything that a run can ask and be answered, one predicate for each part of it: the release of a
stuck reader, the wait for a result, the grace of an adapter that delivered, its termination, and
the run as a whole.  Each is the complete list of ways in which its part can go, guards included, so
a property of all runs is one case analysis over `Course`.
-/

namespace AdapterGateway

open Text

namespace Supervision

/-! ## The parts -/

/-- One attempt to give the reader an end of file, and whether the pipe could be opened for it. -/
def knock : Bool → List Exchange
  | true => [⟨.openPipe, true⟩, ⟨.closePipe, ()⟩]
  | false => [⟨.openPipe, false⟩]

/-- How the release of a reader can go. -/
inductive Released : List Exchange → Except IoError Octets → Prop where
  | stuck : Released [] (.error readerStuck)
  | taken (opened : Bool) (octets : Except IoError Octets) :
      Released (knock opened ++ [⟨.poll, some octets⟩]) octets
  | again (opened : Bool) {t : List Exchange} {octets : Except IoError Octets} :
      Released t octets → Released (knock opened ++ ⟨.poll, none⟩ :: t) octets

/-- How the wait for the result of a running adapter can go. -/
inductive Awaited (limit : Option Nat) : List Exchange → Except Fault Arrival → Prop where
  | delivered (octets : Except IoError Octets) :
      Awaited limit [⟨.poll, some octets⟩] (.ok (.delivered octets))
  | unknown (e : IoError) :
      Awaited limit [⟨.poll, none⟩, ⟨.tryWait, .error e⟩] (.error (.io e))
  | ended (status : ExitStatus) {t : List Exchange} {octets : Except IoError Octets} :
      Released t octets →
      Awaited limit (⟨.poll, none⟩ :: ⟨.tryWait, .ok (some status)⟩ :: t)
        (.ok (.ended status octets))
  | timeout {seconds : Nat} : limit = some seconds →
      Awaited limit [⟨.poll, none⟩, ⟨.tryWait, .ok none⟩, ⟨.isOver (seconds * 1000), true⟩]
        (.error (.timeout seconds))
  | unlimited {t : List Exchange} {a : Except Fault Arrival} : limit = none → Awaited limit t a →
      Awaited limit (⟨.poll, none⟩ :: ⟨.tryWait, .ok none⟩ :: t) a
  | inTime {seconds : Nat} {t : List Exchange} {a : Except Fault Arrival} :
      limit = some seconds → Awaited limit t a →
      Awaited limit
        (⟨.poll, none⟩ :: ⟨.tryWait, .ok none⟩ :: ⟨.isOver (seconds * 1000), false⟩ :: t) a

/-- How the wait for the end of a running adapter can go. -/
inductive Waited (milliseconds : Nat) :
    List Exchange → Except IoError (Option ExitStatus) → Prop where
  | unknown (e : IoError) : Waited milliseconds [⟨.tryWait, .error e⟩] (.error e)
  | ended (status : ExitStatus) :
      Waited milliseconds [⟨.tryWait, .ok (some status)⟩] (.ok (some status))
  | passed : Waited milliseconds [⟨.tryWait, .ok none⟩, ⟨.isOver milliseconds, true⟩] (.ok none)
  | again {t : List Exchange} {a : Except IoError (Option ExitStatus)} : Waited milliseconds t a →
      Waited milliseconds (⟨.tryWait, .ok none⟩ :: ⟨.isOver milliseconds, false⟩ :: t) a

/-- How the termination of a running adapter can go, and how the adapter ended if that is known. -/
inductive Terminated : List Exchange → Option ExitStatus → Prop where
  | refused (text : String) : Terminated [⟨.kill, .failed text⟩] none
  | unknown {answer : SignalAnswer} (e : IoError) : (∀ text, answer ≠ .failed text) →
      Terminated [⟨.kill, answer⟩, ⟨.wait, .error e⟩] none
  | killed {answer : SignalAnswer} (status : ExitStatus) : (∀ text, answer ≠ .failed text) →
      Terminated [⟨.kill, answer⟩, ⟨.wait, .ok status⟩] (some status)

/-- How an adapter is given up: one whose end is known needs nothing more. -/
inductive GivenUp : Option ExitStatus → List Exchange → Prop where
  | ended (status : ExitStatus) : GivenUp (some status) []
  | killed {t : List Exchange} {ending : Option ExitStatus} : Terminated t ending → GivenUp none t

/-- How a started adapter can go on until its streams are taken, with what the run delivers and how
    the adapter ended if that is known by then. -/
inductive Gathered (s : SupervisionSettings) (status : Nat) :
    List Exchange → Except Fault Delivery → Option ExitStatus → Prop where
  /-- Nothing arrived: the adapter is killed and the reader released. -/
  | missing {t k u : List Exchange} {fault : Fault} {ending : Option ExitStatus}
      {octets : Except IoError Octets} :
      Awaited s.readTimeout? t (.error fault) → Terminated k ending → Released u octets →
      Gathered s status (t ++ k ++ u) (.error fault) ending
  /-- The reader came to its end first, with something that is no document. -/
  | unreadable {t k : List Exchange} {octets : Except IoError Octets} {fault : Fault}
      {ending : Option ExitStatus} :
      Awaited s.readTimeout? t (.ok (.delivered octets)) →
      judge (.delivered octets) = .error fault → Terminated k ending →
      Gathered s status (t ++ k) (.error fault) ending
  /-- The adapter ended first, and what it left is no document. -/
  | leftNone {t : List Exchange} {ending : ExitStatus} {octets : Except IoError Octets}
      {fault : Fault} :
      Awaited s.readTimeout? t (.ok (.ended ending octets)) →
      judge (.ended ending octets) = .error fault →
      Gathered s status t (.error fault) (some ending)
  /-- The adapter ended first and left a document. -/
  | left {t : List Exchange} {ending : ExitStatus} {octets : Except IoError Octets}
      {document : Json.Value} :
      Awaited s.readTimeout? t (.ok (.ended ending octets)) →
      judge (.ended ending octets) = .ok document →
      Gathered s status t (.ok ⟨document, status⟩) (some ending)
  /-- A document arrived, and whether the adapter ended cannot be told. -/
  | unknown {t w : List Exchange} {octets : Except IoError Octets} {document : Json.Value}
      {e : IoError} :
      Awaited s.readTimeout? t (.ok (.delivered octets)) →
      judge (.delivered octets) = .ok document →
      Waited s.exitGraceMillis.toNat w (.error e) →
      Gathered s status (t ++ w) (.error (.io e)) none
  /-- A document arrived and the adapter ended within its grace. -/
  | ended {t w : List Exchange} {octets : Except IoError Octets} {document : Json.Value}
      {ending : ExitStatus} :
      Awaited s.readTimeout? t (.ok (.delivered octets)) →
      judge (.delivered octets) = .ok document →
      Waited s.exitGraceMillis.toNat w (.ok (some ending)) →
      Gathered s status (t ++ w) (.ok ⟨document, status⟩) (some ending)
  /-- A document arrived, and the adapter is killed when its grace is over. -/
  | lingering {t w k : List Exchange} {octets : Except IoError Octets} {document : Json.Value}
      {ending : Option ExitStatus} :
      Awaited s.readTimeout? t (.ok (.delivered octets)) →
      judge (.delivered octets) = .ok document →
      Waited s.exitGraceMillis.toNat w (.ok none) → Terminated k ending →
      Gathered s status (t ++ w ++ k) (.ok ⟨document, status⟩) ending

/-- What a run asks before the adapter is started in the directory that was made for it. -/
def opening (s : Settings) (directory : String) : List Exchange :=
  [⟨.makeDirectory s.supervision.channelParent, .ok directory⟩,
   ⟨.makePipe (Channel.pathIn directory), .ok ()⟩, ⟨.startReader, .ok ()⟩]

/-- The call that starts the adapter of an operation. -/
def launch (s : Settings) (inherited : Environment.Raw) (words further : List String)
    (request : Option Request) (directory : String) : Call :=
  .spawn (words ++ further ++ [Channel.pathIn directory])
    (Environment.build inherited s.supervision.inherited request)

/-- How a run can go. -/
inductive Course (s : Settings) (inherited : Environment.Raw) (operation : String)
    (further : List String) (request : Option Request) (status : Nat) :
    List Exchange → Except Fault Delivery → Prop where
  | unresolved {fault : Fault} : s.commandFor operation = .error fault →
      Course s inherited operation further request status [] (.error fault)
  | noDirectory {words : List String} (e : IoError) : s.commandFor operation = .ok words →
      Course s inherited operation further request status
        [⟨.makeDirectory s.supervision.channelParent, .error e⟩]
        (.error (ChannelError.directory e).fault)
  | noPipe {words : List String} (directory reason : String) : s.commandFor operation = .ok words →
      Course s inherited operation further request status
        [⟨.makeDirectory s.supervision.channelParent, .ok directory⟩,
         ⟨.makePipe (Channel.pathIn directory), .error reason⟩, ⟨.removeDirectory, ()⟩]
        (.error (ChannelError.pipe (Channel.pathIn directory) reason).fault)
  | noReader {words : List String} (directory : String) (e : IoError) :
      s.commandFor operation = .ok words →
      Course s inherited operation further request status
        [⟨.makeDirectory s.supervision.channelParent, .ok directory⟩,
         ⟨.makePipe (Channel.pathIn directory), .ok ()⟩, ⟨.startReader, .error e⟩,
         ⟨.removeDirectory, ()⟩]
        (.error (readerFault e))
  | notStarted {words : List String} (directory : String) {fault : Fault} {u : List Exchange}
      {octets : Except IoError Octets} : s.commandFor operation = .ok words → Released u octets →
      Course s inherited operation further request status
        (opening s directory ++ ⟨launch s inherited words further request directory, .error fault⟩ ::
          (u ++ [⟨.removeDirectory, ()⟩]))
        (.error fault)
  | started {words : List String} (directory : String) {t k : List Exchange}
      {r : Except Fault Delivery} {ending : Option ExitStatus} (streams : Streams) :
      s.commandFor operation = .ok words → Gathered s.supervision status t r ending →
      GivenUp ending k →
      Course s inherited operation further request status
        (opening s directory ++ ⟨launch s inherited words further request directory, .ok ()⟩ ::
          (t ++ [⟨.capture, streams⟩, ⟨.removeDirectory, ()⟩] ++ k))
        r

/-! ## Every run takes one of these courses -/

theorem released_of_runs {attempts : Nat} {t : List Exchange} {octets : Except IoError Octets}
    (h : (releaseReader attempts).Runs t octets) : Released t octets := by
  induction attempts generalizing t with
  | zero =>
    obtain ⟨rfl, rfl⟩ := Dialogue.runs_done.mp h
    exact .stuck
  | succ attempts ih =>
    unfold releaseReader at h
    obtain ⟨opened, rest, rfl, hopened⟩ := runs_call_bind.mp h
    -- whether or not the pipe was opened, the attempt goes on with the same poll
    have hpoll : ∃ answer others,
        (⟨.openPipe, opened⟩ :: rest : List Exchange) = knock opened ++ ⟨.poll, answer⟩ :: others ∧
          (answer.elim (releaseReader attempts) pure).Runs others octets := by
      cases opened with
      | false =>
        obtain ⟨answer, others, rfl, hothers⟩ := runs_call_bind.mp hopened
        refine ⟨answer, others, rfl, ?_⟩
        cases answer <;> exact hothers
      | true =>
        obtain ⟨_, _, rfl, hclosed⟩ := runs_call_bind.mp hopened
        obtain ⟨answer, others, rfl, hothers⟩ := runs_call_bind.mp hclosed
        refine ⟨answer, others, rfl, ?_⟩
        cases answer <;> exact hothers
    obtain ⟨answer, others, heq, hothers⟩ := hpoll
    rw [heq]
    cases answer with
    | none => exact .again opened (ih hothers)
    | some outcome =>
      obtain ⟨rfl, rfl⟩ := Dialogue.runs_done.mp hothers
      exact .taken opened octets

/-- The ending that an answer to a look at a process tells. -/
def told : Except IoError (Option ExitStatus) → Option ExitStatus
  | .ok status => status
  | .error _ => none

/-- A look at a child whose end is not known asks the system once and keeps an ending. -/
theorem tryWait_of_runs {c c' : Child} {t : List Exchange}
    {a : Except IoError (Option ExitStatus)} (hc : c.reaped = none)
    (h : c.tryWait.Runs t (a, c')) :
    t = [⟨.tryWait, a⟩] ∧ c'.reaped = told a ∧ c'.captured = c.captured := by
  unfold Child.tryWait at h
  simp only [hc] at h
  obtain ⟨answer, rest, rfl, hrest⟩ := runs_call_bind.mp h
  cases answer with
  | error e =>
    obtain ⟨rfl, heq⟩ := Dialogue.runs_done.mp hrest
    cases heq
    exact ⟨rfl, hc, rfl⟩
  | ok status =>
    obtain ⟨rfl, heq⟩ := Dialogue.runs_done.mp hrest
    cases heq
    exact ⟨rfl, rfl, rfl⟩

/-- The ending that is known when the wait for a result is over. -/
def seen : Except Fault Arrival → Option ExitStatus
  | .ok (.ended status _) => some status
  | _ => none

theorem awaited_of_runs {limit : Option Nat} {patience : Nat} {c c' : Child} {t : List Exchange}
    {a : Except Fault Arrival} (hc : c.reaped = none)
    (h : (await limit c patience).Runs t (a, c')) :
    Awaited limit t a ∧ c'.reaped = seen a ∧ c'.captured = c.captured := by
  -- on the rounds that are followed: as long as the wait goes on the child is not known to have
  -- ended, so each round looks at it again
  induction patience generalizing c t with
  | zero => exact absurd h Dialogue.runs_suspended
  | succ patience ih =>
    unfold await at h
    obtain ⟨polled, rest, rfl, hpolled⟩ := runs_call_bind.mp h
    cases polled with
    | some octets =>
      obtain ⟨rfl, heq⟩ := Dialogue.runs_done.mp hpolled
      cases heq
      exact ⟨.delivered octets, hc, rfl⟩
    | none =>
      obtain ⟨looked, ⟨answer, c₁⟩, others, rfl, htry, hnext⟩ := Dialogue.runs_bind.mp hpolled
      obtain ⟨rfl, hreaped, hcaptured⟩ := tryWait_of_runs hc htry
      rw [← hcaptured]
      rcases answer with e | _ | status
      · obtain ⟨rfl, heq⟩ := Dialogue.runs_done.mp hnext
        cases heq
        exact ⟨.unknown e, hreaped, rfl⟩
      · cases limit with
        | none =>
          obtain ⟨hothers, hchild⟩ := ih hreaped hnext
          exact ⟨.unlimited rfl hothers, hchild⟩
        | some seconds =>
          obtain ⟨passed, last, rfl, hover⟩ := runs_call_bind.mp hnext
          cases passed with
          | true =>
            obtain ⟨rfl, heq⟩ := Dialogue.runs_done.mp hover
            cases heq
            exact ⟨.timeout rfl, hreaped, rfl⟩
          | false =>
            obtain ⟨hothers, hchild⟩ := ih hreaped hover
            exact ⟨.inTime rfl hothers, hchild⟩
      · obtain ⟨released, octets, last, rfl, hrelease, hdone⟩ := Dialogue.runs_bind.mp hnext
        obtain ⟨rfl, heq⟩ := Dialogue.runs_done.mp hdone
        cases heq
        rw [List.append_nil]
        exact ⟨.ended status (released_of_runs hrelease), hreaped, rfl⟩

theorem waited_of_runs {milliseconds patience : Nat} {c c' : Child} {t : List Exchange}
    {a : Except IoError (Option ExitStatus)} (hc : c.reaped = none)
    (h : (c.waitFor milliseconds patience).Runs t (a, c')) :
    Waited milliseconds t a ∧ c'.reaped = told a ∧ c'.captured = c.captured := by
  -- as for the wait for a result, with nothing to poll
  induction patience generalizing c t with
  | zero => exact absurd h Dialogue.runs_suspended
  | succ patience ih =>
    unfold Child.waitFor at h
    obtain ⟨looked, ⟨answer, c₁⟩, others, rfl, htry, hnext⟩ := Dialogue.runs_bind.mp h
    obtain ⟨rfl, hreaped, hcaptured⟩ := tryWait_of_runs hc htry
    rw [← hcaptured]
    rcases answer with e | _ | status
    · obtain ⟨rfl, heq⟩ := Dialogue.runs_done.mp hnext
      cases heq
      exact ⟨.unknown e, hreaped, rfl⟩
    · obtain ⟨passed, last, rfl, hover⟩ := runs_call_bind.mp hnext
      cases passed with
      | true =>
        obtain ⟨rfl, heq⟩ := Dialogue.runs_done.mp hover
        cases heq
        exact ⟨.passed, hreaped, rfl⟩
      | false =>
        obtain ⟨hothers, hchild⟩ := ih hreaped hover
        exact ⟨.again hothers, hchild⟩
    · obtain ⟨rfl, heq⟩ := Dialogue.runs_done.mp hnext
      cases heq
      exact ⟨.ended status, hreaped, rfl⟩

/-- A child whose end is known is waited for without a question. -/
theorem waitFor_reaped {milliseconds patience : Nat} {c c' : Child} {t : List Exchange}
    {a : Except IoError (Option ExitStatus)} {status : ExitStatus} (hc : c.reaped = some status)
    (h : (c.waitFor milliseconds patience).Runs t (a, c')) :
    t = [] ∧ a = .ok (some status) ∧ c' = c := by
  cases patience with
  | zero => exact absurd h Dialogue.runs_suspended
  | succ patience =>
    unfold Child.waitFor Child.tryWait at h
    simp only [hc] at h
    obtain ⟨rfl, heq⟩ := Dialogue.runs_done.mp h
    cases heq
    exact ⟨rfl, rfl, rfl⟩

theorem killed_of_runs {c c' : Child} {answer : SignalAnswer} {t : List Exchange}
    {a : Except Fault ExitStatus} (hc : c.reaped = none) (hanswer : ∀ text, answer ≠ .failed text)
    (h : (do
      match ← call .wait with
      | .ok status => return (.ok status, { c with reaped := some status })
      | .error e => return (.error (.io e), c) : Program (Except Fault ExitStatus × Child)).Runs t
        (a, c')) :
    Terminated (⟨.kill, answer⟩ :: t) c'.reaped ∧ c'.reaped = a.toOption ∧
      c'.captured = c.captured := by
  obtain ⟨waited, rest, rfl, hwaited⟩ := runs_call_bind.mp h
  cases waited with
  | error e =>
    obtain ⟨rfl, heq⟩ := Dialogue.runs_done.mp hwaited
    cases heq
    rw [hc]
    exact ⟨.unknown e hanswer, rfl, rfl⟩
  | ok status =>
    obtain ⟨rfl, heq⟩ := Dialogue.runs_done.mp hwaited
    cases heq
    exact ⟨.killed status hanswer, rfl, rfl⟩

theorem terminated_of_runs {c c' : Child} {t : List Exchange} {a : Except Fault ExitStatus}
    (hc : c.reaped = none) (h : c.terminate.Runs t (a, c')) :
    Terminated t c'.reaped ∧ c'.reaped = a.toOption ∧ c'.captured = c.captured := by
  unfold Child.terminate at h
  simp only [hc] at h
  obtain ⟨answer, rest, rfl, hsent⟩ := runs_call_bind.mp h
  cases answer with
  | failed text =>
    obtain ⟨rfl, heq⟩ := Dialogue.runs_done.mp hsent
    cases heq
    rw [hc]
    exact ⟨.refused text, rfl, rfl⟩
  | sent => exact killed_of_runs hc (by simp) hsent
  | gone => exact killed_of_runs hc (by simp) hsent

/-- A child whose end is known is terminated without a question. -/
theorem terminate_reaped {c c' : Child} {t : List Exchange} {a : Except Fault ExitStatus}
    {status : ExitStatus} (hc : c.reaped = some status) (h : c.terminate.Runs t (a, c')) :
    t = [] ∧ c' = c := by
  unfold Child.terminate at h
  simp only [hc] at h
  obtain ⟨rfl, heq⟩ := Dialogue.runs_done.mp h
  cases heq
  exact ⟨rfl, rfl⟩

theorem givenUp_of_runs {c c' : Child} {t : List Exchange} (h : c.release.Runs t c') :
    GivenUp c.reaped t := by
  unfold Child.release at h
  cases hc : c.reaped with
  | some status =>
    simp only [hc] at h
    obtain ⟨rfl, rfl⟩ := Dialogue.runs_done.mp h
    exact .ended status
  | none =>
    simp only [hc] at h
    obtain ⟨k, ⟨a, c₁⟩, rest, rfl, hterm, hdone⟩ := Dialogue.runs_bind.mp h
    obtain ⟨rfl, rfl⟩ := Dialogue.runs_done.mp hdone
    rw [List.append_nil]
    exact .killed (terminated_of_runs hc hterm).1

theorem gathered_of_runs {s : SupervisionSettings} {status patience : Nat} {c c' : Child}
    {t : List Exchange} {r : Except Fault Delivery} (hc : c.reaped = none)
    (h : (collect s status patience c).Runs t (r, c')) :
    Gathered s status t r c'.reaped ∧ c'.captured = c.captured := by
  unfold collect at h
  obtain ⟨waited, ⟨arrival, c₁⟩, others, rfl, hawait, hnext⟩ := Dialogue.runs_bind.mp h
  obtain ⟨hawaited, hreaped, hcaptured⟩ := awaited_of_runs hc hawait
  rw [← hcaptured]
  rcases arrival with fault | arrival
  · -- nothing arrived, and the child is killed before the reader is released
    obtain ⟨k, ⟨_, c₂⟩, rest, rfl, hterm, hkilled⟩ := Dialogue.runs_bind.mp hnext
    obtain ⟨u, octets, last, rfl, hrelease, hdone⟩ := Dialogue.runs_bind.mp hkilled
    obtain ⟨rfl, heq⟩ := Dialogue.runs_done.mp hdone
    cases heq
    obtain ⟨hterminated, _, hkept⟩ := terminated_of_runs hreaped hterm
    rw [List.append_nil, ← List.append_assoc]
    exact ⟨.missing hawaited hterminated (released_of_runs hrelease), hkept⟩
  · dsimp only at hnext
    cases hjudge : judge arrival with
    | error fault =>
      simp only [hjudge] at hnext
      obtain ⟨k, ⟨_, c₂⟩, rest, rfl, hterm, hdone⟩ := Dialogue.runs_bind.mp hnext
      obtain ⟨rfl, heq⟩ := Dialogue.runs_done.mp hdone
      cases heq
      rw [List.append_nil]
      -- the termination asks something only of a child that was not seen to end
      cases arrival with
      | delivered octets =>
        obtain ⟨hterminated, _, hkept⟩ := terminated_of_runs hreaped hterm
        exact ⟨.unreadable hawaited hjudge hterminated, hkept⟩
      | ended ending octets =>
        obtain ⟨rfl, rfl⟩ := terminate_reaped hreaped hterm
        rw [List.append_nil, hreaped]
        exact ⟨.leftNone hawaited hjudge, rfl⟩
    | ok document =>
      simp only [hjudge] at hnext
      obtain ⟨w, ⟨answer, c₂⟩, rest, rfl, hwait, hended⟩ := Dialogue.runs_bind.mp hnext
      -- and so does the wait for its end
      cases arrival with
      | delivered octets =>
        obtain ⟨hwaited, hknown, hkept⟩ := waited_of_runs hreaped hwait
        rw [← hkept]
        rcases answer with e | _ | ending
        · obtain ⟨rfl, heq⟩ := Dialogue.runs_done.mp hended
          cases heq
          rw [List.append_nil, hknown]
          exact ⟨.unknown hawaited hjudge hwaited, rfl⟩
        · obtain ⟨k, ⟨_, c₃⟩, last, rfl, hterm, hdone⟩ := Dialogue.runs_bind.mp hended
          obtain ⟨rfl, heq⟩ := Dialogue.runs_done.mp hdone
          cases heq
          obtain ⟨hterminated, _, hsame⟩ := terminated_of_runs hknown hterm
          rw [List.append_nil, ← List.append_assoc]
          exact ⟨.lingering hawaited hjudge hwaited hterminated, hsame⟩
        · obtain ⟨rfl, heq⟩ := Dialogue.runs_done.mp hended
          cases heq
          rw [List.append_nil, hknown]
          exact ⟨.ended hawaited hjudge hwaited, rfl⟩
      | ended ending octets =>
        obtain ⟨rfl, rfl, rfl⟩ := waitFor_reaped hreaped hwait
        obtain ⟨rfl, heq⟩ := Dialogue.runs_done.mp hended
        cases heq
        rw [List.append_nil, List.append_nil, hreaped]
        exact ⟨.left hawaited hjudge, rfl⟩

theorem finish_of_runs {c c' : Child} {t : List Exchange} {d : Diagnostics}
    (hc : c.captured = false) (h : c.finish.Runs t (d, c')) :
    ∃ streams, t = [⟨.capture, streams⟩] ∧ c'.reaped = c.reaped := by
  unfold Child.finish at h
  simp only [hc, Bool.false_eq_true, if_false] at h
  obtain ⟨streams, rest, rfl, hdone⟩ := runs_call_bind.mp h
  obtain ⟨rfl, heq⟩ := Dialogue.runs_done.mp hdone
  cases heq
  exact ⟨streams, rfl, rfl⟩

/-- A channel is made in two steps, and what the first one made is removed when the second fails. -/
theorem opened_of_runs {parent : Option String} {t : List Exchange} {a : Except Fault String}
    (h : (openChannel parent).Runs t a) :
    (∃ e, t = [⟨.makeDirectory parent, .error e⟩] ∧ a = .error (ChannelError.directory e).fault) ∨
      (∃ directory reason,
        t = [⟨.makeDirectory parent, .ok directory⟩,
          ⟨.makePipe (Channel.pathIn directory), .error reason⟩, ⟨.removeDirectory, ()⟩] ∧
        a = .error (ChannelError.pipe (Channel.pathIn directory) reason).fault) ∨
      ∃ directory,
        t = [⟨.makeDirectory parent, .ok directory⟩,
          ⟨.makePipe (Channel.pathIn directory), .ok ()⟩] ∧
        a = .ok (Channel.pathIn directory) := by
  unfold openChannel at h
  obtain ⟨made, rest, rfl, hmade⟩ := runs_call_bind.mp h
  cases made with
  | error e =>
    obtain ⟨rfl, rfl⟩ := Dialogue.runs_done.mp hmade
    exact .inl ⟨e, rfl, rfl⟩
  | ok directory =>
    obtain ⟨piped, others, rfl, hpiped⟩ := runs_call_bind.mp hmade
    cases piped with
    | error reason =>
      obtain ⟨_, last, rfl, hremoved⟩ := runs_call_bind.mp hpiped
      obtain ⟨rfl, rfl⟩ := Dialogue.runs_done.mp hremoved
      exact .inr (.inl ⟨directory, reason, rfl, rfl⟩)
    | ok _ =>
      obtain ⟨rfl, rfl⟩ := Dialogue.runs_done.mp hpiped
      exact .inr (.inr ⟨directory, rfl, rfl⟩)

/-- Every conversation of an operation is one of its courses. -/
theorem course_of_runs {s : Settings} {inherited : Environment.Raw} {operation : String}
    {further : List String} {request : Option Request} {status patience : Nat}
    {t : List Exchange} {r : Except Fault Delivery}
    (h : (run s inherited operation further request status patience).Runs t r) :
    Course s inherited operation further request status t r := by
  unfold run at h
  cases hwords : s.commandFor operation with
  | error fault =>
    simp only [hwords] at h
    obtain ⟨rfl, rfl⟩ := Dialogue.runs_done.mp h
    exact .unresolved hwords
  | ok words =>
    simp only [hwords] at h
    obtain ⟨first, path, rest, rfl, hopen, hnext⟩ := Dialogue.runs_bind.mp h
    obtain ⟨e, rfl, rfl⟩ | ⟨directory, reason, rfl, rfl⟩ | ⟨directory, rfl, rfl⟩ :=
      opened_of_runs hopen
    · obtain ⟨rfl, rfl⟩ := Dialogue.runs_done.mp hnext
      exact .noDirectory e hwords
    · obtain ⟨rfl, rfl⟩ := Dialogue.runs_done.mp hnext
      exact .noPipe directory reason hwords
    · obtain ⟨reading, others, rfl, hreading⟩ := runs_call_bind.mp hnext
      cases reading with
      | error e =>
        obtain ⟨_, last, rfl, hremoved⟩ := runs_call_bind.mp hreading
        obtain ⟨rfl, rfl⟩ := Dialogue.runs_done.mp hremoved
        exact .noReader directory e hwords
      | ok _ =>
        obtain ⟨launched, course, rfl, hlaunched⟩ := runs_call_bind.mp hreading
        cases launched with
        | error fault =>
          obtain ⟨u, octets, last, rfl, hrelease, hfreed⟩ := Dialogue.runs_bind.mp hlaunched
          obtain ⟨_, none, rfl, hremoved⟩ := runs_call_bind.mp hfreed
          obtain ⟨rfl, rfl⟩ := Dialogue.runs_done.mp hremoved
          exact .notStarted directory hwords (released_of_runs hrelease)
        | ok _ =>
          -- the child begins unreaped and untapped, which is what its parts start from
          obtain ⟨u, ⟨result, c₁⟩, after, rfl, hcollect, hcollected⟩ :=
            Dialogue.runs_bind.mp hlaunched
          obtain ⟨hgathered, hcaptured⟩ := gathered_of_runs rfl hcollect
          obtain ⟨v, ⟨_, c₂⟩, last, rfl, hfinish, hfinished⟩ := Dialogue.runs_bind.mp hcollected
          obtain ⟨streams, rfl, hsame⟩ := finish_of_runs hcaptured hfinish
          obtain ⟨_, ending, rfl, hremoved⟩ := runs_call_bind.mp hfinished
          obtain ⟨k, c₃, none, rfl, hgive, hdone⟩ := Dialogue.runs_bind.mp hremoved
          obtain ⟨rfl, rfl⟩ := Dialogue.runs_done.mp hdone
          have hgiven := givenUp_of_runs hgive
          rw [hsame] at hgiven
          rw [List.append_nil]
          have hcourse : Course s inherited operation further request status
              (opening s directory ++
                ⟨launch s inherited words further request directory, .ok ()⟩ ::
                  (u ++ [⟨.capture, streams⟩, ⟨.removeDirectory, ()⟩] ++ k)) r :=
            .started directory streams hwords hgathered hgiven
          rw [List.append_assoc] at hcourse
          exact hcourse

/-- Settings with one operation. -/
def oneCommand (operation : String) : Settings :=
  { commands := Dictionary.empty.insert operation "adapter --once" }

end Supervision

end AdapterGateway
