import AdapterGateway.Proofs.Supervision.Course

/-!
# Holdings

What an operation holds of the system at any point of a conversation: the directories that it made
and did not remove, and the process that it started.  They are read off the exchanges alone, one
after the other, and each part of a course moves them in one way, whatever is answered.
-/

namespace AdapterGateway

open Text

/-- How far the process of an operation has come. -/
inductive Fate where
  /-- There is none. -/
  | unborn
  | running
  /-- It was killed and is not reaped. -/
  | signalled
  /-- It ended by itself and is reaped. -/
  | ended
  /-- It was killed and is reaped. -/
  | killed
deriving DecidableEq, Repr

/-- Whether a process is there that nobody reaped. -/
def Fate.left : Fate → Bool
  | .running | .signalled => true
  | .unborn | .ended | .killed => false

/-- The fate of a process that runs until its end is seen. -/
def Fate.seen : Option ExitStatus → Fate
  | some _ => .ended
  | none => .running

/-- What an operation holds. -/
structure Holdings where
  /-- The directories that were made and not removed, the last one first. -/
  directories : List String := []
  process : Fate := .unborn
deriving DecidableEq, Repr

namespace Holdings

/-- What one exchange changes. -/
def note (h : Holdings) : Exchange → Holdings
  | ⟨.makeDirectory _, .ok directory⟩ => { h with directories := directory :: h.directories }
  | ⟨.removeDirectory, _⟩ => { h with directories := h.directories.tail }
  | ⟨.spawn _ _, .ok _⟩ => { h with process := .running }
  | ⟨.tryWait, .ok (some _)⟩ => { h with process := .ended }
  | ⟨.kill, .sent⟩ | ⟨.kill, .gone⟩ => { h with process := .signalled }
  | ⟨.wait, .ok _⟩ => { h with process := .killed }
  | _ => h

/-- What a conversation leaves. -/
def after (h : Holdings) (t : List Exchange) : Holdings := t.foldl note h

@[simp] theorem after_nil (h : Holdings) : h.after [] = h := rfl

@[simp] theorem after_cons (h : Holdings) (x : Exchange) (t : List Exchange) :
    h.after (x :: t) = (h.note x).after t := rfl

@[simp] theorem after_append (h : Holdings) (t u : List Exchange) :
    h.after (t ++ u) = (h.after t).after u := List.foldl_append

end Holdings

inductive Role where
  | prepares
  | starts
  | watches
  | stops
  | clears
deriving DecidableEq, Repr

/-- What a call is made for. -/
def Call.role : Call → Role
  | .makeDirectory _ | .makePipe _ | .startReader => .prepares
  | .spawn _ _ => .starts
  | .poll | .tryWait | .isOver _ | .openPipe | .closePipe => .watches
  | .kill | .wait => .stops
  | .capture | .removeDirectory => .clears

/-- The system kills what it is told to kill, and tells how it ended. -/
structure Obliging (t : List Exchange) : Prop where
  kills : ∀ text, ⟨.kill, .failed text⟩ ∉ t
  tells : ∀ e, ⟨.wait, .error e⟩ ∉ t

theorem Obliging.mono {t u : List Exchange} (h : Obliging u) (hsub : t ⊆ u) : Obliging t :=
  ⟨fun text hmem => h.kills text (hsub hmem), fun e hmem => h.tells e (hsub hmem)⟩

namespace Supervision

open Holdings

/-! ## What each part of a course asks -/

theorem role_of_mem_knock {opened : Bool} {x : Exchange} (hx : x ∈ knock opened) :
    x.1.role = .watches := by
  cases opened <;> simp only [knock, List.mem_cons, List.not_mem_nil, or_false] at hx
  · subst hx
    rfl
  · rcases hx with rfl | rfl <;> rfl

theorem role_of_mem_released {t : List Exchange} {octets : Except IoError Octets}
    (ht : Released t octets) : ∀ x ∈ t, x.1.role = .watches := by
  induction ht with
  | stuck => simp
  | taken opened octets =>
    intro x hx
    rcases List.mem_append.mp hx with hknock | hpoll
    · exact role_of_mem_knock hknock
    · rw [List.mem_singleton.mp hpoll]
      rfl
  | again opened _ ih =>
    intro x hx
    rcases List.mem_append.mp hx with hknock | hrest
    · exact role_of_mem_knock hknock
    · rcases List.mem_cons.mp hrest with rfl | hlater
      · rfl
      · exact ih x hlater

theorem role_of_mem_awaited {limit : Option Nat} {t : List Exchange} {a : Except Fault Arrival}
    (ht : Awaited limit t a) : ∀ x ∈ t, x.1.role = .watches := by
  induction ht with
  | delivered octets => simp [Call.role]
  | unknown e => simp [Call.role]
  | ended status hreleased => simpa [Call.role] using role_of_mem_released hreleased
  | timeout _ => simp [Call.role]
  | unlimited _ _ ih => simpa [Call.role] using ih
  | inTime _ _ ih => simpa [Call.role] using ih

theorem role_of_mem_waited {milliseconds : Nat} {t : List Exchange}
    {a : Except IoError (Option ExitStatus)} (ht : Waited milliseconds t a) :
    ∀ x ∈ t, x.1.role = .watches := by
  induction ht with
  | unknown e => simp [Call.role]
  | ended status => simp [Call.role]
  | passed => simp [Call.role]
  | again _ ih => simpa [Call.role] using ih

theorem role_of_mem_terminated {t : List Exchange} {ending : Option ExitStatus}
    (ht : Terminated t ending) : ∀ x ∈ t, x.1.role = .stops := by
  cases ht <;> simp [Call.role]

theorem role_of_mem_givenUp {t : List Exchange} {ending : Option ExitStatus}
    (ht : GivenUp ending t) : ∀ x ∈ t, x.1.role = .stops := by
  cases ht with
  | ended status => simp
  | killed hterminated => exact role_of_mem_terminated hterminated

theorem role_of_mem_gathered {s : SupervisionSettings} {status : Nat} {t : List Exchange}
    {r : Except Fault Delivery} {ending : Option ExitStatus} (ht : Gathered s status t r ending) :
    ∀ x ∈ t, x.1.role = .watches ∨ x.1.role = .stops := by
  have hor {u v : List Exchange} (hu : ∀ x ∈ u, x.1.role = .watches ∨ x.1.role = .stops)
      (hv : ∀ x ∈ v, x.1.role = .watches ∨ x.1.role = .stops) :
      ∀ x ∈ u ++ v, x.1.role = .watches ∨ x.1.role = .stops := by
    intro x hx
    exact (List.mem_append.mp hx).elim (hu x) (hv x)
  -- terminations stop, and all the other parts watch
  cases ht with
  | missing hawaited hterminated hreleased =>
    refine hor (hor ?_ ?_) ?_
    · exact fun x hx => .inl (role_of_mem_awaited hawaited x hx)
    · exact fun x hx => .inr (role_of_mem_terminated hterminated x hx)
    · exact fun x hx => .inl (role_of_mem_released hreleased x hx)
  | unreadable hawaited _ hterminated =>
    refine hor ?_ ?_
    · exact fun x hx => .inl (role_of_mem_awaited hawaited x hx)
    · exact fun x hx => .inr (role_of_mem_terminated hterminated x hx)
  | leftNone hawaited _ => exact fun x hx => .inl (role_of_mem_awaited hawaited x hx)
  | left hawaited _ => exact fun x hx => .inl (role_of_mem_awaited hawaited x hx)
  | unknown hawaited _ hwaited =>
    refine hor ?_ ?_
    · exact fun x hx => .inl (role_of_mem_awaited hawaited x hx)
    · exact fun x hx => .inl (role_of_mem_waited hwaited x hx)
  | ended hawaited _ hwaited =>
    refine hor ?_ ?_
    · exact fun x hx => .inl (role_of_mem_awaited hawaited x hx)
    · exact fun x hx => .inl (role_of_mem_waited hwaited x hx)
  | lingering hawaited _ hwaited hterminated =>
    refine hor (hor ?_ ?_) ?_
    · exact fun x hx => .inl (role_of_mem_awaited hawaited x hx)
    · exact fun x hx => .inl (role_of_mem_waited hwaited x hx)
    · exact fun x hx => .inr (role_of_mem_terminated hterminated x hx)

/-! ## What each part of a course does to the holdings -/

theorem after_knock (h : Holdings) (opened : Bool) : h.after (knock opened) = h := by
  cases opened <;> rfl

theorem after_released {t : List Exchange} {octets : Except IoError Octets}
    (ht : Released t octets) (h : Holdings) : h.after t = h := by
  induction ht with
  | stuck => rfl
  | taken opened octets =>
    rw [after_append, after_knock]
    rfl
  | again opened _ ih =>
    rw [after_append, after_knock, after_cons]
    exact ih

theorem after_awaited {limit : Option Nat} {t : List Exchange} {a : Except Fault Arrival}
    (ht : Awaited limit t a) (directories : List String) :
    (⟨directories, .running⟩ : Holdings).after t = ⟨directories, Fate.seen (seen a)⟩ := by
  -- a look that tells an ending is the last one, so the process runs throughout the rounds before
  induction ht with
  | delivered octets => rfl
  | unknown e => rfl
  | ended status hreleased =>
    rw [after_cons, after_cons, after_released hreleased]
    rfl
  | timeout _ => rfl
  | unlimited _ _ ih => exact ih
  | inTime _ _ ih => exact ih

theorem after_waited {milliseconds : Nat} {t : List Exchange}
    {a : Except IoError (Option ExitStatus)} (ht : Waited milliseconds t a)
    (directories : List String) :
    (⟨directories, .running⟩ : Holdings).after t = ⟨directories, Fate.seen (told a)⟩ := by
  induction ht with
  | unknown e => rfl
  | ended status => rfl
  | passed => rfl
  | again _ ih => exact ih

/-- Termination reaps a process, unless the system refuses the signal or does not tell the end. -/
theorem after_terminated {t : List Exchange} {ending : Option ExitStatus}
    (ht : Terminated t ending) (directories : List String) {fate : Fate} (hfate : fate.left = true) :
    ∃ next, (⟨directories, fate⟩ : Holdings).after t = ⟨directories, next⟩ ∧
      next.left = ending.isNone := by
  cases ht with
  | refused text => exact ⟨fate, rfl, hfate⟩
  | @unknown answer e hanswer =>
    refine ⟨.signalled, ?_, rfl⟩
    cases answer with
    | failed text => exact absurd rfl (hanswer text)
    | sent => rfl
    | gone => rfl
  | @killed answer status hanswer =>
    refine ⟨.killed, ?_, rfl⟩
    cases answer with
    | failed text => exact absurd rfl (hanswer text)
    | sent => rfl
    | gone => rfl

theorem after_gathered {s : SupervisionSettings} {status : Nat} {t : List Exchange}
    {r : Except Fault Delivery} {ending : Option ExitStatus} (ht : Gathered s status t r ending)
    (directories : List String) :
    ∃ fate, (⟨directories, .running⟩ : Holdings).after t = ⟨directories, fate⟩ ∧
      fate.left = ending.isNone := by
  cases ht with
  | missing hawaited hterminated hreleased =>
    rw [after_append, after_append, after_awaited hawaited, after_released hreleased]
    exact after_terminated hterminated directories rfl
  | unreadable hawaited _ hterminated =>
    rw [after_append, after_awaited hawaited]
    exact after_terminated hterminated directories rfl
  | leftNone hawaited _ => exact ⟨.ended, after_awaited hawaited directories, rfl⟩
  | left hawaited _ => exact ⟨.ended, after_awaited hawaited directories, rfl⟩
  | unknown hawaited _ hwaited =>
    rw [after_append, after_awaited hawaited]
    exact ⟨.running, after_waited hwaited directories, rfl⟩
  | ended hawaited _ hwaited =>
    rw [after_append, after_awaited hawaited]
    exact ⟨.ended, after_waited hwaited directories, rfl⟩
  | lingering hawaited _ hwaited hterminated =>
    -- neither wait saw the process end, so the termination still finds it running
    rw [after_append, after_append, after_awaited hawaited]
    simp only [seen, Fate.seen]
    rw [after_waited hwaited]
    exact after_terminated hterminated directories rfl

theorem after_givenUp {t : List Exchange} {ending : Option ExitStatus} (ht : GivenUp ending t)
    (directories : List String) {fate : Fate} (hfate : fate.left = ending.isNone) :
    ∃ next, (⟨directories, fate⟩ : Holdings).after t = ⟨directories, next⟩ ∧
      (Obliging t → next.left = false) := by
  cases ht with
  | ended status => exact ⟨fate, rfl, fun _ => hfate⟩
  | killed hterminated =>
    obtain ⟨next, hnext, hleft⟩ := after_terminated hterminated directories hfate
    refine ⟨next, hnext, fun hobliging => ?_⟩
    rw [hleft]
    -- only the answers that an obliging system does not give leave the process unreaped
    cases hterminated with
    | refused text => exact absurd (List.mem_singleton.mpr rfl) (hobliging.kills text)
    | unknown e _ => exact absurd (by simp) (hobliging.tells e)
    | killed status _ => rfl

/-- Whatever course an operation takes, its directory is removed at the end, and its process is
    reaped by an obliging system. -/
theorem after_course {s : Settings} {inherited : Environment.Raw} {operation : String}
    {further : List String} {request : Option Request} {status : Nat} {t : List Exchange}
    {r : Except Fault Delivery} (ht : Course s inherited operation further request status t r) :
    ∃ fate, ({} : Holdings).after t = ⟨[], fate⟩ ∧ (Obliging t → fate.left = false) := by
  cases ht with
  | unresolved _ => exact ⟨.unborn, rfl, fun _ => rfl⟩
  | noDirectory e _ => exact ⟨.unborn, rfl, fun _ => rfl⟩
  | noPipe directory reason _ => exact ⟨.unborn, rfl, fun _ => rfl⟩
  | noReader directory e _ => exact ⟨.unborn, rfl, fun _ => rfl⟩
  | notStarted directory _ hreleased =>
    rw [after_append, after_cons, after_append, after_released hreleased]
    exact ⟨.unborn, rfl, fun _ => rfl⟩
  | @started words directory t k r ending streams _ hgathered hgiven =>
    -- the directory is removed before the adapter is given up
    obtain ⟨fate, hfate, hleft⟩ := after_gathered hgathered [directory]
    obtain ⟨next, hnext, hreaped⟩ := after_givenUp hgiven [] hleft
    refine ⟨next, ?_, fun hobliging => hreaped (hobliging.mono fun x hx => ?_)⟩
    · rw [after_append, after_cons, after_append, after_append]
      exact (congrArg (fun h => ((h : Holdings).after _).after k) hfate).trans hnext
    · simp [hx]

end Supervision

end AdapterGateway
