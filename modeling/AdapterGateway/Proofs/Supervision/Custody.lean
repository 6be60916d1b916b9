import AdapterGateway.Proofs.Occurrence
import AdapterGateway.Proofs.Supervision.Holdings

/-!
# Custody of a process

A process that was started is looked at, waited for, terminated, asked for its streams and given up,
in any order and whatever the system answers.  As soon as the system has reported how it ended, that
is what every look tells, and neither a question nor a signal goes to the system any more: the number
of the process may by then be that of another one.  Before that it is killed once, unless the system
failed to kill it or to tell its end.
-/

namespace AdapterGateway

open Text Supervision

/-- How the process ended, where an exchange reports it.  The system has reaped the process then. -/
def reported : Exchange → Option ExitStatus
  | ⟨.tryWait, .ok status⟩ => status
  | ⟨.wait, .ok status⟩ => some status
  | _ => none

namespace Child

/-- What can be done with a process that was started. -/
inductive Act where
  | tryWait
  /-- A wait of so many milliseconds that is followed for so many rounds. -/
  | waitFor (milliseconds patience : Nat)
  | terminate
  | finish
  | release
deriving DecidableEq, Repr

abbrev Act.Result : Act → Type
  | .tryWait | .waitFor _ _ => Except IoError (Option ExitStatus)
  | .terminate => Except Fault ExitStatus
  | .finish => Diagnostics
  | .release => Unit

def perform (c : Child) : (act : Act) → Program (act.Result × Child)
  | .tryWait => c.tryWait
  | .waitFor milliseconds patience => c.waitFor milliseconds patience
  | .terminate => c.terminate
  | .finish => c.finish
  | .release => do
    let c ← c.release
    return ((), c)

/-- Whether an act is to tell how the process ended. -/
def Act.looks : Act → Bool
  | .tryWait | .waitFor _ _ | .terminate => true
  | .finish | .release => false

/-- The ending that a result tells. -/
def Act.status? : (act : Act) → act.Result → Option ExitStatus
  | .tryWait, a | .waitFor _ _, a => told a
  | .terminate, a => a.toOption
  | .finish, _ | .release, _ => none

/-- One act, with what was asked and answered meanwhile and what came of it. -/
structure Episode where
  act : Act
  exchanges : List Exchange
  result : act.Result

def Episode.status? (e : Episode) : Option ExitStatus := e.act.status? e.result

/-- `c.Spends es c'`: what is done with `c`, one act after the other, can go as `es` tells, and then
    leaves `c'`. -/
inductive Spends : Child → List Episode → Child → Prop where
  | nil (c : Child) : Spends c [] c
  | cons {c c' c'' : Child} {act : Act} {t : List Exchange} {result : act.Result}
      {es : List Episode} : (c.perform act).Runs t (result, c') → Spends c' es c'' →
      Spends c (⟨act, t, result⟩ :: es) c''

/-- All that was asked and answered. -/
def asked (es : List Episode) : List Exchange := es.flatMap (·.exchanges)

/-! ## One act -/

section
variable {c c' : Child} {t : List Exchange} {ending : Option ExitStatus} {status : ExitStatus}

/-- What one act can ask about a process of which no ending is known, and the ending that is known
    behind it. -/
structure Bout (t : List Exchange) (ending : Option ExitStatus) : Prop where
  known : t.findSome? reported = ending
  /-- Nothing is asked behind a report. -/
  last : t.Pairwise fun x _ => reported x = none
  /-- A signal is the first thing that an act asks for. -/
  first : ∀ x ∈ t.tail, x.1 ≠ .kill
  /-- Behind a signal the ending is known, unless the system failed. -/
  settled : ending = none → Obliging t → ∀ x ∈ t, x.1 ≠ .kill

theorem ne_kill_of_watches {x : Exchange} (hx : x.1.role = .watches) : x.1 ≠ .kill := by
  intro hkill
  rw [hkill] at hx
  cases hx

theorem bout_tryWait (a : Except IoError (Option ExitStatus)) : Bout [⟨.tryWait, a⟩] (told a) where
  known := by
    cases a with
    | error e => rfl
    | ok ending => cases ending <;> rfl
  last := List.pairwise_singleton _ _
  first := by simp
  settled := by simp

theorem bout_waited {milliseconds : Nat} {a : Except IoError (Option ExitStatus)}
    (h : Waited milliseconds t a) : Bout t (told a) := by
  have hwatches : ∀ x ∈ t, x.1 ≠ .kill :=
    fun x hx => ne_kill_of_watches (role_of_mem_waited h x hx)
  -- a wait goes on only behind looks that told nothing
  have hreports : t.findSome? reported = told a ∧ t.Pairwise fun x _ => reported x = none := by
    clear hwatches
    induction h with
    | unknown e => exact ⟨(bout_tryWait (.error e)).known, (bout_tryWait (.error e)).last⟩
    | ended status =>
      exact ⟨(bout_tryWait (.ok (some status))).known, (bout_tryWait (.ok (some status))).last⟩
    | passed => exact ⟨rfl, by simp [reported]⟩
    | again _ ih => exact ⟨ih.1, .cons (fun _ _ => rfl) (.cons (fun _ _ => rfl) ih.2)⟩
  exact ⟨hreports.1, hreports.2, fun x hx => hwatches x (List.mem_of_mem_tail hx),
    fun _ _ => hwatches⟩

theorem bout_terminated (h : Terminated t ending) : Bout t ending := by
  cases h with
  | refused text =>
    refine ⟨rfl, List.pairwise_singleton _ _, by simp, fun _ hobliging => ?_⟩
    exact absurd List.mem_cons_self (hobliging.kills text)
  | unknown e hanswer =>
    refine ⟨rfl, by simp [reported], by simp, fun _ hobliging => ?_⟩
    exact absurd (List.mem_cons_of_mem _ List.mem_cons_self) (hobliging.tells e)
  | killed status hanswer => exact ⟨rfl, by simp [reported], by simp, fun hnone => nomatch hnone⟩

/-- The streams of a process have nothing to do with its end. -/
theorem captured_of_finish {d : Diagnostics} (h : c.finish.Runs t (d, c')) :
    c'.reaped = c.reaped ∧ ∀ x ∈ t, x.1 = .capture := by
  unfold finish at h
  by_cases hcaptured : c.captured = true
  · rw [if_pos hcaptured] at h
    obtain ⟨rfl, heq⟩ := Dialogue.runs_done.mp h
    cases heq
    exact ⟨rfl, by simp⟩
  · rw [if_neg hcaptured] at h
    obtain ⟨streams, rest, rfl, hrest⟩ := runs_call_bind.mp h
    obtain ⟨rfl, heq⟩ := Dialogue.runs_done.mp hrest
    cases heq
    exact ⟨rfl, by simp⟩

/-- Whoever asks for the streams hears of no ending and kills nobody. -/
theorem quiet_of_capture {x : Exchange} (hx : x.1 = .capture) : reported x = none ∧ x.1 ≠ .kill := by
  obtain ⟨question, answer⟩ := x
  cases hx
  exact ⟨rfl, fun hkill => nomatch hkill⟩

theorem bout_finish (h : ∀ x ∈ t, x.1 = .capture) : Bout t none where
  known := List.findSome?_eq_none_iff.mpr fun x hx => (quiet_of_capture (h x hx)).1
  last := List.pairwise_of_forall_mem_list fun x hx _ _ => (quiet_of_capture (h x hx)).1
  first x hx := (quiet_of_capture (h x (List.mem_of_mem_tail hx))).2
  settled _ _ x hx := (quiet_of_capture (h x hx)).2

theorem terminated_of_release (hc : c.reaped = none) (h : c.release.Runs t c') :
    Terminated t c'.reaped := by
  unfold release at h
  simp only [hc] at h
  obtain ⟨k, ⟨a, c₁⟩, rest, rfl, hterm, hdone⟩ := Dialogue.runs_bind.mp h
  obtain ⟨rfl, rfl⟩ := Dialogue.runs_done.mp hdone
  rw [List.append_nil]
  exact (terminated_of_runs hc hterm).1

/-- What any act asks about a process of which no ending is known. -/
theorem bout_perform {act : Act} {result : act.Result} (hc : c.reaped = none)
    (h : (c.perform act).Runs t (result, c')) : Bout t c'.reaped := by
  cases act with
  | tryWait =>
    obtain ⟨rfl, hreaped, _⟩ := tryWait_of_runs hc h
    rw [hreaped]
    exact bout_tryWait result
  | waitFor milliseconds patience =>
    obtain ⟨hwaited, hreaped, _⟩ := waited_of_runs hc h
    rw [hreaped]
    exact bout_waited hwaited
  | terminate => exact bout_terminated (terminated_of_runs hc h).1
  | finish =>
    obtain ⟨hreaped, hcapture⟩ := captured_of_finish h
    rw [hreaped, hc]
    exact bout_finish hcapture
  | release =>
    obtain ⟨k, c₁, rest, rfl, hrelease, hdone⟩ := Dialogue.runs_bind.mp h
    obtain ⟨rfl, heq⟩ := Dialogue.runs_done.mp hdone
    cases heq
    rw [List.append_nil]
    exact bout_terminated (terminated_of_release hc hrelease)

/-! ## Known endings -/

/-- Whoever looks is told the ending, and nothing is asked for it. -/
structure Settled (c : Child) (status : ExitStatus) : Prop where
  tryWait : c.tryWait = return (.ok (some status), c)
  waitFor : ∀ milliseconds patience,
    c.waitFor milliseconds (patience + 1) = return (.ok (some status), c)
  terminate : c.terminate = return (.ok status, c)
  release : c.release = return c

theorem settled_of_reaped (hc : c.reaped = some status) : c.Settled status := by
  have htry : c.tryWait = return (.ok (some status), c) := by
    unfold Child.tryWait
    simp only [hc]
  refine ⟨htry, fun milliseconds patience => ?_, ?_, ?_⟩
  · rw [Child.waitFor, htry]
    rfl
  · unfold Child.terminate
    simp only [hc]
  · unfold Child.release
    simp only [hc]

/-- What an act comes to when the ending is known. -/
structure AtRest (act : Act) (t : List Exchange) (result : act.Result) (c' : Child)
    (status : ExitStatus) : Prop where
  kept : c'.reaped = some status
  /-- Only the streams may still be asked for. -/
  captures : ∀ x ∈ t, x.1 = .capture
  silent : act ≠ .finish → t = []
  tells : act.looks = true → act.status? result = some status

theorem atRest_perform {act : Act} {result : act.Result} (hc : c.reaped = some status)
    (h : (c.perform act).Runs t (result, c')) : AtRest act t result c' status := by
  have hsettled := settled_of_reaped hc
  cases act with
  | tryWait =>
    have h : c.tryWait.Runs t (result, c') := h
    rw [hsettled.tryWait] at h
    obtain ⟨rfl, heq⟩ := Dialogue.runs_done.mp h
    cases heq
    exact ⟨hc, by simp, fun _ => rfl, fun _ => rfl⟩
  | waitFor milliseconds patience =>
    obtain ⟨rfl, rfl, rfl⟩ := waitFor_reaped hc h
    exact ⟨hc, by simp, fun _ => rfl, fun _ => rfl⟩
  | terminate =>
    have h : c.terminate.Runs t (result, c') := h
    rw [hsettled.terminate] at h
    obtain ⟨rfl, heq⟩ := Dialogue.runs_done.mp h
    cases heq
    exact ⟨hc, by simp, fun _ => rfl, fun _ => rfl⟩
  | finish =>
    obtain ⟨hreaped, hcaptures⟩ := captured_of_finish h
    exact ⟨hreaped.trans hc, hcaptures, fun hne => absurd rfl hne, fun hlooks => nomatch hlooks⟩
  | release =>
    obtain ⟨k, c₁, rest, rfl, hrelease, hdone⟩ := Dialogue.runs_bind.mp h
    rw [hsettled.release] at hrelease
    obtain ⟨rfl, rfl⟩ := Dialogue.runs_done.mp hrelease
    obtain ⟨rfl, heq⟩ := Dialogue.runs_done.mp hdone
    cases heq
    exact ⟨hc, by simp, fun _ => rfl, fun hlooks => nomatch hlooks⟩

/-- An ending that is told is kept. -/
theorem reaped_of_status? {act : Act} {result : act.Result}
    (h : (c.perform act).Runs t (result, c')) (hstatus : act.status? result = some status) :
    c'.reaped = some status := by
  have hlooks : act.looks = true := by
    cases act <;> first | rfl | cases hstatus
  cases hc : c.reaped with
  | some known =>
    have hrest := atRest_perform hc h
    rw [hrest.kept, ← hrest.tells hlooks, hstatus]
  | none =>
    cases act with
    | tryWait => exact (tryWait_of_runs hc h).2.1.trans hstatus
    | waitFor milliseconds patience => exact (waited_of_runs hc h).2.1.trans hstatus
    | terminate => exact (terminated_of_runs hc h).2.1.trans hstatus
    | finish | release => cases hlooks

end

/-! ## One act after the other -/

section
variable {c c' c'' : Child} {t : List Exchange} {es es' : List Episode} {status : ExitStatus}

theorem spends_append :
    Spends c (es ++ es') c'' ↔ ∃ c', Spends c es c' ∧ Spends c' es' c'' := by
  induction es generalizing c with
  | nil =>
    constructor
    · intro h
      exact ⟨c, .nil c, h⟩
    · rintro ⟨_, hfirst, hrest⟩
      cases hfirst
      exact hrest
  | cons e es ih =>
    constructor
    · intro h
      cases h with
      | cons hruns hspends =>
        obtain ⟨c', hfirst, hrest⟩ := ih.mp hspends
        exact ⟨c', .cons hruns hfirst, hrest⟩
    · rintro ⟨c', hfirst, hrest⟩
      cases hfirst with
      | cons hruns hspends => exact .cons hruns (ih.mpr ⟨c', hspends, hrest⟩)

/-- What is known of a process, and what was asked, at any time. -/
structure Guarded (t : List Exchange) (c : Child) : Prop where
  /-- An ending is known exactly when it was reported. -/
  known : t.findSome? reported = c.reaped
  spared : t.Pairwise fun x y => (reported x).isSome → y.1 ≠ .kill
  once : ∀ before answer later, t = before ++ ⟨.kill, answer⟩ :: later → Obliging before →
    ∀ x ∈ before, x.1 ≠ .kill
  /-- Nothing was sent as long as no ending is known, unless the system failed. -/
  pending : c.reaped = none → Obliging t → ∀ x ∈ t, x.1 ≠ .kill

theorem Guarded.perform {act : Act} {result : act.Result} {u : List Exchange} (ht : Guarded t c)
    (h : (c.perform act).Runs u (result, c')) : Guarded (t ++ u) c' := by
  cases hc : c.reaped with
  | some status =>
    have hrest := atRest_perform hc h
    have hkill : ∀ x ∈ u, x.1 ≠ .kill := fun x hx => (quiet_of_capture (hrest.captures x hx)).2
    refine ⟨?_, ?_, fun before answer later heq hobliging => ?_, fun hnone => ?_⟩
    · rw [List.findSome?_append, ht.known, hc, hrest.kept]
      rfl
    · rw [List.pairwise_append]
      exact ⟨ht.spared, List.pairwise_of_forall_mem_list fun _ _ y hy _ => hkill y hy,
        fun _ _ y hy _ => hkill y hy⟩
    · rcases append_eq_append_cons heq with ⟨rest, hfirst⟩ | ⟨front, _, hsecond⟩
      · exact ht.once before answer rest hfirst hobliging
      · exact absurd rfl (hkill ⟨.kill, answer⟩ (by simp [hsecond]))
    · rw [hrest.kept] at hnone
      cases hnone
  | none =>
    have hbout := bout_perform hc h
    have hunknown : ∀ x ∈ t, reported x = none :=
      List.findSome?_eq_none_iff.mp (ht.known.trans hc)
    refine ⟨?_, ?_, fun before answer later heq hobliging => ?_, fun hnone hobliging => ?_⟩
    · rw [List.findSome?_append, ht.known, hc, Option.none_or, hbout.known]
    · rw [List.pairwise_append]
      refine ⟨ht.spared, hbout.last.imp fun hx hsome => ?_, fun x hx y _ hsome => ?_⟩
      · rw [hx] at hsome
        cases hsome
      · rw [hunknown x hx] at hsome
        cases hsome
    · rcases append_eq_append_cons heq with ⟨rest, hfirst⟩ | ⟨front, hbefore, hsecond⟩
      · exact ht.once before answer rest hfirst hobliging
      · -- the signal is the first thing that this act asks for
        cases front with
        | nil =>
          rw [hbefore, List.append_nil] at hobliging ⊢
          exact ht.pending hc hobliging
        | cons y front =>
          exact absurd rfl (hbout.first ⟨.kill, answer⟩ (by simp [hsecond]))
    · intro x hx
      rcases List.mem_append.mp hx with hfirst | hsecond
      · exact ht.pending hc (hobliging.mono (List.subset_append_left t u)) x hfirst
      · exact hbout.settled hnone (hobliging.mono (List.subset_append_right t u)) x hsecond

theorem Guarded.spends (ht : Guarded t c) (h : Spends c es c') : Guarded (t ++ asked es) c' := by
  induction h generalizing t with
  | nil c =>
    rw [asked, List.flatMap_nil, List.append_nil]
    exact ht
  | cons hruns _ ih =>
    rw [asked, List.flatMap_cons, ← List.append_assoc]
    exact ih (ht.perform hruns)

theorem guarded_spends (h : Spends {} es c) : Guarded (asked es) c := by
  have hnew : Guarded [] {} := ⟨rfl, .nil, by simp, by simp⟩
  exact hnew.spends h

theorem Spends.reaped (h : Spends c es c') (hc : c.reaped = some status) :
    c'.reaped = some status := by
  induction h with
  | nil c => exact hc
  | cons hruns _ ih => exact ih (atRest_perform hc hruns).kept

/-- An ending that was told is known from then on. -/
theorem Spends.reaped_of_status? (h : Spends c es c') {e : Episode} (he : e ∈ es)
    (hstatus : e.status? = some status) : c'.reaped = some status := by
  induction h with
  | nil c => cases he
  | cons hruns hspends ih =>
    rcases List.mem_cons.mp he with rfl | hlater
    · exact hspends.reaped (Child.reaped_of_status? hruns hstatus)
    · exact ih hlater

/-- What is kept to while `es` is done with a process that was started, which leaves `c`. -/
structure Kept (es : List Episode) (c : Child) : Prop where
  /-- Whoever looks once an ending was told is told it at once. -/
  settled : ∀ e ∈ es, ∀ status, e.status? = some status → c.Settled status
  /-- So every later act told it as well, and the system was not asked. -/
  told : es.Pairwise fun e e' => ∀ status, e.status? = some status →
    (e'.act.looks = true → e'.status? = some status) ∧ (e'.act ≠ .finish → e'.exchanges = [])
  /-- What is told is what the system reported. -/
  heard : ∀ e ∈ es, ∀ status, e.status? = some status → ∃ x ∈ asked es, reported x = some status
  /-- No signal is sent behind a report. -/
  spared : (asked es).Pairwise fun x y => (reported x).isSome → y.1 ≠ .kill
  /-- A second signal is sent only if the system failed to kill or to tell an ending before. -/
  killedOnce : ∀ before answer later, asked es = before ++ ⟨.kill, answer⟩ :: later →
    Obliging before → ∀ x ∈ before, x.1 ≠ .kill
  /-- Behind the release the process is reaped, unless the system failed meanwhile. -/
  reaped : ∀ before e later, es = before ++ e :: later → e.act = .release →
    Obliging e.exchanges → ∃ x ∈ asked (before ++ [e]), (reported x).isSome

theorem told_of_spends (h : Spends c es c') : es.Pairwise fun e e' => ∀ status,
    e.status? = some status →
      (e'.act.looks = true → e'.status? = some status) ∧
        (e'.act ≠ .finish → e'.exchanges = []) := by
  induction h with
  | nil c => exact .nil
  | cons hruns hspends ih =>
    refine .cons (fun e' he' status hstatus => ?_) ih
    -- the ending is known when the later act begins
    obtain ⟨before, behind, rfl⟩ := List.append_of_mem he'
    obtain ⟨c', hbefore, hrest⟩ := spends_append.mp hspends
    cases hrest with
    | cons hruns' _ =>
      have hknown := hbefore.reaped (Child.reaped_of_status? hruns hstatus)
      have hrest := atRest_perform hknown hruns'
      exact ⟨hrest.tells, hrest.silent⟩

theorem reaped_of_release {result : Act.release.Result}
    (h : (c.perform .release).Runs t (result, c')) (hobliging : Obliging t) :
    c'.reaped.isSome := by
  cases hc : c.reaped with
  | some status =>
    rw [(atRest_perform hc h).kept]
    rfl
  | none =>
    obtain ⟨k, c₁, rest, rfl, hrelease, hdone⟩ := Dialogue.runs_bind.mp h
    obtain ⟨rfl, heq⟩ := Dialogue.runs_done.mp hdone
    cases heq
    rw [List.append_nil] at hobliging
    have hterminated := terminated_of_release hc hrelease
    generalize c'.reaped = ending at hterminated
    cases hterminated with
    | refused text => exact absurd List.mem_cons_self (hobliging.kills text)
    | unknown e _ => exact absurd (List.mem_cons_of_mem _ List.mem_cons_self) (hobliging.tells e)
    | killed status _ => rfl

/-- **Custody.**  Whatever is done with a process and whatever the system answers, the ending that was
    reported is the one that is told, and a process that may be another one by now is never killed. -/
theorem custody_kept (h : Spends {} es c) : Kept es c where
  settled e he status hstatus := settled_of_reaped (h.reaped_of_status? he hstatus)
  told := told_of_spends h
  heard e he status hstatus := by
    have hknown := (guarded_spends h).known
    rw [h.reaped_of_status? he hstatus] at hknown
    exact List.exists_of_findSome?_eq_some hknown
  spared := (guarded_spends h).spared
  killedOnce := (guarded_spends h).once
  reaped before e later heq hact hobliging := by
    obtain ⟨act, t, result⟩ := e
    cases hact
    rw [heq, List.append_cons] at h
    obtain ⟨c', hfirst, _⟩ := spends_append.mp h
    obtain ⟨c₁, _, hlast⟩ := spends_append.mp hfirst
    cases hlast with
    | cons hruns hnil =>
      cases hnil
      obtain ⟨status, hstatus⟩ := Option.isSome_iff_exists.mp (reaped_of_release hruns hobliging)
      have hknown := (guarded_spends hfirst).known
      rw [hstatus] at hknown
      obtain ⟨x, hx, hreport⟩ := List.exists_of_findSome?_eq_some hknown
      exact ⟨x, hx, by rw [hreport]; rfl⟩

end

/-- A process that the system fails to tell about at first. -/
def reluctant : List Episode :=
  [⟨.tryWait, [⟨.tryWait, .ok none⟩], .ok none⟩,
   ⟨.terminate, [⟨.kill, .sent⟩, ⟨.wait, .error ⟨.other, "interrupted"⟩⟩],
    .error (.io ⟨.other, "interrupted"⟩)⟩,
   ⟨.terminate, [⟨.kill, .sent⟩, ⟨.wait, .ok .killed⟩], .ok .killed⟩,
   ⟨.waitFor 2000 1, [], .ok (some .killed)⟩,
   ⟨.finish, [⟨.capture, {}⟩], {}⟩,
   ⟨.release, [], ()⟩]

theorem spends_reluctant : Spends {} reluctant ⟨some .killed, true⟩ := by
  refine .cons (.ask _ (.done _)) ?_
  refine .cons (.ask _ (.ask _ (.done _))) ?_
  refine .cons (.ask _ (.ask _ (.done _))) ?_
  refine .cons (.done _) ?_
  refine .cons (.ask _ (.done _)) ?_
  refine .cons (.done _) ?_
  exact .nil _

theorem custody_kept_reluctant :
    Spends {} reluctant ⟨some .killed, true⟩ ∧ Kept reluctant ⟨some .killed, true⟩ :=
  ⟨spends_reluctant, custody_kept spends_reluctant⟩

end Child

end AdapterGateway
