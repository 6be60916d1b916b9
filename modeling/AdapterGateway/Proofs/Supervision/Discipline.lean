import AdapterGateway.Proofs.Occurrence
import AdapterGateway.Proofs.Supervision.Holdings

/-!
# Discipline

What an operation keeps to whatever the system answers.  It starts one process at most, and none
without a command line, a channel and a reader; the process gets the words of the command line, the
further arguments and the path of the pipe.  At the end the directory is removed and the process
reaped, and a process that is not yet reaped is killed when it failed to deliver, or when its grace
is over.
-/

namespace AdapterGateway

open Text

/-- Whether an exchange tells that a directory, a pipe or a reader cannot be had. -/
def refuses : Exchange → Bool
  | ⟨.makeDirectory _, .error _⟩ | ⟨.makePipe _, .error _⟩ | ⟨.startReader, .error _⟩ => true
  | _ => false

/-- Every kill in a conversation that begins with these holdings meets a process that is not
    reaped. -/
def Holdings.Aimed : Holdings → List Exchange → Prop
  | _, [] => True
  | h, x :: t => (x.1 = .kill → h.process.left = true) ∧ (h.note x).Aimed t

/-- What supervision keeps to in a conversation `t` that delivers `r`. -/
structure Disciplined (s : Settings) (operation : String) (further : List String)
    (t : List Exchange) (r : Except Fault Delivery) : Prop where
  /-- A process is started once at most. -/
  startedOnce : t.countP (·.1.role = .starts) ≤ 1
  /-- Nothing is asked without a command line. -/
  resolved : ∀ fault, s.commandFor operation = .error fault → t = [] ∧ r = .error fault
  /-- No process is started without a directory, a pipe and a reader. -/
  prepared : (∃ x ∈ t, refuses x = true) → ∀ x ∈ t, x.1.role ≠ .starts
  /-- A process is started with the words of the command line, the further arguments and the path
      of the pipe in the directory that was made. -/
  worded : ∀ arguments environment answer, ⟨.spawn arguments environment, answer⟩ ∈ t →
    ∃ line directory, s.commands.get? operation = some line ∧
      ⟨.makeDirectory s.supervision.channelParent, .ok directory⟩ ∈ t ∧
      arguments = words line ++ further ++ [Channel.pathIn directory]
  /-- The directory that was made is removed at the end. -/
  cleared : (({} : Holdings).after t).directories = []
  /-- The process that was started is reaped at the end. -/
  reaped : Obliging t → (({} : Holdings).after t).process.left = false
  /-- Only a process that is not reaped is killed. -/
  aimed : ({} : Holdings).Aimed t
  /-- A process that does not deliver a document has ended or is killed before its streams are
      taken. -/
  ended : ∀ arguments environment fault, ⟨.spawn arguments environment, .ok ()⟩ ∈ t →
    r = .error fault → (∀ e, fault ≠ .io e) →
    ∃ before streams later, t = before ++ ⟨.capture, streams⟩ :: later ∧
      ((({} : Holdings).after before).process = .ended ∨
        (∃ answer, ⟨.kill, answer⟩ ∈ before) ∧
          (Obliging t → (({} : Holdings).after before).process = .killed))
  /-- A process that delivered a document is killed only when its grace is over. -/
  spared : ∀ delivery before answer later, r = .ok delivery →
    t = before ++ ⟨.kill, answer⟩ :: later →
    ∃ got octets waited rest,
      before = got ++ ⟨.poll, some octets⟩ :: waited ++
        ⟨.isOver s.supervision.exitGraceMillis.toNat, true⟩ :: rest

namespace Supervision

open Holdings

/-! ## Aim -/

theorem aimed_append {t u : List Exchange} {h : Holdings} :
    h.Aimed (t ++ u) ↔ h.Aimed t ∧ (h.after t).Aimed u := by
  induction t generalizing h with
  | nil => simp [Aimed]
  | cons x t ih => rw [List.cons_append, Aimed, Aimed, ih, after_cons, and_assoc]

theorem aimed_of_role {t : List Exchange} (ht : ∀ x ∈ t, x.1.role ≠ .stops) (h : Holdings) :
    h.Aimed t := by
  induction t generalizing h with
  | nil => trivial
  | cons x t ih =>
    refine ⟨fun hkill => ?_, ih (fun y hy => ht y (List.mem_cons_of_mem x hy)) (h.note x)⟩
    exact absurd (congrArg Call.role hkill) (ht x List.mem_cons_self)

theorem aimed_of_watches {t : List Exchange} (ht : ∀ x ∈ t, x.1.role = .watches) (h : Holdings) :
    h.Aimed t :=
  aimed_of_role (fun x hx => by rw [ht x hx]; decide) h

theorem aimed_terminated {t : List Exchange} {ending : Option ExitStatus} (ht : Terminated t ending)
    {h : Holdings} (hleft : h.process.left = true) : h.Aimed t := by
  cases ht <;> simp [Aimed, hleft]

theorem aimed_gathered {s : SupervisionSettings} {status : Nat} {t : List Exchange}
    {r : Except Fault Delivery} {ending : Option ExitStatus} (ht : Gathered s status t r ending)
    (directories : List String) : (⟨directories, .running⟩ : Holdings).Aimed t := by
  -- whoever watches kills nothing, and what was watched before a kill has not seen an ending
  cases ht with
  | missing hawaited hterminated hreleased =>
    rw [aimed_append, aimed_append, after_awaited hawaited]
    exact ⟨⟨aimed_of_watches (role_of_mem_awaited hawaited) _, aimed_terminated hterminated rfl⟩,
      aimed_of_watches (role_of_mem_released hreleased) _⟩
  | unreadable hawaited _ hterminated =>
    rw [aimed_append, after_awaited hawaited]
    exact ⟨aimed_of_watches (role_of_mem_awaited hawaited) _, aimed_terminated hterminated rfl⟩
  | leftNone hawaited _ => exact aimed_of_watches (role_of_mem_awaited hawaited) _
  | left hawaited _ => exact aimed_of_watches (role_of_mem_awaited hawaited) _
  | unknown hawaited _ hwaited =>
    rw [aimed_append]
    exact ⟨aimed_of_watches (role_of_mem_awaited hawaited) _,
      aimed_of_watches (role_of_mem_waited hwaited) _⟩
  | ended hawaited _ hwaited =>
    rw [aimed_append]
    exact ⟨aimed_of_watches (role_of_mem_awaited hawaited) _,
      aimed_of_watches (role_of_mem_waited hwaited) _⟩
  | lingering hawaited _ hwaited hterminated =>
    rw [aimed_append, aimed_append, after_append, after_awaited hawaited]
    simp only [seen, Fate.seen]
    rw [after_waited hwaited]
    exact ⟨⟨aimed_of_watches (role_of_mem_awaited hawaited) _,
      aimed_of_watches (role_of_mem_waited hwaited) _⟩, aimed_terminated hterminated rfl⟩

section
variable {s : Settings} {inherited : Environment.Raw} {operation : String} {further : List String}
  {request : Option Request} {status : Nat} {t : List Exchange} {r : Except Fault Delivery}

theorem aimed_course (ht : Course s inherited operation further request status t r) :
    ({} : Holdings).Aimed t := by
  cases ht with
  | unresolved _ => trivial
  | noDirectory e _ => simp [Aimed]
  | noPipe directory reason _ => simp [Aimed]
  | noReader directory e _ => simp [Aimed]
  | @notStarted words directory fault u octets _ hreleased =>
    refine aimed_of_role (fun x hx => ?_) _
    simp only [opening, List.cons_append, List.nil_append, List.mem_cons, List.mem_append,
      List.not_mem_nil, or_false] at hx
    rcases hx with rfl | rfl | rfl | rfl | hu | rfl
    · simp [Call.role]
    · simp [Call.role]
    · decide
    · simp [launch, Call.role]
    · rw [role_of_mem_released hreleased x hu]
      decide
    · decide
  | @started words directory tg k r ending streams _ hgathered hgiven =>
    -- the holdings are followed through the start, the adapter's part and the clearing in turn
    obtain ⟨fate, hfate, hleft⟩ := after_gathered hgathered [directory]
    rw [aimed_append, Aimed, aimed_append, aimed_append, after_append]
    change _ ∧ _ ∧ ((⟨[directory], .running⟩ : Holdings).Aimed tg ∧
      ((⟨[directory], .running⟩ : Holdings).after tg).Aimed _) ∧
      (((⟨[directory], .running⟩ : Holdings).after tg).after _).Aimed k
    rw [hfate]
    refine ⟨by simp [opening, Aimed], by simp [launch],
      ⟨aimed_gathered hgathered _, by simp [Aimed]⟩, ?_⟩
    cases hgiven with
    | ended status => trivial
    | killed hterminated => exact aimed_terminated hterminated hleft

/-! ## Start -/

/-- A process is started right after everything is prepared, and only once. -/
theorem course_starts (ht : Course s inherited operation further request status t r) :
    (∀ x ∈ t, x.1.role ≠ .starts) ∨
      ∃ arguments directory answer rest, s.commandFor operation = .ok arguments ∧
        t = opening s directory ++
          ⟨launch s inherited arguments further request directory, answer⟩ :: rest ∧
        ∀ x ∈ rest, x.1.role ≠ .starts ∧ x.1.role ≠ .prepares := by
  cases ht with
  | unresolved _ => exact .inl (by simp)
  | noDirectory e _ => exact .inl (by simp [Call.role])
  | noPipe directory reason _ => exact .inl (by simp [Call.role])
  | noReader directory e _ => exact .inl (by simp [Call.role])
  | @notStarted words directory fault u octets hwords hreleased =>
    refine .inr ⟨words, directory, .error fault, _, hwords, rfl, fun x hx => ?_⟩
    rcases List.mem_append.mp hx with hu | hremoved
    · rw [role_of_mem_released hreleased x hu]
      decide
    · rw [List.mem_singleton.mp hremoved]
      decide
  | @started words directory tg k r ending streams hwords hgathered hgiven =>
    refine .inr ⟨words, directory, .ok (), _, hwords, rfl, fun x hx => ?_⟩
    -- behind the start there are only exchanges that watch, stop or clear
    rcases List.mem_append.mp hx with hfirst | hk
    · rcases List.mem_append.mp hfirst with hgather | hclear
      · rcases role_of_mem_gathered hgathered x hgather with hrole | hrole <;> rw [hrole] <;> decide
      · have hrole : x.1.role = .clears := by
          rcases List.mem_cons.mp hclear with rfl | hremoved
          · rfl
          · rw [List.mem_singleton.mp hremoved]
            rfl
        rw [hrole]
        decide
    · rw [role_of_mem_givenUp hgiven x hk]
      decide

theorem startedOnce_course (ht : Course s inherited operation further request status t r) :
    t.countP (·.1.role = .starts) ≤ 1 := by
  rcases course_starts ht with hnone | ⟨arguments, directory, answer, rest, _, rfl, hrest⟩
  · rw [List.countP_eq_zero.mpr (by simpa using hnone)]
    decide
  · have hlater : rest.countP (·.1.role = .starts) = 0 :=
      List.countP_eq_zero.mpr fun x hx => by simpa using (hrest x hx).1
    rw [List.countP_append, List.countP_cons, hlater]
    simp [opening, launch, Call.role]

theorem role_of_refuses {x : Exchange} (hx : refuses x = true) : x.1.role = .prepares := by
  obtain ⟨c, answer⟩ := x
  cases c <;> first | rfl | cases hx

theorem prepared_course (ht : Course s inherited operation further request status t r)
    (hrefused : ∃ x ∈ t, refuses x = true) : ∀ x ∈ t, x.1.role ≠ .starts := by
  rcases course_starts ht with hnone | ⟨arguments, directory, answer, rest, _, rfl, hrest⟩
  · exact hnone
  · -- what stands before the start was granted, and nothing is prepared behind it
    obtain ⟨x, hmem, hx⟩ := hrefused
    simp only [opening, List.cons_append, List.nil_append, List.mem_cons] at hmem
    rcases hmem with rfl | rfl | rfl | rfl | hmem
    · cases hx
    · cases hx
    · cases hx
    · cases hx
    · exact absurd (role_of_refuses hx) (hrest x hmem).2

theorem commandFor_eq_ok {arguments : List String} (h : s.commandFor operation = .ok arguments) :
    ∃ line, s.commands.get? operation = some line ∧ arguments = words line := by
  unfold Settings.commandFor at h
  cases hline : s.commands.get? operation with
  | none =>
    simp only [hline] at h
    cases h
  | some line =>
    simp only [hline] at h
    split at h
    · cases h
    · exact ⟨line, rfl, (Except.ok.inj h).symm⟩

theorem worded_course (ht : Course s inherited operation further request status t r)
    {arguments : List String} {environment : Environment} {answer : Except Fault Unit}
    (hmem : ⟨.spawn arguments environment, answer⟩ ∈ t) :
    ∃ line directory, s.commands.get? operation = some line ∧
      ⟨.makeDirectory s.supervision.channelParent, .ok directory⟩ ∈ t ∧
      arguments = words line ++ further ++ [Channel.pathIn directory] := by
  rcases course_starts ht with hnone | ⟨chosen, directory, answer', rest, hchosen, rfl, hrest⟩
  · exact absurd rfl (hnone _ hmem)
  · obtain ⟨line, hline, rfl⟩ := commandFor_eq_ok hchosen
    refine ⟨line, directory, hline, by simp [opening], ?_⟩
    rcases List.mem_append.mp hmem with hopening | hmem
    · simp [opening] at hopening
    · rcases List.mem_cons.mp hmem with heq | hmem
      · cases heq
        rfl
      · exact absurd rfl (hrest _ hmem).1

/-! ## Failure and success -/

theorem after_terminated_obliging {t : List Exchange} {ending : Option ExitStatus}
    (ht : Terminated t ending) (hobliging : Obliging t) (h : Holdings) :
    (h.after t).process = .killed := by
  cases ht with
  | refused text => exact absurd (List.mem_singleton.mpr rfl) (hobliging.kills text)
  | unknown e _ => exact absurd (by simp) (hobliging.tells e)
  | killed status _ => rfl

theorem kill_mem_terminated {t : List Exchange} {ending : Option ExitStatus}
    (ht : Terminated t ending) : ∃ answer, ⟨.kill, answer⟩ ∈ t := by
  cases ht with
  | refused text => exact ⟨_, List.mem_cons_self⟩
  | unknown e _ => exact ⟨_, List.mem_cons_self⟩
  | killed status _ => exact ⟨_, List.mem_cons_self⟩

/-- An adapter that delivers no document has ended or is killed, unless the system failed to tell. -/
theorem ended_gathered {s : SupervisionSettings} {fault : Fault} {ending : Option ExitStatus}
    (ht : Gathered s status t (.error fault) ending) (hfault : ∀ e, fault ≠ .io e)
    (directories : List String) :
    ((⟨directories, .running⟩ : Holdings).after t).process = .ended ∨
      (∃ answer, ⟨.kill, answer⟩ ∈ t) ∧
        (Obliging t → ((⟨directories, .running⟩ : Holdings).after t).process = .killed) := by
  cases ht with
  | @missing t k u fault ending octets hawaited hterminated hreleased =>
    refine .inr ⟨?_, fun hobliging => ?_⟩
    · obtain ⟨answer, hmem⟩ := kill_mem_terminated hterminated
      exact ⟨answer, by simp [hmem]⟩
    · rw [after_append, after_append, after_released hreleased]
      exact after_terminated_obliging hterminated (hobliging.mono (by simp)) _
  | @unreadable t k octets fault ending hawaited _ hterminated =>
    refine .inr ⟨?_, fun hobliging => ?_⟩
    · obtain ⟨answer, hmem⟩ := kill_mem_terminated hterminated
      exact ⟨answer, by simp [hmem]⟩
    · rw [after_append]
      exact after_terminated_obliging hterminated (hobliging.mono (by simp)) _
  | leftNone hawaited _ =>
    rw [after_awaited hawaited]
    exact .inl rfl
  -- behind a document the only fault is that the process cannot be looked at
  | unknown _ _ _ => exact absurd rfl (hfault _)

theorem after_start (directory : String) (arguments : List String) (t : List Exchange) :
    ({} : Holdings).after (opening s directory ++
      ⟨launch s inherited arguments further request directory, .ok ()⟩ :: t) =
      (⟨[directory], .running⟩ : Holdings).after t := by
  rw [after_append, after_cons]
  rfl

theorem ended_course (ht : Course s inherited operation further request status t r)
    {arguments : List String} {environment : Environment} {fault : Fault}
    (hmem : ⟨.spawn arguments environment, .ok ()⟩ ∈ t) (hr : r = .error fault)
    (hfault : ∀ e, fault ≠ .io e) :
    ∃ before streams later, t = before ++ ⟨.capture, streams⟩ :: later ∧
      ((({} : Holdings).after before).process = .ended ∨
        (∃ answer, ⟨.kill, answer⟩ ∈ before) ∧
          (Obliging t → (({} : Holdings).after before).process = .killed)) := by
  cases ht with
  | unresolved _ => cases hmem
  | noDirectory e _ => simp at hmem
  | noPipe directory reason _ => simp at hmem
  | noReader directory e _ => simp at hmem
  | @notStarted words directory fault u octets hwords hreleased =>
    -- the one start of this course is refused
    exfalso
    rcases List.mem_append.mp hmem with hopening | hrest
    · simp [opening] at hopening
    · rcases List.mem_cons.mp hrest with heq | hlater
      · cases heq
      · rcases List.mem_append.mp hlater with hu | hremoved
        · cases role_of_mem_released hreleased _ hu
        · cases List.mem_singleton.mp hremoved
  | @started words directory tg k r ending streams hwords hgathered hgiven =>
    subst hr
    refine ⟨opening s directory ++
      ⟨launch s inherited words further request directory, .ok ()⟩ :: tg, streams,
      ⟨.removeDirectory, ()⟩ :: k, by simp, ?_⟩
    rw [after_start]
    rcases ended_gathered hgathered hfault [directory] with hended | ⟨⟨answer, hkill⟩, hkilled⟩
    · exact .inl hended
    · refine .inr ⟨⟨answer, by simp [hkill]⟩, fun hobliging => hkilled ?_⟩
      exact hobliging.mono fun x hx => by simp [hx]

theorem awaited_delivered {limit : Option Nat} {octets : Except IoError Octets}
    {a : Except Fault Arrival} (ht : Awaited limit t a) (ha : a = .ok (.delivered octets)) :
    ∃ got, t = got ++ [⟨.poll, some octets⟩] := by
  induction ht with
  | delivered octets =>
    cases ha
    exact ⟨[], rfl⟩
  | unknown e => cases ha
  | ended status _ => cases ha
  | timeout _ => cases ha
  | unlimited _ _ ih =>
    obtain ⟨got, rfl⟩ := ih ha
    exact ⟨_ :: _ :: got, rfl⟩
  | inTime _ _ ih =>
    obtain ⟨got, rfl⟩ := ih ha
    exact ⟨_ :: _ :: _ :: got, rfl⟩

theorem waited_over {milliseconds : Nat} {a : Except IoError (Option ExitStatus)}
    (ht : Waited milliseconds t a) (ha : a = .ok none) :
    ∃ waited, t = waited ++ [⟨.isOver milliseconds, true⟩] := by
  induction ht with
  | unknown e => cases ha
  | ended status => cases ha
  | passed => exact ⟨[_], rfl⟩
  | again _ ih =>
    obtain ⟨waited, rfl⟩ := ih ha
    exact ⟨_ :: _ :: waited, rfl⟩

/-- What stands in a list behind a part without it stands in the other part. -/
theorem prefix_of_not_mem {α : Type} {a b before later : List α} {x : α}
    (h : a ++ b = before ++ x :: later) (hx : x ∉ a) : ∃ rest, before = a ++ rest := by
  rcases append_eq_append_cons h with ⟨rest, ha⟩ | ⟨front, hbefore, _⟩
  · exact absurd (by rw [ha]; simp) hx
  · exact ⟨front, hbefore⟩

theorem kill_not_mem_start (directory : String) (arguments : List String) {t : List Exchange}
    (ht : ∀ x ∈ t, x.1.role = .watches) (answer : SignalAnswer) :
    ⟨.kill, answer⟩ ∉ opening s directory ++
      ⟨launch s inherited arguments further request directory, .ok ()⟩ :: t := by
  intro hmem
  rcases List.mem_append.mp hmem with hopening | hrest
  · simp [opening] at hopening
  · rcases List.mem_cons.mp hrest with heq | hlater
    · cases heq
    · cases ht _ hlater

theorem kill_not_mem_ended (directory : String) (arguments : List String) {t k : List Exchange}
    {streams : Streams} {ending : ExitStatus} (ht : ∀ x ∈ t, x.1.role = .watches)
    (hk : GivenUp (some ending) k) (answer : SignalAnswer) :
    ⟨.kill, answer⟩ ∉ opening s directory ++
      ⟨launch s inherited arguments further request directory, .ok ()⟩ ::
        (t ++ [⟨.capture, streams⟩, ⟨.removeDirectory, ()⟩] ++ k) := by
  cases hk
  intro hmem
  rw [List.append_nil, ← List.cons_append, ← List.append_assoc] at hmem
  rcases List.mem_append.mp hmem with hstart | hclear
  · exact kill_not_mem_start directory arguments ht answer hstart
  · simp at hclear

theorem spared_course (ht : Course s inherited operation further request status t r)
    {delivery : Delivery} {before later : List Exchange} {answer : SignalAnswer}
    (hr : r = .ok delivery) (hkill : t = before ++ ⟨.kill, answer⟩ :: later) :
    ∃ got octets waited rest,
      before = got ++ ⟨.poll, some octets⟩ :: waited ++
        ⟨.isOver s.supervision.exitGraceMillis.toNat, true⟩ :: rest := by
  cases ht with
  | unresolved _ => cases hr
  | noDirectory e _ => cases hr
  | noPipe directory reason _ => cases hr
  | noReader directory e _ => cases hr
  | notStarted directory _ _ => cases hr
  | @started words directory tg k r ending streams hwords hgathered hgiven =>
    subst hr
    cases hgathered with
    | left hawaited _ =>
      exact absurd (by rw [hkill]; simp)
        (kill_not_mem_ended directory words (role_of_mem_awaited hawaited) hgiven answer)
    | ended hawaited _ hwaited =>
      refine absurd (by rw [hkill]; simp)
        (kill_not_mem_ended directory words (fun x hx => ?_) hgiven answer)
      exact (List.mem_append.mp hx).elim (role_of_mem_awaited hawaited x)
        (role_of_mem_waited hwaited x)
    | @lingering ta w kt octets document ending hawaited _ hwaited hterminated =>
      have hquiet : ∀ x ∈ ta ++ w, x.1.role = .watches := fun x hx =>
        (List.mem_append.mp hx).elim (role_of_mem_awaited hawaited x) (role_of_mem_waited hwaited x)
      -- nothing is killed up to the end of the grace, so any kill stands behind all of that
      obtain ⟨rest, rfl⟩ := prefix_of_not_mem
        (a := opening s directory ++
          ⟨launch s inherited words further request directory, .ok ()⟩ :: (ta ++ w))
        (b := kt ++ [⟨.capture, streams⟩, ⟨.removeDirectory, ()⟩] ++ k)
        (by rw [← hkill]; simp) (kill_not_mem_start directory words hquiet answer)
      obtain ⟨got, rfl⟩ := awaited_delivered hawaited rfl
      obtain ⟨waited, rfl⟩ := waited_over hwaited rfl
      exact ⟨opening s directory ++
        ⟨launch s inherited words further request directory, .ok ()⟩ :: got, octets, waited, rest,
        by simp⟩

theorem resolved_course (ht : Course s inherited operation further request status t r)
    {fault : Fault} (hfault : s.commandFor operation = .error fault) :
    t = [] ∧ r = .error fault := by
  cases ht with
  | unresolved h => exact ⟨rfl, by rw [← Except.error.inj (h.symm.trans hfault)]⟩
  | noDirectory _ h => cases h.symm.trans hfault
  | noPipe _ _ h => cases h.symm.trans hfault
  | noReader _ _ h => cases h.symm.trans hfault
  | notStarted _ h _ => cases h.symm.trans hfault
  | started _ _ h _ _ => cases h.symm.trans hfault

end

/-- **Discipline.**  Whatever the system answers, an operation keeps to its rules. -/
theorem run_disciplined {s : Settings} {inherited : Environment.Raw} {operation : String}
    {further : List String} {request : Option Request} {status patience : Nat}
    {t : List Exchange} {r : Except Fault Delivery}
    (h : (run s inherited operation further request status patience).Runs t r) :
    Disciplined s operation further t r := by
  have ht := course_of_runs h
  obtain ⟨fate, hfate, hreaped⟩ := after_course ht
  exact {
    startedOnce := startedOnce_course ht
    resolved := fun fault hfault => resolved_course ht hfault
    prepared := prepared_course ht
    worded := fun arguments environment answer hmem => worded_course ht hmem
    cleared := by rw [hfate]
    reaped := by rw [hfate]; exact hreaped
    aimed := aimed_course ht
    ended := fun arguments environment fault hmem hr hfault => ended_course ht hmem hr hfault
    spared := fun delivery before answer later hr hkill => spared_course ht hr hkill }

/-- A conversation with an adapter that writes a document and goes on until it is killed. -/
def lingering : List Exchange :=
  opening (oneCommand "collect") "/tmp/adapter-1" ++
    [⟨launch (oneCommand "collect") [] ["adapter", "--once"] ["all"] none "/tmp/adapter-1", .ok ()⟩,
     ⟨.poll, none⟩, ⟨.tryWait, .ok none⟩, ⟨.isOver 300000, false⟩,
     ⟨.poll, some (.ok [0x7b, 0x7d])⟩, ⟨.tryWait, .ok none⟩, ⟨.isOver 2000, true⟩,
     ⟨.kill, .sent⟩, ⟨.wait, .ok .killed⟩, ⟨.capture, {}⟩, ⟨.removeDirectory, ()⟩]

theorem lingering_runs :
    (run (oneCommand "collect") [] "collect" ["all"] none 200 2).Runs lingering
      (.ok ⟨.object [], 200⟩) := by
  iterate 14 refine .ask _ ?_
  exact .done _

theorem run_disciplined_lingering :
    (run (oneCommand "collect") [] "collect" ["all"] none 200 2).Runs lingering
        (.ok ⟨.object [], 200⟩) ∧
      Disciplined (oneCommand "collect") "collect" ["all"] lingering (.ok ⟨.object [], 200⟩) :=
  ⟨lingering_runs, run_disciplined lingering_runs⟩

end Supervision

end AdapterGateway
