import AdapterGateway.Proofs.Admission
import AdapterGateway.Proofs.Supervision.Silence

/-!
# Discretion

What the caller of the service learns of an adapter: what came out of the pipe, and in which order the
reader and the adapter came to their ends.  How the adapter ended, what it wrote to its streams and
every text that tells what went wrong stays inside.  Two runs of one request that differ in these only
are answered alike, and a fault is told in one of three fixed texts.
-/

namespace AdapterGateway

open Http (Response)
open Text Json

/-! ## What is observed -/

/-- The fault without what only the log is told of it. -/
def Fault.outline : Fault → Fault
  | .clientInput text => .clientInput text
  | .configuration _ => .configuration ""
  | .transport _ => .transport ""
  | .subprocess _ => .subprocess ""
  | .noResult _ => .noResult ""
  | .timeout seconds => .timeout seconds
  | .identifierUniqueness _ => .identifierUniqueness ""
  | .duplicateIdentity _ => .duplicateIdentity []
  | .alreadySent => .alreadySent
  | .invalidValue _ => .invalidValue ""
  | .io _ => .io ⟨.other, ""⟩
  | .json _ => .json .malformed
  | .system _ => .system ""

/-- What the octets out of a pipe are good for. -/
inductive Yield where
  /-- They could not be read to the end. -/
  | unread
  | blank
  /-- They are neither blank nor a document. -/
  | garbled
  | document (v : Value)

def Yield.of : Except IoError Octets → Yield
  | .error _ => .unread
  | .ok octets =>
    if octets.all isAsciiBlank then .blank
    else match parse octets with
      | .ok v => .document v
      | .error _ => .garbled

/-- What is observed of one answer of the system. -/
inductive Sight where
  | directory (made : Bool)
  | pipe (made : Bool)
  | reader (started : Bool)
  | adapter (refusal : Option Fault)
  | polled (got : Option Yield)
  /-- Whether the adapter has ended, if that can be told. -/
  | looked (ended : Option Bool)
  | timed (isOver : Bool)

/-- Why a process was not started, in outline. -/
def refusalOf : Except Fault Unit → Option Fault
  | .ok _ => none
  | .error fault => some fault.outline

def endedOf : Except IoError (Option ExitStatus) → Option Bool
  | .ok status => some status.isSome
  | .error _ => none

/-- Steps are observed to succeed or to fail, and adapters to run or to have ended.  How an adapter
    ended is not observed, nor what it wrote to its streams, nor how a kill went. -/
def sight : Exchange → Option Sight
  | ⟨.makeDirectory _, made⟩ => some (.directory made.isOk)
  | ⟨.makePipe _, made⟩ => some (.pipe made.isOk)
  | ⟨.startReader, started⟩ => some (.reader started.isOk)
  | ⟨.spawn _ _, launched⟩ => some (.adapter (refusalOf launched))
  | ⟨.poll, outcome⟩ => some (.polled (outcome.map Yield.of))
  | ⟨.tryWait, status⟩ => some (.looked (endedOf status))
  | ⟨.isOver _, passed⟩ => some (.timed passed)
  | ⟨.openPipe, _⟩ | ⟨.closePipe, _⟩ | ⟨.kill, _⟩ | ⟨.wait, _⟩ | ⟨.capture, _⟩
  | ⟨.removeDirectory, _⟩ => none

/-- All that is observed in a conversation, in its order. -/
def observed (t : List Exchange) : List Sight := t.filterMap sight

/-- An outcome without what only the log is told of its fault. -/
def outlineOf {α : Type} (outcome : Except Fault α) : Except Fault α :=
  outcome.mapError Fault.outline

namespace Fault

@[simp] theorem statusCode_outline (f : Fault) : f.outline.statusCode = f.statusCode := by
  cases f <;> rfl

@[simp] theorem publicText_outline (f : Fault) : f.outline.publicText = f.publicText := by
  cases f <;> rfl

@[simp] theorem isNoResult_outline (f : Fault) : f.outline.isNoResult = f.isNoResult := by
  cases f <;> rfl

end Fault

/-- The caller learns nothing of a fault that is not in its outline. -/
theorem Service.relayOf_outlineOf (operation : Operation) (outcome : Except Fault Delivery) :
    relayOf operation (outlineOf outcome) = relayOf operation outcome := by
  cases outcome with
  | ok delivery => rfl
  | error fault =>
    change relayOf operation (.error fault.outline) = _
    rw [relayOf_error, relayOf_error, Response.ofFault, Response.ofFault]
    simp only [Fault.statusCode_outline, Fault.publicText_outline, Fault.isNoResult_outline]

/-! ## Outcomes that are alike -/

theorem outlineOf_eq_outlineOf {α : Type} {a b : Except Fault α} (h : outlineOf a = outlineOf b) :
    (∃ f g, a = .error f ∧ b = .error g ∧ f.outline = g.outline) ∨ ∃ v, a = .ok v ∧ b = .ok v := by
  cases a with
  | error f =>
    cases b with
    | error g => exact .inl ⟨f, g, rfl, rfl, Except.error.inj h⟩
    | ok w => cases h
  | ok v =>
    cases b with
    | error g => cases h
    | ok w =>
      cases h
      exact .inr ⟨v, rfl, rfl⟩

theorem outlineOf_map_eq {α β γ : Type} {a : Except Fault α} {b : Except Fault β} {f : α → γ}
    {g : β → γ} (h : outlineOf (a.map f) = outlineOf (b.map g)) :
    (∃ e e', a = .error e ∧ b = .error e' ∧ e.outline = e'.outline) ∨
      ∃ v w, a = .ok v ∧ b = .ok w ∧ f v = g w := by
  rcases a with e | v <;> rcases b with e' | w
  · exact .inl ⟨e, e', rfl, rfl, Except.error.inj h⟩
  · cases h
  · cases h
  · exact .inr ⟨v, w, rfl, rfl, Except.ok.inj h⟩

theorem isOk_eq_isOk {ε α : Type} {a b : Except ε α} (h : a.isOk = b.isOk) :
    (∃ e e', a = .error e ∧ b = .error e') ∨ ∃ v w, a = .ok v ∧ b = .ok w := by
  rcases a with e | v <;> rcases b with e' | w
  · exact .inl ⟨e, e', rfl, rfl⟩
  · cases h
  · cases h
  · exact .inr ⟨v, w, rfl, rfl⟩

theorem refusalOf_eq_refusalOf {a b : Except Fault Unit} (h : refusalOf a = refusalOf b) :
    (∃ f g, a = .error f ∧ b = .error g ∧ f.outline = g.outline) ∨ (a = .ok () ∧ b = .ok ()) := by
  rcases a with f | _ <;> rcases b with g | _
  · exact .inl ⟨f, g, rfl, rfl, Option.some.inj h⟩
  · cases h
  · cases h
  · exact .inr ⟨rfl, rfl⟩

theorem endedOf_eq_endedOf {a b : Except IoError (Option ExitStatus)} (h : endedOf a = endedOf b) :
    (∃ e e', a = .error e ∧ b = .error e') ∨ (a = .ok none ∧ b = .ok none) ∨
      ∃ status status', a = .ok (some status) ∧ b = .ok (some status') := by
  rcases a with e | _ | status <;> rcases b with e' | _ | status' <;> try cases h
  · exact .inl ⟨e, e', rfl, rfl⟩
  · exact .inr (.inl ⟨rfl, rfl⟩)
  · exact .inr (.inr ⟨status, status', rfl, rfl⟩)

/-- What comes of octets with this yield, in outline. -/
def Yield.verdict (ended : Bool) : Yield → Except Fault Value
  | .document v => .ok v
  | .blank => .error (if ended then .noResult "" else .subprocess "")
  | .unread | .garbled => .error (.subprocess "")

namespace Supervision

/-- The yield of an arrival, and whether the adapter was seen to end before. -/
def Arrival.yield : Arrival → Yield × Bool
  | .delivered octets => (.of octets, false)
  | .ended _ octets => (.of octets, true)

theorem outlineOf_document {octets : Octets} (hblank : octets.all isAsciiBlank = false)
    (ended : Bool) : outlineOf (document (.ok octets)) = (Yield.of (.ok octets)).verdict ended := by
  unfold document Yield.of
  dsimp only
  rw [hblank]
  cases parse octets <;> rfl

/-- What an arrival is worth hangs on its yield alone, up to what the log is told. -/
theorem outlineOf_judge (arrival : Arrival) :
    outlineOf (judge arrival) = arrival.yield.1.verdict arrival.yield.2 := by
  rcases arrival with (e | octets) | ⟨status, e | octets⟩
  · rfl
  · cases hblank : octets.all isAsciiBlank with
    | false => exact outlineOf_document hblank false
    | true =>
      obtain ⟨_, hjudge, _, rfl⟩ := judge_delivered_blank hblank
      rw [hjudge, Arrival.yield, Yield.of, if_pos hblank]
      rfl
  · rfl
  · cases hblank : octets.all isAsciiBlank with
    | false =>
      rw [judge, hblank]
      exact outlineOf_document hblank true
    | true =>
      rw [judge_ended_blank hblank, Arrival.yield, Yield.of, if_pos hblank]
      rfl

end Supervision

/-! ## Runs side by side -/

/-- Of both it is known that they ended, or of none. -/
def Child.Like (c c' : Child) : Prop := c.reaped.isSome = c'.reaped.isSome

/-- Two waits of which the same is observed are both over, or both go on. -/
theorem abreast_isOver {α β : Type} {R : α → β → Prop} {milliseconds : Nat} {f : Bool → Program α}
    {f' : Bool → Program β} (h : ∀ passed, (f passed).Abreast sight R (f' passed)) :
    (call (.isOver milliseconds) >>= f).Abreast sight R (call (.isOver milliseconds) >>= f') := by
  refine .ask (fun _ => rfl) (fun _ => rfl) fun passed passed' hsight => ?_
  have hpassed : passed = passed' := Sight.timed.inj (Option.some.inj hsight)
  rw [hpassed]
  exact h passed'

theorem Child.abreast_tryWait {c c' : Child} (h : c.Like c') : c.tryWait.Abreast sight
    (fun x x' => endedOf x.1 = endedOf x'.1 ∧ x.2.Like x'.2) c'.tryWait := by
  have hreaped : c.reaped.isSome = c'.reaped.isSome := h
  unfold tryWait
  cases hc : c.reaped with
  | some status =>
    cases hc' : c'.reaped with
    | some status' => exact .done ⟨rfl, h⟩
    | none =>
      rw [hc, hc'] at hreaped
      cases hreaped
  | none =>
    cases hc' : c'.reaped with
    | some status' =>
      rw [hc, hc'] at hreaped
      cases hreaped
    | none =>
      refine .ask (fun _ => rfl) (fun _ => rfl) fun status status' hsight => ?_
      have hended : endedOf status = endedOf status' := Sight.looked.inj (Option.some.inj hsight)
      obtain ⟨e, e', rfl, rfl⟩ | ⟨rfl, rfl⟩ | ⟨_, _, rfl, rfl⟩ := endedOf_eq_endedOf hended
      · exact .done ⟨rfl, h⟩
      · exact .done ⟨rfl, rfl⟩
      · exact .done ⟨rfl, rfl⟩

theorem Child.abreast_waitFor {c c' : Child} (h : c.Like c') (milliseconds patience patience' : Nat) :
    (c.waitFor milliseconds patience).Abreast sight (fun x x' => endedOf x.1 = endedOf x'.1)
      (c'.waitFor milliseconds patience') := by
  -- a side that runs out of patience does not finish, so nothing is asked of the two
  induction patience generalizing patience' c c' with
  | zero => exact .suspendedLeft _
  | succ patience ih =>
    cases patience' with
    | zero => exact .suspendedRight _
    | succ patience' =>
      unfold waitFor
      refine (abreast_tryWait h).bind fun x x' hx => ?_
      obtain ⟨status, c⟩ := x
      obtain ⟨status', c'⟩ := x'
      obtain ⟨hended, hlike⟩ := hx
      obtain ⟨e, e', rfl, rfl⟩ | ⟨rfl, rfl⟩ | ⟨_, _, rfl, rfl⟩ := endedOf_eq_endedOf hended
      · exact .done rfl
      · refine abreast_isOver fun passed => ?_
        cases passed with
        | true => exact .done rfl
        | false => exact ih hlike patience'
      · exact .done rfl

namespace Supervision

/-- Two looks at the reader that show the same both find it at work, or at its end. -/
theorem abreast_poll {α β : Type} {R : α → β → Prop}
    {f : Option (Except IoError Octets) → Program α} {f' : Option (Except IoError Octets) → Program β}
    (hnone : (f none).Abreast sight R (f' none))
    (hsome : ∀ octets octets', Yield.of octets = .of octets' →
      (f (some octets)).Abreast sight R (f' (some octets'))) :
    (call .poll >>= f).Abreast sight R (call .poll >>= f') := by
  refine .ask (fun _ => rfl) (fun _ => rfl) fun outcome outcome' hsight => ?_
  have hyield : outcome.map Yield.of = outcome'.map Yield.of :=
    Sight.polled.inj (Option.some.inj hsight)
  cases outcome with
  | none =>
    cases outcome' with
    | none => exact hnone
    | some octets' => cases hyield
  | some octets =>
    cases outcome' with
    | none => cases hyield
    | some octets' => exact hsome octets octets' (Option.some.inj hyield)

theorem abreast_releaseReader (attempts : Nat) : (releaseReader attempts).Abreast sight
    (fun octets octets' => Yield.of octets = .of octets') (releaseReader attempts) := by
  induction attempts with
  | zero => exact .done rfl
  | succ attempts ih =>
    unfold releaseReader
    refine .left (fun _ => rfl) fun opened => .right (fun _ => rfl) fun opened' => ?_
    -- whether or not the pipe could be opened on either side, both go on with the same poll
    cases opened with
    | false =>
      cases opened' with
      | false => exact abreast_poll ih fun _ _ h => .done h
      | true => exact .right (fun _ => rfl) fun _ => abreast_poll ih fun _ _ h => .done h
    | true =>
      refine .left (fun _ => rfl) fun _ => ?_
      cases opened' with
      | false => exact abreast_poll ih fun _ _ h => .done h
      | true => exact .right (fun _ => rfl) fun _ => abreast_poll ih fun _ _ h => .done h

theorem abreast_await (limit : Option Nat) {c c' : Child} (h : c.Like c') (patience patience' : Nat) :
    (await limit c patience).Abreast sight
      (fun x x' => outlineOf (x.1.map Arrival.yield) = outlineOf (x'.1.map Arrival.yield) ∧
        x.2.Like x'.2)
      (await limit c' patience') := by
  induction patience generalizing patience' c c' with
  | zero => exact .suspendedLeft _
  | succ patience ih =>
    cases patience' with
    | zero => exact .suspendedRight _
    | succ patience' =>
      unfold await
      refine abreast_poll ?_ fun octets octets' hoctets => ?_
      · refine (Child.abreast_tryWait h).bind fun x x' hx => ?_
        obtain ⟨status, c⟩ := x
        obtain ⟨status', c'⟩ := x'
        obtain ⟨hended, hlike⟩ := hx
        obtain ⟨e, e', rfl, rfl⟩ | ⟨rfl, rfl⟩ | ⟨_, _, rfl, rfl⟩ := endedOf_eq_endedOf hended
        · exact .done ⟨rfl, hlike⟩
        · cases limit with
          | none => exact ih hlike patience'
          | some seconds =>
            refine abreast_isOver fun passed => ?_
            cases passed with
            | true => exact .done ⟨rfl, hlike⟩
            | false => exact ih hlike patience'
        · refine (abreast_releaseReader _).bind fun octets octets' hoctets => .done ⟨?_, hlike⟩
          change Except.ok (Yield.of octets, true) = Except.ok (Yield.of octets', true)
          rw [hoctets]
      · refine .done ⟨?_, h⟩
        change Except.ok (Yield.of octets, false) = Except.ok (Yield.of octets', false)
        rw [hoctets]

theorem abreast_collect (s : SupervisionSettings) (status patience patience' : Nat) {c c' : Child}
    (h : c.Like c') :
    (collect s status patience c).Abreast sight (fun x x' => outlineOf x.1 = outlineOf x'.1)
      (collect s status patience' c') := by
  unfold collect
  refine (abreast_await _ h patience patience').bind fun x x' hx => ?_
  obtain ⟨arrival, c⟩ := x
  obtain ⟨arrival', c'⟩ := x'
  obtain ⟨hyield, hlike⟩ := hx
  -- on both sides nothing arrived, or arrivals of one yield did
  obtain ⟨fault, fault', rfl, rfl, hfault⟩ | ⟨arrival, arrival', rfl, rfl, hsame⟩ :=
    outlineOf_map_eq hyield
  · refine .skipLeft (only_terminate (fun _ => rfl) (fun _ => rfl) c) fun _ => ?_
    refine .skipRight (only_terminate (fun _ => rfl) (fun _ => rfl) c') fun _ => ?_
    refine (abreast_releaseReader _).bind fun _ _ _ => .done ?_
    exact congrArg Except.error hfault
  have hjudge : outlineOf (judge arrival) = outlineOf (judge arrival') := by
    rw [outlineOf_judge, outlineOf_judge, hsame]
  dsimp only
  obtain ⟨fault, fault', hjudged, hjudged', hfault⟩ | ⟨document, hjudged, hjudged'⟩ :=
    outlineOf_eq_outlineOf hjudge
  · rw [hjudged, hjudged']
    refine .skipLeft (only_terminate (fun _ => rfl) (fun _ => rfl) c) fun _ => ?_
    refine .skipRight (only_terminate (fun _ => rfl) (fun _ => rfl) c') fun _ => ?_
    exact .done (congrArg Except.error hfault)
  · rw [hjudged, hjudged']
    refine (Child.abreast_waitFor hlike _ patience patience').bind fun x x' hended => ?_
    obtain ⟨ending, c⟩ := x
    obtain ⟨ending', c'⟩ := x'
    -- the document is what is answered, however the adapter comes to its end
    obtain ⟨e, e', rfl, rfl⟩ | ⟨rfl, rfl⟩ | ⟨_, _, rfl, rfl⟩ := endedOf_eq_endedOf hended
    · exact .done rfl
    · refine .skipLeft (only_terminate (fun _ => rfl) (fun _ => rfl) c) fun _ => ?_
      refine .skipRight (only_terminate (fun _ => rfl) (fun _ => rfl) c') fun _ => ?_
      exact .done rfl
    · exact .done rfl

theorem abreast_openChannel (parent : Option String) : (openChannel parent).Abreast sight
    (fun path path' => outlineOf (path.map fun _ => ()) = outlineOf (path'.map fun _ => ()))
    (openChannel parent) := by
  unfold openChannel
  refine .ask (fun _ => rfl) (fun _ => rfl) fun made made' hsight => ?_
  have hmade : made.isOk = made'.isOk := Sight.directory.inj (Option.some.inj hsight)
  obtain ⟨e, e', rfl, rfl⟩ | ⟨directory, directory', rfl, rfl⟩ := isOk_eq_isOk hmade
  · exact .done rfl
  refine .ask (fun _ => rfl) (fun _ => rfl) fun piped piped' hsight => ?_
  have hpiped : piped.isOk = piped'.isOk := Sight.pipe.inj (Option.some.inj hsight)
  obtain ⟨reason, reason', rfl, rfl⟩ | ⟨_, _, rfl, rfl⟩ := isOk_eq_isOk hpiped
  · exact .left (fun _ => rfl) fun _ => .right (fun _ => rfl) fun _ => .done rfl
  · exact .done rfl

/-- Wherever the same is observed of it, an operation has one outcome, up to what the log is told. -/
theorem abreast_run (s : Settings) (inherited inherited' : Environment.Raw) (operation : String)
    (further : List String) (request : Option Request) (status patience patience' : Nat) :
    (run s inherited operation further request status patience).Abreast sight
      (fun r r' => outlineOf r = outlineOf r')
      (run s inherited' operation further request status patience') := by
  unfold run
  cases s.commandFor operation with
  | error fault => exact .done rfl
  | ok words =>
    refine (abreast_openChannel _).bind fun path path' hpath => ?_
    obtain ⟨fault, fault', rfl, rfl, hfault⟩ | ⟨path, path', rfl, rfl, _⟩ := outlineOf_map_eq hpath
    · exact .done (congrArg Except.error hfault)
    refine .ask (fun _ => rfl) (fun _ => rfl) fun reading reading' hsight => ?_
    have hreading : reading.isOk = reading'.isOk := Sight.reader.inj (Option.some.inj hsight)
    obtain ⟨e, e', rfl, rfl⟩ | ⟨_, _, rfl, rfl⟩ := isOk_eq_isOk hreading
    · exact .left (fun _ => rfl) fun _ => .right (fun _ => rfl) fun _ => .done rfl
    refine .ask (fun _ => rfl) (fun _ => rfl) fun launched launched' hsight => ?_
    have hlaunched : refusalOf launched = refusalOf launched' :=
      Sight.adapter.inj (Option.some.inj hsight)
    obtain ⟨fault, fault', rfl, rfl, hfault⟩ | ⟨rfl, rfl⟩ := refusalOf_eq_refusalOf hlaunched
    · refine (abreast_releaseReader _).bind fun _ _ _ => ?_
      refine .left (fun _ => rfl) fun _ => .right (fun _ => rfl) fun _ => .done ?_
      exact congrArg Except.error hfault
    · refine (abreast_collect _ _ patience patience' rfl).bind fun x x' houtcome => ?_
      -- what is left to be done is observed on neither side
      refine .skipLeft (only_finish (fun _ => rfl) _) fun _ => ?_
      refine .skipLeft (only_call fun _ => rfl) fun _ => ?_
      refine .skipLeft (only_release (fun _ => rfl) (fun _ => rfl) _) fun _ => ?_
      refine .skipRight (only_finish (fun _ => rfl) _) fun _ => ?_
      refine .skipRight (only_call fun _ => rfl) fun _ => ?_
      refine .skipRight (only_release (fun _ => rfl) (fun _ => rfl) _) fun _ => ?_
      exact .done houtcome

/-! ## Faults of an operation -/

theorem commandFor_eq_error {s : Settings} {operation : String} {fault : Fault}
    (h : s.commandFor operation = .error fault) : ∃ text, fault = .configuration text := by
  unfold Settings.commandFor at h
  split at h
  · cases h
    exact ⟨_, rfl⟩
  · split at h
    · cases h
      exact ⟨_, rfl⟩
    · cases h

theorem judge_eq_error {arrival : Arrival} {fault : Fault} (h : judge arrival = .error fault) :
    ∃ detail, fault = .subprocess detail ∨ fault = .noResult detail := by
  have hdocument {octets : Except IoError Octets} (h : document octets = .error fault) :
      ∃ detail, fault = .subprocess detail := by
    unfold document at h
    split at h
    · cases h
      exact ⟨_, rfl⟩
    · split at h
      · cases h
      · cases h
        exact ⟨_, rfl⟩
  unfold judge at h
  split at h
  · exact (hdocument h).imp fun _ => .inl
  · split at h
    · cases h
      exact ⟨_, .inr rfl⟩
    · exact (hdocument h).imp fun _ => .inl
  · exact (hdocument h).imp fun _ => .inl

theorem awaited_eq_error {limit : Option Nat} {t : List Exchange} {fault : Fault}
    (h : Awaited limit t (.error fault)) : (∃ e, fault = .io e) ∨ ∃ n, fault = .timeout n := by
  generalize ha : Except.error fault = a at h
  induction h with
  | delivered _ => cases ha
  | unknown e =>
    cases ha
    exact .inl ⟨e, rfl⟩
  | ended _ _ => cases ha
  | timeout _ =>
    cases ha
    exact .inr ⟨_, rfl⟩
  | unlimited _ _ ih => exact ih ha
  | inTime _ _ ih => exact ih ha

/-- No fault of an operation is the caller's own, unless the system says so. -/
theorem not_clientInput_of_course {s : Settings} {inherited : Environment.Raw} {operation : String}
    {further : List String} {request : Option Request} {status : Nat} {t : List Exchange}
    {fault : Fault} (h : Course s inherited operation further request status t (.error fault))
    (hspawn : ∀ words environment text,
      ⟨.spawn words environment, .error (.clientInput text)⟩ ∉ t) (text : String) :
    fault ≠ .clientInput text := by
  rintro rfl
  cases h with
  | unresolved hwords =>
    obtain ⟨_, hfault⟩ := commandFor_eq_error hwords
    cases hfault
  | notStarted directory _ _ => exact hspawn _ _ text (List.mem_append_right _ List.mem_cons_self)
  | started directory streams _ hgathered _ =>
    cases hgathered with
    | missing hawaited _ _ =>
      rcases awaited_eq_error hawaited with ⟨_, hfault⟩ | ⟨_, hfault⟩ <;> cases hfault
    | unreadable _ hjudge _ =>
      obtain ⟨_, hfault | hfault⟩ := judge_eq_error hjudge <;> cases hfault
    | leftNone _ hjudge =>
      obtain ⟨_, hfault | hfault⟩ := judge_eq_error hjudge <;> cases hfault

end Supervision

/-- All that callers are told of faults which are not their own. -/
def publicTexts : List String :=
  ["Unknown server error", "No result from adapter", "Error initializing adapter communication"]

theorem Http.Response.exists_ofFault_eq {fault : Fault} (h : ∀ text, fault ≠ .clientInput text) :
    ∃ text ∈ publicTexts, ofFault fault = .plain 500 text := by
  have hmem : fault.publicText ∈ publicTexts := by
    cases fault with
    | clientInput text => exact absurd rfl (h text)
    | _ => simp [publicTexts, Fault.publicText, Fault.genericText, Fault.noResultText,
        Fault.transportText]
  have hstatus : fault.statusCode = 500 := by
    cases fault with
    | clientInput text => exact absurd rfl (h text)
    | _ => rfl
  refine ⟨_, hmem, ?_⟩
  rw [ofFault, hstatus]

/-! ## What the caller learns -/

theorem Service.abreast_answer (s : Settings) (inherited inherited' : Environment.Raw)
    (patience patience' : Nat) (q : Http.Request) :
    (answer s inherited patience q).Abreast sight Eq (answer s inherited' patience' q) := by
  rcases answer_cases s q with ⟨_, hanswer, _⟩ | ⟨operation, request, hadmits⟩
  · rw [hanswer, hanswer]
    exact .done rfl
  · rw [answer_of_admits s inherited patience hadmits,
      answer_of_admits s inherited' patience' hadmits]
    refine (Supervision.abreast_run ..).bind fun r r' hr => .done ?_
    rw [← relayOf_outlineOf, hr, relayOf_outlineOf]

/-- What the caller learns of the adapter that a request starts. -/
structure Discreet (s : Settings) (q : Http.Request) : Prop where
  /-- Two runs in which the same is observed are answered alike. -/
  blind : ∀ inherited inherited' patience patience' t t' r r',
    (Service.answer s inherited patience q).Runs t r →
    (Service.answer s inherited' patience' q).Runs t' r' → observed t = observed t' → r = r'
  /-- A document is relayed as it is, and a fault is told in one of the public texts.  That there is no
      definition is told by an empty document.  All this if no start is refused with a fault of the
      caller's own. -/
  told : ∀ inherited patience operation request t r, Admits q operation request →
    (∀ words environment text, ⟨.spawn words environment, .error (.clientInput text)⟩ ∉ t) →
    (Service.answer s inherited patience q).Runs t r →
    ∃ outcome, (Supervision.execute s inherited operation request patience).Runs t outcome ∧
      (∀ delivery, outcome = .ok delivery → r = .json delivery.status delivery.document) ∧
      ∀ fault, outcome = .error fault →
        if operation = .adapterDefinition ∧ fault.isNoResult then r = .json 204 (.object [])
        else ∃ text ∈ publicTexts, r = .plain 500 text

/-- **The service is discreet.**  This is so for every request, whatever the settings, the environment
    and the system. -/
theorem discreet (s : Settings) (q : Http.Request) : Discreet s q := by
  refine ⟨?_, ?_⟩
  · intro inherited inherited' patience patience' t t' r r' hruns hruns' hobserved
    exact (Service.abreast_answer ..).related hruns hruns' hobserved
  · intro inherited patience operation request t r hadmits hspawn hruns
    rw [Service.answer_of_admits s inherited patience hadmits] at hruns
    obtain ⟨first, outcome, rest, rfl, hrun, hdone⟩ := Dialogue.runs_bind.mp hruns
    obtain ⟨rfl, rfl⟩ := Dialogue.runs_done.mp hdone
    rw [List.append_nil] at hspawn ⊢
    refine ⟨outcome, hrun, ?_, ?_⟩
    · rintro delivery rfl
      exact Service.relayOf_ok operation delivery
    · rintro fault rfl
      rw [Service.relayOf_error]
      by_cases hnone : operation = .adapterDefinition ∧ fault.isNoResult
      · rw [if_pos hnone, if_pos hnone]
      · rw [if_neg hnone, if_neg hnone]
        exact Response.exists_ofFault_eq
          (Supervision.not_clientInput_of_course (Supervision.course_of_runs hrun) hspawn)

/-- An adapter that ends and writes no definition makes the operation fail, and the caller is told
    none of the public texts. -/
theorem missing_definition_without_text :
    (Supervision.execute (Supervision.oneCommand "adapter_definition") [] .adapterDefinition none
      2).Runs Supervision.adapterFirst (.error (Supervision.nothingWritten (.exited 0))) ∧
    (Service.answer (Supervision.oneCommand "adapter_definition") [] 2
      Supervision.definitionRequest).Runs Supervision.adapterFirst (.json 204 (.object [])) ∧
    (Response.json 204 (.object [])).body ∉ publicTexts := by
  refine ⟨Supervision.runs_adapterFirst, ?_, by decide⟩
  exact Dialogue.runs_bind.mpr
    ⟨_, _, [], (List.append_nil _).symm, Supervision.runs_adapterFirst, .done _⟩

end AdapterGateway
