import AdapterGateway.Proofs.Supervision.Patience

/-!
# The result channel is lossless

What an adapter writes is what is decoded, in whatever order the adapter, the reader and the
supervisor go on: the document in it is delivered, and a text that is no document is refused with
the generic public text.
-/

namespace AdapterGateway

open Text

namespace Supervision

open Host

/-- An operation on the host `h` relays the octets of its adapter as they are. -/
structure Lossless (s : Settings) (inherited : Environment.Raw) (operation : String)
    (further : List String) (request : Option Request) (status : Nat) (h : Host) (octets : Octets) :
    Prop where
  /-- In every interleaving that is not cut short by a limit of time and in which the reader is not
      given up, exactly the octets are taken from the reader, once, and the result is what decoding
      them gives. -/
  exact : ∀ patience t r h',
    (run s inherited operation further request status patience).Runs t r →
    Interleaved h t h' → timedOut t = false → outcomes t ≠ [] →
    outcomes t = [.ok octets] ∧
      match Json.parse octets with
      | .ok document => r = .ok ⟨document, status⟩
      | .error _ => ∃ fault, r = .error fault ∧ NoDocument fault ∧
          fault.publicText = Fault.genericText
  /-- Where the adapter and the reader move again and again, the operation comes to its end. -/
  returns : ∀ σ : Schedule, σ.Fair → ∃ patience t r s',
    (run s inherited operation further request status patience).follow σ.respond (h, 0) =
      (some r, s') ∧
    (run s inherited operation further request status patience).Runs t r ∧
    Interleaved h t s'.1

/-- What is judged of octets that are not all blank does not depend on whether the adapter was seen
    to end. -/
theorem judge_ended {octets : Octets} (hblank : octets.all isAsciiBlank = false)
    (ending : ExitStatus) :
    judge (.ended ending (.ok octets)) = judge (.delivered (.ok octets)) := by
  simp only [judge, hblank]
  rfl

theorem relayed_document (status : Nat) (octets : Octets) :
    match Json.parse octets with
    | .ok document => relayed status (judge (.delivered (.ok octets))) = .ok ⟨document, status⟩
    | .error _ => ∃ fault, relayed status (judge (.delivered (.ok octets))) = .error fault ∧
        NoDocument fault ∧ fault.publicText = Fault.genericText := by
  cases hparse : Json.parse octets with
  | ok document => simp only [relayed, judge, Supervision.document, hparse, Except.map]
  | error e =>
    simp only [relayed, judge, Supervision.document, hparse, Except.map]
    exact ⟨_, rfl, ⟨_, rfl⟩, rfl⟩

/-- **Lossless channel.**  Every adapter that opens the pipe once, writes octets that are not all
    blank in any number of pieces, closes it and ends is relayed as it is. -/
theorem run_lossless {s : Settings} {inherited : Environment.Raw} {operation : String}
    {further : List String} {request : Option Request} {h : Host} {script : Script}
    {octets : Octets} (hs : Starts s inherited operation further request h script)
    (hwrites : script.Writes octets) (hblank : octets.all isAsciiBlank = false) (status : Nat) :
    Lossless s inherited operation further request status h octets where
  exact patience t r h' hruns hi htimed hcollected := by
    have hrelayed := relayed_of_course hs (fun _ => carries_of_writes hwrites)
      (course_of_runs hruns) hi htimed hcollected
    -- octets that are not blank are worth the same to either way of relaying them
    have hr : outcomes t = [.ok octets] ∧
        r = relayed status (judge (.delivered (.ok octets))) := by
      cases hrelayed with
      | delivered hout _ => exact ⟨hout, rfl⟩
      | left hout _ => exact ⟨hout, by rw [judge_ended hblank]⟩
    refine ⟨hr.1, ?_⟩
    have hdocument := relayed_document status octets
    rw [hr.2]
    cases hparse : Json.parse octets with
    | ok document =>
      rw [hparse] at hdocument
      exact hdocument
    | error e =>
      rw [hparse] at hdocument
      exact hdocument
  returns σ hfair := by
    obtain ⟨patience, r, s', hfollow⟩ :=
      run_returns hfair hs (fun _ => carries_of_writes hwrites) status
    obtain ⟨t, hruns, hanswered⟩ := Dialogue.runs_of_follow hfollow
    exact ⟨patience, t, r, s', hfollow, hruns, Schedule.interleaved_of_answered hanswered⟩

/-- An adapter that writes a document in two pieces and fails. -/
def twoPieces : Script :=
  { deeds := [.openPipe, .write [0x7b], .write [0x7d], .closePipe], ending := some (.exited 3) }

theorem starts_twoPieces :
    Starts (oneCommand "collect") [] "collect" [] none (oneProgram twoPieces) twoPieces :=
  ⟨rfl, ["adapter", "--once"], "/tmp/adapter-1", rfl, rfl, rfl⟩

/-- A conversation in which the adapter is seen to end before the reader has met the end. -/
def endedFirst : List Exchange :=
  opening (oneCommand "collect") "/tmp/adapter-1" ++
    [⟨launch (oneCommand "collect") [] ["adapter", "--once"] [] none "/tmp/adapter-1", .ok ()⟩,
     ⟨.poll, none⟩, ⟨.tryWait, .ok (some (.exited 3))⟩, ⟨.openPipe, true⟩, ⟨.closePipe, ()⟩,
     ⟨.poll, some (.ok [0x7b, 0x7d])⟩, ⟨.capture, {}⟩, ⟨.removeDirectory, ()⟩]

theorem run_lossless_endedFirst :
    Starts (oneCommand "collect") [] "collect" [] none (oneProgram twoPieces) twoPieces ∧
      twoPieces.Writes [0x7b, 0x7d] ∧ ([0x7b, 0x7d] : Octets).all isAsciiBlank = false ∧
      Lossless (oneCommand "collect") [] "collect" [] none 200 (oneProgram twoPieces) [0x7b, 0x7d] ∧
      (run (oneCommand "collect") [] "collect" [] none 200 2).Runs endedFirst
        (.ok ⟨.object [], 200⟩) ∧
      ∃ h', Interleaved (oneProgram twoPieces) endedFirst h' := by
  have hwrites : twoPieces.Writes [0x7b, 0x7d] := ⟨[[0x7b], [0x7d]], rfl, rfl, rfl⟩
  refine ⟨starts_twoPieces, hwrites, by decide,
    run_lossless starts_twoPieces hwrites (by decide) 200, ?_, ?_⟩
  · iterate 11 refine .ask _ ?_
    exact .done _
  · -- the adapter does everything before the supervisor looks, and the reader only then
    iterate 5 refine Exists.imp (fun _ => .answer [.reader 0] _ (fun _ => rfl)) ?_
    refine Exists.imp (fun _ => .answer (List.replicate 5 .adapter) _ (fun _ => rfl)) ?_
    iterate 2 refine Exists.imp (fun _ => .answer [] _ (fun _ => rfl)) ?_
    iterate 3 refine Exists.imp (fun _ => .answer [.reader 1, .reader 1] _ (fun _ => rfl)) ?_
    exact ⟨_, .still []⟩

end Supervision

end AdapterGateway
