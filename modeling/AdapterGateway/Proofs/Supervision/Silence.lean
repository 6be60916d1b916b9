import AdapterGateway.Proofs.Json.Extent
import AdapterGateway.Proofs.Supervision.Patience
import AdapterGateway.Service

/-!
# Silence

What comes of an adapter that writes nothing but blanks, or nothing at all.  Whether the operation
ends without a result or with a text that is no document depends on one thing: whether the adapter
was seen to end before the reader was.  An adapter that leaves the pipe alone is always seen first.
-/

namespace AdapterGateway

open Text

/-- A script writes nothing but blanks, if anything, and ends. -/
def Script.Quiet (script : Script) : Prop :=
  script.Silent ∨ ∃ octets : Octets, octets.all isAsciiBlank = true ∧ script.Writes octets

namespace Supervision

open Host

variable {b : Octets} {h h' : Host}

/-! ## An adapter that leaves the pipe alone -/

/-- Nobody has opened or will open the pipe for writing. -/
def Unopened (h : Host) : Prop :=
  ∃ (reader : PipeReader) (ending : ExitStatus) (streams : Streams) (ended : Option ExitStatus),
    (reader = .starting ∨ reader = .waiting) ∧ h.channel = some { reader := some reader } ∧
    h.adapter = some ⟨⟨[], some ending, streams⟩, false, ended⟩

theorem unopened_of_silent {script : Script} (hscript : script.Silent) (hh : Launched h script) :
    Unopened h := by
  obtain ⟨reader, hreader, hchannel, hadapter⟩ := hh
  obtain ⟨hdeeds, hending⟩ := hscript
  obtain ⟨deeds, ending, streams⟩ := script
  obtain ⟨status, rfl⟩ := Option.isSome_iff_exists.mp hending
  cases hdeeds
  exact ⟨reader, status, streams, none, hreader, hchannel, hadapter⟩

theorem unopened_moves (hh : Unopened h) (turns : List Turn) : Unopened (h.moves turns) := by
  -- the reader goes no further than to its wait, and all that the adapter can do is end
  induction turns generalizing h with
  | nil => exact hh
  | cons turn turns ih =>
    obtain ⟨reader, ending, streams, ended, hreader, hchannel, hadapter⟩ := hh
    refine ih ?_
    cases turn with
    | reader more =>
      refine ⟨.waiting, ending, streams, ended, .inr rfl, ?_, hadapter⟩
      simp only [move, hchannel, Option.map_some]
      rcases hreader with rfl | rfl <;> rfl
    | adapter =>
      have hpipe : h.pipe = { reader := some reader } := by rw [pipe, hchannel]; rfl
      cases ended with
      | some status =>
        refine ⟨reader, ending, streams, some status, hreader, ?_, ?_⟩
        · simp only [move, hadapter, hchannel, Option.map_some, hpipe]
          rfl
        · simp only [move, hadapter]
          rfl
      | none =>
        refine ⟨reader, ending, streams, some ending, hreader, ?_, ?_⟩
        · simp only [move, hadapter, hchannel, Option.map_some, hpipe]
          rfl
        · simp only [move, hadapter]
          rfl

theorem poll_unopened (hh : Unopened h) : h.poll = (none, h) := by
  obtain ⟨reader, ending, streams, ended, hreader, hchannel, _⟩ := hh
  obtain ⟨makeDirectory, programs, channel, adapter, spawned⟩ := h
  cases hchannel
  rcases hreader with rfl | rfl <;> rfl

/-- The reader of an unopened pipe delivers nothing before the adapter is seen to end. -/
theorem not_delivered_of_unopened {limit : Option Nat} {t : List Exchange}
    {a : Except Fault Arrival} (ht : Awaited limit t a) (hh : Unopened h)
    (hi : Interleaved h t h') (octets : Except IoError Octets) : a ≠ .ok (.delivered octets) := by
  have hpolled {outcome : Option (Except IoError Octets)} {u : List Exchange} {h : Host}
      (hh : Unopened h) (hi : Interleaved h (⟨.poll, outcome⟩ :: u) h') :
      outcome = none ∧ ∃ next, Interleaved next u h' ∧ Unopened next := by
    refine interleaved_reply (by simp) (fun turns => ?_) hi
    exact ⟨_, poll_unopened (unopened_moves hh turns), unopened_moves hh turns⟩
  -- so no round of the wait ends with the reader
  induction ht generalizing h with
  | delivered outcome => cases (hpolled hh hi).1
  | unknown e => simp
  | ended status _ => simp
  | timeout _ => simp
  | unlimited _ _ ih =>
    obtain ⟨_, next, hrest, hnext⟩ := hpolled hh hi
    obtain ⟨turns, _, hlast⟩ := interleaved_tryWait hrest
    exact ih (unopened_moves hnext turns) hlast
  | inTime _ _ ih =>
    obtain ⟨_, next, hrest, hnext⟩ := hpolled hh hi
    obtain ⟨turns, _, hlast⟩ := interleaved_tryWait hrest
    obtain ⟨others, _, hover⟩ := interleaved_cons hlast
    exact ih (unopened_moves (unopened_moves hnext turns) others) hover

/-- An adapter that leaves the pipe alone is seen to end, unless it is given up. -/
theorem endSeen_of_unopened {s : SupervisionSettings} {status : Nat} {t rest : List Exchange}
    {r : Except Fault Delivery} {ending : Option ExitStatus} (ht : Gathered s status t r ending)
    (hh : Unopened h) (hb : h.Carries [] 0 false) (hi : Interleaved h t h')
    (htimed : timedOut (t ++ rest) = false) : endSeen t = true := by
  -- the wait can end with the end of the adapter or of its time; the latter is excluded
  cases ht with
  | @missing ta k u fault _ _ hawaited _ _ =>
    rw [List.append_assoc] at hi
    obtain ⟨_, hfirst, _⟩ := interleaved_append hi
    cases arrived_of_awaited hawaited hb hfirst with
    | late hlate =>
      rw [List.append_assoc, List.append_assoc, hlate] at htimed
      cases htimed
  | unreadable hawaited _ _ =>
    obtain ⟨_, hfirst, _⟩ := interleaved_append hi
    exact absurd rfl (not_delivered_of_unopened hawaited hh hfirst _)
  | leftNone hawaited _ =>
    cases arrived_of_awaited hawaited hb hi with
    | left _ hend => exact hend
    | abandoned _ hend => exact hend
  | left hawaited _ =>
    cases arrived_of_awaited hawaited hb hi with
    | left _ hend => exact hend
    | abandoned _ hend => exact hend
  | unknown hawaited _ _ =>
    obtain ⟨_, hfirst, _⟩ := interleaved_append hi
    exact absurd rfl (not_delivered_of_unopened hawaited hh hfirst _)
  | ended hawaited _ _ =>
    obtain ⟨_, hfirst, _⟩ := interleaved_append hi
    exact absurd rfl (not_delivered_of_unopened hawaited hh hfirst _)
  | lingering hawaited _ _ _ =>
    rw [List.append_assoc] at hi
    obtain ⟨_, hfirst, _⟩ := interleaved_append hi
    exact absurd rfl (not_delivered_of_unopened hawaited hh hfirst _)

/-! ## What is told of a quiet adapter -/

theorem judge_delivered_blank {octets : Octets} (hblank : octets.all isAsciiBlank = true) :
    ∃ fault, judge (.delivered (.ok octets)) = .error fault ∧ NoDocument fault := by
  simp only [judge, document, Json.parse_blank hblank]
  exact ⟨_, rfl, _, rfl⟩

theorem judge_ended_blank {octets : Octets} (hblank : octets.all isAsciiBlank = true)
    (ending : ExitStatus) : judge (.ended ending (.ok octets)) = .error (nothingWritten ending) := by
  simp only [judge, hblank, if_true]

/-- What an operation makes of a quiet adapter: it has no result when the adapter was seen to end,
    and a text that is no document otherwise. -/
theorem quiet_of_relayed {octets : Octets} {status : Nat} {t : List Exchange}
    {r : Except Fault Delivery} (hblank : octets.all isAsciiBlank = true)
    (hr : Relayed octets status t r) :
    (endSeen t = true ∧ ∃ ending, r = .error (nothingWritten ending)) ∨
      (endSeen t = false ∧ ∃ fault, r = .error fault ∧ NoDocument fault) := by
  cases hr with
  | delivered _ hend =>
    obtain ⟨fault, hjudge, hfault⟩ := judge_delivered_blank hblank
    exact .inr ⟨hend fault hjudge, fault, relayed_error hjudge status, hfault⟩
  | @left ending _ hend =>
    refine .inl ⟨hend, ending, ?_⟩
    rw [judge_ended_blank hblank]
    rfl

/-- What is told of a quiet adapter hangs on whether it was seen to end. -/
structure ToldByEnd (s : Settings) (inherited : Environment.Raw) (h : Host) (script : Script) :
    Prop where
  /-- An operation has no result when the adapter was seen to end, and only then. -/
  told : ∀ operation further request status patience t r h',
    Starts s inherited operation further request h script →
    (run s inherited operation further request status patience).Runs t r →
    Interleaved h t h' → timedOut t = false → outcomes t ≠ [] →
    ∃ fault, r = .error fault ∧ (fault.isNoResult = true ↔ endSeen t = true) ∧
      fault.publicText = if endSeen t then Fault.noResultText else Fault.genericText
  /-- The service answers that there is no definition when the adapter was seen to end, and with a
      generic fault otherwise. -/
  answered : ∀ q patience t response h',
    Starts s inherited Operation.adapterDefinition.name [] none h script →
    q.method = "GET" → q.path = "/definition" →
    (Service.answer s inherited patience q).Runs t response →
    Interleaved h t h' → timedOut t = false → outcomes t ≠ [] →
    response = if endSeen t then .json 204 (.object []) else .plain 500 Fault.genericText
  /-- An adapter that leaves the pipe alone is always seen to end. -/
  unopened : script.Silent → ∀ operation further request status patience t r h',
    Starts s inherited operation further request h script →
    (run s inherited operation further request status patience).Runs t r →
    Interleaved h t h' → timedOut t = false → endSeen t = true

theorem carries_of_quiet {script : Script} (hquiet : script.Quiet) :
    ∃ octets : Octets, octets.all isAsciiBlank = true ∧
      ∀ next : Host, Launched next script → next.Carries octets 0 false := by
  rcases hquiet with hsilent | ⟨octets, hblank, hwrites⟩
  · exact ⟨[], rfl, fun _ => carries_of_silent hsilent⟩
  · exact ⟨octets, hblank, fun _ => carries_of_writes hwrites⟩

/-- The answer to a request for the definition relays what the operation delivers. -/
theorem runs_definition {s : Settings} {inherited : Environment.Raw} {patience : Nat}
    {q : Http.Request} {t : List Exchange} {response : Http.Response} (hmethod : q.method = "GET")
    (hpath : q.path = "/definition") (h : (Service.answer s inherited patience q).Runs t response) :
    ∃ r, (run s inherited Operation.adapterDefinition.name [] none
        Operation.adapterDefinition.successStatus patience).Runs t r ∧
      response = Service.relayDefinition r := by
  have hresource : Resource.ofPath? "/definition" = some .definition := rfl
  unfold Service.answer at h
  rw [hpath, hresource] at h
  dsimp only at h
  rw [if_pos (show q.method = Resource.definition.method from hmethod)] at h
  obtain ⟨first, r, rest, rfl, hrun, hdone⟩ := Dialogue.runs_bind.mp h
  obtain ⟨rfl, rfl⟩ := Dialogue.runs_done.mp hdone
  rw [List.append_nil]
  exact ⟨r, hrun, rfl⟩

/-- **Silence is told by the order of two events.**  A quiet adapter comes to no result when it is
    seen to end before its reader is, and to a text that is no document otherwise. -/
theorem quiet_toldByEnd {s : Settings} {inherited : Environment.Raw} {h : Host} {script : Script}
    (hquiet : script.Quiet) : ToldByEnd s inherited h script := by
  obtain ⟨octets, hblank, hcarries⟩ := carries_of_quiet hquiet
  refine ⟨?_, ?_, ?_⟩
  · intro operation further request status patience t r h' hs hruns hi htimed hcollected
    rcases quiet_of_relayed hblank
      (relayed_of_course hs hcarries (course_of_runs hruns) hi htimed hcollected) with
      ⟨hend, ending, rfl⟩ | ⟨hend, _, rfl, _, rfl⟩
    · exact ⟨_, rfl, by simp [hend, nothingWritten, Fault.isNoResult],
        by rw [hend]; rfl⟩
    · exact ⟨_, rfl, by simp [hend, Fault.isNoResult], by rw [hend]; rfl⟩
  · intro q patience t response h' hs hmethod hpath hruns hi htimed hcollected
    obtain ⟨r, hrun, rfl⟩ := runs_definition hmethod hpath hruns
    rcases quiet_of_relayed hblank
      (relayed_of_course hs hcarries (course_of_runs hrun) hi htimed hcollected) with
      ⟨hend, ending, rfl⟩ | ⟨hend, _, rfl, _, rfl⟩
    · rw [hend]
      rfl
    · rw [hend]
      rfl
  · intro hsilent operation further request status patience t r h' hs hruns hi htimed
    obtain ⟨u, rest, ending, next, later, hgathered, hshows, hlaunched, hgather⟩ :=
      gathered_of_course hs (course_of_runs hruns) hi
    rw [hshows.timedOut_eq] at htimed
    rw [hshows.endSeen_eq]
    exact endSeen_of_unopened hgathered (unopened_of_silent hsilent hlaunched)
      (carries_of_silent hsilent hlaunched) hgather htimed

/-- The request for the definition. -/
def definitionRequest : Http.Request := .ofTarget "GET" "/definition"

/-- The conversation about the definition up to the start of the adapter. -/
def defining : List Exchange :=
  opening (oneCommand "adapter_definition") "/tmp/adapter-1" ++
    [⟨launch (oneCommand "adapter_definition") [] ["adapter", "--once"] [] none "/tmp/adapter-1",
      .ok ()⟩]

/-- The adapter opens the pipe, writes nothing and ends, and the reader has met the end when the
    supervisor looks for the first time. -/
def readerFirst : List Exchange :=
  defining ++ [⟨.poll, some (.ok [])⟩, ⟨.kill, .sent⟩, ⟨.wait, .ok (.exited 0)⟩, ⟨.capture, {}⟩,
    ⟨.removeDirectory, ()⟩]

/-- The same adapter, with a reader that has not met the end when the supervisor looks. -/
def adapterFirst : List Exchange :=
  defining ++ [⟨.poll, none⟩, ⟨.tryWait, .ok (some (.exited 0))⟩, ⟨.openPipe, true⟩,
    ⟨.closePipe, ()⟩, ⟨.poll, some (.ok [])⟩, ⟨.capture, {}⟩, ⟨.removeDirectory, ()⟩]

theorem starts_delivering_nil :
    Starts (oneCommand "adapter_definition") [] Operation.adapterDefinition.name [] none
      (oneProgram (.delivering [])) (.delivering []) :=
  ⟨rfl, ["adapter", "--once"], "/tmp/adapter-1", rfl, rfl, rfl⟩

theorem quiet_delivering_nil : (Script.delivering []).Quiet :=
  .inr ⟨[], rfl, [[]], rfl, rfl, rfl⟩

theorem interleaved_adapterFirst :
    ∃ h', Interleaved (oneProgram (.delivering [])) adapterFirst h' := by
  iterate 5 refine Exists.imp (fun _ => .answer [.reader 0] _ (fun _ => rfl)) ?_
  refine Exists.imp (fun _ => .answer (List.replicate 4 .adapter) _ (fun _ => rfl)) ?_
  iterate 2 refine Exists.imp (fun _ => .answer [] _ (fun _ => rfl)) ?_
  iterate 3 refine Exists.imp (fun _ => .answer [.reader 0] _ (fun _ => rfl)) ?_
  exact ⟨_, .still []⟩

theorem interleaved_readerFirst :
    ∃ h', Interleaved (oneProgram (.delivering [])) readerFirst h' := by
  iterate 4 refine Exists.imp (fun _ => .answer [.reader 0] _ (fun _ => rfl)) ?_
  refine Exists.imp (fun _ =>
    .answer (.reader 0 :: (List.replicate 4 .adapter ++ [.reader 0])) _ (fun _ => rfl)) ?_
  iterate 4 refine Exists.imp (fun _ => .answer [] _ (fun _ => rfl)) ?_
  exact ⟨_, .still []⟩

theorem quiet_toldByEnd_delivering_nil :
    (Script.delivering []).Quiet ∧
      Starts (oneCommand "adapter_definition") [] Operation.adapterDefinition.name [] none
        (oneProgram (.delivering [])) (.delivering []) ∧
      ToldByEnd (oneCommand "adapter_definition") [] (oneProgram (.delivering []))
        (.delivering []) :=
  ⟨quiet_delivering_nil, starts_delivering_nil, quiet_toldByEnd quiet_delivering_nil⟩

theorem runs_adapterFirst : (run (oneCommand "adapter_definition") []
    Operation.adapterDefinition.name [] none 200 2).Runs adapterFirst
      (.error (nothingWritten (.exited 0))) := by
  iterate 11 refine .ask _ ?_
  exact .done _

theorem runs_readerFirst : ∃ fault, (run (oneCommand "adapter_definition") []
    Operation.adapterDefinition.name [] none 200 2).Runs readerFirst (.error fault) ∧
      NoDocument fault := by
  refine ⟨_, ?_, Json.slipText, rfl⟩
  iterate 9 refine .ask _ ?_
  exact .done _

/-- The same adapter, which writes nothing, is told of in two ways: with no definition when it is
    seen to end first, and with a fault when its reader is. -/
theorem definition_told_twice :
    (Script.delivering []).Writes [] ∧
      Starts (oneCommand "adapter_definition") [] Operation.adapterDefinition.name [] none
        (oneProgram (.delivering [])) (.delivering []) ∧
      (∃ h', Interleaved (oneProgram (.delivering [])) adapterFirst h') ∧
      timedOut adapterFirst = false ∧
      (run (oneCommand "adapter_definition") [] Operation.adapterDefinition.name [] none 200
        2).Runs adapterFirst (.error (nothingWritten (.exited 0))) ∧
      (Service.answer (oneCommand "adapter_definition") [] 2 definitionRequest).Runs adapterFirst
        (.json 204 (.object [])) ∧
      (∃ h', Interleaved (oneProgram (.delivering [])) readerFirst h') ∧
      timedOut readerFirst = false ∧
      (∃ fault, NoDocument fault ∧ (run (oneCommand "adapter_definition") []
        Operation.adapterDefinition.name [] none 200 2).Runs readerFirst (.error fault)) ∧
      (Service.answer (oneCommand "adapter_definition") [] 2 definitionRequest).Runs readerFirst
        (.plain 500 Fault.genericText) := by
  obtain ⟨fault, hreaderFirst, hfault⟩ := runs_readerFirst
  refine ⟨⟨[[]], rfl, rfl, rfl⟩, starts_delivering_nil, interleaved_adapterFirst, rfl,
    runs_adapterFirst, ?_, interleaved_readerFirst, rfl, ⟨fault, hfault, hreaderFirst⟩, ?_⟩
  · exact Dialogue.runs_bind.mpr ⟨_, _, [], (List.append_nil _).symm, runs_adapterFirst, .done _⟩
  · obtain ⟨words, rfl⟩ := hfault
    exact Dialogue.runs_bind.mpr ⟨_, _, [], (List.append_nil _).symm, hreaderFirst, .done _⟩

end Supervision

end AdapterGateway
