import AdapterGateway.Pipe
import AdapterGateway.Proofs.Inventory.Report
import AdapterGateway.Proofs.Supervision.Discipline
import AdapterGateway.Proofs.Supervision.Lossless
import AdapterGateway.Proofs.Supervision.Prompt
import AdapterGateway.Service

/-!
# Sending a report

A report on its way from an adapter to the answer of the service.  The adapter finds the pipe by its
last argument and sends through it once, for every further attempt is refused; the operation delivers
the report, and what goes back over the connection is what the adapter wrote, octet for octet.
-/

namespace AdapterGateway

open Json Text Inventory

/-! ## Pipes that take one document -/

namespace OutputPipe

theorem sent_send (p : OutputPipe) (place : Place) (document : Value) :
    (p.send place document).1.sent = true := by
  unfold send
  by_cases hsent : p.sent = true
  · rw [if_pos hsent]
    exact hsent
  · rw [if_neg hsent]
    split <;> rfl

theorem send_of_sent {p : OutputPipe} (hsent : p.sent = true) (place : Place) (document : Value) :
    p.send place document = (p, place, .error .alreadySent) := by
  rw [send, if_pos hsent]

/-- The pipe after several attempts to send, each with what its path then led to. -/
def afterSends (p : OutputPipe) (sends : List (Place × Value)) : OutputPipe :=
  sends.foldl (fun p attempt => (p.send attempt.1 attempt.2).1) p

theorem afterSends_of_sent {p : OutputPipe} (hsent : p.sent = true) (sends : List (Place × Value)) :
    p.afterSends sends = p := by
  induction sends with
  | nil => rfl
  | cons attempt sends ih =>
    rw [afterSends, List.foldl_cons, send_of_sent hsent]
    exact ih

theorem send_afterSends (p : OutputPipe) (first : Place × Value) (sends : List (Place × Value))
    (place : Place) (document : Value) :
    (p.afterSends (first :: sends)).send place document =
      (p.afterSends (first :: sends), place, .error .alreadySent) := by
  -- the first attempt uses the pipe up, whatever became of it
  apply send_of_sent
  have hsent := p.sent_send first.1 first.2
  rw [afterSends, List.foldl_cons, ← afterSends, afterSends_of_sent hsent]
  exact hsent

/-- `p.Sends path documents deeds`: what an adapter does with the pipe at `path` while it sends the
    documents through `p`, one after the other. -/
inductive Sends (path : String) : OutputPipe → List Value → List Deed → Prop where
  | none {p : OutputPipe} : Sends path p [] []
  /-- What is written goes into the pipe in some pieces. -/
  | through {p q : OutputPipe} {document : Value} {rest : List Value} {pieces : List Octets}
      {deeds : List Deed} : p.path = path →
      p.send .vacant document = (q, .file pieces.flatten, .ok ()) → Sends path q rest deeds →
      Sends path p (document :: rest) (.openPipe :: (pieces.map .write ++ .closePipe :: deeds))
  | elsewhere {p : OutputPipe} {document : Value} {rest : List Value} {deeds : List Deed}
      (place : Place) : p.path ≠ path → Sends path (p.send place document).1 rest deeds →
      Sends path p (document :: rest) deeds
  | refused {p q : OutputPipe} {document : Value} {rest : List Value} {deeds : List Deed}
      {fault : Fault} : p.send .vacant document = (q, .vacant, .error fault) →
      Sends path q rest deeds → Sends path p (document :: rest) deeds

theorem Sends.deeds_eq_nil {path : String} {p : OutputPipe} {documents : List Value}
    {deeds : List Deed} (h : Sends path p documents deeds) (hsent : p.sent = true) : deeds = [] := by
  -- a used pipe refuses and stays as it is, so every further attempt finds it so
  induction h with
  | none => rfl
  | through _ hsend _ _ =>
    rw [send_of_sent hsent] at hsend
    cases hsend
  | elsewhere place _ _ ih =>
    rw [send_of_sent hsent] at ih
    exact ih hsent
  | refused hsend _ ih =>
    rw [send_of_sent hsent] at hsend
    cases hsend
    exact ih hsent

/-- Through a fresh pipe the first document is written, and nothing else. -/
theorem Sends.deeds_eq {path : String} {document : Value} {rest : List Value} {deeds : List Deed}
    (h : Sends path { path } (document :: rest) deeds) :
    ∃ pieces : List Octets, pieces.flatten = encode document.text ∧
      deeds = .openPipe :: (pieces.map .write ++ [.closePipe]) := by
  have hwritten : ({ path } : OutputPipe).send .vacant document =
      ({ path, sent := true }, .file (encode document.text), .ok ()) := rfl
  cases h with
  | @through q _ _ _ pieces more _ hsend hmore =>
    rw [hwritten, Prod.mk.injEq, Prod.mk.injEq] at hsend
    obtain ⟨rfl, hplace, _⟩ := hsend
    rw [hmore.deeds_eq_nil rfl]
    exact ⟨pieces, (Place.file.inj hplace).symm, rfl⟩
  | elsewhere _ hpath _ => exact absurd rfl hpath
  | refused hsend _ =>
    rw [hwritten] at hsend
    cases hsend

end OutputPipe

/-- The octets that an adapter puts into the pipe. -/
def Deed.octets : Deed → Octets
  | .write octets => octets
  | _ => []

def Script.written (script : Script) : Octets := script.deeds.flatMap Deed.octets

theorem Script.Writes.written_eq {script : Script} {octets : Octets} (h : script.Writes octets) :
    script.written = octets := by
  obtain ⟨pieces, hpieces, hdeeds, _⟩ := h
  have hmap : (pieces.map Deed.write).flatMap Deed.octets = pieces.flatten := by
    rw [List.flatMap_map]
    exact List.flatMap_id
  rw [Script.written, hdeeds, List.flatMap_cons, List.flatMap_append, hmap, hpieces]
  exact List.append_nil octets

/-! ## Requests for an operation -/

/-- `Asks q routed request`: the operation that the service runs for `q`, and for which instance. -/
inductive Asks (q : Http.Request) : Operation → Option Request → Prop where
  | instance {routed : Operation} {body : Octets} {request : Request} :
      q.method = "POST" → Resource.ofPath? q.path = some (.instance routed) → q.body = some body →
      Request.ofBody body = .ok request → Asks q routed (some request)
  | definition : q.method = "GET" → Resource.ofPath? q.path = some .definition →
      Asks q .adapterDefinition none

theorem Asks.answer_eq {q : Http.Request} {routed : Operation} {request : Option Request}
    (h : Asks q routed request) (s : Settings) (inherited : Environment.Raw) (patience : Nat) :
    ∃ relay : Except Fault Delivery → Http.Response,
      (Service.answer s inherited patience q = do
        return relay (← Supervision.execute s inherited routed request patience)) ∧
      ∀ delivery, relay (.ok delivery) = .json delivery.status delivery.document := by
  cases h with
  | «instance» hmethod hpath hbody hrequest =>
    refine ⟨Service.relay, ?_, fun _ => rfl⟩
    unfold Service.answer
    rw [hpath]
    dsimp only
    rw [if_pos (show q.method = (Resource.instance routed).method from hmethod), hbody]
    unfold Service.serve Service.operate
    dsimp only
    rw [hrequest]
  | definition hmethod hpath =>
    refine ⟨Service.relayDefinition, ?_, fun _ => rfl⟩
    unfold Service.answer
    rw [hpath]
    dsimp only
    rw [if_pos (show q.method = Resource.definition.method from hmethod)]
    rfl

namespace Supervision

open Host

/-! ## Adapters that report -/

/-- On the host `h` an operation starts an adapter that sends the report `r` through the pipe which
    its last argument names, perhaps tries to send more, and ends. -/
structure Reports (s : Settings) (inherited : Environment.Raw) (operation : String)
    (further : List String) (request : Option Request) (h : Host) (r : Report) (script : Script) :
    Prop where
  starts : Starts s inherited operation further request h script
  sends : ∀ arguments directory launch, s.commandFor operation = .ok arguments →
    h.makeDirectory s.supervision.channelParent = .ok directory →
    Launch.prepare (arguments ++ further ++ [Channel.pathIn directory])
      (Environment.build inherited s.supervision.inherited request) = .ok launch →
    ∃ pipe more, OutputPipe.ofArguments launch.arguments = .ok pipe ∧
      pipe.Sends (Channel.pathIn directory) (r.wire :: more) script.deeds
  ends : script.ending.isSome

theorem ne_nil_of_commandFor {s : Settings} {operation : String} {arguments : List String}
    (h : s.commandFor operation = .ok arguments) : arguments ≠ [] := by
  unfold Settings.commandFor at h
  split at h
  · cases h
  · split at h
    · cases h
    · rename_i hsome
      cases h
      simpa using hsome

/-- The last argument of the adapter names the pipe, whatever stands before it. -/
theorem ofArguments_prepared {arguments further : List String} {path : String}
    {environment : Environment} {launch : Launch} (hwords : arguments ≠ [])
    (h : Launch.prepare (arguments ++ further ++ [path]) environment = .ok launch) :
    OutputPipe.ofArguments launch.arguments = .ok { path } := by
  cases arguments with
  | nil => exact absurd rfl hwords
  | cons program rest =>
    have hlaunch : launch.arguments = rest ++ further ++ [path] := by
      rw [List.cons_append, List.cons_append] at h
      unfold Launch.prepare at h
      dsimp only at h
      split at h
      · split at h
        · cases h
        · cases h
          rfl
      · cases h
    rw [OutputPipe.ofArguments, hlaunch, List.getLast?_concat]

theorem Reports.writes {s : Settings} {inherited : Environment.Raw} {operation : String}
    {further : List String} {request : Option Request} {h : Host} {r : Report} {script : Script}
    (hr : Reports s inherited operation further request h r script) :
    script.Writes (encode r.wire.text) := by
  obtain ⟨arguments, directory, hwords, hmake, hfind⟩ := hr.starts.started
  -- the host found the script by the arguments from which the adapter takes its pipe
  unfold Host.find at hfind
  split at hfind
  · cases hfind
  · rename_i launch hlaunch
    obtain ⟨pipe, more, hpipe, hsends⟩ := hr.sends arguments directory launch hwords hmake hlaunch
    rw [ofArguments_prepared (ne_nil_of_commandFor hwords) hlaunch] at hpipe
    cases hpipe
    obtain ⟨pieces, hpieces, hdeeds⟩ := hsends.deeds_eq
    exact ⟨pieces, hpieces, hdeeds, hr.ends⟩

/-- What comes of an adapter that sends the report `r`. -/
structure Delivers (s : Settings) (inherited : Environment.Raw) (operation : String)
    (further : List String) (request : Option Request) (h : Host) (r : Report) (script : Script) :
    Prop where
  /-- The pipe that an adapter finds is the one in the directory that was made. -/
  found : ∀ arguments directory environment launch, s.commandFor operation = .ok arguments →
    Launch.prepare (arguments ++ further ++ [Channel.pathIn directory]) environment = .ok launch →
    OutputPipe.ofArguments launch.arguments = .ok { path := Channel.pathIn directory }
  /-- The text of the report is written, and nothing that is sent behind it. -/
  written : script.written = encode r.wire.text
  /-- An attempt to send behind a first one is refused and writes nothing, whatever became of the
      first. -/
  refused : ∀ (pipe : OutputPipe) first sends place document,
    (pipe.afterSends (first :: sends)).send place document =
      (pipe.afterSends (first :: sends), place, .error .alreadySent)
  /-- In every interleaving that is not cut short by a limit of time and in which the reader is not
      given up, the operation delivers the report. -/
  delivered : ∀ status patience t result h',
    (run s inherited operation further request status patience).Runs t result →
    Interleaved h t h' → timedOut t = false → outcomes t ≠ [] → result = .ok ⟨r.wire, status⟩
  /-- Where everybody goes on as far as possible, the operation comes to its end and delivers it. -/
  prompt : ∀ status patience, ∃ h',
    h.follow (run s inherited operation further request status (patience + 1)) =
      (some (.ok ⟨r.wire, status⟩), h')
  /-- Where the adapter and the reader move again and again, it comes to its end. -/
  returns : ∀ (status : Nat) (σ : Schedule), σ.Fair → ∃ patience t result s',
    (run s inherited operation further request status patience).follow σ.respond (h, 0) =
      (some result, s') ∧
    (run s inherited operation further request status patience).Runs t result ∧
    Interleaved h t s'.1
  /-- The service answers with the octets that the adapter wrote. -/
  answered : ∀ routed q patience t response h', operation = routed.name → further = [] →
    Asks q routed request → (Service.answer s inherited patience q).Runs t response →
    Interleaved h t h' → timedOut t = false → outcomes t ≠ [] →
    response = .json routed.successStatus r.wire ∧ encode response.body = script.written
  /-- On a prompt host it always does. -/
  promptly : ∀ routed q patience, operation = routed.name → further = [] →
    Asks q routed request → ∃ response h',
      h.follow (Service.answer s inherited (patience + 1) q) = (some response, h') ∧
      response = .json routed.successStatus r.wire ∧ encode response.body = script.written

/-- **A report arrives.**  Whatever the report and the operation, what an adapter sends through its
    pipe is delivered as it is, and relayed as the adapter wrote it. -/
theorem report_delivers {s : Settings} {inherited : Environment.Raw} {operation : String}
    {further : List String} {request : Option Request} {h : Host} {r : Report} {script : Script}
    (hr : Reports s inherited operation further request h r script)
    (hreals : ∀ x ∈ r.wire.reals, ReadsBack x) :
    Delivers s inherited operation further request h r script := by
  have hparse := r.parse_wire hreals
  have hwrites := hr.writes
  have hwritten : script.written = encode r.wire.text := hwrites.written_eq
  have hsome : encode r.wire.text ≠ [] := by
    -- no octets at all would count as blank
    intro hnone
    have hblank := r.not_blank
    rw [hnone] at hblank
    cases hblank
  have hjudge : judge (.delivered (.ok (encode r.wire.text))) = .ok r.wire := by
    simp only [judge, document, hparse]
  have hdelivered : ∀ status patience t result h',
      (run s inherited operation further request status patience).Runs t result →
      Interleaved h t h' → timedOut t = false → outcomes t ≠ [] →
      result = .ok ⟨r.wire, status⟩ := by
    intro status patience t result h' hruns hi htimed hcollected
    have hexact := ((run_lossless hr.starts hwrites r.not_blank status).exact patience t result h'
      hruns hi htimed hcollected).2
    rw [hparse] at hexact
    exact hexact
  have hprompt := run_prompt hr.starts hwrites hsome hjudge
  exact {
    found := fun _ _ _ _ hwords hlaunch =>
      ofArguments_prepared (ne_nil_of_commandFor hwords) hlaunch
    written := hwritten
    refused := fun pipe first sends place document =>
      pipe.send_afterSends first sends place document
    delivered := hdelivered
    prompt := hprompt
    returns := fun status => (run_lossless hr.starts hwrites r.not_blank status).returns
    answered := by
      rintro routed q patience t response h' rfl rfl hasks hruns hi htimed hcollected
      obtain ⟨relay, hanswer, hrelay⟩ := hasks.answer_eq s inherited patience
      rw [hanswer] at hruns
      obtain ⟨first, result, rest, rfl, hrun, hdone⟩ := Dialogue.runs_bind.mp hruns
      obtain ⟨rfl, rfl⟩ := Dialogue.runs_done.mp hdone
      rw [List.append_nil] at hi htimed hcollected
      rw [hdelivered _ _ _ _ _ hrun hi htimed hcollected, hrelay]
      exact ⟨rfl, hwritten.symm⟩
    promptly := by
      rintro routed q patience rfl rfl hasks
      obtain ⟨relay, hanswer, hrelay⟩ := hasks.answer_eq s inherited (patience + 1)
      obtain ⟨h', hfollow⟩ := hprompt routed.successStatus patience
      refine ⟨.json routed.successStatus r.wire, h', ?_, rfl, hwritten.symm⟩
      rw [hanswer, Host.follow, Dialogue.follow_bind]
      rw [Host.follow] at hfollow
      unfold execute
      rw [hfollow]
      dsimp only
      rw [hrelay]
      rfl }

def serverKey : Key := .make "X" "server" "localhost" []

/-- A server with a load of 12.5 percent. -/
def loadReport : Report :=
  let server : Handle := ⟨0, serverKey⟩
  .collection { table := Dictionary.empty.insert server.identity server, order := [server.identity] }
    ((Graph.create {} serverKey).2.addMetrics server
      [⟨"cpu|usage", ⟨0x4029000000000000⟩, 1700000000000⟩])

def loadPieces : List Octets :=
  [(encode loadReport.wire.text).take 16, (encode loadReport.wire.text).drop 16]

theorem flatten_loadPieces : loadPieces.flatten = encode loadReport.wire.text := by
  rw [loadPieces, List.flatten_cons, List.flatten_singleton, List.take_append_drop]

/-- An adapter that writes its report in two pieces and tries to send it a second time. -/
def twiceSent : Script :=
  { deeds := .openPipe :: (loadPieces.map .write ++ [.closePipe]) }

theorem reports_twiceSent :
    Reports (oneCommand "collect") [] Operation.collect.name [] none (oneProgram twiceSent) loadReport
      twiceSent where
  starts := ⟨rfl, ["adapter", "--once"], "/tmp/adapter-1", rfl, rfl, rfl⟩
  sends := by
    intro arguments directory launch hwords hmake hlaunch
    have hpipe := ofArguments_prepared (ne_nil_of_commandFor hwords) hlaunch
    have hsend : ({ path := Channel.pathIn directory } : OutputPipe).send .vacant loadReport.wire =
        ({ path := Channel.pathIn directory, sent := true }, .file loadPieces.flatten, .ok ()) := by
      rw [flatten_loadPieces]
      rfl
    exact ⟨_, [loadReport.wire], hpipe, .through rfl hsend (.refused rfl .none)⟩
  ends := rfl

theorem report_delivers_loadReport :
    loadReport.wire.reals = [⟨0x4029000000000000⟩] ∧ (∀ x ∈ loadReport.wire.reals, ReadsBack x) ∧
      Reports (oneCommand "collect") [] Operation.collect.name [] none (oneProgram twiceSent)
        loadReport twiceSent ∧
      Delivers (oneCommand "collect") [] Operation.collect.name [] none (oneProgram twiceSent)
        loadReport twiceSent := by
  have hreals : loadReport.wire.reals = [⟨0x4029000000000000⟩] := by decide +kernel
  have hread : ∀ x ∈ loadReport.wire.reals, ReadsBack x := by
    rw [hreals, List.forall_mem_singleton]
    decide +kernel
  exact ⟨hreals, hread, reports_twiceSent, report_delivers reports_twiceSent hread⟩

end Supervision

end AdapterGateway
