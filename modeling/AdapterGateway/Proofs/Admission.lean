import AdapterGateway.Proofs.Supervision.Starting
import AdapterGateway.Service

/-!
# Admission

Which requests start an adapter, and what becomes of all others.  An adapter is started once at
most, only for a request that asks for an operation in the way the service offers it, and then for
that operation and in the environment of that request.  Everything else is answered before the
system is asked for anything.  Over a connection only a request that was read to its end comes so
far, and whatever goes back carries a status that has a phrase.
-/

namespace AdapterGateway

open Http (Response)
open Text

/-- The paths under which an operation is run for the instance that the body describes. -/
def operationPaths : List (String × Operation) :=
  [("/collect", .collect), ("/test", .test), ("/endpointURLs", .endpointUrls)]

/-- All paths of the service, each with its method. -/
def routes : List (String × String) :=
  [("/collect", "POST"), ("/test", "POST"), ("/endpointURLs", "POST"), ("/definition", "GET"),
   ("/apiVersion", "GET"), ("/version", "GET"), ("/health", "GET")]

/-- `Admits q operation request`: in `q` the service is asked to run the operation, and for whom. -/
inductive Admits (q : Http.Request) : Operation → Option Request → Prop where
  | posted {operation : Operation} {body : Octets} {request : Request} :
      q.method = "POST" → (q.path, operation) ∈ operationPaths → q.body = some body →
      Request.ofBody body = .ok request → Admits q operation (some request)
  | definition : q.method = "GET" → q.path = "/definition" → Admits q .adapterDefinition none

/-- There is a phrase for the status. -/
abbrev Phrased (status : Nat) : Prop := Response.phrase status ≠ "Unknown"

/-- A response as it is made: out of a document, or out of a message. -/
inductive Http.Response.Made : Response → Prop where
  | json (status : Nat) (document : Json.Value) : Made (.json status document)
  | plain (status : Nat) (message : String) : Made (.plain status message)

/-- What is sent: a response that was made with a status for which there is a phrase. -/
structure Http.Response.Proper (r : Response) : Prop where
  made : r.Made
  phrased : Phrased r.status

theorem Http.Response.proper_json {status : Nat} (h : Phrased status) (document : Json.Value) :
    (Response.json status document).Proper := ⟨.json status document, h⟩

theorem Http.Response.proper_plain {status : Nat} (h : Phrased status) (message : String) :
    (Response.plain status message).Proper := ⟨.plain status message, h⟩

/-! ## Paths -/

theorem Resource.ofPath?_eq_some_iff {path : String} {resource : Resource} :
    ofPath? path = some resource ↔ (path, resource) ∈ table :=
  lookup_eq_some_iff_mem (by decide)

theorem mem_operationPaths_iff {path : String} {operation : Operation} :
    (path, operation) ∈ operationPaths ↔ Resource.ofPath? path = some (.instance operation) := by
  rw [Resource.ofPath?_eq_some_iff]
  simp [operationPaths, Resource.table]

theorem mem_routes_iff {path method : String} :
    (path, method) ∈ routes ↔ ∃ resource, Resource.ofPath? path = some resource ∧
      resource.method = method := by
  have hroutes : routes = Resource.table.map fun entry => (entry.1, entry.2.method) := rfl
  rw [hroutes, List.mem_map]
  constructor
  · rintro ⟨⟨_, resource⟩, hmem, heq⟩
    obtain ⟨rfl, rfl⟩ := Prod.mk.inj heq
    exact ⟨resource, Resource.ofPath?_eq_some_iff.mpr hmem, rfl⟩
  · rintro ⟨resource, hpath, rfl⟩
    exact ⟨(path, resource), Resource.ofPath?_eq_some_iff.mp hpath, rfl⟩

/-! ## Statuses -/

theorem phrased_statusCode (fault : Fault) : Phrased fault.statusCode := by
  have hstatus : fault.statusCode = 400 ∨ fault.statusCode = 500 := by
    unfold Fault.statusCode
    split
    · exact .inl rfl
    · exact .inr rfl
  rcases hstatus with hstatus | hstatus
  · rw [hstatus]
    decide
  · rw [hstatus]
    decide

theorem phrased_successStatus (operation : Operation) : Phrased operation.successStatus := by
  cases operation <;> decide

/-- What an operation delivers has the status that was asked for. -/
theorem Supervision.status_of_runs {s : Settings} {inherited : Environment.Raw} {operation : String}
    {further : List String} {request : Option Request} {status patience : Nat} {t : List Exchange}
    {delivery : Delivery}
    (h : (run s inherited operation further request status patience).Runs t (.ok delivery)) :
    delivery.status = status := by
  cases course_of_runs h with
  | started _ _ _ hgathered _ => cases hgathered <;> rfl

namespace Service

/-- How the outcome of an operation is relayed. -/
def relayOf : Operation → Except Fault Delivery → Response
  | .adapterDefinition => relayDefinition
  | _ => relay

theorem relayOf_of_mem {path : String} {operation : Operation}
    (h : (path, operation) ∈ operationPaths) : relayOf operation = relay := by
  have hoperation : operation = .collect ∨ operation = .test ∨ operation = .endpointUrls := by
    simp only [operationPaths, List.mem_cons, Prod.mk.injEq, List.not_mem_nil, or_false] at h
    rcases h with ⟨_, h⟩ | ⟨_, h⟩ | ⟨_, h⟩
    · exact .inl h
    · exact .inr (.inl h)
    · exact .inr (.inr h)
  rcases hoperation with rfl | rfl | rfl <;> rfl

theorem relayOf_ok (operation : Operation) (delivery : Delivery) :
    relayOf operation (.ok delivery) = .json delivery.status delivery.document := by
  cases operation <;> rfl

/-- That an adapter has no definition is no fault. -/
theorem relayOf_error (operation : Operation) (fault : Fault) :
    relayOf operation (.error fault) =
      if operation = .adapterDefinition ∧ fault.isNoResult then .json 204 (.object [])
      else .ofFault fault := by
  cases operation with
  | adapterDefinition =>
    cases hnone : fault.isNoResult <;> simp [relayOf, relayDefinition, hnone]
  | _ => rfl

theorem proper_relayOf_error (operation : Operation) (fault : Fault) :
    (relayOf operation (.error fault)).Proper := by
  rw [relayOf_error]
  split
  · exact Response.proper_json (by decide) _
  · exact Response.proper_plain (phrased_statusCode fault) _

variable (s : Settings) (inherited : Environment.Raw) (patience : Nat)

theorem answer_of_posted {q : Http.Request} {operation : Operation} (hmethod : q.method = "POST")
    (hpath : (q.path, operation) ∈ operationPaths) :
    answer s inherited patience q = operate s inherited patience operation q.body := by
  have hresource : q.method = (Resource.instance operation).method := hmethod
  unfold answer
  rw [mem_operationPaths_iff.mp hpath]
  dsimp only
  rw [if_pos hresource]
  rfl

/-- A request for an operation makes the service run it, and its outcome is relayed. -/
theorem answer_of_admits {q : Http.Request} {operation : Operation} {request : Option Request}
    (h : Admits q operation request) : answer s inherited patience q = do
      return relayOf operation (← Supervision.execute s inherited operation request patience) := by
  cases h with
  | posted hmethod hpath hbody hrequest =>
    rw [answer_of_posted s inherited patience hmethod hpath, relayOf_of_mem hpath, hbody]
    unfold operate
    dsimp only
    rw [hrequest]
  | definition hmethod hpath =>
    have hresource : Resource.ofPath? "/definition" = some .definition := rfl
    unfold answer
    rw [hpath, hresource]
    dsimp only
    rw [if_pos (show q.method = Resource.definition.method from hmethod)]
    rfl

/-- A request is answered at once, or it is one for an operation. -/
theorem answer_cases (q : Http.Request) :
    (∃ r, (∀ inherited patience, answer s inherited patience q = .done r) ∧ r.Proper) ∨
      ∃ operation request, Admits q operation request := by
  unfold answer
  cases hpath : Resource.ofPath? q.path with
  | none => exact .inl ⟨_, fun _ _ => rfl, Response.proper_plain (by decide) _⟩
  | some resource =>
    dsimp only
    by_cases hmethod : q.method = resource.method
    · simp only [if_pos hmethod]
      cases resource with
      | «instance» operation =>
        unfold serve operate
        dsimp only
        cases hbody : q.body with
        | none => exact .inl ⟨_, fun _ _ => rfl, Response.proper_plain (by decide) _⟩
        | some body =>
          dsimp only
          cases hrequest : Request.ofBody body with
          | error fault =>
            exact .inl ⟨_, fun _ _ => rfl, Response.proper_plain (phrased_statusCode fault) _⟩
          | ok request =>
            exact .inr ⟨operation, some request,
              .posted hmethod (mem_operationPaths_iff.mpr hpath) hbody hrequest⟩
      | definition =>
        have hdefinition : q.path = "/definition" := by
          simpa [Resource.table] using Resource.ofPath?_eq_some_iff.mp hpath
        exact .inr ⟨.adapterDefinition, none, .definition hmethod hdefinition⟩
      | apiVersion | version | health =>
        exact .inl ⟨_, fun _ _ => rfl, Response.proper_json (by decide) _⟩
    · simp only [if_neg hmethod]
      exact .inl ⟨_, fun _ _ => rfl, Response.proper_plain (by decide) _⟩

/-- A request makes the service start one process at most, for an operation that it asks for. -/
theorem once_answer (q : Http.Request) : (answer s inherited patience q).Once Call.Still fun c =>
    ∃ operation request words path, Admits q operation request ∧
      s.commandFor operation.name = .ok words ∧
      c = .spawn (words ++ [path])
        (Environment.build inherited s.supervision.inherited request) := by
  rcases answer_cases s q with ⟨_, hanswer, _⟩ | ⟨operation, request, hadmits⟩
  · rw [hanswer]
    exact .never trivial
  · rw [answer_of_admits s inherited patience hadmits]
    refine ((Supervision.once_run ..).imp fun c hc => ?_).bind_only fun _ => trivial
    obtain ⟨words, path, hwords, rfl⟩ := hc
    rw [List.append_nil]
    exact ⟨operation, request, words, path, hadmits, hwords, rfl⟩

theorem proper_answer {q : Http.Request} {t : List Exchange} {r : Response}
    (h : (answer s inherited patience q).Runs t r) : r.Proper := by
  rcases answer_cases s q with ⟨_, hanswer, hproper⟩ | ⟨operation, request, hadmits⟩
  · rw [hanswer] at h
    obtain ⟨_, rfl⟩ := Dialogue.runs_done.mp h
    exact hproper
  · rw [answer_of_admits s inherited patience hadmits] at h
    obtain ⟨_, outcome, _, _, hrun, hdone⟩ := Dialogue.runs_bind.mp h
    obtain ⟨_, rfl⟩ := Dialogue.runs_done.mp hdone
    cases outcome with
    | error fault => exact proper_relayOf_error operation fault
    | ok delivery =>
      rw [relayOf_ok, Supervision.status_of_runs hrun]
      exact Response.proper_json (phrased_successStatus operation) _

end Service

/-! ## Requests that are refused -/

theorem Request.ofBody_of_blank {body : Octets}
    (hblank : ∀ b ∈ body, b ∈ [0x20, 0x09, 0x0A, 0x0C, 0x0D]) :
    Request.ofBody body = .error (.clientInput "No body in request") := by
  have hall : body.all isAsciiBlank = true := by
    rw [List.all_eq_true]
    intro b hb
    simpa [isAsciiBlank, or_assoc] using hblank b hb
  rw [Request.ofBody, if_pos hall]
  rfl

theorem Request.clientInput_of_ofBody {body : Octets} {fault : Fault}
    (h : Request.ofBody body = .error fault) : ∃ text, fault = .clientInput text := by
  unfold Request.ofBody at h
  split at h
  · cases h
    exact ⟨_, rfl⟩
  · split at h
    · cases h
    · cases h
      exact ⟨_, rfl⟩

namespace Http.Intake

/-- The responses with which an intake is refused. -/
def refusals : List Response :=
  [.plain 400 "Bad Request", .plain 400 "Invalid Content-Length", .plain 413 "Payload Too Large",
   .plain 431 "Request header fields too large"]

/-- An intake that is refused is answered with one of these. -/
def Refusing : Intake → Prop
  | refused r => r ∈ refusals
  | _ => True

theorem refusing_ofBody (request : Http.Request) (length : Nat) (buffer : Octets) :
    (ofBody request length buffer).Refusing := by
  unfold ofBody
  split <;> trivial

theorem refusing_ofHead (maxBody : Nat) (client : Option Net.Endpoint) (head rest : Octets) :
    (ofHead maxBody client head rest).Refusing := by
  unfold ofHead
  split
  · exact (by decide : Response.plain 400 "Bad Request" ∈ refusals)
  · split
    · exact (by decide : Response.plain 400 "Invalid Content-Length" ∈ refusals)
    · exact refusing_ofBody ..
    · split
      · exact (by decide : Response.plain 413 "Payload Too Large" ∈ refusals)
      · exact refusing_ofBody ..

theorem refusing_receive (maxBody : Nat) (client : Option Net.Endpoint) {intake : Intake}
    (h : intake.Refusing) (piece : Octets) : (receive maxBody client intake piece).Refusing := by
  cases intake with
  | head buffer =>
    unfold receive ofBuffer
    dsimp only
    split
    · exact refusing_ofHead ..
    · split
      · exact (by decide : Response.plain 431 "Request header fields too large" ∈ refusals)
      · trivial
  | body request length buffer => exact refusing_ofBody ..
  | complete request => exact h
  | refused response => exact h

theorem refusing_ofPieces (maxBody : Nat) (client : Option Net.Endpoint) (pieces : List Octets) :
    (ofPieces maxBody client pieces).Refusing := by
  suffices h : ∀ intake : Intake, intake.Refusing →
      (pieces.foldl (receive maxBody client) intake).Refusing from h start trivial
  induction pieces with
  | nil => exact fun intake h => h
  | cons piece pieces ih => exact fun intake h => ih _ (refusing_receive maxBody client h piece)

end Http.Intake

theorem Http.mem_refusals_of_refused {maxBody : Nat} {client : Option Net.Endpoint}
    {pieces : List Octets} {r : Response}
    (h : Http.readRequest maxBody client pieces = .ok (.error r)) : r ∈ Intake.refusals := by
  have hrefusing := Intake.refusing_ofPieces maxBody client pieces
  unfold readRequest at h
  cases hintake : Intake.ofPieces maxBody client pieces with
  | refused response =>
    rw [hintake] at h hrefusing
    cases h
    exact hrefusing
  | head | body | complete =>
    rw [hintake] at h
    cases h

theorem Http.proper_of_refused {maxBody : Nat} {client : Option Net.Endpoint} {pieces : List Octets}
    {r : Response} (h : Http.readRequest maxBody client pieces = .ok (.error r)) : r.Proper := by
  have hproper : ∀ r ∈ Intake.refusals, r.Proper := by
    simp only [Intake.refusals, List.forall_mem_cons]
    exact ⟨Response.proper_plain (by decide) _, Response.proper_plain (by decide) _,
      Response.proper_plain (by decide) _, Response.proper_plain (by decide) _,
      fun _ h => nomatch h⟩
  exact hproper r (mem_refusals_of_refused h)

theorem Http.status_of_refused {maxBody : Nat} {client : Option Net.Endpoint} {pieces : List Octets}
    {r : Response} (h : Http.readRequest maxBody client pieces = .ok (.error r)) :
    r.status ∈ [400, 413, 431] := by
  have hstatus : ∀ r ∈ Intake.refusals, r.status ∈ [400, 413, 431] := by decide
  exact hstatus r (mem_refusals_of_refused h)

/-! ## The gate -/

/-- What the service keeps to whatever request it is given. -/
structure Gated (s : Settings) (inherited : Environment.Raw) (patience : Nat) (q : Http.Request) :
    Prop where
  /-- Wherever the answer is followed to, a process was started once at most. -/
  startedOnce : ∀ t, (Service.answer s inherited patience q).Begins t →
    t.countP (·.1.role = .starts) ≤ 1
  /-- It was started for an operation that the request asks for, and in the environment for it. -/
  started : ∀ t arguments environment outcome, (Service.answer s inherited patience q).Begins t →
    ⟨.spawn arguments environment, outcome⟩ ∈ t →
    ∃ operation request, Admits q operation request ∧
      (∃ words path, s.commandFor operation.name = .ok words ∧ arguments = words ++ [path]) ∧
      environment = Environment.build inherited s.supervision.inherited request
  /-- Every such operation is run, and what comes of it is relayed. -/
  admitted : ∀ operation request, Admits q operation request →
    ∃ relay : Except Fault Delivery → Response, Service.answer s inherited patience q = do
      return relay (← Supervision.execute s inherited operation request patience)
  /-- Where an instance is expected, no body and one of blanks are answered alike. -/
  empty : ∀ operation, q.method = "POST" → (q.path, operation) ∈ operationPaths →
    (∀ body, q.body = some body → ∀ b ∈ body, b ∈ [0x20, 0x09, 0x0A, 0x0C, 0x0D]) →
    Service.answer s inherited patience q = .done (.plain 400 "No body in request")
  /-- Every other body that describes no instance is answered with what is wrong with it. -/
  unreadable : ∀ operation body fault, q.method = "POST" → (q.path, operation) ∈ operationPaths →
    q.body = some body → Request.ofBody body = .error fault →
    ∃ text, fault = .clientInput text ∧
      Service.answer s inherited patience q = .done (.plain 400 text)
  otherMethod : ∀ method, (q.path, method) ∈ routes → q.method ≠ method →
    Service.answer s inherited patience q = .done (.plain 405 "Method not allowed")
  unknown : (∀ method, (q.path, method) ∉ routes) →
    Service.answer s inherited patience q = .done (.plain 404 "Unknown route")

/-- What it keeps to over a connection that delivers the pieces and is then closed. -/
structure GatedConnection (s : Settings) (inherited : Environment.Raw) (patience : Nat)
    (client : Option Net.Endpoint) (pieces : List Octets) : Prop where
  /-- A connection that is closed too early is not answered. -/
  closed : ∀ e, Http.readRequest s.server.maxBodySize.toNat client pieces = .error e →
    Service.converse s inherited patience client pieces = .done none
  /-- What cannot be read as a request is refused without being handled. -/
  refused : ∀ r, Http.readRequest s.server.maxBodySize.toNat client pieces = .ok (.error r) →
    r.status ∈ [400, 413, 431] ∧
      Service.converse s inherited patience client pieces = .done (some r.render)
  /-- Whatever is asked of the system is asked for a request that was read to its end. -/
  handled : ∀ t, (Service.converse s inherited patience client pieces).Begins t → t ≠ [] →
    ∃ q, Http.readRequest s.server.maxBodySize.toNat client pieces = .ok (.ok q) ∧
      (Service.answer s inherited patience q).Begins t
  /-- What goes back is a response with a status that has a phrase. -/
  phrased : ∀ t octets, (Service.converse s inherited patience client pieces).Runs t (some octets) →
    ∃ r : Response, octets = r.render ∧ Phrased r.status

theorem gated_answer (s : Settings) (inherited : Environment.Raw) (patience : Nat)
    (q : Http.Request) : Gated s inherited patience q := by
  have honce := Service.once_answer s inherited patience q
  refine {
    startedOnce := fun t hbegins => countP_starts_le_of_once honce hbegins
    started := fun t arguments environment outcome hbegins hmem => ?_
    admitted := fun operation request hadmits => ?_
    empty := fun operation hmethod hpath hblank => ?_
    unreadable := fun operation body fault hmethod hpath hbody hfault => ?_
    otherMethod := fun method hpath hmethod => ?_
    unknown := fun hpath => ?_ }
  · obtain ⟨operation, request, words, path, hadmits, hwords, hspawn⟩ :=
      of_mem_of_once honce hbegins hmem rfl
    cases hspawn
    exact ⟨operation, request, hadmits, ⟨words, path, hwords, rfl⟩, rfl⟩
  · exact ⟨_, Service.answer_of_admits s inherited patience hadmits⟩
  · rw [Service.answer_of_posted s inherited patience hmethod hpath]
    unfold Service.operate
    cases hbody : q.body with
    | none => rfl
    | some body =>
      dsimp only
      rw [Request.ofBody_of_blank (hblank body hbody)]
      rfl
  · obtain ⟨text, rfl⟩ := Request.clientInput_of_ofBody hfault
    refine ⟨text, rfl, ?_⟩
    rw [Service.answer_of_posted s inherited patience hmethod hpath]
    unfold Service.operate
    rw [hbody]
    dsimp only
    rw [hfault]
    rfl
  · obtain ⟨resource, hresource, rfl⟩ := mem_routes_iff.mp hpath
    unfold Service.answer
    rw [hresource]
    dsimp only
    rw [if_neg hmethod]
    rfl
  · have hnone : Resource.ofPath? q.path = none := by
      rw [Option.eq_none_iff_forall_ne_some]
      exact fun resource hresource => hpath _ (mem_routes_iff.mpr ⟨resource, hresource, rfl⟩)
    unfold Service.answer
    rw [hnone]
    rfl

namespace Service

variable {s : Settings} {inherited : Environment.Raw} {patience : Nat}
  {client : Option Net.Endpoint} {pieces : List Octets}

theorem converse_of_error {e : IoError}
    (h : Http.readRequest s.server.maxBodySize.toNat client pieces = .error e) :
    converse s inherited patience client pieces = .done none := by
  rw [converse, h]
  rfl

theorem converse_of_refused {r : Response}
    (h : Http.readRequest s.server.maxBodySize.toNat client pieces = .ok (.error r)) :
    converse s inherited patience client pieces = .done (some r.render) := by
  rw [converse, h]
  rfl

theorem converse_of_request {q : Http.Request}
    (h : Http.readRequest s.server.maxBodySize.toNat client pieces = .ok (.ok q)) :
    converse s inherited patience client pieces = do
      return some (← answer s inherited patience q).render := by
  rw [converse, h]

theorem proper_converse {t : List Exchange} {octets : Octets}
    (h : (converse s inherited patience client pieces).Runs t (some octets)) :
    ∃ r : Response, r.Proper ∧ octets = r.render := by
  match hread : Http.readRequest s.server.maxBodySize.toNat client pieces with
  | .error e =>
    rw [converse_of_error hread] at h
    cases (Dialogue.runs_done.mp h).2
  | .ok (.error r) =>
    rw [converse_of_refused hread] at h
    obtain ⟨_, heq⟩ := Dialogue.runs_done.mp h
    exact ⟨r, Http.proper_of_refused hread, Option.some.inj heq⟩
  | .ok (.ok q) =>
    rw [converse_of_request hread] at h
    obtain ⟨_, r, _, _, hanswer, hdone⟩ := Dialogue.runs_bind.mp h
    obtain ⟨_, heq⟩ := Dialogue.runs_done.mp hdone
    exact ⟨r, proper_answer s inherited patience hanswer, Option.some.inj heq⟩

end Service

theorem gated_converse (s : Settings) (inherited : Environment.Raw) (patience : Nat)
    (client : Option Net.Endpoint) (pieces : List Octets) :
    GatedConnection s inherited patience client pieces := by
  refine {
    closed := fun e hread => Service.converse_of_error hread
    refused := fun r hread => ⟨Http.status_of_refused hread, Service.converse_of_refused hread⟩
    handled := fun t hbegins hne => ?_
    phrased := fun t octets hruns => ?_ }
  · match hread : Http.readRequest s.server.maxBodySize.toNat client pieces with
    | .error e =>
      rw [Service.converse_of_error hread] at hbegins
      exact absurd (Dialogue.eq_nil_of_begins_done hbegins) hne
    | .ok (.error r) =>
      rw [Service.converse_of_refused hread] at hbegins
      exact absurd (Dialogue.eq_nil_of_begins_done hbegins) hne
    | .ok (.ok q) =>
      rw [Service.converse_of_request hread] at hbegins
      exact ⟨q, rfl, Dialogue.begins_of_bind_done hbegins⟩
  · obtain ⟨r, hproper, rfl⟩ := Service.proper_converse hruns
    exact ⟨r, rfl, hproper.phrased⟩

/-- **Only a valid request starts an adapter.**  This is so for every request, whatever the settings
    and whatever the system answers, and for everything that arrives over a connection. -/
theorem gated (s : Settings) (inherited : Environment.Raw) (patience : Nat) :
    (∀ q, Gated s inherited patience q) ∧
      ∀ client pieces, GatedConnection s inherited patience client pieces :=
  ⟨gated_answer s inherited patience, gated_converse s inherited patience⟩

end AdapterGateway
