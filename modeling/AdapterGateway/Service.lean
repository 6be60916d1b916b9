import AdapterGateway.Http.Intake
import AdapterGateway.Supervision
/-!
# The service

What each request is answered. Four resources run an operation, three tell about the gateway itself,
and everything else is refused without starting an adapter. A document is relayed as it is; a fault
is answered with its public text.
-/
namespace AdapterGateway
open Json Text

/-- What can be asked for. -/
inductive Resource where
  /-- Runs an operation for the instance that the body describes. -/
  | instance (operation : Operation)
  /-- Runs the operation that no instance is needed for. -/
  | definition
  | apiVersion
  | version
  | health
deriving DecidableEq, Repr

namespace Resource

def table : List (String × Resource) :=
  [("/collect", .instance .collect), ("/test", .instance .test),
   ("/endpointURLs", .instance .endpointUrls), ("/definition", .definition),
   ("/apiVersion", .apiVersion), ("/version", .version), ("/health", .health)]

def ofPath? (path : String) : Option Resource := table.lookup path

def method : Resource → String
  | .instance _ => "POST"
  | _ => "GET"

end Resource

namespace Service
open Http (Response)

/-- The version of the conversation between the platform and the gateway. -/
def apiVersion : Value :=
  .object [("major", .integer 1), ("minor", .integer 0), ("maintenance", .integer 0)]

/-- What a gateway that answers at all tells about its health. -/
def health : Value := .object [("status", .string "healthy")]

/-- Relays a document, or tells what may be told of a fault. -/
def relay : Except Fault Delivery → Response
  | .ok delivery => .json delivery.status delivery.document
  | .error fault => .ofFault fault

/-- Relays a definition. An adapter may have none. -/
def relayDefinition : Except Fault Delivery → Response
  | .ok delivery => .json delivery.status delivery.document
  | .error fault => if fault.isNoResult then .json 204 (.object []) else .ofFault fault

/-- Runs an operation for the instance that a body describes. -/
def operate (s : Settings) (inherited : Environment.Raw) (patience : Nat) (operation : Operation)
    (body : Option Octets) : Program Response :=
  match body with
  | none => return .plain 400 Request.noBodyText
  | some body => match Request.ofBody body with
    | .error fault => return .ofFault fault
    | .ok request => do
      return relay (← Supervision.execute s inherited operation (some request) patience)

/-- The answer of a resource that is asked for with its method. -/
def serve (s : Settings) (inherited : Environment.Raw) (patience : Nat) (body : Option Octets) :
    Resource → Program Response
  | .instance operation => operate s inherited patience operation body
  | .definition => do
    return relayDefinition (← Supervision.execute s inherited .adapterDefinition none patience)
  | .apiVersion => return .json 200 apiVersion
  | .version => return .json 200 (.string s.version.text)
  | .health => return .json 200 health

/-- The answer to a request. `inherited` is the gateway's own environment; a wait for an adapter is
followed for so many rounds as `patience` says. -/
def answer (s : Settings) (inherited : Environment.Raw) (patience : Nat) (q : Http.Request) :
    Program Response :=
  match Resource.ofPath? q.path with
  | none => return .plain 404 "Unknown route"
  | some resource =>
    if q.method = resource.method then serve s inherited patience q.body resource
    else return .plain 405 "Method not allowed"

def logLine (q : Http.Request) (status : Nat) (duration : String) : String :=
  q.peer ++ " " ++ q.method ++ " " ++ q.path ++ " " ++ toString status ++ " " ++ duration

/-- The octets that go back over a connection which delivers the given pieces and is then closed by
the other side. Nothing goes back if the request is not complete by then. -/
def converse (s : Settings) (inherited : Environment.Raw) (patience : Nat)
    (client : Option Net.Endpoint) (pieces : List Octets) : Program (Option Octets) :=
  match Http.readRequest s.server.maxBodySize.toNat client pieces with
  | .error _ => return none
  | .ok (.error response) => return some response.render
  | .ok (.ok q) => do return some (← answer s inherited patience q).render

end Service
end AdapterGateway
