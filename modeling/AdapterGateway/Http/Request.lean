import AdapterGateway.Dictionary
import AdapterGateway.Net.Address
import AdapterGateway.Text.Blank
import AdapterGateway.Text.Case
import AdapterGateway.Text.Utf8
/-!
# HTTP requests

A request as the service sees it, and how the head of one is read. Names of header fields are kept
in lower case; of several fields with one name the last counts.
-/
namespace AdapterGateway.Http
open Text

/-- A request. -/
structure Request where
  method : String
  /-- The target up to its first question mark. -/
  path : String
  /-- The header fields by their names. -/
  headers : Dictionary String String := ∅
  body : Option Octets := none
  /-- Who asks, if that is known. -/
  client : Option Net.Endpoint := none

namespace Request

/-- A request without header fields and body. -/
def ofTarget (method path : String) : Request := { method := upper method, path }

def peer (r : Request) : String := (r.client.map Net.Endpoint.text).getD "-"

/-- A header field. The case of `name` does not matter. -/
def header? (r : Request) (name : String) : Option String := r.headers.get? (lower name)

/-- The name and the value in a header line; nothing for a line without a colon. -/
def headerOf? (line : String) : Option (String × String) :=
  (splitFirst ':' line).map fun (name, value) => (lower (trim name), trim value)

def pathOf (target : String) : String :=
  match splitFirst '?' target with
  | some (path, _) => path
  | none => target

/-- The request that a head describes: a line with at least a method and a target, and header lines
up to an empty one. -/
def ofHead? (head : String) (client : Option Net.Endpoint) : Option Request :=
  match lines head with
  | [] => none
  | first :: fields => match words first with
    | method :: target :: _ => some {
        method := upper method
        path := pathOf target
        headers := Dictionary.ofList ((fields.takeWhile (!·.isEmpty)).filterMap headerOf?)
        client }
    | _ => none

end Request
end AdapterGateway.Http
