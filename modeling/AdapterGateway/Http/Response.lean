import AdapterGateway.Fault
/-!
# HTTP responses

What the service answers, and the octets that go over the connection: a status line, the header
fields and the body, whose length in octets is always given.
-/
namespace AdapterGateway.Http
open Text Json

/-- A response. -/
structure Response where
  status : Nat
  contentType : String
  body : String
deriving DecidableEq, Repr

namespace Response

def json (status : Nat) (document : Value) : Response := ⟨status, "application/json", document.text⟩

def plain (status : Nat) (message : String) : Response :=
  ⟨status, "text/plain; charset=utf-8", message⟩

/-- Answers with what may be told of a fault. -/
def ofFault (f : Fault) : Response := plain f.statusCode f.publicText

/-- The name of the header field for the type of the body. -/
def contentTypeName : String := "content-type"

def headers (r : Response) : List (String × String) := [(contentTypeName, r.contentType)]

def phrase : Nat → String
  | 200 => "OK"
  | 202 => "Accepted"
  | 204 => "No Content"
  | 400 => "Bad Request"
  | 404 => "Not Found"
  | 405 => "Method Not Allowed"
  | 413 => "Payload Too Large"
  | 431 => "Request Header Fields Too Large"
  | 500 => "Internal Server Error"
  | _ => "Unknown"

/-- Whether a response with this status has no body, whatever it was made with. -/
def isBodiless (status : Nat) : Bool := status = 204 || status = 304

def payload (r : Response) : Octets := if isBodiless r.status then [] else encode r.body

/-- The lines of the head. The type is told only of a body that is not empty. -/
def headLines (r : Response) : List String :=
  let length := r.payload.length
  ["HTTP/1.1 " ++ toString r.status ++ " " ++ phrase r.status] ++
    (if length = 0 then [] else r.headers.map fun (name, value) => name ++ ": " ++ value) ++
    ["Content-Length: " ++ toString length, "Connection: close"]

def render (r : Response) : Octets :=
  encode (String.join (r.headLines.map (· ++ "\r\n")) ++ "\r\n") ++ r.payload

end Response
end AdapterGateway.Http
