import AdapterGateway.Http.Request
import AdapterGateway.Http.Response
import AdapterGateway.Text.Digits
/-!
# Reading requests

A connection delivers octets in pieces of any size. They are gathered until the blank line that ends
the head, and then until the body is as long as the head says. A request that is too large or not in
order is answered at once.
-/
namespace AdapterGateway.Http
open Text

/-- The most octets that are gathered in search of the end of a head, short of one piece. -/
def maxHeadSize : Nat := 16384

def headEnd : Octets := [0x0D, 0x0A, 0x0D, 0x0A]

def findHeadEnd : Octets → Option Nat
  | [] => none
  | b :: rest =>
    if headEnd.isPrefixOf (b :: rest) then some 0 else (findHeadEnd rest).map (· + 1)

/-- A length: decimal digits, perhaps behind a plus sign, of a number of 64 bits. -/
def length? (s : String) : Option Nat :=
  let number := match s.toList with
    | '+' :: cs => natural? cs
    | cs => natural? cs
  number.filter (· < UInt64.size)

/-- How far a request has been read. -/
inductive Intake where
  /-- The head is not complete. -/
  | head (buffer : Octets)
  /-- The head is read, and the body is not complete. -/
  | body (request : Request) (length : Nat) (buffer : Octets)
  | complete (request : Request)
  /-- The request is answered without being handled. -/
  | refused (response : Response)

namespace Intake

/-- With enough of the body the request is complete. What follows the body is left alone. -/
def ofBody (request : Request) (length : Nat) (buffer : Octets) : Intake :=
  if length ≤ buffer.length then
    complete { request with body := if length = 0 then none else some (buffer.take length) }
  else body request length buffer

/-- What a head and the octets behind it amount to. -/
def ofHead (maxBody : Nat) (client : Option Net.Endpoint) (head rest : Octets) : Intake :=
  match Request.ofHead? (lossy head) client with
  | none => refused (.plain 400 "Bad Request")
  | some request =>
    match (request.header? "content-length").map length? with
    | some none => refused (.plain 400 "Invalid Content-Length")
    | none => ofBody request 0 rest
    | some (some length) =>
      if length > maxBody then refused (.plain 413 "Payload Too Large")
      else ofBody request length rest

/-- What the octets gathered from the start amount to. -/
def ofBuffer (maxBody : Nat) (client : Option Net.Endpoint) (buffer : Octets) : Intake :=
  match findHeadEnd buffer with
  | some n => ofHead maxBody client (buffer.take n) (buffer.drop (n + headEnd.length))
  | none =>
    if buffer.length > maxHeadSize then refused (.plain 431 "Request header fields too large")
    else head buffer

/-- Takes in one piece. Nothing more is read once the request is complete or refused. -/
def receive (maxBody : Nat) (client : Option Net.Endpoint) : Intake → Octets → Intake
  | head buffer, piece => ofBuffer maxBody client (buffer ++ piece)
  | body request length buffer, piece => ofBody request length (buffer ++ piece)
  | intake, _ => intake

/-- Before anything is read. -/
def start : Intake := head []

def ofPieces (maxBody : Nat) (client : Option Net.Endpoint) (pieces : List Octets) : Intake :=
  pieces.foldl (receive maxBody client) start

/-- The failure of a connection that is closed within a head. -/
def closedInHead : IoError := ⟨.unexpectedEnd, "connection closed before end of headers"⟩

/-- The failure of a connection that is closed within a body. -/
def closedInBody : IoError := ⟨.unexpectedEnd, "connection closed before end of body"⟩

/-- What comes of a connection that the other side has closed: a request or its refusal, unless the
connection was closed too early. -/
def close : Intake → Except IoError (Except Response Request)
  | head _ => .error closedInHead
  | body _ _ _ => .error closedInBody
  | complete request => .ok (.ok request)
  | refused response => .ok (.error response)

end Intake

/-- The most octets that one read delivers. -/
def maxPiece : Nat := 4096

/-- Reads a request from a connection that delivers the given pieces and is then closed. -/
def readRequest (maxBody : Nat) (client : Option Net.Endpoint) (pieces : List Octets) :
    Except IoError (Except Response Request) :=
  (Intake.ofPieces maxBody client pieces).close

end AdapterGateway.Http
