import AdapterGateway.Fault
/-!
# Output pipes

The adapter's end of the result channel. The path of the pipe is the last argument of the adapter;
one document goes into it, and a second is refused whether or not the first arrived.
-/
namespace AdapterGateway
open Json Text

/-- What a path leads to. -/
inductive Place where
  /-- Nothing yet, in a directory that exists. -/
  | vacant
  | file (content : Octets)
  | directory
  /-- Nothing, in a directory that does not exist. -/
  | nowhere
deriving DecidableEq, Repr

namespace Place

/-- Replaces the content of a file, which is created if need be. -/
def write (octets : Octets) : Place → Except IoError Place
  | .vacant | .file _ => .ok (.file octets)
  | .directory => .error .isADirectory
  | .nowhere => .error .notFound

def read : Place → Except IoError Octets
  | .file octets => .ok octets
  | .directory => .error .isADirectory
  | .vacant | .nowhere => .error .notFound

def readDocument (p : Place) : Except Fault Value :=
  match p.read with
  | .error e => .error (.io e)
  | .ok octets => match parse octets with
    | .ok v => .ok v
    | .error e => .error (.json e)

end Place

/-- The output pipe of an adapter. -/
structure OutputPipe where
  path : String
  sent : Bool := false
deriving DecidableEq, Repr

namespace OutputPipe

def ofArguments (arguments : List String) : Except Fault OutputPipe :=
  match arguments.getLast? with
  | some path => .ok ⟨path, false⟩
  | none => .error (.clientInput "missing result pipe argument")

/-- Writes a document, unless one was sent before. Comes back with the pipe, what its path leads to
now, and how it went. -/
def send (p : OutputPipe) (place : Place) (document : Value) :
    OutputPipe × Place × Except Fault Unit :=
  if p.sent then (p, place, .error .alreadySent)
  else match place.write (encode document.text) with
    | .ok place => ({ p with sent := true }, place, .ok ())
    | .error e => ({ p with sent := true }, place, .error (.io e))

end OutputPipe
end AdapterGateway
