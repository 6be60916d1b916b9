import AdapterGateway.Channel
import AdapterGateway.Child
import AdapterGateway.Settings
/-!
# Supervision

One operation from its command line to its document. A channel is made and read, the adapter is
started with the path of the pipe as its last argument, and what arrives on the pipe is the result.
Whatever happens, the channel is removed and the adapter reaped.
-/
namespace AdapterGateway
open Text Json

/-- What an operation delivers. -/
structure Delivery where
  document : Value
  /-- The status of the answer that relays it. -/
  status : Nat

namespace Supervision

/-- How often a reader that is stuck gets an end of file. -/
def releaseAttempts : Nat := 200

def readerStuck : IoError := ⟨.timedOut, "result pipe reader did not finish"⟩

def readerFault (e : IoError) : Fault := .transport ("cannot start pipe reader: " ++ e.text)

/-- Makes a directory with a pipe in it and tells the path of the pipe. A directory that gets no pipe
is removed. -/
def openChannel (parent : Option String) : Program (Except Fault String) := do
  match ← call (.makeDirectory parent) with
  | .error e => return .error (ChannelError.directory e).fault
  | .ok directory =>
    let path := Channel.pathIn directory
    match ← call (.makePipe path) with
    | .error reason =>
      call .removeDirectory
      return .error (ChannelError.pipe path reason).fault
    | .ok _ => return .ok path

/-- Lets a reader that waits for the pipe to be opened come to its end: the pipe is opened for
writing and closed again. Comes back with what the reader got. -/
def releaseReader : Nat → Program (Except IoError Octets)
  | 0 => return .error readerStuck
  | attempts + 1 => do
    if ← call .openPipe then call .closePipe
    match ← call .poll with
    | some octets => return octets
    | none => releaseReader attempts

/-- How the wait for a result ends. -/
inductive Arrival where
  /-- The reader came to its end; the adapter may still be running. -/
  | delivered (octets : Except IoError Octets)
  /-- The adapter ended first; what the reader got by then. -/
  | ended (status : ExitStatus) (octets : Except IoError Octets)

/-- Waits for a result, at most so many seconds. -/
def await (limit : Option Nat) (c : Child) : Nat → Program (Except Fault Arrival × Child)
  | 0 => .suspended
  | patience + 1 => do
    match ← call .poll with
    | some octets => return (.ok (.delivered octets), c)
    | none =>
      let (status, c) ← c.tryWait
      match status with
      | .error e => return (.error (.io e), c)
      | .ok (some status) => return (.ok (.ended status (← releaseReader releaseAttempts)), c)
      | .ok none =>
        match limit with
        | none => await limit c patience
        | some seconds =>
          if ← call (.isOver (seconds * 1000)) then return (.error (.timeout seconds), c)
          else await limit c patience

/-- The fault of an adapter that ended and wrote nothing but blanks. -/
def nothingWritten (status : ExitStatus) : Fault :=
  .noResult ("adapter exited (" ++ status.text ++ ") without writing a result")

def document : Except IoError Octets → Except Fault Value
  | .error e => .error (.subprocess ("error reading results: " ++ e.text))
  | .ok octets => match parse octets with
    | .ok v => .ok v
    | .error e => .error (.subprocess ("adapter wrote invalid JSON: " ++ e.message))

/-- What an arrival is worth. Blanks are no result only when the adapter was seen to end first. -/
def judge : Arrival → Except Fault Value
  | .delivered octets => document octets
  | .ended status (.ok octets) =>
    if octets.all isAsciiBlank then .error (nothingWritten status) else document (.ok octets)
  | .ended _ (.error e) => document (.error e)

/-- Waits for the document of a started adapter and for the end of the adapter. One that fails to
deliver is killed at once, and one that delivered once its grace is over. -/
def collect (s : SupervisionSettings) (status patience : Nat) (c : Child) :
    Program (Except Fault Delivery × Child) := do
  let (arrival, c) ← await s.readTimeout? c patience
  match arrival with
  | .error fault =>
    let (_, c) ← c.terminate
    let _ ← releaseReader releaseAttempts
    return (.error fault, c)
  | .ok arrival =>
    match judge arrival with
    | .error fault =>
      let (_, c) ← c.terminate
      return (.error fault, c)
    | .ok document =>
      let (ending, c) ← c.waitFor s.exitGraceMillis.toNat patience
      match ending with
      | .error e => return (.error (.io e), c)
      | .ok (some _) => return (.ok ⟨document, status⟩, c)
      | .ok none =>
        let (_, c) ← c.terminate
        return (.ok ⟨document, status⟩, c)

/-- Runs an operation: its command line, then the further arguments, then the path of the pipe.
`inherited` is the gateway's own environment. A wait is followed for so many rounds as `patience`
says. -/
def run (s : Settings) (inherited : Environment.Raw) (operation : String) (further : List String)
    (request : Option Request) (status patience : Nat) : Program (Except Fault Delivery) :=
  match s.commandFor operation with
  | .error fault => return .error fault
  | .ok words => do
    match ← openChannel s.supervision.channelParent with
    | .error fault => return .error fault
    | .ok path =>
      match ← call .startReader with
      | .error e =>
        call .removeDirectory
        return .error (readerFault e)
      | .ok _ =>
        let environment := Environment.build inherited s.supervision.inherited request
        match ← call (.spawn (words ++ further ++ [path]) environment) with
        | .error fault =>
          let _ ← releaseReader releaseAttempts
          call .removeDirectory
          return .error fault
        | .ok _ =>
          let (result, c) ← collect s.supervision status patience {}
          let (_, c) ← c.finish
          call .removeDirectory
          let _ ← c.release
          return result

/-- Runs one of the operations that requests can ask for. -/
def execute (s : Settings) (inherited : Environment.Raw) (operation : Operation)
    (request : Option Request) (patience : Nat) : Program (Except Fault Delivery) :=
  run s inherited operation.name [] request operation.successStatus patience

end Supervision
end AdapterGateway
