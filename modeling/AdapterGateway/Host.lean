import AdapterGateway.Call
import AdapterGateway.Channel
/-!
# Hosts

A host on which the gateway runs: directories, one result channel and one adapter, which does what
its script says. The adapter and the reader of the channel take turns, and the gateway is answered
when neither can go on, so that every answer is settled.
-/
namespace AdapterGateway
open Text

/-- What an adapter does with the pipe. -/
inductive Deed where
  | openPipe
  | write (octets : Octets)
  | closePipe
deriving DecidableEq, Repr

/-- What a program does once it is started. -/
structure Script where
  deeds : List Deed := []
  /-- How it ends by itself; nothing for one that goes on until it is killed. -/
  ending : Option ExitStatus := some (.exited 0)
  streams : Streams := {}
deriving DecidableEq, Repr

def Script.delivering (octets : Octets) : Script :=
  { deeds := [.openPipe, .write octets, .closePipe] }

/-- A process in the middle of its script. -/
structure Running where
  script : Script
  /-- Whether it has the pipe open. -/
  holding : Bool := false
  ended : Option ExitStatus := none
deriving DecidableEq, Repr

namespace Running

/-- Ends a process, which closes what it has open. -/
def stop (status : ExitStatus) (r : Running) (c : Channel) : Running × Channel :=
  ({ r with holding := false, ended := some status }, if r.holding then c.closeWriter else c)

/-- One move of a process. It stays where it is while the pipe cannot be opened. -/
def advance (r : Running) (c : Channel) : Running × Channel :=
  match r.ended with
  | some _ => (r, c)
  | none =>
    match r.script.deeds with
    | [] => match r.script.ending with
      | some status => r.stop status c
      | none => (r, c)
    | deed :: rest =>
      let next := { r with script := { r.script with deeds := rest } }
      match deed with
      | .openPipe => match c.openWriter? with
        | some c => ({ next with holding := true }, c)
        | none => (r, c)
      | .write octets =>
        if r.holding then (next, (c.write? octets).getD c) else (next, c)
      | .closePipe =>
        if r.holding then ({ next with holding := false }, c.closeWriter) else (next, c)

def kill (r : Running) (c : Channel) : Running × Channel :=
  match r.ended with
  | some _ => (r, c)
  | none => r.stop .killed c

end Running

/-- A host in the middle of an operation. -/
structure Host where
  /-- Makes a directory under the given one and tells its path. -/
  makeDirectory : Option String → Except IoError String
  /-- What the programs of the host do. -/
  programs : Launch → Except IoError Script
  /-- The channel whose directory is there. -/
  channel : Option Channel := none
  adapter : Option Running := none
  /-- How often a process was to be started. -/
  spawned : Nat := 0

namespace Host

/-- Who moves. -/
inductive Turn where
  | reader (more : Nat)
  | adapter
deriving DecidableEq, Repr

/-- The pipe as the adapter finds it: one that is not there has no reader. -/
def pipe (h : Host) : Channel := h.channel.getD { linked := false }

/-- Lets the reader or the adapter make one move. -/
def move (turn : Turn) (h : Host) : Host :=
  match turn with
  | .reader more => { h with channel := h.channel.map (·.listen more) }
  | .adapter => match h.adapter with
    | some r =>
      let (r, c) := r.advance h.pipe
      { h with adapter := some r, channel := h.channel.map fun _ => c }
    | none => h

/-- One turn of the reader and one of the adapter. -/
def round (h : Host) : Host :=
  let waiting := (h.channel.map (·.buffer.length)).getD 0
  (h.move (.reader waiting)).move .adapter

/-- So many rounds that neither the reader nor the adapter can go on: the adapter needs one for each
deed and one to end, the reader one to open the pipe, one to read and one to meet the end. -/
def rounds (h : Host) : Nat := ((h.adapter.map (·.script.deeds.length)).getD 0) + 5

/-- Lets the reader and the adapter go on as far as they can. -/
def settle (h : Host) : Host := Nat.repeat round h.rounds h

/-- How many directories of channels there are. -/
def channels (h : Host) : Nat := if h.channel.isSome then 1 else 0

/-- What the program does that a command line and an environment start. -/
def find (words : List String) (environment : Environment) (h : Host) : Except Fault Script :=
  match Launch.prepare words environment with
  | .error fault => .error fault
  | .ok launch =>
    if !launch.fits then .error (Launch.refused launch.program .argumentListTooLong)
    else match h.programs launch with
      | .error e => .error (Launch.refused launch.program e)
      | .ok script => .ok script

/-- Starts a process. -/
def start (words : List String) (environment : Environment) (h : Host) :
    Except Fault Unit × Host :=
  let h := { h with spawned := h.spawned + 1 }
  match h.find words environment with
  | .error fault => (.error fault, h)
  | .ok script => (.ok (), { h with adapter := some { script } })

/-- Takes the outcome of the reader. -/
def poll (h : Host) : Option (Except IoError Octets) × Host :=
  match h.channel with
  | none => (none, h)
  | some c =>
    let (outcome, c) := c.poll
    (outcome, { h with channel := some c })

/-- Opens the pipe of the channel for writing, if that goes. -/
def openPipe (h : Host) : Bool × Host :=
  match h.channel.bind (·.openWriter?) with
  | some c => (true, { h with channel := some c })
  | none => (false, h)

def kill (h : Host) : SignalAnswer × Host :=
  match h.adapter with
  | none => (.gone, h)
  | some r =>
    let (r, c) := r.kill h.pipe
    (.sent, { h with adapter := some r, channel := h.channel.map fun _ => c })

def noChild : IoError := ⟨.other, "No child processes (os error 10)"⟩

def ended (h : Host) : Option ExitStatus := h.adapter.bind (·.ended)

/-- What is in the streams of the adapter. One that still runs holds them open. -/
def streams (h : Host) : Streams :=
  match h.adapter with
  | some { ended := some _, script, .. } => script.streams
  | _ => ⟨none, none⟩

/-- The answers of a host as it stands. -/
def reply : Dialogue.Responder Call Call.Answer Host
  | .makeDirectory parent, h => match h.makeDirectory parent with
    | .error e => (.error e, h)
    | .ok path => (.ok path, { h with channel := some { linked := false } })
  | .makePipe _, h =>
    (.ok (), { h with channel := h.channel.map fun c => { c with linked := true } })
  | .startReader, h => (.ok (), { h with channel := h.channel.map Channel.start })
  | .spawn words environment, h => h.start words environment
  | .poll, h => h.poll
  | .tryWait, h => (.ok h.ended, h)
  | .isOver _, h => (true, h)
  | .openPipe, h => h.openPipe
  | .closePipe, h => ((), { h with channel := h.channel.map Channel.closeWriter })
  | .kill, h => h.kill
  | .wait, h => (match h.ended with
    | some status => .ok status
    | none => .error noChild, h)
  | .capture, h => (h.streams, h)
  | .removeDirectory, h => ((), { h with channel := none })

/-- What happens on a host before it answers: where a question gives them time, the adapter and the
reader go on as far as they can. -/
def before : Call → Host → Host
  | .poll, h | .tryWait, h | .openPipe, h | .wait, h | .capture, h => h.settle
  | _, h => h

/-- The answers of a settled host, on which every wait is over. -/
def respond : Dialogue.Responder Call Call.Answer Host := fun question h =>
  reply question (before question h)

/-- Follows a program on a host. -/
def follow {α : Type} (h : Host) (program : Program α) : Option α × Host :=
  Dialogue.follow respond program h

end Host
end AdapterGateway
