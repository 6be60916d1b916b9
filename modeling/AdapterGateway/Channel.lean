import AdapterGateway.Fault
/-!
# Result channels

A named pipe and the reader that takes everything out of it. To open the pipe for reading waits
until somebody opens it for writing; a read comes to the end of the file once the pipe is empty and
nobody has it open for writing.
-/
namespace AdapterGateway
open Text

/-- How far the reader of a pipe has come. -/
inductive PipeReader where
  /-- It has not yet tried to open the pipe. -/
  | starting
  /-- It waits for a writer. -/
  | waiting
  /-- It has the pipe open and got these octets. -/
  | reading (got : Octets)
  | finished (outcome : Except IoError Octets)
  /-- It came to its end and its outcome was taken. -/
  | collected

/-- A named pipe with its reader. -/
structure Channel where
  /-- Whether the path still leads to the pipe. -/
  linked : Bool := true
  /-- How many have the pipe open for writing. -/
  writers : Nat := 0
  /-- What was written and not yet read. -/
  buffer : Octets := []
  /-- Nothing before a reader is started. -/
  reader : Option PipeReader := none

namespace Channel

/-- The name of the pipe in its directory. -/
def pipeName : String := "output_pipe"

def pathIn (directory : String) : String := directory ++ "/" ++ pipeName

/-- What the name of the directory begins with. -/
def directoryStart : String := "adapter-"

/-- Starts the reader. -/
def start (c : Channel) : Channel := { c with reader := some .starting }

/-- Whether somebody opens or has opened the pipe for reading. -/
def hasReader (c : Channel) : Bool :=
  match c.reader with
  | some .waiting | some (.reading _) => true
  | _ => false

/-- One move of the reader, which takes one more octet than `more` at most. -/
def listen (more : Nat) (c : Channel) : Channel :=
  match c.reader with
  | some .starting =>
    if !c.linked then { c with reader := some (.finished (.error .notFound)) }
    else if c.writers = 0 then { c with reader := some .waiting }
    else { c with reader := some (.reading []) }
  | some (.reading got) =>
    match c.buffer with
    | [] => if c.writers = 0 then { c with reader := some (.finished (.ok got)) } else c
    | buffer =>
      { c with
        buffer := buffer.drop (more + 1)
        reader := some (.reading (got ++ buffer.take (more + 1))) }
  | _ => c

/-- Opens the pipe for writing, which goes only while it is open for reading. A reader that waits
for a writer waits no longer. -/
def openWriter? (c : Channel) : Option Channel :=
  if c.linked && c.hasReader then
    let reader := match c.reader with
      | some .waiting => some (.reading [])
      | reader => reader
    some { c with writers := c.writers + 1, reader }
  else none

/-- Writes, which goes only while somebody reads. -/
def write? (octets : Octets) (c : Channel) : Option Channel :=
  if c.hasReader then some { c with buffer := c.buffer ++ octets } else none

def closeWriter (c : Channel) : Channel := { c with writers := c.writers - 1 }

/-- Removes the pipe from its directory; those who have it open keep it. -/
def unlink (c : Channel) : Channel := { c with linked := false }

/-- The failure of a reader that is asked for its outcome a second time. -/
def outcomeTaken : IoError := ⟨.brokenPipe, "pipe reader exited without a result"⟩

/-- Takes the outcome of the reader, if it has come to its end. -/
def poll (c : Channel) : Option (Except IoError Octets) × Channel :=
  match c.reader with
  | some (.finished outcome) => (some outcome, { c with reader := some .collected })
  | some .collected => (some (.error outcomeTaken), c)
  | _ => (none, c)

end Channel
end AdapterGateway
