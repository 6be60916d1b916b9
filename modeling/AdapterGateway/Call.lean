import AdapterGateway.Dialogue
import AdapterGateway.Environment
/-!
# Calls

What the gateway asks of the operating system while it supervises an adapter. Nothing is known about
the answers, so what is stated of a program of calls holds whatever the system does.
-/
namespace AdapterGateway
open Text

/-- How a process ended. -/
inductive ExitStatus where
  | exited (code : Nat)
  | signalled (number : Nat)
deriving DecidableEq, Repr

namespace ExitStatus

def signalNames : List String :=
  ["SIGHUP", "SIGINT", "SIGQUIT", "SIGILL", "SIGTRAP", "SIGABRT", "SIGBUS", "SIGFPE", "SIGKILL",
   "SIGUSR1", "SIGSEGV", "SIGUSR2", "SIGPIPE", "SIGALRM", "SIGTERM", "SIGSTKFLT", "SIGCHLD",
   "SIGCONT", "SIGSTOP", "SIGTSTP", "SIGTTIN", "SIGTTOU", "SIGURG", "SIGXCPU", "SIGXFSZ",
   "SIGVTALRM", "SIGPROF", "SIGWINCH", "SIGIO", "SIGPWR", "SIGSYS"]

/-- The name of a signal in brackets, if it has one. -/
def signalNote (number : Nat) : String :=
  match number with
  | 0 => ""
  | n + 1 => match signalNames[n]? with
    | some name => " (" ++ name ++ ")"
    | none => ""

def killed : ExitStatus := .signalled 9

def text : ExitStatus → String
  | .exited code => "exit status: " ++ toString code
  | .signalled number => "signal: " ++ toString number ++ signalNote number

end ExitStatus

/-- Why there is no result channel. -/
inductive ChannelError where
  /-- Its directory cannot be made. -/
  | directory (error : IoError)
  /-- The pipe inside cannot be made. -/
  | pipe (path reason : String)
deriving DecidableEq, Repr

/-- The fault of an operation without a result channel. -/
def ChannelError.fault : ChannelError → Fault
  | .directory error => .transport ("cannot create temp directory: " ++ error.text)
  | .pipe path reason => .transport ("cannot create pipe " ++ path ++ ": " ++ reason)

/-- What comes back from a signal. -/
inductive SignalAnswer where
  | sent
  /-- There is no such process. -/
  | gone
  | failed (text : String)
deriving DecidableEq, Repr

/-- What a process wrote to its two streams; nothing for a stream that others still hold open. -/
structure Streams where
  output : Option Octets := some []
  errors : Option Octets := some []
deriving DecidableEq, Repr

/-- The questions. A channel, its reader and a process are those of the operation at hand. -/
inductive Call where
  /-- Make a directory under the given one, or where the system has such things. -/
  | makeDirectory (parent : Option String)
  /-- Make a pipe at a path in that directory. -/
  | makePipe (path : String)
  /-- Start to read the pipe to its end. -/
  | startReader
  /-- Start a process with these words and this environment, and no other variables. -/
  | spawn (words : List String) (environment : Environment)
  /-- Wait a moment for the reader. -/
  | poll
  /-- Look whether the process has ended, and reap it if so. -/
  | tryWait
  /-- Whether the present wait has lasted so many milliseconds. -/
  | isOver (milliseconds : Nat)
  /-- Open the pipe for writing if somebody has it open for reading, and tell whether it is. -/
  | openPipe
  /-- Close what `openPipe` opened. -/
  | closePipe
  /-- Send the signal that kills the process. -/
  | kill
  /-- Wait until the process has ended, and reap it. -/
  | wait
  /-- Wait a moment for what the process wrote to its streams. -/
  | capture
  /-- Remove the directory with all that is in it. -/
  | removeDirectory
deriving DecidableEq

abbrev Call.Answer : Call → Type
  | .makeDirectory _ => Except IoError String
  | .makePipe _ => Except String Unit
  | .startReader => Except IoError Unit
  | .spawn _ _ => Except Fault Unit
  | .poll => Option (Except IoError Octets)
  | .tryWait => Except IoError (Option ExitStatus)
  | .isOver _ => Bool
  | .openPipe => Bool
  | .closePipe => Unit
  | .kill => SignalAnswer
  | .wait => Except IoError ExitStatus
  | .capture => Streams
  | .removeDirectory => Unit

/-- A program that calls the operating system. -/
abbrev Program (α : Type) := Dialogue Call Call.Answer α

def call (c : Call) : Program c.Answer := Dialogue.question c

/-! ## Starting processes -/

/-- All that the system needs to start a process. -/
structure Launch where
  program : String
  arguments : List String
  /-- The strings of the environment block. -/
  block : List Octets
deriving DecidableEq, Repr

namespace Launch

/-- The fault of a process that cannot be started. -/
def refused (program : String) (error : IoError) : Fault :=
  .subprocess ("cannot start " ++ program ++ ": " ++ error.text)

/-- Whether a text has a zero octet, which would end it early. -/
def hasZero (s : String) : Bool := s.toList.contains '\x00'

/-- Makes a start out of the words of a command line and an environment. -/
def prepare (words : List String) (environment : Environment) : Except Fault Launch :=
  match words with
  | [] => .error (.configuration "empty command line")
  | program :: arguments =>
    match environment.block with
    | some block =>
      if words.any hasZero then .error (refused program .zeroOctet)
      else .ok ⟨program, arguments, block⟩
    | none => .error (refused program .zeroOctet)

/-- The most octets of one string that a process is given, with one for its end. -/
def maxString : Nat := 131072

/-- The most octets of all strings that a process is given, with one for the end of each and eight
for its address. -/
def maxStrings : Nat := 2097152

def strings (l : Launch) : List Octets := (l.program :: l.arguments).map encode ++ l.block

def size (l : Launch) : Nat := l.strings.foldl (fun n s => n + s.length + 9) 0

/-- Whether the system takes so many and so long strings. -/
def fits (l : Launch) : Bool :=
  l.strings.all (fun s => s.length < maxString) && l.size ≤ maxStrings

end Launch
end AdapterGateway
