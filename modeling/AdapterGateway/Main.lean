import AdapterGateway.CommandLine
/-!
# The program

Reads the configuration file and says what the command line asks for. The program itself opens no
sockets: every address is refused to it, as on a host without a network.
-/
namespace AdapterGateway.Main
open Text

/-- The failure behind an exception of the file system. -/
def failureOf : IO.Error → IoError
  | .noFileOrDirectory .. | .noSuchThing .. => .notFound
  | .permissionDenied .. => .permissionDenied
  | .inappropriateType .. => .isADirectory
  | e => ⟨.other, toString e⟩

def readFile (path : String) : IO (Except IoError Octets) := do
  try return .ok (← IO.FS.readBinFile path).data.toList
  catch e => return .error (failureOf e)

def listen (_ : String) : Except IoError Unit := .error .permissionDenied

def fileOf : Except CommandLine.UsageError CommandLine.Invocation → Option String
  | .ok (.serve config _ _) => some config
  | _ => none

/-- Does what a command line asks for and comes back with the code to end with. -/
def run (arguments : List String) : IO UInt32 := do
  let invocation := CommandLine.parse arguments
  let content ← match fileOf invocation with
    | some path => readFile path
    | none => pure (.error .notFound)
  match CommandLine.outcome (fun _ => content) listen invocation with
  | .serving _ => return 0
  | .ended code output errors =>
    IO.print output
    IO.eprint errors
    return code

end AdapterGateway.Main

def main (arguments : List String) : IO UInt32 := AdapterGateway.Main.run arguments
