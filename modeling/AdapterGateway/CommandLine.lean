import AdapterGateway.Settings
import AdapterGateway.Text.Digits
/-!
# The command line

What the gateway can be started with, and what it says before it serves: its help, its version, a
sample of a configuration, or why it cannot start.
-/
namespace AdapterGateway
open Text

namespace CommandLine

/-- The options that take a value. -/
inductive Setting where
  | config
  | port
  | bind
deriving DecidableEq, Repr

/-- How help and complaints show an option. -/
def Setting.usage : Setting → String
  | .config => "--config <CONFIG>"
  | .port => "--port <PORT>"
  | .bind => "--bind <BIND>"

/-- The options that take no value. -/
inductive Switch where
  | printSample
  | help
  | version
deriving DecidableEq, Repr

abbrev Flag := Setting ⊕ Switch

def longFlags : List (String × Flag) :=
  [("config", .inl .config), ("port", .inl .port), ("bind", .inl .bind),
   ("print-sample-config", .inr .printSample), ("help", .inr .help), ("version", .inr .version)]

def shortFlags : List (Char × Flag) :=
  [('c', .inl .config), ('p', .inl .port), ('b', .inl .bind), ('h', .inr .help),
   ('V', .inr .version)]

/-- Why a command line cannot be used. -/
inductive UsageError where
  | unexpected (argument : String)
  | unexpectedValue (argument : String)
  | missingValue (setting : Setting)
  | invalidValue (setting : Setting) (value : String)
  | repeated (option : String)
deriving DecidableEq, Repr

def UsageError.message : UsageError → String
  | .unexpected argument => "unexpected argument '" ++ argument ++ "' found"
  | .unexpectedValue argument => "unexpected value in '" ++ argument ++ "'"
  | .missingValue setting =>
    "a value is required for '" ++ setting.usage ++ "' but none was supplied"
  | .invalidValue setting value => "invalid value '" ++ value ++ "' for '" ++ setting.usage ++ "'"
  | .repeated option => "the argument '" ++ option ++ "' cannot be used multiple times"

/-- What the options say, as far as they are read. -/
structure Choices where
  config : Option String := none
  port : Option UInt16 := none
  bind : Option String := none
  printSample : Bool := false
deriving DecidableEq, Repr

/-- What the gateway is asked to do. -/
inductive Invocation where
  | help
  | version
  | printSample
  /-- Serve with this configuration file, on another port or address than it says if given. -/
  | serve (config : String) (port : Option UInt16) (bind : Option String)
deriving DecidableEq, Repr

/-- The configuration file of a gateway that is not told another. -/
def defaultConfig : String := "commands.toml"

/-- A port: an integer, perhaps with a sign, below 65536. -/
def port? (value : String) : Option UInt16 :=
  let number : Option Int := match value.toList with
    | '+' :: cs => (natural? cs).map Int.ofNat
    | '-' :: cs => (natural? cs).map fun n => -(Int.ofNat n)
    | cs => (natural? cs).map Int.ofNat
  (number.filter fun n => 0 ≤ n && n < 65536).map fun n => UInt16.ofNat n.toNat

/-- Gives an option its value, which goes only once. -/
def Choices.set (c : Choices) (setting : Setting) (value : String) : Except UsageError Choices :=
  let isSet := match setting with
    | .config => c.config.isSome
    | .port => c.port.isSome
    | .bind => c.bind.isSome
  if isSet then .error (.repeated setting.usage)
  else match setting with
    | .config =>
      if value.isEmpty then .error (.invalidValue setting value)
      else .ok { c with config := some value }
    | .port => match port? value with
      | some port => .ok { c with port := some port }
      | none => .error (.invalidValue setting value)
    | .bind => .ok { c with bind := some value }

/-- What remains to be done when all options are read. -/
def Choices.invocation (c : Choices) : Invocation :=
  if c.printSample then .printSample
  else .serve (c.config.getD defaultConfig) c.port c.bind

/-- An argument as it is written. -/
inductive Argument where
  /-- Ends the options. -/
  | separator
  /-- An option with the value that is written with it, if there is one. -/
  | flag (flag : Flag) (value : Option String)
  | other
deriving DecidableEq, Repr

/-- The value behind a short option in the same argument, for which an equals sign is optional. -/
def attached : List Char → Option String
  | [] => none
  | '=' :: value => some (String.ofList value)
  | value => some (String.ofList value)

def Argument.ofString (s : String) : Argument :=
  match s.toList with
  | ['-', '-'] => .separator
  | '-' :: '-' :: text =>
    let (name, value) := match splitFirst '=' (String.ofList text) with
      | some (name, value) => (name, some value)
      | none => (String.ofList text, none)
    match longFlags.lookup name with
    | some f => .flag f value
    | none => .other
  | '-' :: c :: text => match shortFlags.lookup c with
    | some (.inl setting) => .flag (.inl setting) (attached text)
    | some (.inr switch) => .flag (.inr switch) none
    | none => .other
  | _ => .other

/-- Whether an argument is not to be taken for the value of the option before it. -/
def looksLikeFlag (s : String) : Bool := s.toList.head? = some '-' && s.length > 1

/-- Reads the arguments from left to right. Help and version are given as soon as they are asked
for, whatever follows. -/
def read (c : Choices) : List String → Except UsageError Invocation
  | [] => .ok c.invocation
  | s :: rest =>
    match Argument.ofString s with
    | .separator => match rest with
      | [] => .ok c.invocation
      | next :: _ => .error (.unexpected next)
    | .flag (.inl setting) (some value) => do read (← c.set setting value) rest
    | .flag (.inl setting) none => match rest with
      | [] => .error (.missingValue setting)
      | value :: rest =>
        if looksLikeFlag value then .error (.missingValue setting)
        else do read (← c.set setting value) rest
    | .flag (.inr _) (some _) => .error (.unexpectedValue s)
    | .flag (.inr .help) none => .ok .help
    | .flag (.inr .version) none => .ok .version
    | .flag (.inr .printSample) none =>
      if c.printSample then .error (.repeated s)
      else read { c with printSample := true } rest
    | .other => .error (.unexpected s)

def parse (arguments : List String) : Except UsageError Invocation := read {} arguments

/-! ## What the gateway says -/

def versionText : String := "adapterd 1.0.0\n"

def usageText : String := "Usage: adapterd [OPTIONS]\n"

def helpText : String :=
  "Runs monitoring adapters as isolated subprocesses behind an HTTP API\n\n" ++
  usageText ++
  "\nOptions:\n" ++
  "  -c, --config <CONFIG>      Configuration file (TOML) [default: commands.toml]\n" ++
  "  -p, --port <PORT>          Override the listen port\n" ++
  "  -b, --bind <BIND>          Override the bind address\n" ++
  "      --print-sample-config  Print a sample configuration file and exit\n" ++
  "  -h, --help                 Print help\n" ++
  "  -V, --version              Print version\n"

/-- What is said about a command line that cannot be used. -/
def complaint (e : UsageError) : String :=
  "error: " ++ e.message ++ "\n\n" ++ usageText ++ "\nFor more information, try '--help'.\n"

/-- The fault of an address that cannot be listened at. -/
def notListening (address : String) (e : IoError) : Fault :=
  .io ⟨e.kind, "Failed to bind to " ++ address ++ ": " ++ e.text⟩

/-- What is said about a fault that ends the program. -/
def failure (f : Fault) : String := "Error: " ++ f.description

/-- The configuration with a port and an address from the command line put over it. -/
def override (port : Option UInt16) (bind : Option String) (s : Settings) : Settings :=
  { s with
    server := { s.server with
      port := port.getD s.server.port
      bindAddress := bind.getD s.server.bindAddress } }

/-- What becomes of a start. -/
inductive Outcome where
  /-- The program ends with this code, having written these texts. -/
  | ended (code : UInt32) (output errors : String)
  | serving (settings : Settings)

/-- What becomes of a start with the given file content on a host that listens or does not. -/
def outcome (file : String → Except IoError Octets) (listen : String → Except IoError Unit) :
    Except UsageError Invocation → Outcome
  | .error e => .ended 2 "" (complaint e)
  | .ok .help => .ended 0 helpText ""
  | .ok .version => .ended 0 versionText ""
  | .ok .printSample => .ended 0 Settings.sample ""
  | .ok (.serve config port bind) =>
    match (Settings.ofFile config (file config)).map (override port bind) with
    | .error f => .ended 1 "" (failure f ++ "\n")
    | .ok s => match listen s.server.listenAddress with
      | .error e => .ended 1 "" (failure (notListening s.server.listenAddress e) ++ "\n")
      | .ok () => .serving s

end CommandLine
end AdapterGateway
