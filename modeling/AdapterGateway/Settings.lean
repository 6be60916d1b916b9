import AdapterGateway.Fault
import AdapterGateway.Json.Record
import AdapterGateway.Text.Blank
import AdapterGateway.Toml.Reader
/-!
# Settings

The configuration of the gateway: where it listens, which command line serves which operation, the
version it reports and how adapters are supervised. Everything has a default, so that any part of a
configuration may be left out.
-/
namespace AdapterGateway
open Json Text

/-- How much the log tells. -/
inductive LogLevel where
  | error
  | warn
  | info
  | debug
  | trace
deriving DecidableEq, Repr

namespace LogLevel

def name : LogLevel → String
  | .error => "Error"
  | .warn => "Warn"
  | .info => "Info"
  | .debug => "Debug"
  | .trace => "Trace"

def all : List LogLevel := [.error, .warn, .info, .debug, .trace]

def read : Reader LogLevel := asVariant (all.map fun l => emptyVariant l.name l)

def toJson (l : LogLevel) : Value := .string l.name

def filterName : LogLevel → String
  | .error => "ERROR"
  | .warn => "WARN"
  | .info => "INFO"
  | .debug => "DEBUG"
  | .trace => "TRACE"

end LogLevel

/-- The operations that requests can ask for. -/
inductive Operation where
  | collect
  | test
  | endpointUrls
  | adapterDefinition
deriving DecidableEq, Repr

namespace Operation

def all : List Operation := [.collect, .test, .endpointUrls, .adapterDefinition]

def name : Operation → String
  | .collect => "collect"
  | .test => "test"
  | .endpointUrls => "endpoint_urls"
  | .adapterDefinition => "adapter_definition"

/-- The status of the answer when the adapter delivers. -/
def successStatus : Operation → Nat
  | .collect | .test => 202
  | .endpointUrls | .adapterDefinition => 200

end Operation

/-! ## Integers of fixed width -/

def asUInt16 : Reader UInt16 := fun t => (asNatBelow UInt16.size "u16" t).map UInt16.ofNat

def asUInt32 : Reader UInt32 := fun t => (asNatBelow UInt32.size "u32" t).map UInt32.ofNat

def asUInt64 (expected : String) : Reader UInt64 := fun t =>
  (asNatBelow UInt64.size expected t).map UInt64.ofNat

/-! ## Sections -/

/-- Where and how the gateway listens. -/
structure ServerSettings where
  bindAddress : String := "0.0.0.0"
  port : UInt16 := 8080
  /-- The largest body accepted, in octets. -/
  maxBodySize : UInt64 := 1048576
  requestLogging : Bool := true
  logLevel : LogLevel := .info
deriving DecidableEq, Repr

namespace ServerSettings

/-- The fields of the section. -/
inductive Part where
  | bindAddress
  | port
  | maxBodySize
  | requestLogging
  | logLevel
deriving DecidableEq, Repr

abbrev Part.Ty : Part → Type
  | .bindAddress => String
  | .port => UInt16
  | .maxBodySize => UInt64
  | .requestLogging => Bool
  | .logLevel => LogLevel

def record : Record Part Part.Ty where
  name := "ServerConfig"
  order := [.bindAddress, .port, .maxBodySize, .requestLogging, .logLevel]
  field
    | .bindAddress => defaulted "bind_address" asString .string "0.0.0.0"
    | .port => defaulted "port" asUInt16 (fun n => .integer n.toNat) 8080
    | .maxBodySize =>
      defaulted "max_body_size" (asUInt64 "usize") (fun n => .integer n.toNat) 1048576
    | .requestLogging => defaulted "request_logging" asBool .bool true
    | .logLevel => defaulted "log_level" LogLevel.read LogLevel.toJson .info

def read : Reader ServerSettings := fun t => do
  let row ← record.read (by intro f; cases f <;> decide) t
  return ⟨row .bindAddress, row .port, row .maxBodySize, row .requestLogging, row .logLevel⟩

def toJson (s : ServerSettings) : Value :=
  record.write fun
    | .bindAddress => s.bindAddress
    | .port => s.port
    | .maxBodySize => s.maxBodySize
    | .requestLogging => s.requestLogging
    | .logLevel => s.logLevel

def listenAddress (s : ServerSettings) : String := s.bindAddress ++ ":" ++ toString s.port.toNat

end ServerSettings

/-- The version of the adapter. -/
structure VersionSettings where
  major : UInt32 := 1
  minor : UInt32 := 0
deriving DecidableEq, Repr

namespace VersionSettings

/-- The fields of the section. -/
inductive Part where
  | major
  | minor
deriving DecidableEq, Repr

abbrev Part.Ty : Part → Type := fun _ => UInt32

def record : Record Part Part.Ty where
  name := "VersionConfig"
  order := [.major, .minor]
  field
    | .major => defaulted "major" asUInt32 (fun n => .integer n.toNat) 1
    | .minor => defaulted "minor" asUInt32 (fun n => .integer n.toNat) 0

def read : Reader VersionSettings := fun t => do
  let row ← record.read (by intro f; cases f <;> decide) t
  return ⟨row .major, row .minor⟩

def toJson (v : VersionSettings) : Value :=
  record.write fun
    | .major => v.major
    | .minor => v.minor

def text (v : VersionSettings) : String := toString v.major.toNat ++ "." ++ toString v.minor.toNat

end VersionSettings

/-- How adapters are supervised. -/
structure SupervisionSettings where
  /-- The longest wait for a result; zero waits forever. -/
  readTimeoutSeconds : UInt64 := 300
  /-- How long an adapter may go on after its result. -/
  exitGraceMillis : UInt64 := 2000
  /-- Where the directories of result channels are made. -/
  channelParent : Option String := none
  /-- The variables of the gateway's own environment that adapters see. -/
  inherited : List String := ["PATH"]
deriving DecidableEq, Repr

namespace SupervisionSettings

/-- The fields of the section. -/
inductive Part where
  | readTimeoutSeconds
  | exitGraceMillis
  | channelParent
  | inherited
deriving DecidableEq, Repr

abbrev Part.Ty : Part → Type
  | .readTimeoutSeconds | .exitGraceMillis => UInt64
  | .channelParent => Option String
  | .inherited => List String

/-- Writes a path, or null where there is none. -/
def optionalPath : Option String → Value
  | some s => .string s
  | none => .null

def record : Record Part Part.Ty where
  name := "BridgeConfig"
  order := [.readTimeoutSeconds, .exitGraceMillis, .channelParent, .inherited]
  field
    | .readTimeoutSeconds =>
      defaulted "read_timeout_secs" (asUInt64 "u64") (fun n => .integer n.toNat) 300
    | .exitGraceMillis =>
      defaulted "exit_grace_ms" (asUInt64 "u64") (fun n => .integer n.toNat) 2000
    | .channelParent => defaulted "temp_dir" (asOptional asPath) optionalPath none
    | .inherited =>
      defaulted "inherit_env" (asList asString) (fun l => .list (l.map .string)) ["PATH"]

def read : Reader SupervisionSettings := fun t => do
  let row ← record.read (by intro f; cases f <;> decide) t
  return ⟨row .readTimeoutSeconds, row .exitGraceMillis, row .channelParent, row .inherited⟩

def toJson (s : SupervisionSettings) : Value :=
  record.write fun
    | .readTimeoutSeconds => s.readTimeoutSeconds
    | .exitGraceMillis => s.exitGraceMillis
    | .channelParent => s.channelParent
    | .inherited => s.inherited

/-- The longest wait for a result in seconds, if there is one. -/
def readTimeout? (s : SupervisionSettings) : Option Nat :=
  if s.readTimeoutSeconds = 0 then none else some s.readTimeoutSeconds.toNat

end SupervisionSettings

/-- The whole configuration. -/
structure Settings where
  server : ServerSettings := {}
  /-- The command line of each operation. -/
  commands : Dictionary String String := ∅
  version : VersionSettings := {}
  supervision : SupervisionSettings := {}
deriving DecidableEq

namespace Settings

/-- The sections. -/
inductive Part where
  | server
  | commands
  | version
  | supervision
deriving DecidableEq, Repr

abbrev Part.Ty : Part → Type
  | .server => ServerSettings
  | .commands => Dictionary String String
  | .version => VersionSettings
  | .supervision => SupervisionSettings

def record : Record Part Part.Ty where
  name := "ServiceConfig"
  order := [.server, .commands, .version, .supervision]
  field
    | .server => defaulted "server" ServerSettings.read ServerSettings.toJson {}
    | .commands => defaulted "commands" (asDictionary asString)
        (fun d => .object (d.entries.map fun e => (e.1, .string e.2))) ∅
    | .version => defaulted "version" VersionSettings.read VersionSettings.toJson {}
    | .supervision => defaulted "bridge" SupervisionSettings.read SupervisionSettings.toJson {}

def read : Reader Settings := fun t => do
  let row ← record.read (by intro f; cases f <;> decide) t
  return ⟨row .server, row .commands, row .version, row .supervision⟩

def toJson (s : Settings) : Value :=
  record.write fun
    | .server => s.server
    | .commands => s.commands
    | .version => s.version
    | .supervision => s.supervision

def emptyCommand (operation : String) : Fault :=
  .configuration ("command for operation '" ++ operation ++ "' is empty")

/-- Checks that every command line has words and that bodies may have a size. -/
def validate (s : Settings) : Except Fault Unit :=
  match s.commands.entries.find? fun e => (trim e.2).isEmpty with
  | some (operation, _) => .error (emptyCommand operation)
  | none =>
    if s.server.maxBodySize = 0 then
      .error (.configuration "max_body_size must be greater than zero")
    else .ok ()

/-- The words of the command line of an operation. -/
def commandFor (s : Settings) (operation : String) : Except Fault (List String) :=
  match s.commands.get? operation with
  | none =>
    .error (.configuration ("no command configured for operation '" ++ operation ++ "'"))
  | some command =>
    if (words command).isEmpty then .error (emptyCommand operation) else .ok (words command)

def ofToml (text : String) : Except Fault Settings :=
  match Toml.parse? text with
  | none => .error (.configuration "TOML parse error")
  | some document => match read document.toTree with
    | .error _ => .error (.configuration "TOML parse error")
    | .ok settings => do
      settings.validate
      return settings

def unreadable (path reason : String) : Fault :=
  .configuration ("Cannot read " ++ path ++ ": " ++ reason)

/-- The configuration in the file at `path`, whose content is given. -/
def ofFile (path : String) (content : Except IoError Octets) : Except Fault Settings :=
  match content with
  | .error e => .error (unreadable path e.text)
  | .ok octets => match decode? octets with
    | none => .error (unreadable path "stream did not contain valid UTF-8")
    | some text => ofToml text

def sample : String :=
  "# Adapter bridge configuration\n\n" ++
  "[server]\n" ++
  "bind_address = \"0.0.0.0\"\n" ++
  "port = 8080\n" ++
  "max_body_size = 1048576\n" ++
  "request_logging = true\n" ++
  "log_level = \"Info\"\n\n" ++
  "# Command line per operation; the result pipe path is appended as the last argument\n" ++
  "[commands]\n" ++
  "collect = \"python3 app/adapter.py collect\"\n" ++
  "test = \"python3 app/adapter.py test\"\n" ++
  "endpoint_urls = \"python3 app/adapter.py endpoint_urls\"\n" ++
  "adapter_definition = \"python3 app/adapter.py adapter_definition\"\n\n" ++
  "[version]\n" ++
  "major = 1\n" ++
  "minor = 0\n\n" ++
  "[bridge]\n" ++
  "# 0 waits for the adapter forever\n" ++
  "read_timeout_secs = 300\n" ++
  "exit_grace_ms = 2000\n" ++
  "# temp_dir = \"/var/tmp/adapter\"\n" ++
  "inherit_env = [\"PATH\"]\n"

end Settings
end AdapterGateway
