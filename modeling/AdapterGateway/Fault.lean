import AdapterGateway.Json.Decode
/-!
# Faults

Everything that can go wrong in the gateway and in an adapter. A fault has a full text for the log
and, for the caller of the service, a status and a public text that tells nothing about subprocesses
and configuration.
-/
namespace AdapterGateway

/-- The kinds of failures of files, pipes, sockets and processes. -/
inductive IoKind where
  | notFound
  | permissionDenied
  | isADirectory
  | notADirectory
  | brokenPipe
  | timedOut
  | unexpectedEnd
  | invalidInput
  | addressInUse
  | addressNotAvailable
  | argumentListTooLong
  | invalidFilename
  | other
  | uncategorized
deriving DecidableEq, Repr

def IoKind.text : IoKind → String
  | .notFound => "entity not found"
  | .permissionDenied => "permission denied"
  | .isADirectory => "is a directory"
  | .notADirectory => "not a directory"
  | .brokenPipe => "broken pipe"
  | .timedOut => "timed out"
  | .unexpectedEnd => "unexpected end of file"
  | .invalidInput => "invalid input parameter"
  | .addressInUse => "address in use"
  | .addressNotAvailable => "address not available"
  | .argumentListTooLong => "argument list too long"
  | .invalidFilename => "invalid filename"
  | .other => "other error"
  | .uncategorized => "uncategorized error"

def IoKind.name : IoKind → String
  | .notFound => "NotFound"
  | .permissionDenied => "PermissionDenied"
  | .isADirectory => "IsADirectory"
  | .notADirectory => "NotADirectory"
  | .brokenPipe => "BrokenPipe"
  | .timedOut => "TimedOut"
  | .unexpectedEnd => "UnexpectedEof"
  | .invalidInput => "InvalidInput"
  | .addressInUse => "AddrInUse"
  | .addressNotAvailable => "AddrNotAvailable"
  | .argumentListTooLong => "ArgumentListTooLong"
  | .invalidFilename => "InvalidFilename"
  | .other => "Other"
  | .uncategorized => "Uncategorized"

/-- A failure of a file, a pipe, a socket or a process. -/
structure IoError where
  kind : IoKind
  text : String
deriving DecidableEq, Repr

namespace IoError

def notFound : IoError := ⟨.notFound, "No such file or directory (os error 2)"⟩

def permissionDenied : IoError := ⟨.permissionDenied, "Permission denied (os error 13)"⟩

def notADirectory : IoError := ⟨.notADirectory, "Not a directory (os error 20)"⟩

def isADirectory : IoError := ⟨.isADirectory, "Is a directory (os error 21)"⟩

/-- A name or a path with more octets than the file system takes. -/
def nameTooLong : IoError := ⟨.invalidFilename, "File name too long (os error 36)"⟩

/-- More arguments and variables than a process can be given. -/
def argumentListTooLong : IoError :=
  ⟨.argumentListTooLong, "Argument list too long (os error 7)"⟩

/-- A zero octet in a text that is handed to the operating system. -/
def zeroOctet : IoError := ⟨.invalidInput, "nul byte found in provided data"⟩

end IoError

/-- A fault of the gateway, of an adapter or of the request they serve. -/
inductive Fault where
  /-- The request body is missing or not what it should be. -/
  | clientInput (text : String)
  /-- The operation is unknown or the configuration unusable. -/
  | configuration (text : String)
  /-- The result channel could not be set up. -/
  | transport (detail : String)
  /-- The adapter failed, or what it wrote is no document. -/
  | subprocess (detail : String)
  /-- The adapter ended and wrote nothing. -/
  | noResult (detail : String)
  /-- The adapter did not deliver in time. -/
  | timeout (seconds : Nat)
  /-- Two identifiers with this key disagree on being part of the identity. -/
  | identifierUniqueness (key : String)
  /-- Other objects already have the identities of these keys. -/
  | duplicateIdentity (keys : List String)
  /-- The one document of an output pipe is already written. -/
  | alreadySent
  | invalidValue (text : String)
  | io (error : IoError)
  | json (error : Json.DecodeError)
  /-- A failing system call outside of files and pipes, in the system's own words. -/
  | system (text : String)
deriving DecidableEq, Repr

namespace Fault

/-- The public text for faults whose cause stays inside. -/
def genericText : String := "Unknown server error"

/-- The public text for an adapter that delivered nothing. -/
def noResultText : String := "No result from adapter"

/-- The public text for a result channel that could not be set up. -/
def transportText : String := "Error initializing adapter communication"

def message : Fault → String
  | .clientInput text => "Invalid request: " ++ text
  | .configuration text => "Configuration error: " ++ text
  | .transport detail => transportText ++ ": " ++ detail
  | .subprocess detail | .noResult detail => "Adapter subprocess error: " ++ detail
  | .timeout seconds => "Adapter did not respond within " ++ toString seconds ++ "s"
  | .identifierUniqueness key =>
    "Identifier '" ++ key ++ "' has an inconsistent uniqueness attribute"
  | .duplicateIdentity keys =>
    "A different object with key " ++ String.intercalate "; " keys ++ " already exists"
  | .alreadySent => "Result already sent"
  | .invalidValue text => "Invalid value: " ++ text
  | .io error => "I/O error: " ++ error.text
  | .json error => "JSON error: " ++ error.message
  | .system text => "Nix error: " ++ text

/-- The status of the answer to a request that ends in this fault. -/
def statusCode : Fault → Nat
  | .clientInput _ => 400
  | _ => 500

/-- What the caller of the service is told. -/
def publicText : Fault → String
  | .clientInput text => text
  | .transport _ => transportText
  | .noResult _ | .timeout _ => noResultText
  | _ => genericText

/-- Whether the adapter ran and delivered nothing. -/
def isNoResult : Fault → Bool
  | .noResult _ => true
  | _ => false

def description : Fault → String
  | .clientInput text => "ClientInput(" ++ Text.quoted text ++ ")"
  | .configuration text => "Configuration(" ++ Text.quoted text ++ ")"
  | .transport detail => "Transport(" ++ Text.quoted detail ++ ")"
  | .subprocess detail =>
    "Subprocess \x7b public: " ++ Text.quoted genericText ++ ", detail: " ++ Text.quoted detail ++
      " \x7d"
  | .noResult detail =>
    "Subprocess \x7b public: " ++ Text.quoted noResultText ++ ", detail: " ++ Text.quoted detail ++
      " \x7d"
  | .timeout seconds => "Timeout \x7b secs: " ++ toString seconds ++ " \x7d"
  | .identifierUniqueness key => "IdentifierUniqueness(" ++ Text.quoted key ++ ")"
  | .duplicateIdentity keys =>
    "DuplicateIdentity(" ++ Text.quoted (String.intercalate "; " keys) ++ ")"
  | .alreadySent => "AlreadySent"
  | .invalidValue text => "InvalidValue(" ++ Text.quoted text ++ ")"
  | .io error =>
    "Io(Custom \x7b kind: " ++ error.kind.name ++ ", error: " ++ Text.quoted error.text ++ " \x7d)"
  | .json error => "Json(Error(" ++ Text.quoted error.message ++ "))"
  | .system text => "Nix(" ++ text ++ ")"

end Fault
end AdapterGateway
