import AdapterGateway.Fault
/-!
# Files

The files of a host, and where paths lead among them. A path is followed name by name, from the root
or, without a slash in front, from the working directory.
-/
namespace AdapterGateway
open Text

/-- What lies in a directory under a name. -/
inductive Entry where
  | file (content : Octets)
  | directory
deriving DecidableEq, Repr

/-- The files of a host. A place is told by the names on the way to it from the root. -/
structure Files where
  /-- What lies at a place. -/
  entry? : List String → Option Entry
  /-- The working directory. -/
  here : List String := []

namespace Files

def maxName : Nat := 255

def maxPath : Nat := 4095

/-- Follows names from a place. Only a directory is left by a name, be it an empty one. -/
def walk (f : Files) (place : List String) : List String → Except IoError Entry
  | [] => match f.entry? place with
    | some entry => .ok entry
    | none => .error .notFound
  | name :: rest => match f.entry? place with
    | none => .error .notFound
    | some (.file _) => .error .notADirectory
    | some .directory =>
      if name = "" ∨ name = "." then f.walk place rest
      else if name = ".." then f.walk place.dropLast rest
      else if (encode name).length > maxName then .error .nameTooLong
      else f.walk (place ++ [name]) rest

def find (f : Files) (path : String) : Except IoError Entry :=
  if path.isEmpty then .error .notFound
  else if (encode path).length > maxPath then .error .nameTooLong
  else f.walk (if path.toList.head? = some '/' then [] else f.here) (path.splitOn "/")

def read (f : Files) (path : String) : Except IoError Octets :=
  match f.find path with
  | .ok (.file content) => .ok content
  | .ok .directory => .error .isADirectory
  | .error e => .error e

/-- Where a program without a slash in its name is looked for. -/
def programs : String := "/bin/"

/-- The failure to start a program where no file can be started: what is there is no program. -/
def refusal (f : Files) (program : String) : IoError :=
  let path := if program.isEmpty || program.toList.contains '/' then program
    else programs ++ program
  match f.find path with
  | .ok _ => .permissionDenied
  | .error e => e

end Files
end AdapterGateway
