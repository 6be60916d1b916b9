import AdapterGateway.Request
import AdapterGateway.Text.Case
/-!
# Adapter environments

Identifying and secret data reach an adapter through environment variables only. An environment
starts empty, takes the listed variables of the gateway's own environment, and then what the request
says: four fixed names, one name for each identifier and one for each credential. A later entry
replaces an earlier one of the same name.
-/
namespace AdapterGateway
open Text Inventory

/-- Variables by their names. -/
abbrev Environment := Dictionary String String

namespace Environment

def adapterKindName : String := "ADAPTER_KIND"

def objectKindName : String := "ADAPTER_INSTANCE_OBJECT_KIND"

def userName : String := "SUITE_API_USER"

def passwordName : String := "SUITE_API_PASSWORD"

/-- What the names of credential variables begin with. -/
def credentialStart : String := "CREDENTIAL_"

def identifierName (key : String) : String := upper key

def credentialName (key : String) : String := credentialStart ++ upper key

/-- The variables of a process as octets. -/
abbrev Raw := List (Octets × Octets)

/-- One variable, if its name is text and listed and its value is text. -/
def pass? (names : List String) (entry : Octets × Octets) : Option (String × String) := do
  let name ← decode? entry.1
  if name ∈ names then
    let value ← decode? entry.2
    some (name, value)
  else none

/-- The listed variables of another environment. -/
def inherit (raw : Raw) (names : List String) : List (String × String) :=
  raw.filterMap (pass? names)

def fixed (r : Request) : List (String × String) :=
  let connection := r.connection.getD {}
  [(adapterKindName, r.key.adapterKind), (objectKindName, r.key.objectKind),
   (userName, connection.userName), (passwordName, connection.password)]

def ofIdentifiers (r : Request) : List (String × String) :=
  r.key.identifiers.map fun i => (identifierName i.key, i.value)

def ofCredentials (r : Request) : List (String × String) :=
  ((r.credentials.map (·.fields)).getD []).map fun f => (credentialName f.key, f.value)

/-- The variables that a request asks for, in the order in which they are set. -/
def ofRequest : Option Request → List (String × String)
  | none => []
  | some r => fixed r ++ ofIdentifiers r ++ ofCredentials r

def build (raw : Raw) (names : List String) (request : Option Request) : Environment :=
  Dictionary.ofList (inherit raw names ++ ofRequest request)

/-! ## The environment of a process -/

def blockEntry (name value : String) : Octets := encode name ++ 0x3D :: encode value

/-- The strings that a new process is given, unless one of them has a zero octet, which would end it
early. -/
def block (e : Environment) : Option (List Octets) :=
  let strings := e.entries.map fun v => blockEntry v.1 v.2
  if strings.any (·.contains 0) then none else some strings

/-- Cuts a string of an environment block at its first equals sign, of which one in front belongs to
the name. -/
def cutEntry? (string : Octets) : Option (Octets × Octets) :=
  match string with
  | [] => none
  | first :: rest =>
    match rest.dropWhile (· != 0x3D) with
    | [] => none
    | _ :: value => some (first :: rest.takeWhile (· != 0x3D), value)

/-- The variables that a process finds in its environment block. -/
def ofBlock (strings : List Octets) : Raw := strings.filterMap cutEntry?

def textual? (entry : Octets × Octets) : Option (String × String) := do
  let name ← decode? entry.1
  let value ← decode? entry.2
  some (name, value)

/-- The variables of a process that are text. -/
def textual (raw : Raw) : List (String × String) := raw.filterMap textual?

end Environment
end AdapterGateway
