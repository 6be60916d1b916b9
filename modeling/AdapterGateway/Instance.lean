import AdapterGateway.Environment
/-!
# Adapter instances

The adapter's view of its environment: the key of the instance it works for, its credentials and the
platform's user. Which identifiers an instance has is for the adapter to say, since their variables
look like any others.
-/
namespace AdapterGateway
open Text Inventory

/-- The user of the platform that an adapter may act as. -/
structure PlatformUser where
  user : String
  password : String
deriving DecidableEq, Repr

def PlatformUser.description (p : PlatformUser) : String :=
  describeRecord "SuiteApiCredentials" [
    ("user", quoted p.user),
    ("password", quoted redactedText)]

/-- The instance an adapter works for. -/
structure Instance where
  key : Key
  /-- Credentials by their keys in upper case. -/
  credentials : Dictionary String String
  platform : Option PlatformUser

namespace Instance

def requiredVariable (e : Environment) (name : String) : Except Fault String :=
  match e.get? name with
  | some value => .ok value
  | none => .error (.configuration (name ++ " is not set"))

/-- The identifiers of the given keys that are set. -/
def identifiersIn (e : Environment) (keys : List String) : List Identifier :=
  keys.filterMap fun key =>
    (e.get? (Environment.identifierName key)).map fun value => ⟨key, value, true⟩

/-- The key of a credential variable; nothing for other variables. -/
def credentialKey? (name : String) : Option String :=
  let start := Environment.credentialStart.toList
  if start.isPrefixOf name.toList then some (String.ofList (name.toList.drop start.length))
  else none

def credentialsIn (e : Environment) : List (String × String) :=
  e.entries.filterMap fun v => (credentialKey? v.1).map (·, v.2)

/-- The platform's user, if a name or a password is set. -/
def platformIn (e : Environment) : Option PlatformUser :=
  let user := (e.get? Environment.userName).getD ""
  let password := (e.get? Environment.passwordName).getD ""
  if user.isEmpty && password.isEmpty then none else some ⟨user, password⟩

/-- The instance that an environment describes. `keys` are the identifier keys that the adapter
declares. -/
def ofEnvironment (e : Environment) (keys : List String) : Except Fault Instance := do
  let adapterKind ← requiredVariable e Environment.adapterKindName
  let objectKind ← requiredVariable e Environment.objectKindName
  return {
    key := Key.make adapterKind objectKind "" (identifiersIn e keys)
    credentials := Dictionary.ofList (credentialsIn e)
    platform := platformIn e }

/-- The instance that the variables of a process describe. -/
def ofProcess (raw : Environment.Raw) (keys : List String) : Except Fault Instance :=
  ofEnvironment (Dictionary.ofList (Environment.textual raw)) keys

def identifier? (i : Instance) (key : String) : Option String := i.key.value? key

/-- The value of a credential, whatever the case of its key. -/
def credential? (i : Instance) (key : String) : Option String := i.credentials.get? (upper key)

def hasCredentials (i : Instance) : Bool := !i.credentials.isEmpty

def description (i : Instance) : String :=
  describeRecord "AdapterInstance" [
    ("key", i.key.description),
    ("credentials", describeList (i.credentials.keys.map quoted)),
    ("suite_api", describeOption (i.platform.map PlatformUser.description))]

end Instance
end AdapterGateway
