import AdapterGateway.Inventory.Key
import AdapterGateway.Text.Blank
/-!
# Requests

The body of a request tells an adapter which instance it works for: the key of the instance, how to
reach the platform, credentials and certificates. Connection and credentials are secret; `redacted`
and `description` are what the log may show.
-/
namespace AdapterGateway
open Json Text Inventory

/-- How to reach the platform. -/
structure Connection where
  userName : String := ""
  password : String := ""
  hostName : String := ""
deriving DecidableEq, Repr

namespace Connection

/-- The fields of the connection section. -/
inductive Part where
  | userName
  | password
  | hostName
deriving DecidableEq, Repr

abbrev Part.Ty : Part → Type := fun _ => String

/-- The connection section as a record. Every field may be absent. -/
def record : Record Part Part.Ty where
  name := "ClusterConnectionInfo"
  order := [.userName, .password, .hostName]
  field
    | .userName => defaulted "userName" asString .string ""
    | .password => defaulted "password" asString .string ""
    | .hostName => defaulted "hostName" asString .string ""

def read : Reader Connection := fun t => do
  let row ← record.read (by intro f; cases f <;> decide) t
  return ⟨row .userName, row .password, row .hostName⟩

def toJson (c : Connection) : Value :=
  record.write fun
    | .userName => c.userName
    | .password => c.password
    | .hostName => c.hostName

def description (c : Connection) : String :=
  describeRecord "ClusterConnectionInfo" [
    ("user_name", quoted c.userName),
    ("password", quoted redactedText),
    ("host_name", quoted c.hostName)]

end Connection

/-- One credential. -/
structure CredentialField where
  key : String
  value : String := ""
  isPassword : Bool := false
deriving DecidableEq, Repr

namespace CredentialField

/-- The fields of a credential. -/
inductive Part where
  | key
  | value
  | isPassword
deriving DecidableEq, Repr

abbrev Part.Ty : Part → Type
  | .key | .value => String
  | .isPassword => Bool

/-- Credentials as records. Only the key must be present. -/
def record : Record Part Part.Ty where
  name := "CredentialField"
  order := [.key, .value, .isPassword]
  field
    | .key => required "key" asString .string
    | .value => defaulted "value" asString .string ""
    | .isPassword => defaulted "isPassword" asBool .bool false

def read : Reader CredentialField := fun t => do
  let row ← record.read (by intro f; cases f <;> decide) t
  return ⟨row .key, row .value, row .isPassword⟩

def toJson (c : CredentialField) : Value :=
  record.write fun
    | .key => c.key
    | .value => c.value
    | .isPassword => c.isPassword

def description (c : CredentialField) : String :=
  describeRecord "CredentialField" [
    ("key", quoted c.key),
    ("value", quoted redactedText),
    ("is_password", describeBool c.isPassword)]

end CredentialField

/-- The credentials of an instance. -/
structure Credentials where
  kind : Option String := none
  fields : List CredentialField := []
deriving DecidableEq, Repr

namespace Credentials

/-- The fields of the credential section. -/
inductive Part where
  | kind
  | fields
deriving DecidableEq, Repr

abbrev Part.Ty : Part → Type
  | .kind => Option String
  | .fields => List CredentialField

/-- Writes a text, or null where there is none. -/
def optionalText : Option String → Value
  | some s => .string s
  | none => .null

/-- The credential section as a record. Every field may be absent. -/
def record : Record Part Part.Ty where
  name := "CredentialConfig"
  order := [.kind, .fields]
  field
    | .kind => defaulted "credentialKey" (asOptional asString) optionalText none
    | .fields => defaulted "credentialFields" (asList CredentialField.read)
        (fun l => .list (l.map CredentialField.toJson)) []

def read : Reader Credentials := fun t => do
  let row ← record.read (by intro f; cases f <;> decide) t
  return ⟨row .kind, row .fields⟩

def toJson (c : Credentials) : Value :=
  record.write fun
    | .kind => c.kind
    | .fields => c.fields

def description (c : Credentials) : String :=
  describeRecord "CredentialConfig" [
    ("credential_key", describeOption (c.kind.map quoted)),
    ("credential_fields", describeList (c.fields.map CredentialField.description))]

end Credentials

/-- Certificates, which are passed on unread. -/
structure Certificates where
  items : List Value := []
deriving Repr

namespace Certificates

/-- The one field of the certificate section. -/
inductive Part where
  | items
deriving DecidableEq, Repr

abbrev Part.Ty : Part → Type := fun _ => List Value

def record : Record Part Part.Ty where
  name := "CertificateConfig"
  order := [.items]
  field
    | .items => defaulted "certificates" (asList asDocument) .list []

def read : Reader Certificates := fun t => do
  let row ← record.read (by intro f; cases f; decide) t
  return ⟨row .items⟩

def toJson (c : Certificates) : Value := record.write fun | .items => c.items

/-- `document` describes what a certificate holds, which is for the JSON library to say. -/
def description (document : Value → String) (c : Certificates) : String :=
  describeRecord "CertificateConfig" [("certificates", describeList (c.items.map document))]

end Certificates

/-- The instance an adapter works for. -/
structure Request where
  key : Key
  connection : Option Connection := none
  credentials : Option Credentials := none
  certificates : Option Certificates := none

namespace Request

/-- The fields of a request. -/
inductive Part where
  | key
  | connection
  | credentials
  | certificates
deriving DecidableEq, Repr

abbrev Part.Ty : Part → Type
  | .key => Key
  | .connection => Option Connection
  | .credentials => Option Credentials
  | .certificates => Option Certificates

def connectionLabel : String := "clusterConnectionInfo"

def credentialsLabel : String := "credentialConfig"

/-- Requests as records. Only the key must be present; the connection has a second name. -/
def record : Record Part Part.Ty where
  name := "AdapterConfig"
  order := [.key, .connection, .credentials, .certificates]
  field
    | .key => required "adapterKey" Key.read Key.toJson
    | .connection =>
      { omittable connectionLabel Connection.read Connection.toJson with
        secondName := some "internalRestCredential" }
    | .credentials => omittable credentialsLabel Credentials.read Credentials.toJson
    | .certificates => omittable "certificateConfig" Certificates.read Certificates.toJson

def read : Reader Request := fun t => do
  let row ← record.read (by intro f; cases f <;> decide) t
  return ⟨row .key, row .connection, row .credentials, row .certificates⟩

def toJson (r : Request) : Value :=
  record.write fun
    | .key => r.key
    | .connection => r.connection
    | .credentials => r.credentials
    | .certificates => r.certificates

def noBodyText : String := "No body in request"

def ofBody (body : Octets) : Except Fault Request :=
  if body.all isAsciiBlank then .error (.clientInput noBodyText)
  else match decode read body with
    | .ok request => .ok request
    | .error e => .error (.clientInput ("Invalid request body: " ++ e.message))

/-- The sections of which the log shows nothing. -/
def secretLabels : List String := [credentialsLabel, connectionLabel]

/-- The members of an object with the secret ones covered. -/
def cover (members : List (String × Value)) : List (String × Value) :=
  members.map fun m => if m.1 ∈ secretLabels then (m.1, .string redactedText) else m

/-- The request with its secret sections covered, members in the order of their names. -/
def redacted (r : Request) : Value :=
  match r.toJson.canonical with
  | .object members => .object (cover members)
  | v => v

/-- Everything but what the descriptions of its sections cover. -/
def description (document : Value → String) (r : Request) : String :=
  describeRecord "AdapterConfig" [
    ("adapter_key", r.key.description),
    ("cluster_connection_info", describeOption (r.connection.map Connection.description)),
    ("credential_config", describeOption (r.credentials.map Credentials.description)),
    ("certificate_config", describeOption (r.certificates.map (Certificates.description document)))]

end Request
end AdapterGateway
