import AdapterGateway.Instance

/-!
# Redaction

What the log may show of a request and of an instance does not hang on their secrets.  Two requests
that differ only inside their secret sections are redacted to the same document, and two that differ
only in passwords and in the values of credentials are described alike, as are two instances.
-/

namespace AdapterGateway

open Json Text Inventory

namespace Request

/-! ## Covered sections -/

/-- The sections of a request in the order of their names, the secret ones as `secret` makes them. -/
def sections (secret : Value → Value) (r : Request) : List (String × Value) :=
  ("adapterKey", r.key.toJson.canonical) ::
    (r.certificates.toList.map (fun c => ("certificateConfig", c.toJson.canonical)) ++
      r.connection.toList.map (fun c => ("clusterConnectionInfo", secret c.toJson.canonical)) ++
      r.credentials.toList.map (fun c => ("credentialConfig", secret c.toJson.canonical)))

theorem canonical_toJson (r : Request) : r.toJson.canonical = .object (r.sections id) := by
  -- the certificates are written last and come second
  have hconnection : compare "clusterConnectionInfo" "adapterKey" = .gt := by decide
  have hcredentials : compare "credentialConfig" "adapterKey" = .gt := by decide
  have hbehind : compare "credentialConfig" "clusterConnectionInfo" = .gt := by decide
  have hcertificates : compare "certificateConfig" "adapterKey" = .gt := by decide
  have hbefore : compare "certificateConfig" "clusterConnectionInfo" = .lt := by decide
  have hbeforeBoth : compare "certificateConfig" "credentialConfig" = .lt := by decide
  obtain ⟨key, connection, credentials, certificates⟩ := r
  rw [toJson, Record.write, Value.canonical]
  cases connection <;> cases credentials <;> cases certificates <;>
    simp [record, required, omittable, connectionLabel, credentialsLabel, canonicalMembers,
      insertEntry, sections, hconnection, hcredentials, hbehind, hcertificates, hbefore, hbeforeBoth]

theorem redacted_eq (r : Request) :
    r.redacted = .object (r.sections fun _ => .string "REDACTED") := by
  rw [redacted, canonical_toJson]
  obtain ⟨key, connection, credentials, certificates⟩ := r
  cases connection <;> cases credentials <;> cases certificates <;> rfl

theorem redacted_congr {r r' : Request} (hkey : r.key = r'.key)
    (hcertificates : r.certificates = r'.certificates)
    (hconnection : r.connection.isSome = r'.connection.isSome)
    (hcredentials : r.credentials.isSome = r'.credentials.isSome) : r.redacted = r'.redacted := by
  have hsame {α : Type} {o o' : Option α} (h : o.isSome = o'.isSome) (m : String × Value) :
      o.toList.map (fun _ => m) = o'.toList.map fun _ => m := by
    cases o <;> cases o' <;> first | rfl | cases h
  rw [redacted_eq, redacted_eq, sections, sections, hkey, hcertificates, hsame hconnection,
    hsame hcredentials]

/-! ## Descriptions -/

/-- The request with an empty password and with credentials that have no values. -/
def withoutSecrets (r : Request) : Request :=
  { r with
    connection := r.connection.map fun c => { c with password := "" }
    credentials := r.credentials.map fun c =>
      { c with fields := c.fields.map fun f => { f with value := "" } } }

theorem description_withoutSecrets (document : Value → String) (r : Request) :
    r.withoutSecrets.description document = r.description document := by
  obtain ⟨key, connection, credentials, certificates⟩ := r
  have hconnection : (connection.map fun c => { c with password := "" }).map Connection.description =
      connection.map Connection.description := by
    cases connection <;> rfl
  have hcredentials : (credentials.map fun c =>
        { c with fields := c.fields.map fun f => { f with value := "" } }).map
          Credentials.description = credentials.map Credentials.description := by
    cases credentials with
    | none => rfl
    | some c =>
      rw [Option.map_some, Option.map_some, Option.map_some, Credentials.description, List.map_map]
      rfl
  rw [description, description, withoutSecrets, hconnection, hcredentials]

end Request

theorem Instance.description_congr {i i' : Instance} (hkey : i.key = i'.key)
    (hcredentials : i.credentials.keys = i'.credentials.keys)
    (huser : i.platform.map (·.user) = i'.platform.map (·.user)) :
    i.description = i'.description := by
  have hplatform (platform : Option PlatformUser) : platform.map PlatformUser.description =
      (platform.map (·.user)).map fun user => PlatformUser.description ⟨user, ""⟩ := by
    cases platform <;> rfl
  rw [description, description, hkey, hcredentials, hplatform, hplatform, huser]

/-! ## What secrets do not reach -/

/-- The texts for the log are the same whatever the secrets are. -/
structure SecretsCovered : Prop where
  /-- Redaction tells of the secret sections only whether they are there. -/
  redacted : ∀ r r' : Request, r.key = r'.key → r.certificates = r'.certificates →
    r.connection.isSome = r'.connection.isSome → r.credentials.isSome = r'.credentials.isSome →
    r.redacted = r'.redacted
  /-- Everything else is written as in the request itself. -/
  exact : ∀ r : Request, r.toJson.canonical = .object (r.sections id) ∧
    r.redacted = .object (r.sections fun _ => .string "REDACTED")
  /-- Descriptions tell nothing of passwords and of the values of credentials. -/
  described : ∀ (document : Value → String) (r r' : Request),
    r.withoutSecrets = r'.withoutSecrets → r.description document = r'.description document
  /-- Nor do those of instances. -/
  instances : ∀ i i' : Instance, i.key = i'.key → i.credentials.keys = i'.credentials.keys →
    i.platform.map (·.user) = i'.platform.map (·.user) → i.description = i'.description

/-- **Secrets reach neither the redacted request nor a description.** -/
theorem secretsCovered : SecretsCovered where
  redacted _ _ := Request.redacted_congr
  exact r := ⟨r.canonical_toJson, r.redacted_eq⟩
  described document r r' h := by
    rw [← r.description_withoutSecrets, h, r'.description_withoutSecrets]
  instances _ _ := Instance.description_congr

end AdapterGateway
