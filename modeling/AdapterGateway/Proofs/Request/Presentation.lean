import AdapterGateway.Proofs.Inventory.Keys
import AdapterGateway.Proofs.Json.Edits
import AdapterGateway.Proofs.Json.Extent
import AdapterGateway.Request
import Mathlib.Logic.Relation

/-!
# Presentation of requests

A request is what its body says, however the body says it.  The order of members, members of unknown
names, the name under which the connection stands and null for an absent section make no difference, on
any level of the body.  The text that a request is written as is read back as the same request.
-/

namespace AdapterGateway

open Json Text Inventory

/-! ## Edits -/

def Inventory.Identifier.Edit : Tree → Tree → Prop := record.Edit fun _ _ _ => False

def Inventory.Key.Edit : Tree → Tree → Prop := record.Edit fun
  | .identifiers => ListBeside Identifier.Edit
  | _ => fun _ _ => False

def Connection.Edit : Tree → Tree → Prop := record.Edit fun _ _ _ => False

def CredentialField.Edit : Tree → Tree → Prop := record.Edit fun _ _ _ => False

def Credentials.Edit : Tree → Tree → Prop := record.Edit fun
  | .fields => ListBeside CredentialField.Edit
  | .kind => fun _ _ => False

def Certificates.Edit : Tree → Tree → Prop := record.Edit fun _ _ _ => False

/-- One change to how a request is written: to its own members or inside one of its sections. -/
def Request.Edit : Tree → Tree → Prop := record.Edit fun
  | .key => Key.Edit
  | .connection => Connection.Edit
  | .credentials => Credentials.Edit
  | .certificates => Certificates.Edit

section
variable {t t' : Tree}

theorem Inventory.Identifier.keeps_of_edit (h : Identifier.Edit t t') : Keeps Identifier.read t t' :=
  (Record.Edit.keeps (fun _ _ _ h => h.elim) h).bind _

theorem Inventory.Key.keeps_of_edit (h : Key.Edit t t') : Keeps Key.read t t' := by
  refine (Record.Edit.keeps (fun f t t' h => ?_) h).bind _
  cases f with
  | identifiers => exact keeps_asList (fun _ _ => Identifier.keeps_of_edit) h
  | _ => exact h.elim

theorem Connection.keeps_of_edit (h : Connection.Edit t t') : Keeps Connection.read t t' :=
  (Record.Edit.keeps (fun _ _ _ h => h.elim) h).bind _

theorem CredentialField.keeps_of_edit (h : CredentialField.Edit t t') :
    Keeps CredentialField.read t t' :=
  (Record.Edit.keeps (fun _ _ _ h => h.elim) h).bind _

theorem Credentials.keeps_of_edit (h : Credentials.Edit t t') : Keeps Credentials.read t t' := by
  refine (Record.Edit.keeps (fun f t t' h => ?_) h).bind _
  cases f with
  | fields => exact keeps_asList (fun _ _ => CredentialField.keeps_of_edit) h
  | kind => exact h.elim

theorem Certificates.keeps_of_edit (h : Certificates.Edit t t') : Keeps Certificates.read t t' :=
  (Record.Edit.keeps (fun _ _ _ h => h.elim) h).bind _

theorem Request.keeps_of_edit (h : Request.Edit t t') : Keeps Request.read t t' := by
  refine (Record.Edit.keeps (fun f t t' h => ?_) h).bind _
  cases f with
  | key => exact Key.keeps_of_edit h
  | connection =>
    exact keeps_asOptional (Record.Edit.ne_null h).1 (Record.Edit.ne_null h).2
      (Connection.keeps_of_edit h)
  | credentials =>
    exact keeps_asOptional (Record.Edit.ne_null h).1 (Record.Edit.ne_null h).2
      (Credentials.keeps_of_edit h)
  | certificates =>
    exact keeps_asOptional (Record.Edit.ne_null h).1 (Record.Edit.ne_null h).2
      (Certificates.keeps_of_edit h)

theorem Request.keeps_of_edits (h : Relation.ReflTransGen Edit t t') : Keeps read t t' := by
  induction h with
  | refl => exact fun _ h => h
  | tail _ hlast ih => exact fun r hread => keeps_of_edit hlast r (ih r hread)

end

/-! ## Written requests -/

theorem Connection.read_toJson (c : Connection) : read c.toJson.tree = .ok c := by
  refine (Record.bind_read_write (by decide) (fun f => ?_) (fun f v hv => ?_) fun f h => ?_).trans rfl
  · cases f <;> rfl
  · cases f <;> cases hv <;> rfl
  · cases f <;> cases h

theorem CredentialField.read_toJson (c : CredentialField) : read c.toJson.tree = .ok c := by
  refine (Record.bind_read_write (by decide) (fun f => ?_) (fun f v hv => ?_) fun f h => ?_).trans rfl
  · cases f <;> rfl
  · cases f <;> cases hv <;> rfl
  · cases f <;> cases h

theorem Credentials.read_toJson (c : Credentials) : read c.toJson.tree = .ok c := by
  refine (Record.bind_read_write (by decide) (fun f => ?_) (fun f v hv => ?_) fun f h => ?_).trans rfl
  · cases f <;> rfl
  · cases f with
    | kind =>
      cases hv
      obtain ⟨_ | kind, fields⟩ := c <;> rfl
    | fields =>
      cases hv
      exact asList_tree fun field _ => field.read_toJson
  · cases f <;> cases h

/-- Certificates are written as they are, so they have to be in order to be read back. -/
theorem Certificates.read_toJson {c : Certificates} (h : ∀ v ∈ c.items, v.InOrder) :
    read c.toJson.tree = .ok c := by
  refine (Record.bind_read_write (by decide) (fun f => ?_) (fun f v hv => ?_) fun f h => ?_).trans rfl
  · cases f
    rfl
  · cases f
    cases hv
    have hitems := @asList_tree Value asDocument id c.items fun v hv => by
      rw [asDocument, id, asValue_tree]
      exact congrArg Except.ok (h v hv).canonical_eq
    rw [List.map_id] at hitems
    exact hitems
  · cases f
    cases h

theorem Request.read_toJson {r : Request}
    (h : ∀ c, r.certificates = some c → ∀ v ∈ c.items, v.InOrder) :
    read r.toJson.tree = .ok r := by
  obtain ⟨key, connection, credentials, certificates⟩ := r
  refine (Record.bind_read_write (by decide) (fun f => ?_) (fun f v hv => ?_)
    fun f habsent => ?_).trans rfl
  · cases f <;> rfl
  · cases f with
    | key =>
      cases hv
      exact key.read_toJson
    | connection =>
      obtain ⟨c, rfl, rfl⟩ := Option.map_eq_some_iff.mp hv
      exact congrArg (Except.map some) c.read_toJson
    | credentials =>
      obtain ⟨c, rfl, rfl⟩ := Option.map_eq_some_iff.mp hv
      exact congrArg (Except.map some) c.read_toJson
    | certificates =>
      obtain ⟨c, rfl, rfl⟩ := Option.map_eq_some_iff.mp hv
      exact congrArg (Except.map some) (Certificates.read_toJson (h c rfl))
  · -- a section that is left out is absent
    cases f with
    | key => cases habsent
    | _ =>
      cases Option.map_eq_none_iff.mp habsent
      rfl

/-! ## Levels of brackets -/

theorem Connection.fits_toJson (c : Connection) : c.toJson.Fits 1 := by
  refine Record.fits_write _ _ fun f v hv => ?_
  cases f <;> cases hv <;> exact .string _

theorem CredentialField.fits_toJson (c : CredentialField) : c.toJson.Fits 1 := by
  refine Record.fits_write _ _ fun f v hv => ?_
  cases f <;> cases hv
  · exact .string _
  · exact .string _
  · exact .bool _

theorem Credentials.fits_toJson (c : Credentials) : c.toJson.Fits 3 := by
  refine Record.fits_write _ _ fun f v hv => ?_
  cases f with
  | kind =>
    cases hv
    obtain ⟨_ | kind, fields⟩ := c
    · exact .null
    · exact .string _
  | fields =>
    cases hv
    exact fits_listOf CredentialField.fits_toJson _

theorem Certificates.fits_toJson {c : Certificates} {depth : Nat} (h : ∀ v ∈ c.items, v.Fits depth) :
    c.toJson.Fits (depth + 2) := by
  refine Record.fits_write _ _ fun f v hv => ?_
  cases f
  cases hv
  exact .list h

theorem Request.fits_toJson {r : Request}
    (h : ∀ c, r.certificates = some c → ∀ v ∈ c.items, v.Fits 124) : r.toJson.Fits maxDepth := by
  -- around a certificate stand its list, the section and the request
  refine Record.fits_write _ _ fun f v hv => ?_
  cases f with
  | key =>
    cases hv
    exact r.key.plain_toJson.fits.mono (by decide)
  | connection =>
    obtain ⟨c, _, rfl⟩ := Option.map_eq_some_iff.mp hv
    exact c.fits_toJson.mono (by decide)
  | credentials =>
    obtain ⟨c, _, rfl⟩ := Option.map_eq_some_iff.mp hv
    exact c.fits_toJson.mono (by decide)
  | certificates =>
    obtain ⟨c, hc, rfl⟩ := Option.map_eq_some_iff.mp hv
    exact Certificates.fits_toJson (h c hc)

/-! ## Certificates of a request that was read -/

theorem Certificates.stable_of_read {depth : Nat} {t : Tree} (ht : t.Whole (depth + 2))
    {c : Certificates} (h : read t = .ok c) : ∀ v ∈ c.items, v.Stable depth := by
  intro v hv
  obtain ⟨row, hrow, h⟩ := bind_eq_ok h
  cases h
  rcases Record.exists_child_of_read (by decide) hrow .items rfl rfl with hnone | ⟨child, hchild, hread⟩
  · have hempty : row .items = [] := (Option.some.inj hnone).symm
    dsimp only at hv
    rw [hempty] at hv
    cases hv
  · obtain ⟨leaf, hleaf, hvalue⟩ := exists_child_of_asList hread hv
    exact ((ht.children child hchild).children leaf hleaf).stable hvalue

theorem Request.stable_of_read {t : Tree} (ht : t.Whole maxDepth) {r : Request}
    (h : read t = .ok r) : ∀ c, r.certificates = some c → ∀ v ∈ c.items, v.Stable 124 := by
  intro c hc
  obtain ⟨row, hrow, h⟩ := bind_eq_ok h
  cases h
  dsimp only at hc
  rcases Record.exists_child_of_read (by decide) hrow .certificates rfl rfl with hnone | ⟨child, hchild, hread⟩
  · rw [← Option.some.inj hnone] at hc
    cases hc
  · rw [hc] at hread
    exact Certificates.stable_of_read (ht.children child hchild) (read_of_asOptional hread)

/-! ## Bodies -/

/-- A body that is a document is read as it is. -/
theorem Request.ofBody_of_complete {body : Octets}
    (hcomplete : (Document.ofOctets body).complete = true) :
    ofBody body = (read (Document.ofOctets body).root).mapError fun e =>
      .clientInput ("Invalid request body: " ++ e.message) := by
  have hblank : ¬body.all isAsciiBlank = true := by
    intro hblank
    rw [ofOctets_blank hblank] at hcomplete
    cases hcomplete
  unfold ofBody decode
  rw [if_neg hblank]
  dsimp only
  rw [hcomplete]
  cases read (Document.ofOctets body).root <;> rfl

theorem Request.complete_of_ofBody {body : Octets} {r : Request} (h : ofBody body = .ok r) :
    (Document.ofOctets body).complete = true := by
  unfold ofBody at h
  split at h
  · cases h
  · split at h
    · rename_i hdecode
      exact (decode_eq_ok_iff.mp hdecode).1
    · cases h

theorem Request.ofBody_eq_ok_iff {body : Octets} {r : Request} : ofBody body = .ok r ↔
    (Document.ofOctets body).complete = true ∧ read (Document.ofOctets body).root = .ok r := by
  constructor
  · intro h
    have hcomplete := complete_of_ofBody h
    rw [ofBody_of_complete hcomplete] at h
    cases hread : read (Document.ofOctets body).root with
    | error e =>
      rw [hread] at h
      cases h
    | ok c =>
      rw [hread] at h
      cases h
      exact ⟨hcomplete, rfl⟩
  · rintro ⟨hcomplete, hread⟩
    rw [ofBody_of_complete hcomplete, hread]
    rfl

/-- Every section but the key may be null where it is absent. -/
theorem Request.nullable_iff {f : Part} : record.Nullable f ↔ f ≠ .key := by
  constructor
  · rintro ⟨value, _, hfallback⟩ rfl
    cases hfallback
  · intro hf
    cases f with
    | key => exact absurd rfl hf
    | _ => exact ⟨none, rfl, rfl⟩

/-- The body means the request however it is presented. -/
structure Request.Presented (body : Octets) (r : Request) : Prop where
  /-- Edits may be made in any number and on all levels. -/
  restated : ∀ other, (Document.ofOctets other).complete = true →
    Relation.ReflTransGen Edit (Document.ofOctets body).root (Document.ofOctets other).root →
    ofBody other = .ok r
  /-- A member that is added may hold anything that stands in a document. -/
  addable : ∀ other, (Document.ofOctets other).complete = true →
    ∀ t, (Document.ofOctets other).root.Holds t → skip t = .ok ()
  nullable : ∀ f, record.Nullable f ↔ f ≠ .key
  /-- What the request is written as means the request again, as far as the doubles in certificates
      come back from their texts. -/
  reread : (∀ x ∈ r.toJson.reals, ReadsBack x) → ofBody (encode r.toJson.text) = .ok r

/-- **A request does not depend on how its body presents it.** -/
theorem Request.presented_of_ofBody {body : Octets} {r : Request} (h : ofBody body = .ok r) :
    Presented body r := by
  obtain ⟨hcomplete, hread⟩ := ofBody_eq_ok_iff.mp h
  have hstable := stable_of_read (whole_ofOctets body hcomplete) hread
  refine {
    restated := fun other hother hedits => ?_
    addable := fun other hother t ht => ?_
    nullable := fun f => nullable_iff
    reread := fun hreals => ?_ }
  · exact ofBody_eq_ok_iff.mpr ⟨hother, keeps_of_edits hedits r hread⟩
  · obtain ⟨_, hwhole⟩ := (whole_ofOctets other hother).holds ht
    exact hwhole.skip_eq
  · have hfits := fits_toJson fun c hc v hv => (hstable c hc v hv).fits
    rw [ofBody_eq_ok_iff, ofOctets_text hfits hreals]
    exact ⟨rfl, read_toJson fun c hc v hv => (hstable c hc v hv).inOrder⟩

/-- A body with the connection under its second name and a member of an unknown name. -/
def aliasedBody : Octets :=
  encode ("\x7b\"internalRestCredential\":\x7b\"password\":\"pw\"\x7d,\"other\":[1]," ++
    "\"adapterKey\":\x7b\"objectKind\":\"Y\",\"adapterKind\":\"X\"\x7d\x7d")

theorem presented_aliasedBody :
    Request.ofBody aliasedBody = .ok { key := .make "X" "Y" "" [], connection := some ⟨"", "pw", ""⟩ } ∧
      Request.Presented aliasedBody
        { key := .make "X" "Y" "" [], connection := some ⟨"", "pw", ""⟩ } :=
  ⟨rfl, Request.presented_of_ofBody rfl⟩

end AdapterGateway
