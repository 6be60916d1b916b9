import AdapterGateway.Proofs.Request.Presentation

/-!
# Refusals

What the text of a refusal tells of the secrets in a body.  Nothing as long as the secrets are texts:
two bodies that differ in them only are refused alike.  A secret that is no text is refused itself, and
the refusal then shows what it is.  All this is about bodies that can be read.  What the JSON library
says of any other is left open, and of secrets that are texts it is only shown that they do not decide
whether a body can be read.
-/

namespace AdapterGateway

open Json Text Inventory

/-! ## Bodies that differ in their secrets -/

def Connection.Differ (W : Tree → Tree → Prop) : Tree → Tree → Prop := record.Beside fun
  | .password => W
  | _ => fun _ _ => False

def CredentialField.Differ (W : Tree → Tree → Prop) : Tree → Tree → Prop := record.Beside fun
  | .value => W
  | _ => fun _ _ => False

def Credentials.Differ (W : Tree → Tree → Prop) : Tree → Tree → Prop := record.Beside fun
  | .fields => ListBeside (CredentialField.Differ W)
  | .kind => fun _ _ => False

/-- The two are the same but for passwords of connections and values of credentials, and those in one
    place are related by `W`. -/
def Request.Differ (W : Tree → Tree → Prop) (t t' : Tree) : Prop :=
  t = t' ∨ (record.Beside fun
    | .connection => Connection.Differ W
    | .credentials => Credentials.Differ W
    | _ => fun _ _ => False) t t'

/-- Why a secret is refused, if it is. -/
def refusal? (v : Tree) : Option DecodeError :=
  match asString v with
  | .error e => some e
  | .ok _ => none

theorem agree_asString {P P' : DecodeError → Prop} {v v' : Tree}
    (h : ∀ e, refusal? v = some e → refusal? v' = some e ∨ P e)
    (h' : ∀ e, refusal? v' = some e → refusal? v = some e ∨ P' e) :
    Agree P P' (Like False) (asString v) (asString v') := by
  unfold refusal? at h h'
  cases hv : asString v with
  | error e =>
    rw [hv] at h
    cases hv' : asString v' with
    | error e' =>
      rw [hv'] at h
      rcases h e rfl with hsame | hP
      · exact .inl (Option.some.inj hsame).symm
      · exact .inr (.inl hP)
    | ok s' =>
      rw [hv'] at h
      exact (h e rfl).resolve_left fun hsame => by cases hsame
  | ok s =>
    rw [hv] at h'
    cases hv' : asString v' with
    | error e' =>
      rw [hv'] at h'
      exact (h' e' rfl).resolve_left fun hsame => by cases hsame
    | ok s' => exact False.elim

section
variable {W : Tree → Tree → Prop} {P P' : DecodeError → Prop} {t t' : Tree}
variable (hW : ∀ v v', W v v' → Agree P P' (Like False) (asString v) (asString v'))
include hW

theorem Connection.agree_of_differ (h : Connection.Differ W t t') :
    Agree P P' (Like False) (read t) (read t') := by
  refine Record.agree_read_map (fun f t t' h => ?_) _ h
  cases f with
  | password => exact hW t t' h
  | _ => exact h.elim

theorem CredentialField.agree_of_differ (h : CredentialField.Differ W t t') :
    Agree P P' (Like False) (read t) (read t') := by
  refine Record.agree_read_map (fun f t t' h => ?_) _ h
  cases f with
  | value => exact hW t t' h
  | _ => exact h.elim

theorem Credentials.agree_of_differ (h : Credentials.Differ W t t') :
    Agree P P' (Like False) (read t) (read t') := by
  refine Record.agree_read_map (fun f t t' h => ?_) _ h
  cases f with
  | fields => exact agree_asList (fun _ _ => CredentialField.agree_of_differ hW) h
  | kind => exact h.elim

theorem Request.agree_of_differ (h : Request.Differ W t t') :
    Agree P P' (Like False) (read t) (read t') := by
  rcases h with rfl | h
  · exact agree_like_refl _
  refine Record.agree_read_map (fun f t t' h => ?_) _ h
  cases f with
  -- null stands for no section, and one that has a secret is not null
  | connection =>
    exact agree_asOptional (Record.Beside.ne_null h).1 (Record.Beside.ne_null h).2
      (Connection.agree_of_differ hW h)
  | credentials =>
    exact agree_asOptional (Record.Beside.ne_null h).1 (Record.Beside.ne_null h).2
      (Credentials.agree_of_differ hW h)
  | _ => exact h.elim

end

/-! ## What a refusal tells -/

/-- The secrets in one place are taken, or they are refused alike. -/
def TakenAlike (W : Tree → Tree → Prop) : Prop := ∀ v v', W v v' → refusal? v = refusal? v'

/-- The fault shows what stands in the place of a secret and is no text. -/
def Shows (v : Tree) (fault : Fault) : Prop :=
  ∃ found, v.found? = some found ∧ (∀ s, found ≠ .string s) ∧ fault = .clientInput
    ("Invalid request body: " ++ (DecodeError.wrongType found "a string").message)

/-- A secret that can be read is refused for being no text. -/
theorem shows_of_refusal? {v : Tree} {e : DecodeError} (h : refusal? v = some e)
    (hne : e ≠ .malformed) : Shows v (.clientInput ("Invalid request body: " ++ e.message)) := by
  have hother : ∀ s, v ≠ .string (some s) := by
    rintro s rfl
    cases h
  rw [refusal?, asString_of_ne hother, Tree.refuse] at h
  cases hfound : v.found? with
  | none =>
    rw [hfound] at h
    exact absurd (Option.some.inj h).symm hne
  | some found =>
    rw [hfound] at h
    cases h
    refine ⟨found, hfound, ?_, rfl⟩
    rintro s rfl
    exact hother s (found?_eq_string_iff.mp hfound)

namespace Request

/-- The JSON library can make out what the body says, as far as it is read.  It refuses any other body in
    its own words, which are not told apart here. -/
def Readable (body : Octets) : Prop := decode read body ≠ .error .malformed

variable {W : Tree → Tree → Prop} {body body' : Octets} {fault fault' : Fault} {e e' : DecodeError}

/-- A body that can be read is refused in words that are known. -/
theorem ofBody_eq_error (h : ofBody body = .error fault) : ∃ e, decode read body = .error e ∧
    (e ≠ .malformed → fault = .clientInput ("Invalid request body: " ++ e.message)) := by
  unfold ofBody at h
  by_cases hblank : body.all isAsciiBlank = true
  · refine ⟨.malformed, ?_, fun hne => absurd rfl hne⟩
    unfold decode
    rw [ofOctets_blank hblank]
    rfl
  · rw [if_neg hblank] at h
    cases hdecode : decode read body with
    | error e =>
      rw [hdecode] at h
      cases h
      exact ⟨e, rfl, fun _ => rfl⟩
    | ok r =>
      rw [hdecode] at h
      cases h

/-- Secrets that are refused alike leave nothing in which the bodies could be read differently. -/
theorem error_eq_of_takenAlike (hW : TakenAlike W)
    (hdiffer : Differ W (Document.ofOctets body).root (Document.ofOctets body').root)
    (h : decode read body = .error e) (h' : decode read body' = .error e') : e = e' := by
  have hagree : Agree (fun _ => False) (fun _ => False) (Like False)
      (read (Document.ofOctets body).root) (read (Document.ofOctets body').root) := by
    refine agree_of_differ (fun v v' hv => agree_asString (fun e he => ?_) fun e he => ?_) hdiffer
    · exact .inl (hW v v' hv ▸ he)
    · exact .inl ((hW v v' hv).symm ▸ he)
  -- where one body is read to its end so is the other, and both are refused for what follows
  rcases decode_eq_error_iff.mp h with hread | ⟨⟨r, hread⟩, _, rfl⟩
  · rcases decode_eq_error_iff.mp h' with hread' | ⟨⟨r', hread'⟩, _, rfl⟩
    · rw [hread, hread'] at hagree
      exact hagree.resolve_right fun hfalse => hfalse.elim id id
    · rw [hread, hread'] at hagree
      exact hagree.elim
  · rcases decode_eq_error_iff.mp h' with hread' | ⟨⟨r', hread'⟩, _, rfl⟩
    · rw [hread, hread'] at hagree
      exact hagree.elim
    · rfl

/-- Two reasons differ only where one of them is why a secret is refused. -/
theorem error_eq_or_refusal?
    (hdiffer : Differ W (Document.ofOctets body).root (Document.ofOctets body').root)
    (h : decode read body = .error e) (hne : e ≠ .malformed)
    (h' : decode read body' = .error e') (hne' : e' ≠ .malformed) :
    e = e' ∨ ∃ v v', W v v' ∧ (refusal? v = some e ∨ refusal? v' = some e') := by
  have hagree : Agree (fun e => ∃ v v', W v v' ∧ refusal? v = some e)
      (fun e => ∃ v v', W v v' ∧ refusal? v' = some e) (Like False)
      (read (Document.ofOctets body).root) (read (Document.ofOctets body').root) :=
    agree_of_differ (fun v v' hv => agree_asString (fun e he => .inr ⟨v, v', hv, he⟩)
      fun e he => .inr ⟨v, v', hv, he⟩) hdiffer
  have hread := (decode_eq_error_iff.mp h).resolve_right fun hlate => hne hlate.2.2
  have hread' := (decode_eq_error_iff.mp h').resolve_right fun hlate => hne' hlate.2.2
  rw [hread, hread'] at hagree
  rcases hagree with hsame | ⟨v, v', hv, hrefusal⟩ | ⟨v, v', hv, hrefusal⟩
  · exact .inl hsame
  · exact .inr ⟨v, v', hv, .inl hrefusal⟩
  · exact .inr ⟨v, v', hv, .inr hrefusal⟩

/-- What two refusals may tell of the secrets that their bodies differ in. -/
structure RefusedAlike (W : Tree → Tree → Prop) (body body' : Octets) (fault fault' : Fault) :
    Prop where
  /-- Secrets that are taken or refused alike, as all texts are, do not decide whether a body can be
      read. -/
  readable_iff : TakenAlike W → (Readable body ↔ Readable body')
  /-- Nothing is told of such secrets. -/
  alike : TakenAlike W → Readable body → fault = fault'
  /-- Nothing is told of any others but what one of them is, which is no text. -/
  shown : Readable body → Readable body' →
    fault = fault' ∨ ∃ v v', W v v' ∧ (Shows v fault ∨ Shows v' fault')

/-- **A refusal tells nothing of a secret that is a text.** -/
theorem refusedAlike
    (hdiffer : Differ W (Document.ofOctets body).root (Document.ofOctets body').root)
    (h : ofBody body = .error fault) (h' : ofBody body' = .error fault') :
    RefusedAlike W body body' fault fault' := by
  obtain ⟨e, he, hfault⟩ := ofBody_eq_error h
  obtain ⟨e', he', hfault'⟩ := ofBody_eq_error h'
  have hne (hreadable : Readable body) : e ≠ .malformed := fun hslip => hreadable (hslip ▸ he)
  have hne' (hreadable : Readable body') : e' ≠ .malformed := fun hslip => hreadable (hslip ▸ he')
  refine ⟨fun hW => ?_, fun hW hreadable => ?_, fun hreadable hreadable' => ?_⟩
  · obtain rfl := error_eq_of_takenAlike hW hdiffer he he'
    rw [Readable, Readable, he, he']
  · obtain rfl := error_eq_of_takenAlike hW hdiffer he he'
    rw [hfault (hne hreadable), hfault' (hne hreadable)]
  · rw [hfault (hne hreadable), hfault' (hne' hreadable')]
    rcases error_eq_or_refusal? hdiffer he (hne hreadable) he' (hne' hreadable') with
      rfl | ⟨v, v', hv, hrefusal | hrefusal⟩
    · exact .inl rfl
    · exact .inr ⟨v, v', hv, .inl (shows_of_refusal? hrefusal (hne hreadable))⟩
    · exact .inr ⟨v, v', hv, .inr (shows_of_refusal? hrefusal (hne' hreadable'))⟩

end Request

/-- A body without an adapter key and with a password given as JSON. -/
def keyless (password : String) : Octets :=
  encode ("\x7b\"clusterConnectionInfo\":\x7b\"password\":" ++ password ++ "\x7d\x7d")

/-- Two passwords, the second with a mark in it that is escaped. -/
def TwoPasswords (v v' : Tree) : Prop := v = .string (some "a") ∧ v' = .string (some "it\"s")

theorem refusedAlike_keyless :
    Request.Differ TwoPasswords (Document.ofOctets (keyless "\"a\"")).root
        (Document.ofOctets (keyless "\"it\\\"s\"")).root ∧
      Request.ofBody (keyless "\"a\"") =
        .error (.clientInput "Invalid request body: missing field `adapterKey`") ∧
      Request.ofBody (keyless "\"it\\\"s\"") =
        .error (.clientInput "Invalid request body: missing field `adapterKey`") ∧
      Request.RefusedAlike TwoPasswords (keyless "\"a\"") (keyless "\"it\\\"s\"")
        (.clientInput "Invalid request body: missing field `adapterKey`")
        (.clientInput "Invalid request body: missing field `adapterKey`") ∧
      TakenAlike TwoPasswords ∧ Request.Readable (keyless "\"a\"") := by
  have hdiffer : Request.Differ TwoPasswords (Document.ofOctets (keyless "\"a\"")).root
      (Document.ofOctets (keyless "\"it\\\"s\"")).root := by
    refine .inr (.object .exact (.cons (.content (f := .connection) rfl ?_) .nil))
    exact .object .exact (.cons (.content rfl ⟨rfl, rfl⟩) .nil)
  have htaken : TakenAlike TwoPasswords := by
    rintro v v' ⟨rfl, rfl⟩
    rfl
  have hread : decode Request.read (keyless "\"a\"") = .error (.missingField "adapterKey") := rfl
  refine ⟨hdiffer, rfl, rfl, Request.refusedAlike hdiffer rfl rfl, htaken, fun hslip => ?_⟩
  cases hread.symm.trans hslip

/-- A password that is a number is shown: bodies that differ in it only are refused with two texts. -/
theorem password_shown :
    (Document.ofOctets (keyless "1")).complete = true ∧
      (Document.ofOctets (keyless "2")).complete = true ∧
      Request.Differ (fun v v' => v = .number (.integer 1) ∧ v' = .number (.integer 2))
        (Document.ofOctets (keyless "1")).root (Document.ofOctets (keyless "2")).root ∧
      Request.ofBody (keyless "1") =
        .error (.clientInput "Invalid request body: invalid type: integer `1`, expected a string") ∧
      Request.ofBody (keyless "2") =
        .error (.clientInput "Invalid request body: invalid type: integer `2`, expected a string") ∧
      Request.ofBody (keyless "1") ≠ Request.ofBody (keyless "2") := by
  have hdiffer : Request.Differ (fun v v' => v = .number (.integer 1) ∧ v' = .number (.integer 2))
      (Document.ofOctets (keyless "1")).root (Document.ofOctets (keyless "2")).root := by
    refine .inr (.object .exact (.cons (.content (f := .connection) rfl ?_) .nil))
    exact .object .exact (.cons (.content rfl ⟨rfl, rfl⟩) .nil)
  have hleft : Request.ofBody (keyless "1") =
      .error (.clientInput "Invalid request body: invalid type: integer `1`, expected a string") := rfl
  have hright : Request.ofBody (keyless "2") =
      .error (.clientInput "Invalid request body: invalid type: integer `2`, expected a string") := rfl
  refine ⟨rfl, rfl, hdiffer, hleft, hright, fun hsame => ?_⟩
  rw [hleft, hright, Except.error.injEq, Fault.clientInput.injEq] at hsame
  exact absurd hsame (by decide)

end AdapterGateway
