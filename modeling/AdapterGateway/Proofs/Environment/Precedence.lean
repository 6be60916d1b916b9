import AdapterGateway.Proofs.Environment.Contents
import AdapterGateway.Proofs.Occurrence
import AdapterGateway.Proofs.Text.Strict

/-!
# Precedence among variables

All that could stand under a name of an environment, in the order in which it comes first: the last
credential of that name, the last identifier, the fixed variable, and the last inherited variable
whose value is text, if its name is listed.  So of the gateway's own environment nothing matters but
the listed names.
-/

namespace AdapterGateway

open Text Inventory

namespace Environment

/-! ## Layers of a request -/

/-- The fixed variables of a request, with empty texts where it names no way to the platform. -/
inductive FixedVariable (r : Request) : String → String → Prop where
  | adapterKind : FixedVariable r "ADAPTER_KIND" r.key.adapterKind
  | objectKind : FixedVariable r "ADAPTER_INSTANCE_OBJECT_KIND" r.key.objectKind
  | user {c : Connection} : r.connection = some c → FixedVariable r "SUITE_API_USER" c.userName
  | password {c : Connection} :
    r.connection = some c → FixedVariable r "SUITE_API_PASSWORD" c.password
  | noUser : r.connection = none → FixedVariable r "SUITE_API_USER" ""
  | noPassword : r.connection = none → FixedVariable r "SUITE_API_PASSWORD" ""

theorem mem_fixed_iff {r : Request} {name value : String} :
    (name, value) ∈ fixed r ↔ FixedVariable r name value := by
  simp only [fixed, List.mem_cons, Prod.mk.injEq, List.not_mem_nil, or_false]
  constructor
  · rintro (⟨rfl, rfl⟩ | ⟨rfl, rfl⟩ | ⟨rfl, rfl⟩ | ⟨rfl, rfl⟩)
    · exact .adapterKind
    · exact .objectKind
    · cases hc : r.connection with
      | none => exact .noUser hc
      | some c => exact .user hc
    · cases hc : r.connection with
      | none => exact .noPassword hc
      | some c => exact .password hc
  · intro h
    cases h with
    | adapterKind => exact .inl ⟨rfl, rfl⟩
    | objectKind => exact .inr (.inl ⟨rfl, rfl⟩)
    | user hc => exact .inr (.inr (.inl ⟨rfl, by rw [hc]; rfl⟩))
    | password hc => exact .inr (.inr (.inr ⟨rfl, by rw [hc]; rfl⟩))
    | noUser hc => exact .inr (.inr (.inl ⟨rfl, by rw [hc]; rfl⟩))
    | noPassword hc => exact .inr (.inr (.inr ⟨rfl, by rw [hc]; rfl⟩))

theorem lastValue?_fixed_eq_some_iff {r : Request} {name value : String} :
    lastValue? (fixed r) name = some value ↔ FixedVariable r name value := by
  have hkeys : ((fixed r).map (·.1)).Nodup := by
    rw [map_fst_fixed]
    decide
  rw [lastValue?_eq_some_iff hkeys, mem_fixed_iff]

theorem lastValue?_fixed_eq_none_iff {r : Request} {name : String} :
    lastValue? (fixed r) name = none ↔ name ∉ fixedNames := by
  rw [lastValue?_eq_none_iff, map_fst_fixed]

theorem not_mem_exportedNames_iff {r : Request} {name : String} :
    name ∉ exportedNames r ↔ name ∉ fixedNames ∧
      (∀ i ∈ r.key.identifiers, identifierName i.key ≠ name) ∧
      ∀ f ∈ r.credentialFields, credentialName f.key ≠ name := by
  unfold exportedNames
  simp only [List.mem_append, List.mem_map, not_or, not_exists, not_and, and_assoc, ne_eq]

theorem lastValue?_ofRequest_of_open {request : Option Request} {name : String}
    (hopen : ∀ r, request = some r → name ∉ exportedNames r) :
    lastValue? (ofRequest request) name = none := by
  cases request with
  | none => rfl
  | some r =>
    rw [lastValue?_eq_none_iff, map_fst_ofRequest]
    exact hopen r rfl

/-! ## Inherited variables -/

/-- The last inherited variable of that name whose value is text has this value. -/
def Inherits (raw : Raw) (name value : String) : Prop :=
  ∃ entry, IsLast (fun e => e.1 = encode name ∧ ∃ text, e.2 = encode text) raw entry ∧
    entry.2 = encode value

theorem passed?_eq_some_iff {raw : Raw} {names : List String} {name value : String} :
    passed? raw names name = some value ↔ name ∈ names ∧ Inherits raw name value := by
  by_cases hlisted : name ∈ names
  · -- an entry passes if it has the name and its value is text, so the last that passes is the last
    -- of those
    have hpass : ∀ entry text, pass? names entry = some (name, text) ↔
        entry.1 = encode name ∧ entry.2 = encode text := by
      intro entry text
      rw [pass?_eq_some_iff, decode?_eq_some_iff, decode?_eq_some_iff]
      simp only [hlisted, true_and]
    have hmatch : (fun entry => ∃ v, pass? names entry = some v ∧ v.1 = name) =
        fun entry => entry.1 = encode name ∧ ∃ text, entry.2 = encode text := by
      funext entry
      simp only [Prod.exists, and_comm, exists_eq_left, hpass, exists_and_left]
    unfold passed? inherit Inherits
    rw [lastValue?_eq_some_iff_isLast, isLast_filterMap, hmatch]
    simp only [hpass, hlisted, true_and]
    constructor
    · intro ⟨entry, ⟨_, hvalue⟩, hlast⟩
      exact ⟨entry, hlast, hvalue⟩
    · intro ⟨entry, hlast, hvalue⟩
      exact ⟨entry, ⟨hlast.1.1, hvalue⟩, hlast⟩
  · rw [passed?_of_not_listed raw names hlisted]
    simp [hlisted]

-- A value that is no text does not take the place of an earlier one.
example :
    passed? [(encode "PATH", encode "/bin"), (encode "PATH", [0xFF])] ["PATH"] "PATH" =
      some "/bin" := rfl

/-! ## What stands under a name -/

/-- What stands under a name, if anything does. -/
inductive Holds (raw : Raw) (names : List String) (request : Option Request) (name : String) :
    Option String → Prop where
  | credential {r : Request} {f : CredentialField} : request = some r →
    IsLast (fun f => credentialName f.key = name) r.credentialFields f →
    Holds raw names request name (some f.value)
  | identifier {r : Request} {i : Identifier} : request = some r →
    (∀ f ∈ r.credentialFields, credentialName f.key ≠ name) →
    IsLast (fun i => identifierName i.key = name) r.key.identifiers i →
    Holds raw names request name (some i.value)
  | fixed {r : Request} {value : String} : request = some r →
    (∀ f ∈ r.credentialFields, credentialName f.key ≠ name) →
    (∀ i ∈ r.key.identifiers, identifierName i.key ≠ name) →
    FixedVariable r name value →
    Holds raw names request name (some value)
  | inherited {value : String} : (∀ r, request = some r → name ∉ exportedNames r) →
    name ∈ names → Inherits raw name value →
    Holds raw names request name (some value)
  | unset : (∀ r, request = some r → name ∉ exportedNames r) →
    (name ∈ names → ∀ value, ¬ Inherits raw name value) →
    Holds raw names request name none

variable {raw : Raw} {names : List String} {request : Option Request} {name : String}

theorem holds_passed? (hopen : ∀ r, request = some r → name ∉ exportedNames r) :
    Holds raw names request name (passed? raw names name) := by
  cases hpassed : passed? raw names name with
  | some value =>
    obtain ⟨hlisted, hvalue⟩ := passed?_eq_some_iff.mp hpassed
    exact .inherited hopen hlisted hvalue
  | none =>
    apply Holds.unset hopen
    intro hlisted value hvalue
    rw [passed?_eq_some_iff.mpr ⟨hlisted, hvalue⟩] at hpassed
    cases hpassed

/-- The layers of a request from the foremost to the last, and what is passed behind them. -/
theorem get?_build_some (raw : Raw) (names : List String) (r : Request) (name : String) :
    (build raw names (some r)).get? name =
      ((lastValue? (ofCredentials r) name).or
        ((lastValue? (ofIdentifiers r) name).or (lastValue? (fixed r) name))).or
      (passed? raw names name) := by
  rw [get?_build, ofRequest, lastValue?_append, lastValue?_append]

theorem holds_get?_build (raw : Raw) (names : List String) (request : Option Request)
    (name : String) : Holds raw names request name ((build raw names request).get? name) := by
  cases request with
  | none =>
    rw [get?_build]
    exact holds_passed? fun r hr => by cases hr
  | some r =>
    -- the first layer that has the name decides, so the cases go from the foremost to the last
    rw [get?_build_some]
    cases hcredential : lastValue? (ofCredentials r) name with
    | some value =>
      obtain ⟨f, hlast, rfl⟩ := lastValue?_map_eq_some_iff.mp hcredential
      exact .credential rfl hlast
    | none =>
    have hcredentials := lastValue?_map_eq_none_iff.mp hcredential
    cases hidentifier : lastValue? (ofIdentifiers r) name with
    | some value =>
      obtain ⟨i, hlast, rfl⟩ := lastValue?_map_eq_some_iff.mp hidentifier
      exact .identifier rfl hcredentials hlast
    | none =>
    have hidentifiers := lastValue?_map_eq_none_iff.mp hidentifier
    cases hfixed : lastValue? (fixed r) name with
    | some value =>
      exact .fixed rfl hcredentials hidentifiers (lastValue?_fixed_eq_some_iff.mp hfixed)
    | none =>
      apply holds_passed?
      intro r' hr'
      cases hr'
      exact not_mem_exportedNames_iff.mpr
        ⟨lastValue?_fixed_eq_none_iff.mp hfixed, hidentifiers, hcredentials⟩

theorem get?_build_of_holds {value? : Option String} (h : Holds raw names request name value?) :
    (build raw names request).get? name = value? := by
  cases h with
  | credential hrequest hlast =>
    have hcredential : lastValue? (ofCredentials _) name = _ :=
      lastValue?_map_eq_some_iff.mpr ⟨_, hlast, rfl⟩
    rw [hrequest, get?_build_some, hcredential]
    rfl
  | identifier hrequest hcredentials hlast =>
    have hcredential : lastValue? (ofCredentials _) name = none :=
      lastValue?_map_eq_none_iff.mpr hcredentials
    have hidentifier : lastValue? (ofIdentifiers _) name = _ :=
      lastValue?_map_eq_some_iff.mpr ⟨_, hlast, rfl⟩
    rw [hrequest, get?_build_some, hcredential, hidentifier]
    rfl
  | fixed hrequest hcredentials hidentifiers hfixed =>
    have hcredential : lastValue? (ofCredentials _) name = none :=
      lastValue?_map_eq_none_iff.mpr hcredentials
    have hidentifier : lastValue? (ofIdentifiers _) name = none :=
      lastValue?_map_eq_none_iff.mpr hidentifiers
    rw [hrequest, get?_build_some, hcredential, hidentifier,
      lastValue?_fixed_eq_some_iff.mpr hfixed]
    rfl
  | inherited hopen hlisted hvalue =>
    rw [get?_build, lastValue?_ofRequest_of_open hopen, Option.none_or]
    exact passed?_eq_some_iff.mpr ⟨hlisted, hvalue⟩
  | unset hopen hnone =>
    rw [get?_build, lastValue?_ofRequest_of_open hopen, Option.none_or]
    apply Option.eq_none_iff_forall_ne_some.mpr
    intro value hpassed
    obtain ⟨hlisted, hvalue⟩ := passed?_eq_some_iff.mp hpassed
    exact hnone hlisted value hvalue

/-- All that an environment holds, and all of the gateway's own environment that matters to it. -/
structure ContentExact (raw : Raw) (names : List String) (request : Option Request) : Prop where
  get?_eq_iff : ∀ name value?,
    (build raw names request).get? name = value? ↔ Holds raw names request name value?
  /-- Gateways that agree on the listed names build the same environment. -/
  eq_of_agree : ∀ raw' : Raw,
    (∀ name ∈ names, ∀ value, Inherits raw name value ↔ Inherits raw' name value) →
    build raw names request = build raw' names request

/-- **What stands under a name is the last of the foremost kind.** -/
theorem contentExact (raw : Raw) (names : List String) (request : Option Request) :
    ContentExact raw names request where
  get?_eq_iff name value? := by
    constructor
    · rintro rfl
      exact holds_get?_build raw names request name
    · exact get?_build_of_holds
  eq_of_agree raw' hagree := by
    apply Dictionary.ext_get?
    intro name
    have hpassed : passed? raw names name = passed? raw' names name := by
      apply Option.ext
      intro value
      rw [passed?_eq_some_iff, passed?_eq_some_iff]
      exact and_congr_right fun hlisted => hagree name hlisted value
    rw [get?_build, get?_build, hpassed]

end Environment
end AdapterGateway
