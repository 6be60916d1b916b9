import AdapterGateway.Proofs.Environment.Reading

/-!
# From the request to the instance

What an adapter reads out of the environment that was built for it.  When no two variables of a
request have one name, the instance tells all that the request says.  Without that, an identifier
can still stand in the place of a fixed variable: kinds and platform user are those of the request
exactly when no identifier is exported under a fixed name with another value.
-/

namespace AdapterGateway

open Text Inventory

/-- A user of the platform with these texts; none when both are empty. -/
def PlatformUser.ofTexts? (user password : String) : Option PlatformUser :=
  if user = "" ∧ password = "" then none else some ⟨user, password⟩

theorem PlatformUser.ofTexts?_inj {user password user' password' : String} :
    ofTexts? user password = ofTexts? user' password' ↔ user = user' ∧ password = password' := by
  unfold ofTexts?
  split <;> split <;> simp_all

def Request.platformUser? (r : Request) : Option PlatformUser :=
  match r.connection with
  | none => none
  | some c => PlatformUser.ofTexts? c.userName c.password

theorem Request.platformUser?_eq (r : Request) :
    r.platformUser? =
      PlatformUser.ofTexts? (r.connection.getD {}).userName (r.connection.getD {}).password := by
  unfold platformUser?
  cases r.connection <;> rfl

namespace Instance

open Environment

/-- Kinds and platform user of an instance are those of the request. -/
structure Attributed (i : Instance) (r : Request) : Prop where
  adapterKind : i.key.adapterKind = r.key.adapterKind
  objectKind : i.key.objectKind = r.key.objectKind
  platform : i.platform = r.platformUser?

/-- An instance tells all that the request says to an adapter that declares `keys`. -/
structure Describes (i : Instance) (r : Request) (keys : List String) : Prop
    extends i.Attributed r where
  identifier? : ∀ j ∈ r.key.identifiers, j.key ∈ keys → i.identifier? j.key = some j.value
  /-- Credentials are found by their keys in any case. -/
  credential? : ∀ f ∈ r.credentialFields, ∀ key, upper key = upper f.key →
    i.credential? key = some f.value

theorem platformIn_eq {e : Environment} {user password : String}
    (huser : e.get? userName = some user) (hpassword : e.get? passwordName = some password) :
    platformIn e = PlatformUser.ofTexts? user password := by
  unfold platformIn PlatformUser.ofTexts?
  rw [huser, hpassword]
  simp [String.isEmpty_iff]

/-- An instance is attributed to a request when the environment that it was read from holds the
    fixed variables of the request, and only then. -/
theorem ReadFrom.attributed_iff {i : Instance} {e : Environment} {keys : List String} {r : Request}
    (hi : i.ReadFrom e keys) (hset : ∀ name ∈ fixedNames, (e.get? name).isSome) :
    i.Attributed r ↔ ∀ v ∈ fixed r, e.get? v.1 = some v.2 := by
  obtain ⟨user, huser⟩ := Option.isSome_iff_exists.mp (hset userName (by decide))
  obtain ⟨password, hpassword⟩ := Option.isSome_iff_exists.mp (hset passwordName (by decide))
  have hplatform : i.platform = r.platformUser? ↔
      user = (r.connection.getD {}).userName ∧ password = (r.connection.getD {}).password := by
    rw [hi.platform, platformIn_eq huser hpassword, r.platformUser?_eq, PlatformUser.ofTexts?_inj]
  simp only [fixed, List.forall_mem_cons, List.not_mem_nil, false_implies, implies_true, and_true,
    hi.adapterKind, hi.objectKind, huser, hpassword, Option.some.injEq]
  exact ⟨fun h => ⟨h.adapterKind, h.objectKind, hplatform.mp h.platform⟩,
    fun ⟨hadapter, hobject, hrest⟩ => ⟨hadapter, hobject, hplatform.mpr hrest⟩⟩

variable (raw : Raw) (names keys : List String)

theorem exists_readFrom_build (r : Request) :
    ∃ i, ofEnvironment (build raw names (some r)) keys = .ok i ∧
      i.ReadFrom (build raw names (some r)) keys := by
  have hadapter : (adapterKindName, r.key.adapterKind) ∈ fixed r := by simp [fixed]
  have hobject : (objectKindName, r.key.objectKind) ∈ fixed r := by simp [fixed]
  exact exists_readFrom (get?_build_fixed raw names r hadapter)
    (get?_build_fixed raw names r hobject)

theorem isSome_get?_build_fixed (r : Request) {name : String} (hname : name ∈ fixedNames) :
    ((build raw names (some r)).get? name).isSome := by
  rw [← map_fst_fixed r] at hname
  obtain ⟨v, hv, rfl⟩ := List.mem_map.mp hname
  rw [get?_build_fixed raw names r hv]
  rfl

/-- **The instance tells what the request says.**  This is so for every request whose variables
    have distinct names, whatever is passed through besides. -/
theorem exists_describes (r : Request) (hdistinct : (exportedNames r).Nodup) :
    ∃ i, ofEnvironment (build raw names (some r)) keys = .ok i ∧ i.Describes r keys := by
  obtain ⟨i, hok, hi⟩ := exists_readFrom_build raw names keys r
  have hget {name value : String} (hmem : (name, value) ∈ ofRequest (some r)) :=
    get?_build_of_mem raw names hdistinct hmem
  have hattributed : i.Attributed r := by
    rw [hi.attributed_iff fun name hname => isSome_get?_build_fixed raw names r hname]
    intro v hv
    exact hget (List.mem_append_left _ (List.mem_append_left _ hv))
  refine ⟨i, hok, hattributed, fun j hj hdeclared => ?_, fun f hf key hkey => ?_⟩
  · rw [hi.identifier?, if_pos hdeclared]
    exact hget (List.mem_append_left _ (List.mem_append_right _ (List.mem_map_of_mem hj)))
  · rw [hi.credential?, credentialName_inj.mpr hkey]
    exact hget (List.mem_append_right _ (List.mem_map_of_mem hf))

def sampleRequest : Request where
  key := Key.make "kind" "object" "name" [⟨"straße", "1", true⟩, ⟨"port", "443", false⟩]
  connection := some { userName := "svc", password := "pw" }
  credentials := some { fields := [{ key := "token", value := "t0k" }] }

theorem sampleRequest_described :
    (exportedNames sampleRequest).Nodup ∧
      ∃ i, ofEnvironment (build [(encode "PATH", encode "/usr/bin")] ["PATH"] (some sampleRequest))
          ["port", "path"] = .ok i ∧
        i.Describes sampleRequest ["port", "path"] :=
  ⟨by decide +kernel, exists_describes _ _ _ sampleRequest (by decide +kernel)⟩

/-- **What keeps the fixed variables.**  Kinds and platform user come from the request exactly when
    the last identifier that is exported under a fixed name, if there is one, has its value. -/
theorem attributed_iff_identifiers (r : Request) :
    (∃ i, ofEnvironment (build raw names (some r)) keys = .ok i ∧ i.Attributed r) ↔
      ∀ v ∈ fixed r, ∀ value, lastValue? (ofIdentifiers r) v.1 = some value → value = v.2 := by
  obtain ⟨i, hok, hi⟩ := exists_readFrom_build raw names keys r
  have hiff : i.Attributed r ↔ ∀ v ∈ fixed r, (build raw names (some r)).get? v.1 = some v.2 :=
    hi.attributed_iff fun name hname => isSome_get?_build_fixed raw names r hname
  have hkept : ∀ v ∈ fixed r, (build raw names (some r)).get? v.1 = some v.2 ↔
      ∀ value, lastValue? (ofIdentifiers r) v.1 = some value → value = v.2 := by
    intro v hv
    rw [get?_build_fixed raw names r hv]
    cases lastValue? (ofIdentifiers r) v.1 <;> simp
  constructor
  · rintro ⟨i', hok', hattributed⟩ v hv
    cases hok.symm.trans hok'
    exact (hkept v hv).mp (hiff.mp hattributed v hv)
  · intro h
    exact ⟨i, hok, hiff.mpr fun v hv => (hkept v hv).mpr (h v hv)⟩

/-- Two keys whose upper case is a fixed name; the second is not written in ASCII. -/
def displacing : Request where
  key := Key.make "kind" "object" ""
    [⟨"adapter_kind", "other", true⟩, ⟨"ſuite_api_uſer", "eve", true⟩]
  connection := some { userName := "svc", password := "pw" }

theorem kind_displaced :
    ∃ i, ofEnvironment (build [] [] (some displacing)) [] = .ok i ∧
      i.key.adapterKind = "other" ∧ displacing.key.adapterKind = "kind" ∧
      i.platform = some ⟨"eve", "pw"⟩ ∧ displacing.platformUser? = some ⟨"svc", "pw"⟩ ∧
      ¬ i.Attributed displacing := by
  refine ⟨_, rfl, rfl, rfl, by decide +kernel, rfl, ?_⟩
  intro h
  exact absurd h.adapterKind (by decide +kernel)

end Instance

end AdapterGateway
