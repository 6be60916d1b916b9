import AdapterGateway.Instance
import AdapterGateway.Proofs.Environment.Contents
import Mathlib.Data.List.Basic

/-!
# What an instance is read from

An instance is made of the variables of an environment and of nothing else: the two kinds, which
must be there, the variables of the declared identifiers, those whose names start like a
credential's, and the platform's user and password.
-/

namespace AdapterGateway

open Text Inventory

namespace Instance

/-! ## Identifiers -/

theorem mem_identifiersIn {e : Environment} {keys : List String} {i : Identifier} :
    i ∈ identifiersIn e keys ↔
      i.key ∈ keys ∧ e.get? (Environment.identifierName i.key) = some i.value ∧
        i.unique = true := by
  unfold identifiersIn
  rw [List.mem_filterMap]
  constructor
  · rintro ⟨key, hkey, hi⟩
    obtain ⟨value, hvalue, rfl⟩ := Option.map_eq_some_iff.mp hi
    exact ⟨hkey, hvalue, rfl⟩
  · rintro ⟨hkey, hvalue, hunique⟩
    refine ⟨i.key, hkey, ?_⟩
    rw [hvalue, Option.map_some, ← hunique]

/-- A declared identifier has the value of its variable, and no other key has an identifier. -/
theorem find?_identifiersIn (e : Environment) (keys : List String) (key : String) :
    ((identifiersIn e keys).reverse.find? (·.key == key)).map (·.value) =
      if key ∈ keys then e.get? (Environment.identifierName key) else none := by
  -- all identifiers of one key have the value of one variable, so it is the same which is found
  cases hfind : (identifiersIn e keys).reverse.find? (·.key == key) with
  | some i =>
    have hmem := List.mem_reverse.mp (List.mem_of_find?_eq_some hfind)
    have hfound := List.find?_some hfind
    have hkey : i.key = key := eq_of_beq hfound
    obtain ⟨hdeclared, hvalue, _⟩ := mem_identifiersIn.mp hmem
    rw [hkey] at hdeclared hvalue
    rw [if_pos hdeclared, hvalue, Option.map_some]
  | none =>
    split
    · rename_i hdeclared
      cases hvalue : e.get? (Environment.identifierName key) with
      | none => rfl
      | some value =>
        have hmem : ⟨key, value, true⟩ ∈ identifiersIn e keys :=
          mem_identifiersIn.mpr ⟨hdeclared, hvalue, rfl⟩
        have hnot := List.find?_eq_none.mp hfind _ (List.mem_reverse.mpr hmem)
        exact absurd (BEq.refl key) hnot
    · rfl

/-! ## Credentials -/

theorem credentialKey?_eq_some_iff {name key : String} :
    credentialKey? name = some key ↔ name = Environment.credentialStart ++ key := by
  rw [← String.toList_inj, String.toList_append]
  simp only [credentialKey?]
  constructor
  · intro h
    split at h
    · rename_i hstart
      rw [← Option.some.inj h, String.toList_ofList]
      exact (List.prefix_iff_eq_append.mp (List.isPrefixOf_iff_prefix.mp hstart)).symm
    · cases h
  · intro h
    rw [if_pos, h, List.drop_left, String.ofList_toList]
    rw [List.isPrefixOf_iff_prefix, h]
    exact List.prefix_append _ _

theorem mem_credentialsIn {e : Environment} {key value : String} :
    (key, value) ∈ credentialsIn e ↔ e.get? (Environment.credentialStart ++ key) = some value := by
  unfold credentialsIn
  rw [List.mem_filterMap, ← Dictionary.mem_entries_iff]
  constructor
  · rintro ⟨entry, hmem, hentry⟩
    obtain ⟨found, hfound, heq⟩ := Option.map_eq_some_iff.mp hentry
    cases heq
    rw [← credentialKey?_eq_some_iff.mp hfound]
    exact hmem
  · intro hmem
    refine ⟨_, hmem, ?_⟩
    rw [credentialKey?_eq_some_iff.mpr rfl, Option.map_some]

theorem nodup_credentialsIn (e : Environment) : ((credentialsIn e).map (·.1)).Nodup := by
  have hkeys := e.nodup_keys
  unfold Dictionary.keys at hkeys
  unfold credentialsIn
  rw [List.Nodup, List.pairwise_map] at hkeys ⊢
  refine hkeys.filterMap _ fun v v' hne key hkey key' hkey' heq => hne ?_
  obtain ⟨found, hfound, rfl⟩ := Option.map_eq_some_iff.mp hkey
  obtain ⟨found', hfound', rfl⟩ := Option.map_eq_some_iff.mp hkey'
  rw [credentialKey?_eq_some_iff.mp hfound, credentialKey?_eq_some_iff.mp hfound']
  exact congrArg _ heq

theorem get?_credentialsIn (e : Environment) (key : String) :
    (Dictionary.ofList (credentialsIn e)).get? key =
      e.get? (Environment.credentialStart ++ key) := by
  refine Option.ext fun value => ?_
  rw [Dictionary.get?_ofList, lastValue?_eq_some_iff (nodup_credentialsIn e), mem_credentialsIn]

/-! ## Instances -/

/-- All that an instance holds of the environment that it was read from. -/
structure ReadFrom (i : Instance) (e : Environment) (keys : List String) : Prop where
  adapterKind : e.get? Environment.adapterKindName = some i.key.adapterKind
  objectKind : e.get? Environment.objectKindName = some i.key.objectKind
  identifier? : ∀ key, i.identifier? key =
    if key ∈ keys then e.get? (Environment.identifierName key) else none
  credentials : ∀ key, i.credentials.get? key = e.get? (Environment.credentialStart ++ key)
  platform : i.platform = platformIn e

theorem ReadFrom.credential? {i : Instance} {e : Environment} {keys : List String}
    (hi : i.ReadFrom e keys) (key : String) :
    i.credential? key = e.get? (Environment.credentialName key) := hi.credentials (upper key)

theorem ofEnvironment_eq_ok {e : Environment} {keys : List String} {adapterKind objectKind : String}
    (hadapter : e.get? Environment.adapterKindName = some adapterKind)
    (hobject : e.get? Environment.objectKindName = some objectKind) :
    ofEnvironment e keys = .ok {
      key := Key.make adapterKind objectKind "" (identifiersIn e keys)
      credentials := Dictionary.ofList (credentialsIn e)
      platform := platformIn e } := by
  unfold ofEnvironment requiredVariable
  rw [hadapter, hobject]
  rfl

theorem exists_readFrom {e : Environment} {keys : List String} {adapterKind objectKind : String}
    (hadapter : e.get? Environment.adapterKindName = some adapterKind)
    (hobject : e.get? Environment.objectKindName = some objectKind) :
    ∃ i, ofEnvironment e keys = .ok i ∧ i.ReadFrom e keys := by
  refine ⟨_, ofEnvironment_eq_ok hadapter hobject, hadapter, hobject, fun key => ?_,
    get?_credentialsIn e, rfl⟩
  rw [← find?_identifiersIn, ← find?_mergeIdentifiers]
  rfl

/-! ## What is not read -/

/-- Whether an adapter that declares `keys` takes the variable of this name for data of its
    instance. -/
def IsData (keys : List String) (name : String) : Prop :=
  (∃ key ∈ keys, name = Environment.identifierName key) ∨ Environment.IsCredential name

/-- Environments that agree on the fixed names and on all instance data describe one instance. -/
theorem ofEnvironment_congr {e e' : Environment} {keys : List String}
    (hfixed : ∀ name ∈ Environment.fixedNames, e.get? name = e'.get? name)
    (hdata : ∀ name, IsData keys name → e.get? name = e'.get? name) :
    ofEnvironment e keys = ofEnvironment e' keys := by
  have hidentifiers : identifiersIn e keys = identifiersIn e' keys := by
    refine List.filterMap_congr fun key hkey => ?_
    rw [hdata _ (.inl ⟨key, hkey, rfl⟩)]
  have hcredentials :
      Dictionary.ofList (credentialsIn e) = Dictionary.ofList (credentialsIn e') := by
    refine Dictionary.ext_get? fun key => ?_
    have hname : IsData keys (Environment.credentialStart ++ key) :=
      .inr (Environment.isCredential_iff.mpr ⟨key, rfl⟩)
    rw [get?_credentialsIn, get?_credentialsIn, hdata _ hname]
  have hplatform : platformIn e = platformIn e' := by
    unfold platformIn
    rw [hfixed Environment.userName (by decide), hfixed Environment.passwordName (by decide)]
  unfold ofEnvironment requiredVariable
  rw [hfixed Environment.adapterKindName (by decide), hfixed Environment.objectKindName (by decide),
    hidentifiers, hcredentials, hplatform]

end Instance

end AdapterGateway
