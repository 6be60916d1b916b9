import AdapterGateway.Environment

/-!
# What an environment maps its names to

An environment is filled layer by layer, and all layers share one space of names: what is passed
through lies below what the request says, and in the request the fixed names lie below the
identifiers and these below the credentials.  The last value that a layer has for a name is the one
that counts.
-/

namespace AdapterGateway

open Text Inventory

def Request.credentialFields (r : Request) : List CredentialField :=
  (r.credentials.map (·.fields)).getD []

namespace Environment

/-! ## Names -/

def fixedNames : List String := [adapterKindName, objectKindName, userName, passwordName]

/-- The names of all variables that a request sets. -/
def exportedNames (r : Request) : List String :=
  fixedNames ++ r.key.identifiers.map (fun i => identifierName i.key) ++
    r.credentialFields.map fun f => credentialName f.key

theorem map_fst_fixed (r : Request) : (fixed r).map (·.1) = fixedNames := rfl

theorem mem_fixedNames {r : Request} {v : String × String} (hv : v ∈ fixed r) :
    v.1 ∈ fixedNames := by
  rw [← map_fst_fixed r]
  exact List.mem_map_of_mem hv

theorem mem_exportedNames_of_fixed {name : String} (hname : name ∈ fixedNames) (r : Request) :
    name ∈ exportedNames r :=
  List.mem_append_left _ (List.mem_append_left _ hname)

theorem map_fst_ofRequest (r : Request) : (ofRequest (some r)).map (·.1) = exportedNames r := by
  unfold ofRequest ofIdentifiers ofCredentials exportedNames
  rw [List.map_append, List.map_append, List.map_map, List.map_map, map_fst_fixed]
  rfl

def IsCredential (name : String) : Prop := credentialStart.toList <+: name.toList

theorem isCredential_iff {name : String} :
    IsCredential name ↔ ∃ key, name = credentialStart ++ key := by
  unfold IsCredential
  constructor
  · rintro ⟨rest, hrest⟩
    refine ⟨String.ofList rest, ?_⟩
    rw [← String.toList_inj, String.toList_append, String.toList_ofList, hrest]
  · rintro ⟨key, rfl⟩
    rw [String.toList_append]
    exact List.prefix_append _ _

theorem not_isCredential_of_fixed {name : String} (hname : name ∈ fixedNames) :
    ¬ IsCredential name := by
  have hfixed : fixedNames.all (fun name => !credentialStart.toList.isPrefixOf name.toList) := by
    decide
  have hnot := List.all_eq_true.mp hfixed name hname
  rwa [Bool.not_eq_true', ← Bool.not_eq_true, List.isPrefixOf_iff_prefix] at hnot

theorem credentialName_inj {key key' : String} :
    credentialName key = credentialName key' ↔ upper key = upper key' := by
  unfold credentialName
  rw [← String.toList_inj, String.toList_append, String.toList_append,
    List.append_cancel_left_eq, String.toList_inj]

/-! ## Layers -/

variable (raw : Raw) (names : List String)

/-- The value that is passed through under a name. -/
def passed? (name : String) : Option String := lastValue? (inherit raw names) name

theorem pass?_eq_some_iff {entry : Octets × Octets} {name value : String} :
    pass? names entry = some (name, value) ↔
      decode? entry.1 = some name ∧ name ∈ names ∧ decode? entry.2 = some value := by
  unfold pass?
  constructor
  · intro h
    obtain ⟨found, hfound, h⟩ := Option.bind_eq_some_iff.mp h
    split at h
    · rename_i hlisted
      obtain ⟨text, htext, heq⟩ := Option.bind_eq_some_iff.mp h
      cases heq
      exact ⟨hfound, hlisted, htext⟩
    · cases h
  · rintro ⟨hname, hlisted, hvalue⟩
    rw [hname, Option.bind_eq_bind, Option.bind_some, if_pos hlisted, hvalue]
    rfl

theorem passed?_of_not_listed {name : String} (hname : name ∉ names) :
    passed? raw names name = none := by
  unfold passed?
  rw [lastValue?_eq_none_iff]
  intro hmem
  obtain ⟨⟨_, value⟩, hentry, rfl⟩ := List.mem_map.mp hmem
  obtain ⟨entry, _, hpass⟩ := List.mem_filterMap.mp hentry
  exact hname ((pass?_eq_some_iff names).mp hpass).2.1

theorem get?_build (request : Option Request) (name : String) :
    (build raw names request).get? name =
      (lastValue? (ofRequest request) name).or (passed? raw names name) := by
  unfold build passed?
  rw [Dictionary.get?_ofList, lastValue?_append]

/-- What a request does not set is what is passed through. -/
theorem get?_build_of_not_exported {r : Request} {name : String} (hname : name ∉ exportedNames r) :
    (build raw names (some r)).get? name = passed? raw names name := by
  rw [← map_fst_ofRequest] at hname
  rw [get?_build, lastValue?_eq_none_iff.mpr hname, Option.none_or]

theorem get?_build_of_exported {r : Request} {name : String} (hname : name ∈ exportedNames r) :
    (build raw names (some r)).get? name = lastValue? (ofRequest (some r)) name := by
  rw [← map_fst_ofRequest] at hname
  rw [get?_build]
  cases hlast : lastValue? (ofRequest (some r)) name with
  | none => exact absurd hname (lastValue?_eq_none_iff.mp hlast)
  | some value => rfl

theorem get?_build_of_mem {r : Request} (hdistinct : (exportedNames r).Nodup)
    {name value : String} (hmem : (name, value) ∈ ofRequest (some r)) :
    (build raw names (some r)).get? name = some value := by
  have hname : name ∈ exportedNames r := by
    rw [← map_fst_ofRequest]
    exact List.mem_map_of_mem hmem
  rw [get?_build_of_exported raw names hname]
  rw [← map_fst_ofRequest] at hdistinct
  exact (lastValue?_eq_some_iff hdistinct).mpr hmem

theorem lastValue?_ofCredentials_of_fixed (r : Request) {name : String}
    (hname : name ∈ fixedNames) : lastValue? (ofCredentials r) name = none := by
  rw [lastValue?_eq_none_iff]
  intro hmem
  unfold ofCredentials at hmem
  rw [List.map_map] at hmem
  obtain ⟨field, _, rfl⟩ := List.mem_map.mp hmem
  exact not_isCredential_of_fixed hname (isCredential_iff.mpr ⟨_, rfl⟩)

/-- A fixed name has the value of the last identifier that is exported under it, or else its own. -/
theorem get?_build_fixed (r : Request) {name value : String} (hmem : (name, value) ∈ fixed r) :
    (build raw names (some r)).get? name =
      some ((lastValue? (ofIdentifiers r) name).getD value) := by
  have hname : name ∈ fixedNames := mem_fixedNames hmem
  have hfixed : lastValue? (fixed r) name = some value := by
    have hnodup : ((fixed r).map (·.1)).Nodup := by
      rw [map_fst_fixed]
      decide
    exact (lastValue?_eq_some_iff hnodup).mpr hmem
  have hexported : name ∈ exportedNames r := mem_exportedNames_of_fixed hname r
  -- no credential has a fixed name, so of the layers above only the identifiers can hide it
  rw [get?_build_of_exported raw names hexported, ofRequest, lastValue?_append, lastValue?_append,
    lastValue?_ofCredentials_of_fixed r hname, hfixed, Option.none_or]
  cases lastValue? (ofIdentifiers r) name <;> rfl

end Environment

end AdapterGateway
