import AdapterGateway.Proofs.Environment.RoundTrip

/-!
# What passes through

Two gateways with different environments of their own serve one request.  Their adapters see the
same instance exactly when the gateways pass the same values under the names that an adapter takes
for instance data and that the request leaves open.
-/

namespace AdapterGateway

open Text Inventory

namespace Instance

open Environment

/-- The gateways pass the same values under those of the listed names that hold instance data and
    that the request does not set. -/
def PassAlike (r : Request) (keys names : List String) (raw raw' : Raw) : Prop :=
  ∀ name ∈ names, IsData keys name → name ∉ exportedNames r →
    passed? raw names name = passed? raw' names name

/-- What the request leaves open is what is passed, and nothing under a name that is not listed. -/
structure OpenTo (i : Instance) (r : Request) (keys : List String) (raw : Raw)
    (names : List String) : Prop where
  identifier? : ∀ key ∈ keys, identifierName key ∉ exportedNames r →
    i.identifier? key =
      if identifierName key ∈ names then passed? raw names (identifierName key) else none
  credentials : ∀ key, credentialStart ++ key ∉ exportedNames r →
    i.credentials.get? key =
      if credentialStart ++ key ∈ names then passed? raw names (credentialStart ++ key) else none

theorem get?_build_open (raw : Raw) (names : List String) {r : Request} {name : String}
    (hopen : name ∉ exportedNames r) :
    (build raw names (some r)).get? name =
      if name ∈ names then passed? raw names name else none := by
  rw [get?_build_of_not_exported raw names hopen]
  split
  · rfl
  · rename_i hname
    exact passed?_of_not_listed raw names hname

theorem ReadFrom.openTo {i : Instance} {r : Request} {keys names : List String} {raw : Raw}
    (hi : i.ReadFrom (build raw names (some r)) keys) : i.OpenTo r keys raw names where
  identifier? key hkey hopen := by
    rw [hi.identifier?, if_pos hkey, get?_build_open raw names hopen]
  credentials key hopen := by
    rw [hi.credentials, get?_build_open raw names hopen]

theorem passAlike_of_openTo {i : Instance} {r : Request} {keys names : List String} {raw raw' : Raw}
    (hi : i.OpenTo r keys raw names) (hi' : i.OpenTo r keys raw' names) :
    PassAlike r keys names raw raw' := by
  intro name hlisted hdata hopen
  rcases hdata with ⟨key, hkey, rfl⟩ | hcredential
  · have heq := (hi.identifier? key hkey hopen).symm.trans (hi'.identifier? key hkey hopen)
    rwa [if_pos hlisted, if_pos hlisted] at heq
  · obtain ⟨key, rfl⟩ := isCredential_iff.mp hcredential
    have heq := (hi.credentials key hopen).symm.trans (hi'.credentials key hopen)
    rwa [if_pos hlisted, if_pos hlisted] at heq

theorem ofEnvironment_build_congr {r : Request} {keys names : List String} {raw raw' : Raw}
    (halike : PassAlike r keys names raw raw') :
    ofEnvironment (build raw names (some r)) keys =
      ofEnvironment (build raw' names (some r)) keys := by
  apply ofEnvironment_congr
  · intro name hfixed
    have hexported : name ∈ exportedNames r := mem_exportedNames_of_fixed hfixed r
    rw [get?_build_of_exported raw names hexported, get?_build_of_exported raw' names hexported]
  · intro name hdata
    by_cases hexported : name ∈ exportedNames r
    · rw [get?_build_of_exported raw names hexported, get?_build_of_exported raw' names hexported]
    · rw [get?_build_open raw names hexported, get?_build_open raw' names hexported]
      by_cases hlisted : name ∈ names
      · rw [if_pos hlisted, if_pos hlisted]
        exact halike name hlisted hdata hexported
      · rw [if_neg hlisted, if_neg hlisted]

/-- **What an instance owes to the gateway.**  The instance of one request is the same under two
    gateways exactly when they pass alike, and what the request leaves open is what is passed. -/
theorem eq_iff_passAlike (r : Request) (keys names : List String) (raw raw' : Raw) :
    ∃ i i', ofEnvironment (build raw names (some r)) keys = .ok i ∧
      ofEnvironment (build raw' names (some r)) keys = .ok i' ∧
      (i = i' ↔ PassAlike r keys names raw raw') ∧
      i.OpenTo r keys raw names ∧ i'.OpenTo r keys raw' names := by
  obtain ⟨i, hok, hi⟩ := exists_readFrom_build raw names keys r
  obtain ⟨i', hok', hi'⟩ := exists_readFrom_build raw' names keys r
  refine ⟨i, i', hok, hok', ⟨?_, ?_⟩, hi.openTo, hi'.openTo⟩
  · rintro rfl
    exact passAlike_of_openTo hi.openTo hi'.openTo
  · intro halike
    have heq := ofEnvironment_build_congr halike
    rw [hok, hok'] at heq
    exact Except.ok.inj heq

theorem path_passed_as_identifier :
    "path" ∉ sampleRequest.key.identifiers.map (·.key) ∧
    ∃ i i', ofEnvironment (build [(encode "PATH", encode "/usr/bin")] ["PATH"] (some sampleRequest))
          ["path"] = .ok i ∧
      ofEnvironment (build [] ["PATH"] (some sampleRequest)) ["path"] = .ok i' ∧
      i.identifier? "path" = some "/usr/bin" ∧ i'.identifier? "path" = none ∧ i ≠ i' := by
  refine ⟨by decide +kernel, _, _, rfl, rfl, by decide +kernel, by decide +kernel, ?_⟩
  intro heq
  have hpath := congrArg (Instance.identifier? · "path") heq
  exact absurd hpath (by decide +kernel)

end Instance

end AdapterGateway
