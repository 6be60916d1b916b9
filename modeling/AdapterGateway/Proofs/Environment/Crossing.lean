import AdapterGateway.Call
import AdapterGateway.Proofs.Text.Case
import AdapterGateway.Proofs.Text.Utf8
import AdapterGateway.Proofs.Environment.Contents
import Mathlib.Data.List.Basic

/-!
# Into another process

An environment reaches a process as strings that hold a name, an equals sign and a value.  It
arrives as it was exactly when nothing in it takes part in that notation: no zero octet, no empty
name, and no equals sign in a name but in front.
-/

namespace AdapterGateway

open Text

namespace Environment

/-- A variable that the strings of an environment block can hold. -/
structure Portable (name value : String) : Prop where
  ne_empty : name ≠ ""
  unseparated : '=' ∉ name.toList.tail
  name_zero : '\x00' ∉ name.toList
  value_zero : '\x00' ∉ value.toList

/-! ## One string of a block -/

theorem blockEntry_eq (name value : String) :
    blockEntry name value = octetsOf (name.toList ++ '=' :: value.toList) := by
  unfold blockEntry
  rw [octetsOf_append, encode_eq, encode_eq]
  rfl

/-- Behind the first octet of a text there is no equals sign before the first one of the text. -/
theorem exists_octetsOf_eq (c : Char) {cs : List Char} (hcs : '=' ∉ cs) :
    ∃ first more, (∀ b ∈ more, (b != 0x3D) = true) ∧
      ∀ ds, octetsOf (c :: cs ++ ds) = first :: (more ++ octetsOf ds) := by
  obtain ⟨first, more, hfirst, hmore⟩ := utf8EncodeChar_eq_cons c
  refine ⟨first, more ++ octetsOf cs, fun b hb => ?_, fun ds => ?_⟩
  · rw [bne_iff_ne]
    rintro rfl
    rcases List.mem_append.mp hb with hb | hb
    · exact absurd (hmore _ hb) (by decide)
    · exact hcs ((mem_octetsOf_iff (by decide)).mp hb)
  · unfold octetsOf
    rw [List.cons_append, List.flatMap_cons, List.flatMap_append, hfirst, List.cons_append,
      List.append_assoc]

theorem cutEntry?_separated {c : Char} {before : List Char} (hbefore : '=' ∉ before)
    (behind : List Char) :
    cutEntry? (octetsOf (c :: before ++ '=' :: behind)) =
      some (octetsOf (c :: before), octetsOf behind) := by
  obtain ⟨first, more, hmore, heq⟩ := exists_octetsOf_eq c hbefore
  have hsign : octetsOf ('=' :: behind) = 0x3D :: octetsOf behind := rfl
  have hname : octetsOf (c :: before) = first :: more := by
    rw [← List.append_nil (c :: before), heq]
    exact congrArg _ (List.append_nil more)
  unfold cutEntry?
  rw [heq, hsign, hname]
  simp only
  rw [List.dropWhile_append_of_pos hmore, List.takeWhile_append_of_pos hmore,
    List.dropWhile_cons_of_neg (by decide), List.takeWhile_cons_of_neg (by decide),
    List.append_nil]

theorem cutEntry?_of_not_mem {c : Char} {cs : List Char} (hcs : '=' ∉ cs) :
    cutEntry? (octetsOf (c :: cs)) = none := by
  obtain ⟨first, more, hmore, heq⟩ := exists_octetsOf_eq c hcs
  unfold cutEntry?
  rw [← List.append_nil (c :: cs), heq]
  simp only
  rw [List.dropWhile_append_of_pos hmore]
  rfl

theorem cutEntry?_blockEntry {name value : String} (hname : name ≠ "")
    (hsign : '=' ∉ name.toList.tail) :
    cutEntry? (blockEntry name value) = some (encode name, encode value) := by
  rw [blockEntry_eq, encode_eq, encode_eq]
  cases hcs : name.toList with
  | nil => exact absurd (String.toList_eq_nil_iff.mp hcs) hname
  | cons c cs =>
    rw [hcs, List.tail_cons] at hsign
    exact cutEntry?_separated hsign value.toList

/-- Whatever a string is cut into, the name is one that a block can hold. -/
theorem exists_of_cutEntry? {name value : String} {entry : Octets × Octets}
    (h : cutEntry? (blockEntry name value) = some entry) :
    ∃ n v, entry = (encode n, encode v) ∧ n ≠ "" ∧ '=' ∉ n.toList.tail := by
  rw [blockEntry_eq] at h
  cases htext : name.toList ++ '=' :: value.toList with
  | nil => simp at htext
  | cons c cs =>
    rw [htext] at h
    by_cases hmem : '=' ∈ cs
    · obtain ⟨before, behind, rfl, hbefore⟩ := List.eq_append_cons_of_mem hmem
      rw [← List.cons_append, cutEntry?_separated hbefore] at h
      refine ⟨String.ofList (c :: before), String.ofList behind, ?_, ?_, ?_⟩
      · rw [encode_eq, encode_eq, String.toList_ofList, String.toList_ofList]
        exact (Option.some.inj h).symm
      · intro hempty
        have hnil := congrArg String.toList hempty
        rw [String.toList_ofList] at hnil
        cases hnil
      · rwa [String.toList_ofList, List.tail_cons]
    · rw [cutEntry?_of_not_mem hmem] at h
      cases h

/-! ## Blocks -/

theorem zero_mem_blockEntry {name value : String} :
    0 ∈ blockEntry name value ↔ '\x00' ∈ name.toList ∨ '\x00' ∈ value.toList := by
  have hzero : (0 : UInt8) = UInt8.ofNat '\x00'.toNat := rfl
  rw [blockEntry_eq, hzero, mem_octetsOf_iff (by decide), List.mem_append, List.mem_cons]
  simp

theorem block_eq_some_iff {e : Environment} {strings : List Octets} :
    e.block = some strings ↔
      (∀ v ∈ e.entries, '\x00' ∉ v.1.toList ∧ '\x00' ∉ v.2.toList) ∧
        strings = e.entries.map fun v => blockEntry v.1 v.2 := by
  have hany : (e.entries.map fun v => blockEntry v.1 v.2).any (·.contains 0) = false ↔
      ∀ v ∈ e.entries, '\x00' ∉ v.1.toList ∧ '\x00' ∉ v.2.toList := by
    simp only [List.any_map, List.any_eq_false, Function.comp, List.contains_iff_mem,
      zero_mem_blockEntry, not_or]
  unfold block
  simp only
  by_cases hzero : ∀ v ∈ e.entries, '\x00' ∉ v.1.toList ∧ '\x00' ∉ v.2.toList
  · rw [hany.mpr hzero, if_neg Bool.false_ne_true]
    exact ⟨fun h => ⟨hzero, (Option.some.inj h).symm⟩, fun h => congrArg some h.2.symm⟩
  · rw [if_pos (Bool.of_not_eq_false (mt hany.mp hzero))]
    exact ⟨fun h => (nomatch h), fun h => absurd h.1 hzero⟩

/-- The environment that a process finds in its block, as `Instance.ofProcess` does. -/
def arriving (strings : List Octets) : Environment := Dictionary.ofList (textual (ofBlock strings))

theorem textual?_encode (name value : String) :
    textual? (encode name, encode value) = some (name, value) := by
  unfold textual?
  rw [decode?_encode, decode?_encode]
  rfl

theorem arriving_of_portable {e : Environment}
    (hportable : ∀ v ∈ e.entries, v.1 ≠ "" ∧ '=' ∉ v.1.toList.tail) :
    arriving (e.entries.map fun v => blockEntry v.1 v.2) = e := by
  have hentries : textual (ofBlock (e.entries.map fun v => blockEntry v.1 v.2)) = e.entries := by
    unfold textual ofBlock
    rw [List.filterMap_map, List.filterMap_filterMap]
    conv => rhs; rw [← List.filterMap_some (l := e.entries)]
    refine List.filterMap_congr fun v hv => ?_
    obtain ⟨hname, hsign⟩ := hportable v hv
    rw [Function.comp_apply, cutEntry?_blockEntry hname hsign, Option.bind_some, textual?_encode]
  unfold arriving
  rw [hentries, Dictionary.ofList_entries]

theorem portable_of_arriving {e : Environment} {name value : String}
    (hget : (arriving (e.entries.map fun v => blockEntry v.1 v.2)).get? name = some value) :
    name ≠ "" ∧ '=' ∉ name.toList.tail := by
  unfold arriving at hget
  rw [Dictionary.get?_ofList] at hget
  obtain ⟨entry, hentry, htext⟩ := List.mem_filterMap.mp (mem_of_lastValue? hget)
  obtain ⟨string, hstring, hcut⟩ := List.mem_filterMap.mp hentry
  obtain ⟨v, _, rfl⟩ := List.mem_map.mp hstring
  obtain ⟨n, v', rfl, hname, hsign⟩ := exists_of_cutEntry? hcut
  rw [textual?_encode] at htext
  cases htext
  exact ⟨hname, hsign⟩

/-! ## Starts -/

/-- A process that is started with these words finds the environment as it is. -/
def Crosses (words : List String) (e : Environment) : Prop :=
  ∃ launch, Launch.prepare words e = .ok launch ∧ arriving launch.block = e

theorem prepare_eq_ok_iff {words : List String} {e : Environment} {launch : Launch} :
    Launch.prepare words e = .ok launch ↔
      words = launch.program :: launch.arguments ∧ (∀ w ∈ words, '\x00' ∉ w.toList) ∧
        e.block = some launch.block := by
  obtain ⟨program, arguments, block⟩ := launch
  have hany : words.any Launch.hasZero = false ↔ ∀ w ∈ words, '\x00' ∉ w.toList := by
    simp only [List.any_eq_false, Launch.hasZero, List.contains_iff_mem]
  cases words with
  | nil => exact ⟨fun h => (nomatch h), fun h => (nomatch h.1)⟩
  | cons first rest =>
    unfold Launch.prepare
    cases hfound : e.block with
    | none => exact ⟨fun h => (nomatch h), fun h => (nomatch h.2.2)⟩
    | some found =>
      simp only
      by_cases hzero : ∀ w ∈ first :: rest, '\x00' ∉ w.toList
      · rw [hany.mpr hzero, if_neg Bool.false_ne_true]
        simp only [Except.ok.injEq, Launch.mk.injEq, List.cons.injEq, Option.some.injEq, and_assoc]
        exact ⟨fun ⟨hp, ha, hb⟩ => ⟨hp, ha, hzero, hb⟩, fun ⟨hp, ha, _, hb⟩ => ⟨hp, ha, hb⟩⟩
      · rw [if_pos (Bool.of_not_eq_false (mt hany.mp hzero))]
        exact ⟨fun h => (nomatch h), fun h => absurd h.2.1 hzero⟩

/-- **What reaches another process unchanged.**  A process that words without zero octets start
    finds an environment as it is exactly when every variable in it is portable. -/
theorem crosses_iff {words : List String} {e : Environment} :
    Crosses words e ↔ (words ≠ [] ∧ ∀ w ∈ words, '\x00' ∉ w.toList) ∧
      ∀ name value, e.get? name = some value → Portable name value := by
  constructor
  · rintro ⟨launch, hprepare, harriving⟩
    obtain ⟨hwords, hzero, hblock⟩ := prepare_eq_ok_iff.mp hprepare
    obtain ⟨hvalues, hstrings⟩ := block_eq_some_iff.mp hblock
    rw [hstrings] at harriving
    refine ⟨⟨by rw [hwords]; exact List.cons_ne_nil _ _, hzero⟩, fun name value hget => ?_⟩
    -- what arrives is `e`, and only portable names arrive
    have harrives :
        (arriving (e.entries.map fun v => blockEntry v.1 v.2)).get? name = some value := by
      rw [harriving]
      exact hget
    obtain ⟨hname, hsign⟩ := portable_of_arriving harrives
    obtain ⟨hnameZero, hvalueZero⟩ := hvalues _ ((e.mem_entries_iff name value).mpr hget)
    exact ⟨hname, hsign, hnameZero, hvalueZero⟩
  · rintro ⟨⟨hwords, hzero⟩, hportable⟩
    have hentries (v : String × String) (hv : v ∈ e.entries) : Portable v.1 v.2 :=
      hportable v.1 v.2 ((e.mem_entries_iff v.1 v.2).mp hv)
    obtain ⟨program, arguments, rfl⟩ := List.exists_cons_of_ne_nil hwords
    refine ⟨⟨program, arguments, e.entries.map fun v => blockEntry v.1 v.2⟩,
      prepare_eq_ok_iff.mpr ⟨rfl, hzero, block_eq_some_iff.mpr ⟨fun v hv => ?_, rfl⟩⟩, ?_⟩
    · exact ⟨(hentries v hv).name_zero, (hentries v hv).value_zero⟩
    · exact arriving_of_portable fun v hv => ⟨(hentries v hv).ne_empty, (hentries v hv).unseparated⟩

/-! ## Requests -/

theorem portable_identifierName {key value : String} :
    Portable (identifierName key) value ↔ Portable key value := by
  have hempty : identifierName key = "" ↔ key = "" := upper_eq_empty_iff key
  have hsign : '=' ∈ (identifierName key).toList.tail ↔ '=' ∈ key.toList.tail :=
    mem_tail_upper_iff (by decide) key
  have hzero : '\x00' ∈ (identifierName key).toList ↔ '\x00' ∈ key.toList :=
    mem_upper_iff (by decide) key
  constructor
  · rintro ⟨hne, hname, hnameZero, hvalue⟩
    exact ⟨mt hempty.mpr hne, mt hsign.mpr hname, mt hzero.mpr hnameZero, hvalue⟩
  · rintro ⟨hne, hname, hnameZero, hvalue⟩
    exact ⟨mt hempty.mp hne, mt hsign.mp hname, mt hzero.mp hnameZero, hvalue⟩

theorem portable_credentialName {key value : String} :
    Portable (credentialName key) value ↔
      '=' ∉ key.toList ∧ '\x00' ∉ key.toList ∧ '\x00' ∉ value.toList := by
  -- the first character is never the key's, so an equals sign in front of a key is not in front
  have htext : (credentialName key).toList =
      'C' :: ("REDENTIAL_".toList ++ (upper key).toList) := by
    unfold credentialName
    rw [String.toList_append]
    rfl
  have hempty : credentialName key ≠ "" := by
    rw [Ne, ← String.toList_eq_nil_iff, htext]
    exact List.cons_ne_nil _ _
  have hsign : '=' ∈ (credentialName key).toList.tail ↔ '=' ∈ key.toList := by
    rw [htext, List.tail_cons, List.mem_append, mem_upper_iff (by decide)]
    exact or_iff_right (by decide)
  have hzero : '\x00' ∈ (credentialName key).toList ↔ '\x00' ∈ key.toList := by
    rw [htext, List.mem_cons, List.mem_append, mem_upper_iff (by decide), or_iff_right (by decide)]
    exact or_iff_right (by decide)
  constructor
  · rintro ⟨_, hname, hnameZero, hvalue⟩
    exact ⟨mt hsign.mpr hname, mt hzero.mpr hnameZero, hvalue⟩
  · rintro ⟨hname, hnameZero, hvalue⟩
    exact ⟨hempty, mt hsign.mp hname, mt hzero.mp hnameZero, hvalue⟩

theorem portable_iff_of_fixed {name value : String} (hname : name ∈ fixedNames) :
    Portable name value ↔ '\x00' ∉ value.toList := by
  have hnames : ∀ name ∈ fixedNames,
      name ≠ "" ∧ '=' ∉ name.toList.tail ∧ '\x00' ∉ name.toList := by
    decide
  obtain ⟨hempty, hsign, hzero⟩ := hnames name hname
  exact ⟨fun h => h.value_zero, fun hvalue => ⟨hempty, hsign, hzero, hvalue⟩⟩

/-- Whether a variable is what a request says last under its name. -/
def Counts (r : Request) (name value : String) : Prop :=
  lastValue? (ofRequest (some r)) name = some value

/-- Nothing that counts of what the request says takes part in the notation of a block. -/
structure PortableRequest (r : Request) : Prop where
  fixed : ∀ v ∈ fixed r, Counts r v.1 v.2 → '\x00' ∉ v.2.toList
  identifiers : ∀ i ∈ r.key.identifiers, Counts r (identifierName i.key) i.value →
    Portable i.key i.value
  credentials : ∀ f ∈ r.credentialFields, Counts r (credentialName f.key) f.value →
    '=' ∉ f.key.toList ∧ '\x00' ∉ f.key.toList ∧ '\x00' ∉ f.value.toList

theorem portableRequest_iff {r : Request} :
    PortableRequest r ↔ ∀ name value, Counts r name value → Portable name value := by
  constructor
  · rintro ⟨hfixed, hidentifiers, hcredentials⟩ name value hcounts
    have hmem := mem_of_lastValue? hcounts
    unfold ofRequest at hmem
    rcases List.mem_append.mp hmem with hmem | hcredential
    rcases List.mem_append.mp hmem with hbase | hidentifier
    · exact (portable_iff_of_fixed (mem_fixedNames hbase)).mpr (hfixed _ hbase hcounts)
    · obtain ⟨i, hi, heq⟩ := List.mem_map.mp hidentifier
      cases heq
      exact portable_identifierName.mpr (hidentifiers i hi hcounts)
    · obtain ⟨f, hf, heq⟩ := List.mem_map.mp hcredential
      cases heq
      exact portable_credentialName.mpr (hcredentials f hf hcounts)
  · intro h
    refine ⟨fun v _ hcounts => (h _ _ hcounts).value_zero, fun i _ hcounts => ?_,
      fun f _ hcounts => ?_⟩
    · exact portable_identifierName.mp (h _ _ hcounts)
    · exact portable_credentialName.mp (h _ _ hcounts)

/-- **Which requests reach their adapters.**  The environment that was built for a request is the
    environment of the process exactly when neither the request nor what is passed through beside it
    takes part in the notation of a block. -/
theorem crosses_build_iff (raw : Raw) (names words : List String) (r : Request) :
    Crosses words (build raw names (some r)) ↔
      (words ≠ [] ∧ ∀ w ∈ words, '\x00' ∉ w.toList) ∧ PortableRequest r ∧
        ∀ name ∉ exportedNames r, ∀ value, passed? raw names name = some value →
          Portable name value := by
  rw [crosses_iff, portableRequest_iff]
  refine and_congr_right fun _ => ⟨fun h => ⟨fun name value hcounts => ?_, ?_⟩, ?_⟩
  · apply h
    rw [get?_build, hcounts, Option.some_or]
  · intro name hname value hpassed
    apply h
    rw [get?_build_of_not_exported raw names hname, hpassed]
  · rintro ⟨hrequest, hpassed⟩ name value hget
    by_cases hname : name ∈ exportedNames r
    · rw [get?_build_of_exported raw names hname] at hget
      exact hrequest name value hget
    · rw [get?_build_of_not_exported raw names hname] at hget
      exact hpassed name hname value hget

instance decidableExistsOk {ε α : Type} (x : Except ε α) (P : α → Prop) [DecidablePred P] :
    Decidable (∃ a, x = .ok a ∧ P a) :=
  match x with
  | .ok a => decidable_of_iff (P a) (by simp)
  | .error _ => .isFalse (by simp)

def zeroBody : String :=
  "\x7b\"adapterKey\":\x7b\"adapterKind\":\"kind\",\"objectKind\":\"object\"," ++
    "\"identifiers\":[\x7b\"key\":\"host\",\"value\":\"a\\u0000b\"\x7d]\x7d\x7d"

def signBody : String :=
  "\x7b\"adapterKey\":\x7b\"adapterKind\":\"kind\",\"objectKind\":\"object\"," ++
    "\"identifiers\":[\x7b\"key\":\"a=b\",\"value\":\"v\"\x7d," ++
    "\x7b\"key\":\"\",\"value\":\"w\"\x7d]\x7d\x7d"

/-- The first request is accepted and starts no process.  Of the second one variable is cut at
    another place, and one is lost. -/
theorem accepted_not_crossing :
    (∃ r, Request.ofBody (encode zeroBody) = .ok r ∧
      Launch.prepare ["adapter"] (build [] [] (some r)) =
        .error (Launch.refused "adapter" .zeroOctet)) ∧
    ∃ r, Request.ofBody (encode signBody) = .ok r ∧
      (build [] [] (some r)).get? "A=B" = some "v" ∧
      (build [] [] (some r)).get? "" = some "w" ∧
      ∃ launch, Launch.prepare ["adapter"] (build [] [] (some r)) = .ok launch ∧
        (arriving launch.block).get? "A=B" = none ∧
        (arriving launch.block).get? "A" = some "B=v" ∧
        (arriving launch.block).get? "" = none := by
  decide +kernel

end Environment

end AdapterGateway
