import AdapterGateway.Proofs.Json.Pruning
import AdapterGateway.Settings

/-!
# Defaults of settings

Any part of a written configuration may be left out, whole sections and single fields of them.  What is
left is read as the configuration in which exactly these parts are as in a new one.  Each section knows
its defaults twice, as a value and field by field for its reader; that the two agree, on either level,
is what this rests on.
-/

namespace AdapterGateway

open Json Text

/-! ## Values -/

theorem asUInt16_tree (n : UInt16) : asUInt16 (Value.integer n.toNat).tree = .ok n := by
  have hread := (@asNatBelow_eq_ok_iff _ "u16" _ _).mpr ⟨rfl, n.toNat_lt_size⟩
  rw [Value.tree, asUInt16, hread]
  exact congrArg Except.ok n.ofNat_toNat

theorem asUInt32_tree (n : UInt32) : asUInt32 (Value.integer n.toNat).tree = .ok n := by
  have hread := (@asNatBelow_eq_ok_iff _ "u32" _ _).mpr ⟨rfl, n.toNat_lt_size⟩
  rw [Value.tree, asUInt32, hread]
  exact congrArg Except.ok n.ofNat_toNat

theorem asUInt64_tree (expected : String) (n : UInt64) :
    asUInt64 expected (Value.integer n.toNat).tree = .ok n := by
  have hread := (@asNatBelow_eq_ok_iff _ expected _ _).mpr ⟨rfl, n.toNat_lt_size⟩
  rw [Value.tree, asUInt64, hread]
  exact congrArg Except.ok n.ofNat_toNat

theorem LogLevel.read_toJson (l : LogLevel) : read l.toJson.tree = .ok l := by
  cases l <;> rfl

theorem asDictionary_tree (d : Dictionary String String) :
    asDictionary asString (Value.object (d.entries.map fun e => (e.1, .string e.2))).tree = .ok d := by
  have hmembers (entries : List (String × String)) : readMembers asString
      (memberTrees (entries.map fun e => (e.1, .string e.2))) = .ok entries := by
    induction entries with
    | nil => rfl
    | cons e rest ih =>
      rw [List.map_cons, memberTrees, readMembers, ih]
      rfl
  rw [Value.tree, asDictionary, hmembers]
  exact congrArg Except.ok d.ofList_entries

/-! ## Sections -/

namespace ServerSettings

def toRow (s : ServerSettings) : Row Part.Ty
  | .bindAddress => s.bindAddress
  | .port => s.port
  | .maxBodySize => s.maxBodySize
  | .requestLogging => s.requestLogging
  | .logLevel => s.logLevel

def ofRow (row : Row Part.Ty) : ServerSettings :=
  ⟨row .bindAddress, row .port, row .maxBodySize, row .requestLogging, row .logLevel⟩

/-- The section in which some fields are as in a new one. -/
def renewed (s : ServerSettings) (removed : Part → Bool) : ServerSettings :=
  ofRow (Record.overlay removed (toRow {}) s.toRow)

theorem read_prune (s : ServerSettings) (removed : List String → Bool) :
    read (s.toJson.prune removed).tree =
      .ok (s.renewed fun part => removed [(record.field part).label]) := by
  refine (bind_of_eq_ok (Record.read_prune_flat (r := record) s.toRow (toRow {}) removed (by decide)
    (fun part => ?_) (fun part v hv => ?_) (fun part h => ?_) fun part => ?_)).trans rfl
  · cases part <;> rfl
  · cases part <;> cases hv
    · exact ⟨rfl, fun _ => rfl⟩
    · exact ⟨asUInt16_tree _, fun _ => rfl⟩
    · exact ⟨asUInt64_tree _ _, fun _ => rfl⟩
    · exact ⟨rfl, fun _ => rfl⟩
    · exact ⟨LogLevel.read_toJson _, fun _ => rfl⟩
  · cases part <;> cases h
  · cases part <;> rfl

theorem plain_toJson (s : ServerSettings) : s.toJson.Plain 1 := by
  refine Record.plain_write _ _ fun part v hv => ?_
  cases part <;> cases hv
  · exact plain_string _ _
  · exact plain_natural (Nat.lt_trans s.port.toNat_lt (by decide)) _
  · exact plain_natural s.maxBodySize.toNat_lt _
  · exact plain_bool _ _
  · exact plain_string _ _

end ServerSettings

namespace VersionSettings

def toRow (v : VersionSettings) : Row Part.Ty
  | .major => v.major
  | .minor => v.minor

def ofRow (row : Row Part.Ty) : VersionSettings := ⟨row .major, row .minor⟩

/-- The section in which some fields are as in a new one. -/
def renewed (v : VersionSettings) (removed : Part → Bool) : VersionSettings :=
  ofRow (Record.overlay removed (toRow {}) v.toRow)

theorem read_prune (v : VersionSettings) (removed : List String → Bool) :
    read (v.toJson.prune removed).tree =
      .ok (v.renewed fun part => removed [(record.field part).label]) := by
  refine (bind_of_eq_ok (Record.read_prune_flat (r := record) v.toRow (toRow {}) removed (by decide)
    (fun part => ?_) (fun part v hv => ?_) (fun part h => ?_) fun part => ?_)).trans rfl
  · cases part <;> rfl
  · cases part <;> cases hv
    · exact ⟨asUInt32_tree _, fun _ => rfl⟩
    · exact ⟨asUInt32_tree _, fun _ => rfl⟩
  · cases part <;> cases h
  · cases part <;> rfl

theorem plain_toJson (v : VersionSettings) : v.toJson.Plain 1 := by
  refine Record.plain_write _ _ fun part w hw => ?_
  cases part <;> cases hw
  · exact plain_natural (Nat.lt_trans v.major.toNat_lt (by decide)) _
  · exact plain_natural (Nat.lt_trans v.minor.toNat_lt (by decide)) _

end VersionSettings

namespace SupervisionSettings

def toRow (s : SupervisionSettings) : Row Part.Ty
  | .readTimeoutSeconds => s.readTimeoutSeconds
  | .exitGraceMillis => s.exitGraceMillis
  | .channelParent => s.channelParent
  | .inherited => s.inherited

def ofRow (row : Row Part.Ty) : SupervisionSettings :=
  ⟨row .readTimeoutSeconds, row .exitGraceMillis, row .channelParent, row .inherited⟩

/-- The section in which some fields are as in a new one. -/
def renewed (s : SupervisionSettings) (removed : Part → Bool) : SupervisionSettings :=
  ofRow (Record.overlay removed (toRow {}) s.toRow)

theorem read_optionalPath (path : Option String) :
    asOptional asPath (optionalPath path).tree = .ok path := by
  cases path <;> rfl

theorem prune_optionalPath (path : Option String) (removed : List String → Bool) :
    (optionalPath path).prune removed = optionalPath path := by
  cases path <;> rfl

theorem read_prune (s : SupervisionSettings) (removed : List String → Bool) :
    read (s.toJson.prune removed).tree =
      .ok (s.renewed fun part => removed [(record.field part).label]) := by
  refine (bind_of_eq_ok (Record.read_prune_flat (r := record) s.toRow (toRow {}) removed (by decide)
    (fun part => ?_) (fun part v hv => ?_) (fun part h => ?_) fun part => ?_)).trans rfl
  · cases part <;> rfl
  · cases part <;> cases hv
    · exact ⟨asUInt64_tree _ _, fun _ => rfl⟩
    · exact ⟨asUInt64_tree _ _, fun _ => rfl⟩
    · exact ⟨read_optionalPath _, prune_optionalPath _⟩
    · exact ⟨asList_tree fun _ _ => rfl, fun _ => rfl⟩
  · cases part <;> cases h
  · cases part <;> rfl

theorem plain_toJson (s : SupervisionSettings) : s.toJson.Plain 2 := by
  refine Record.plain_write _ _ fun part v hv => ?_
  cases part with
  | readTimeoutSeconds =>
    cases hv
    exact plain_natural s.readTimeoutSeconds.toNat_lt _
  | exitGraceMillis =>
    cases hv
    exact plain_natural s.exitGraceMillis.toNat_lt _
  | channelParent =>
    cases hv
    obtain ⟨_, _, _ | path, _⟩ := s
    · exact plain_null _
    · exact plain_string _ _
  | inherited =>
    cases hv
    exact plain_listOf (fun name => plain_string name _) _

end SupervisionSettings

/-! ## Configurations -/

namespace Settings

/-- What may be left out of a configuration: a section, or a field of one. -/
inductive Member where
  | whole (part : Part)
  | server (part : ServerSettings.Part)
  | version (part : VersionSettings.Part)
  | supervision (part : SupervisionSettings.Part)
deriving DecidableEq

/-- Where the member stands in a written configuration. -/
def Member.place : Member → List String
  | .whole part => [(record.field part).label]
  | .server part => [(record.field .server).label, (ServerSettings.record.field part).label]
  | .version part => [(record.field .version).label, (VersionSettings.record.field part).label]
  | .supervision part =>
    [(record.field .supervision).label, (SupervisionSettings.record.field part).label]

/-- The written configuration without some of its members. -/
def without (s : Settings) (removed : List Member) : Value :=
  s.toJson.prune fun place => place ∈ removed.map Member.place

/-- The configuration in which these are as in a new one. -/
def renewed (s : Settings) (removed : List Member) : Settings where
  server := if .whole .server ∈ removed then {} else s.server.renewed (.server · ∈ removed)
  commands := if .whole .commands ∈ removed then ∅ else s.commands
  version := if .whole .version ∈ removed then {} else s.version.renewed (.version · ∈ removed)
  supervision := if .whole .supervision ∈ removed then {}
    else s.supervision.renewed (.supervision · ∈ removed)

def toRow (s : Settings) : Row Part.Ty
  | .server => s.server
  | .commands => s.commands
  | .version => s.version
  | .supervision => s.supervision

/-- The member that stands at a place. -/
def Member.ofPlace? : List String → Option Member
  | [name] => (record.find? name).map .whole
  | [name, field] => match record.find? name with
    | some .server => (ServerSettings.record.find? field).map .server
    | some .version => (VersionSettings.record.find? field).map .version
    | some .supervision => (SupervisionSettings.record.find? field).map .supervision
    | _ => none
  | _ => none

theorem Member.ofPlace?_place (m : Member) : ofPlace? m.place = some m := by
  cases m with
  | whole part => cases part <;> rfl
  | server part => cases part <;> rfl
  | version part => cases part <;> rfl
  | supervision part => cases part <;> rfl

/-- Members stand at different places. -/
theorem Member.place_injective : Function.Injective place := by
  intro m m' h
  have hsame := congrArg ofPlace? h
  rw [ofPlace?_place, ofPlace?_place] at hsame
  exact Option.some.inj hsame

theorem Member.place_mem_iff {removed : List Member} (m : Member) :
    m.place ∈ removed.map place ↔ m ∈ removed :=
  List.mem_map_of_injective place_injective

/-- No member stands inside the command lines. -/
theorem Member.place_ne_command (m : Member) (name : String) (place : List String) :
    m.place ≠ (record.field .commands).label :: name :: place := by
  intro h
  have hsame := congrArg ofPlace? h
  rw [ofPlace?_place] at hsame
  cases place <;> cases hsame

theorem plain_toJson (s : Settings) : s.toJson.Plain 3 := by
  refine Record.plain_write _ _ fun part v hv => ?_
  cases part with
  | server =>
    cases hv
    exact s.server.plain_toJson.mono (by decide)
  | commands =>
    cases hv
    refine plain_object fun m hm => ?_
    obtain ⟨e, _, rfl⟩ := List.mem_map.mp hm
    exact plain_string _ _
  | version =>
    cases hv
    exact s.version.plain_toJson.mono (by decide)
  | supervision =>
    cases hv
    exact s.supervision.plain_toJson

theorem read_without (s : Settings) (removed : List Member) :
    read (s.without removed).tree = .ok (s.renewed removed) := by
  -- what the reader asks of a place is whether a member is among those taken away
  have hplace (m : Member) : decide (m.place ∈ removed.map Member.place) = decide (m ∈ removed) :=
    decide_eq_decide.mpr m.place_mem_iff
  refine (bind_of_eq_ok (Record.read_prune (r := record) s.toRow (s.renewed removed).toRow (by decide)
    (fun part => ?_) (fun part v hkept hv => ?_) (fun part _ habsent => ?_)
    fun part hremoved => ?_)).trans rfl
  · cases part <;> rfl
  · have hkept := of_decide_eq_false ((hplace (.whole part)).symm.trans hkept)
    cases part with
    | server =>
      -- a section that stays is read without those of its own fields that go
      cases hv
      refine (s.server.read_prune _).trans (congrArg Except.ok ?_)
      rw [toRow, renewed, if_neg hkept]
      exact congrArg s.server.renewed (funext fun part => hplace (.server part))
    | commands =>
      -- nothing inside the command lines has a name that could be taken away
      cases hv
      rw [Value.prune_eq_self _ fun name place => ?_]
      · refine (asDictionary_tree s.commands).trans (congrArg Except.ok ?_)
        rw [toRow, renewed, if_neg hkept]
      · refine decide_eq_false fun hmem => ?_
        obtain ⟨m, _, hm⟩ := List.mem_map.mp hmem
        exact m.place_ne_command name place hm
    | version =>
      cases hv
      refine (s.version.read_prune _).trans (congrArg Except.ok ?_)
      rw [toRow, renewed, if_neg hkept]
      exact congrArg s.version.renewed (funext fun part => hplace (.version part))
    | supervision =>
      cases hv
      refine (s.supervision.read_prune _).trans (congrArg Except.ok ?_)
      rw [toRow, renewed, if_neg hkept]
      exact congrArg s.supervision.renewed (funext fun part => hplace (.supervision part))
  · cases part <;> cases habsent
  · -- a section that goes takes its fields along, whichever of them were to go
    have hremoved := of_decide_eq_true ((hplace (.whole part)).symm.trans hremoved)
    cases part <;> rw [toRow, renewed, if_pos hremoved] <;> rfl

/-- Reading what is left of the text of a configuration is reading the members that are left. -/
theorem decode_without (s : Settings) (removed : List Member) :
    decode read (encode (s.without removed).text) = .ok (s.renewed removed) := by
  have hplain : (s.without removed).Plain 3 := s.plain_toJson.prune _
  rw [decode_plain read (hplain.mono (by decide)), read_without]

theorem without_nil (s : Settings) : s.without [] = s.toJson :=
  Value.prune_eq_self _ fun _ _ => rfl

theorem renewed_nil (s : Settings) : s.renewed [] = s := rfl

/-- **What is left out of a configuration is as it is by default**, on either level, and nothing else is
    touched. -/
theorem defaultsFilled :
    (∀ (s : Settings) (removed : List Member),
      decode read (encode (s.without removed).text) = .ok (s.renewed removed)) ∧
    (∀ s : Settings, decode read (encode s.toJson.text) = .ok s) ∧
    decode read (encode "\x7b\x7d") = .ok {} := by
  refine ⟨decode_without, fun s => ?_, rfl⟩
  have hwhole := s.decode_without []
  rw [without_nil, renewed_nil] at hwhole
  exact hwhole

example : (({} : Settings).without [.whole .commands, .whole .supervision, .server .bindAddress,
    .server .maxBodySize, .server .requestLogging]).text =
    "\x7b\"server\":\x7b\"port\":8080,\"log_level\":\"Info\"\x7d," ++
      "\"version\":\x7b\"major\":1,\"minor\":0\x7d\x7d" := rfl

end Settings

end AdapterGateway
