import AdapterGateway.Proofs.Inventory.Report
import AdapterGateway.Proofs.Json.Origins
import AdapterGateway.Proofs.Occurrence

/-!
# Events

An event is what was last said of each of its parts.  Its text lists the parts in their order and is
read back as the same event, and where parts are taken away, as the event in which these are as in a
new one.  The constructor, the writer and the reader know the initial values of the parts each on its
own; that they agree is what the last statement rests on.
-/

namespace AdapterGateway.Inventory

open Json Text

/-! ## Numbers -/

theorem asInt64_tree (n : Int64) : asInt64 (int64Json n).tree = .ok n := by
  have hrange : Int64.minValue.toInt ≤ n.toInt ∧ n.toInt ≤ Int64.maxValue.toInt :=
    ⟨n.minValue_le_toInt, n.toInt_le⟩
  unfold asInt64 int64Json
  rw [Value.tree, asIntegerIn, if_pos hrange]
  exact congrArg Except.ok n.ofInt_toInt

theorem Criticality.ofLevel?_eq_some_iff {n : Nat} {c : Criticality} :
    ofLevel? n = some c ↔ n = c.level := by
  constructor
  · intro h
    unfold ofLevel? at h
    split at h <;> cases h <;> rfl
  · rintro rfl
    cases c <;> rfl

/-- Only the levels of criticalities are read. -/
theorem Criticality.read_integer_eq_ok_iff {i : Int} {c : Criticality} :
    read (.number (.integer i)) = .ok c ↔ i = c.level := by
  unfold read
  constructor
  · intro h
    obtain ⟨level, hlevel, hfound⟩ := bind_eq_ok h
    rw [(asNatBelow_eq_ok_iff.mp hlevel).1]
    split at hfound
    · rename_i hc
      cases hfound
      rw [ofLevel?_eq_some_iff.mp hc]
    · cases hfound
  · rintro rfl
    have hbelow : c.level < 256 := by cases c <;> decide
    rw [asNatBelow_eq_ok_iff.mpr ⟨rfl, hbelow⟩]
    cases c <;> rfl

theorem Cycles.one_le (c : Cycles) : 1 ≤ c.count.toNat := by
  have hzero : c.count.toNat ≠ 0 := fun h => c.positive (UInt32.toNat_inj.mp h)
  omega

theorem Cycles.eq_of_count {c d : Cycles} (h : c.count = d.count) : c = d := by
  cases c
  cases d
  cases h
  rfl

theorem Cycles.ofCount?_eq_some_iff {count : UInt32} {c : Cycles} :
    ofCount? count = some c ↔ c.count = count := by
  unfold ofCount?
  by_cases hzero : count ≠ 0
  · rw [dif_pos hzero]
    constructor
    · intro h
      cases h
      rfl
    · intro h
      exact congrArg some (eq_of_count h.symm)
  · rw [dif_neg hzero]
    constructor
    · intro h
      cases h
    · rintro rfl
      exact absurd c.positive hzero

/-- Only numbers of cycles are read, and zero is none. -/
theorem Cycles.read_integer_eq_ok_iff {i : Int} {c : Cycles} :
    read (.number (.integer i)) = .ok c ↔ i = c.count.toNat := by
  unfold read
  constructor
  · intro h
    obtain ⟨n, hn, hfound⟩ := bind_eq_ok h
    obtain ⟨hi, hbelow⟩ := asNatBelow_eq_ok_iff.mp hn
    split at hfound
    · rename_i hc
      cases hfound
      rw [hi, ofCount?_eq_some_iff.mp hc, UInt32.toNat_ofNat_of_lt' hbelow]
    · cases hfound
  · rintro rfl
    have hcount : ofCount? (UInt32.ofNat c.count.toNat) = some c := by
      rw [UInt32.ofNat_toNat]
      exact ofCount?_eq_some_iff.mpr rfl
    rw [asNatBelow_eq_ok_iff.mpr ⟨rfl, c.count.toNat_lt_size⟩]
    dsimp only [bind, Except.bind]
    rw [hcount]
    rfl

namespace Event

/-! ## Changes -/

/-- `c.Sets part value`: the change gives the part this value.  Wait cycles are set together, and only
    if neither is zero. -/
inductive Change.Sets : Change → (part : Part) → part.Ty → Prop where
  | faultKey (key : String) : Sets (.faultKey key) .faultKey (some key)
  | autoCancel (flag : Bool) : Sets (.autoCancel flag) .autoCancel flag
  | startDate (time : Int64) : Sets (.startDate time) .startDate (some time)
  | updateDate (time : Int64) : Sets (.updateDate time) .updateDate (some time)
  | cancelDate (time : Int64) : Sets (.cancelDate time) .cancelDate (some time)
  | watchWaitCycle (cycles : Cycles) : Sets (.watchWaitCycle cycles) .watchWaitCycle cycles
  | cancelWaitCycle (cycles : Cycles) : Sets (.cancelWaitCycle cycles) .cancelWaitCycle cycles
  | bothWatch {watch cancel : UInt32} {w c : Cycles} : w.count = watch → c.count = cancel →
      Sets (.waitCycles watch cancel) .watchWaitCycle w
  | bothCancel {watch cancel : UInt32} {w c : Cycles} : w.count = watch → c.count = cancel →
      Sets (.waitCycles watch cancel) .cancelWaitCycle c

theorem withWaitCycles_eq_ok_iff {e e' : Event} {watch cancel : UInt32} :
    e.withWaitCycles watch cancel = .ok e' ↔ ∃ w c : Cycles, w.count = watch ∧ c.count = cancel ∧
      e' = { e with watchWaitCycle := w, cancelWaitCycle := c } := by
  constructor
  · intro h
    unfold withWaitCycles at h
    split at h
    · cases h
    · rename_i w hw
      split at h
      · cases h
      · rename_i c hc
        cases h
        exact ⟨w, c, Cycles.ofCount?_eq_some_iff.mp hw, Cycles.ofCount?_eq_some_iff.mp hc, rfl⟩
  · rintro ⟨w, c, hw, hc, rfl⟩
    unfold withWaitCycles
    rw [Cycles.ofCount?_eq_some_iff.mpr hw, Cycles.ofCount?_eq_some_iff.mpr hc]

/-- The changes that succeed are those that set something. -/
theorem exists_change_iff {e : Event} {c : Change} :
    (∃ e', e.change c = .ok e') ↔ ∃ part value, c.Sets part value := by
  constructor
  · rintro ⟨e', h⟩
    cases c with
    | waitCycles watch cancel =>
      obtain ⟨w, c, hw, hc, _⟩ := withWaitCycles_eq_ok_iff.mp h
      exact ⟨_, _, .bothWatch hw hc⟩
    | _ => exact ⟨_, _, by constructor⟩
  · rintro ⟨part, value, hsets⟩
    cases hsets with
    | bothWatch hw hc => exact ⟨_, withWaitCycles_eq_ok_iff.mpr ⟨_, _, hw, hc, rfl⟩⟩
    | bothCancel hw hc => exact ⟨_, withWaitCycles_eq_ok_iff.mpr ⟨_, _, hw, hc, rfl⟩⟩
    | _ => exact ⟨_, rfl⟩

/-- A change that succeeds sets what it says. -/
theorem toRow_of_sets {e e' : Event} {c : Change} (h : e.change c = .ok e') {part : Part}
    {value : part.Ty} (hsets : c.Sets part value) : e'.toRow part = value := by
  cases hsets with
  | bothWatch hw hc =>
    obtain ⟨w', c', hw', _, rfl⟩ := withWaitCycles_eq_ok_iff.mp h
    exact Cycles.eq_of_count (hw'.trans hw.symm)
  | bothCancel hw hc =>
    obtain ⟨w', c', _, hc', rfl⟩ := withWaitCycles_eq_ok_iff.mp h
    exact Cycles.eq_of_count (hc'.trans hc.symm)
  | _ =>
    cases h
    rfl

/-- It sets nothing else. -/
theorem toRow_of_not_sets {e e' : Event} {c : Change} (h : e.change c = .ok e') {part : Part}
    (hnone : ∀ value, ¬ c.Sets part value) : e'.toRow part = e.toRow part := by
  cases c with
  | waitCycles watch cancel =>
    obtain ⟨w, c, hw, hc, rfl⟩ := withWaitCycles_eq_ok_iff.mp h
    cases part with
    | watchWaitCycle => exact absurd (.bothWatch hw hc) (hnone _)
    | cancelWaitCycle => exact absurd (.bothCancel hw hc) (hnone _)
    | _ => rfl
  | _ =>
    -- each of the other changes touches the one part that it is named after
    cases h
    cases part <;> first | rfl | exact absurd (by constructor) (hnone _)

/-! ## Several changes -/

theorem changeAll_cons_of_ok {e e' : Event} {c : Change} (h : e.change c = .ok e')
    (changes : List Change) : e.changeAll (c :: changes) = e'.changeAll changes := by
  unfold changeAll
  rw [List.foldl_cons, h]

theorem changeAll_cons_of_error {e : Event} {c : Change} {fault : Fault}
    (h : e.change c = .error fault) (changes : List Change) :
    e.changeAll (c :: changes) = e.changeAll changes := by
  unfold changeAll
  rw [List.foldl_cons, h]

theorem changeAll_append (e : Event) (before behind : List Change) :
    e.changeAll (before ++ behind) = (e.changeAll before).changeAll behind :=
  List.foldl_append

theorem toRow_changeAll_of_not_sets (e : Event) {changes : List Change} {part : Part}
    (hnone : ∀ c ∈ changes, ∀ value, ¬ c.Sets part value) :
    (e.changeAll changes).toRow part = e.toRow part := by
  induction changes generalizing e with
  | nil => rfl
  | cons c changes ih =>
    obtain ⟨hfirst, hrest⟩ := List.forall_mem_cons.mp hnone
    cases hchange : e.change c with
    | error fault => rw [changeAll_cons_of_error hchange, ih e hrest]
    | ok e' =>
      rw [changeAll_cons_of_ok hchange, ih e' hrest]
      exact toRow_of_not_sets hchange hfirst

/-- The last change that sets a part decides on it. -/
theorem toRow_changeAll_of_isLast (e : Event) {changes : List Change} {part : Part} {c : Change}
    (hlast : IsLast (fun c => ∃ value, c.Sets part value) changes c) {value : part.Ty}
    (hsets : c.Sets part value) : (e.changeAll changes).toRow part = value := by
  obtain ⟨_, before, behind, rfl, hbehind⟩ := hlast
  obtain ⟨e', hchange⟩ : ∃ e', (e.changeAll before).change c = .ok e' :=
    exists_change_iff.mpr ⟨part, value, hsets⟩
  have hnone : ∀ d ∈ behind, ∀ value, ¬ d.Sets part value :=
    fun d hd value hd' => hbehind d hd ⟨value, hd'⟩
  rw [changeAll_append, changeAll_cons_of_ok hchange, toRow_changeAll_of_not_sets e' hnone]
  exact toRow_of_sets hchange hsets

/-- What becomes of an event by changes. -/
structure Changed (e : Event) (changes : List Change) (e' : Event) : Prop where
  watched : 1 ≤ e'.watchWaitCycle.count.toNat
  cancelled : 1 ≤ e'.cancelWaitCycle.count.toNat
  /-- A part is what the last change that set it says. -/
  set : ∀ part c value, IsLast (fun c => ∃ value, c.Sets part value) changes c →
    c.Sets part value → e'.toRow part = value
  /-- A part that no change set is as it was. -/
  kept : ∀ part, (∀ c ∈ changes, ∀ value, ¬ c.Sets part value) → e'.toRow part = e.toRow part
  /-- A change that fails might as well not have been tried. -/
  failed : ∀ before c behind, changes = before ++ c :: behind →
    (∀ part value, ¬ c.Sets part value) →
    (∃ fault, (e.changeAll before).change c = .error fault) ∧ e' = e.changeAll (before ++ behind)

theorem changed_changeAll (e : Event) (changes : List Change) :
    Changed e changes (e.changeAll changes) where
  watched := Cycles.one_le _
  cancelled := Cycles.one_le _
  set part c value hlast hsets := toRow_changeAll_of_isLast e hlast hsets
  kept part hnone := toRow_changeAll_of_not_sets e hnone
  failed before c behind heq hnone := by
    cases hchange : (e.changeAll before).change c with
    | ok e' =>
      obtain ⟨part, value, hsets⟩ := exists_change_iff.mp ⟨e', hchange⟩
      exact absurd hsets (hnone part value)
    | error fault =>
      rw [heq, changeAll_append, changeAll_cons_of_error hchange, changeAll_append]
      exact ⟨⟨fault, rfl⟩, rfl⟩

/-! ## Texts -/

/-- The members of a written event, in the order of the parts.  Only what is set has one. -/
def members (e : Event) : List (String × Value) :=
  [some ("message", .string e.message),
   some ("criticality", .integer e.criticality.level),
   e.faultKey.map fun key => ("faultKey", .string key),
   some ("autoCancel", .bool e.autoCancel),
   e.startDate.map fun time => ("startDate", .integer time.toInt),
   e.updateDate.map fun time => ("updateDate", .integer time.toInt),
   e.cancelDate.map fun time => ("cancelDate", .integer time.toInt),
   some ("watchWaitCycle", .integer e.watchWaitCycle.count.toNat),
   some ("cancelWaitCycle", .integer e.cancelWaitCycle.count.toNat)].filterMap id

theorem told_order (e : Event) : record.told e.toRow record.order = e.members := by
  -- only the parts that may be left out make a difference
  obtain ⟨message, criticality, faultKey, autoCancel, startDate, updateDate, cancelDate, watch,
    cancel⟩ := e
  cases faultKey <;> cases startDate <;> cases updateDate <;> cases cancelDate <;> rfl

theorem toJson_eq (e : Event) : e.toJson = .object e.members :=
  congrArg Value.object e.told_order

theorem find?_label (part : Part) : record.find? (record.field part).label = some part := by
  cases part <;> rfl

/-- A part that is set is read as it is written. -/
theorem read_part (e : Event) (part : Part) (v : Value)
    (h : (record.field part).write (e.toRow part) = some v) :
    (record.field part).read v.tree = .ok (e.toRow part) := by
  have hdate : ∀ {date : Option Int64} {v : Value}, date.map int64Json = some v →
      asOptional asInt64 v.tree = .ok date := by
    intro date v hv
    obtain ⟨time, rfl, rfl⟩ := Option.map_eq_some_iff.mp hv
    exact congrArg (Except.map some) (asInt64_tree time)
  cases part with
  | message | autoCancel =>
    cases h
    rfl
  | criticality =>
    cases h
    exact Criticality.read_integer_eq_ok_iff.mpr rfl
  | faultKey =>
    obtain ⟨key, hkey, rfl⟩ := Option.map_eq_some_iff.mp h
    rw [hkey]
    rfl
  | startDate | updateDate | cancelDate => exact hdate h
  | watchWaitCycle | cancelWaitCycle =>
    cases h
    exact Cycles.read_integer_eq_ok_iff.mpr rfl

/-- A part that is left out is what its field falls back to. -/
theorem fallback_of_absent (e : Event) (part : Part)
    (h : (record.field part).write (e.toRow part) = none) :
    (record.field part).fallback = some (e.toRow part) := by
  cases part with
  | faultKey | startDate | updateDate | cancelDate =>
    rw [Option.map_eq_none_iff.mp h]
    rfl
  | _ => cases h

/-- A new event with the same message. -/
def fresh (e : Event) : Event := { message := e.message, criticality := .none }

/-- All fields but the message fall back to what a new event has. -/
theorem fallback_eq (e : Event) {part : Part} (h : part ≠ .message) :
    (record.field part).fallback = some (e.fresh.toRow part) := by
  cases part with
  | message => exact absurd rfl h
  | _ => rfl

/-- The written event with some of its parts taken away. -/
def without (e : Event) (removed : List Part) : Value :=
  .object (e.members.filter fun m => m.1 ∉ removed.map fun part => (record.field part).label)

/-- The event in which these parts are as in a new one. -/
def renewed (e : Event) (removed : List Part) : Event :=
  ofRow fun part => if part ∈ removed then e.fresh.toRow part else e.toRow part

theorem without_eq (e : Event) (removed : List Part) :
    e.without removed = .object (record.told e.toRow (record.order.filter (· ∉ removed))) := by
  -- the labels tell the parts apart, so that no other part goes with those taken away
  have hinjective : Function.Injective fun part => (record.field part).label := by
    intro part part' h
    have hfind := congrArg record.find? h
    rw [find?_label, find?_label] at hfind
    exact Option.some.inj hfind
  have hkept : ∀ part, decide ((record.field part).label ∉
      removed.map fun part => (record.field part).label) = decide (part ∉ removed) :=
    fun part => decide_eq_decide.mpr (not_congr (List.mem_map_of_injective hinjective))
  rw [without, ← told_order]
  exact congrArg Value.object (Record.told_filter (fun label =>
    decide (label ∉ removed.map fun part => (record.field part).label)) hkept).symm

theorem read_without (e : Event) {removed : List Part} (hmessage : .message ∉ removed) :
    read (e.without removed).tree = .ok (e.renewed removed) := by
  have hall : ∀ part, part ∈ record.order := by
    intro part
    cases part <;> decide
  have hmem : ∀ part, part ∈ record.order.filter (· ∉ removed) ↔ part ∉ removed := by
    intro part
    rw [List.mem_filter, decide_eq_true_iff]
    exact and_iff_right (hall part)
  have hnodup : (record.order.filter (· ∉ removed)).Nodup :=
    List.Pairwise.filter _ (by decide : record.order.Nodup)
  have hread : record.read hall (e.without removed).tree =
      .ok fun part => if part ∈ removed then e.fresh.toRow part else e.toRow part := by
    rw [without_eq]
    refine Record.read_told hnodup find?_label e.read_part fun part => ?_
    -- a part that was taken away falls back, and so does one that was never written
    by_cases hremoved : part ∈ removed
    · have hne : part ≠ .message := fun h => hmessage (h ▸ hremoved)
      rw [if_neg fun h => (hmem part).mp h hremoved, if_pos hremoved, Option.none_or,
        e.fallback_eq hne]
    · rw [if_pos ((hmem part).mpr hremoved), if_neg hremoved]
      cases hwrite : (record.field part).write (e.toRow part) with
      | none => exact e.fallback_of_absent part hwrite
      | some v => rfl
  rw [read, hread]
  rfl

/-- Reading what is left of the text of an event is reading the members that are left. -/
theorem decode_without (e : Event) (removed : List Part) :
    decode read (encode (e.without removed).text) = read (e.without removed).tree := by
  have hwhole := e.plain_toJson
  rw [toJson_eq] at hwhole
  have hleft : (e.without removed).Plain 1 :=
    plain_object fun m hm => hwhole.of_mem (List.mem_of_mem_filter hm)
  exact decode_plain read (hleft.mono (by decide))

/-- What the text of an event is to the reader. -/
structure Coded (e : Event) : Prop where
  /-- The members stand in the order of the parts. -/
  text : e.toJson.text = "\x7b" ++
    String.intercalate "," (e.members.map fun m => stringText m.1 ++ ":" ++ m.2.text) ++ "\x7d"
  back : decode read (encode e.toJson.text) = .ok e
  /-- Without some of its parts it is read as an event in which these are as in a new one. -/
  renewed : ∀ removed : List Part, .message ∉ removed →
    decode read (encode (e.without removed).text) = .ok (e.renewed removed)

theorem coded (e : Event) : e.Coded where
  text := by
    rw [toJson_eq, Value.text, memberTexts_eq]
  back := by
    -- the whole text is the one without any part taken away
    have hwhole : e.toJson = e.without [] := by
      rw [toJson_eq, without]
      simp
    have hsame : e.renewed [] = e := by
      unfold renewed
      simp only [List.not_mem_nil, if_false]
      rfl
    rw [hwhole, decode_without, read_without e List.not_mem_nil, hsame]
  renewed removed hmessage := by
    rw [decode_without, read_without e hmessage]

/-! ## Refusals -/

/-- Numbers that stand for no value of a part: a cycle of zero and an unknown level. -/
inductive Unreadable : Part → Int → Prop where
  | watch : Unreadable .watchWaitCycle 0
  | cancel : Unreadable .cancelWaitCycle 0
  | level {i : Int} : i < 0 ∨ 5 < i → Unreadable .criticality i

theorem read_unreadable {part : Part} {i : Int} (h : Unreadable part i) (value : part.Ty) :
    (record.field part).read (.number (.integer i)) ≠ .ok value := by
  intro hread
  cases h with
  | watch | cancel =>
    have hzero := Cycles.read_integer_eq_ok_iff.mp hread
    have hpos := Cycles.one_le value
    omega
  | level hout =>
    have hlevel := Criticality.read_integer_eq_ok_iff.mp hread
    have hle : Criticality.level value ≤ 5 := by
      cases value <;> decide
    omega

/-- A text that gives such a number for a part is refused, whatever else it says. -/
theorem refused_of_unreadable {octets : Octets} {part : Part} {i : Int} (h : Unreadable part i)
    (hgives : record.Gives part (.number (.integer i)) (Document.ofOctets octets).root) :
    ∃ error, decode read octets = .error error := by
  apply exists_decode_eq_error
  intro e hread
  obtain ⟨row, hrow, _⟩ := map_eq_ok hread
  obtain ⟨value, hvalue⟩ := Record.exists_read_of_gives (by decide) hrow (find?_label part)
    (by cases part <;> rfl) hgives
  exact read_unreadable h value hvalue

example : decode read (encode "\x7b\"message\":\"m\",\"watchWaitCycle\":0\x7d") =
    .error (.wrongValue (.integer 0) "a nonzero u32") := rfl

/-- **Events keep what they are told.**  This is so for every event, however it came about. -/
theorem events_kept :
    (∀ (e : Event) (changes : List Change), Changed e changes (e.changeAll changes)) ∧
      (∀ e : Event, e.Coded) ∧
      ∀ octets part i, Unreadable part i →
        record.Gives part (.number (.integer i)) (Document.ofOctets octets).root →
        ∃ error, decode read octets = .error error :=
  ⟨changed_changeAll, coded, fun _ _ _ h hgives => refused_of_unreadable h hgives⟩

end Event

end AdapterGateway.Inventory
