import AdapterGateway.Proofs.Inventory.Events

/-!
# Properties

The value of a property stands among its members, where the name of one of them tells which variant it
is.  Wherever that member stands and whatever stands beside it, a property is read back with its
variant, and an object in which no member names one is refused.
-/

namespace AdapterGateway.Inventory

open Json Text

namespace PropertyValue

/-- The variant that a member of the given name is the content of. -/
def variant? (name : String) : Option (Variant PropertyValue) := variants.find? (·.name == name)

theorem variant?_eq_none_iff {name : String} :
    variant? name = none ↔ name ≠ textLabel ∧ name ≠ numberLabel := by
  unfold variant? variants
  simp [fullVariant, @eq_comm _ name]

theorem exists_variant? (v : PropertyValue) :
    ∃ variant, variant? v.member.1 = some variant ∧ variant.read v.member.2.tree = .ok v := by
  cases v <;> exact ⟨_, rfl, rfl⟩

end PropertyValue

namespace Property

/-! ## Members with a meaning of their own -/

inductive Mark where
  | key
  | timestamp
deriving DecidableEq

abbrev Mark.Ty : Mark → Type
  | .key => String
  | .timestamp => Int64

/-- These members as a record.  The reader puts all others aside. -/
def frame : Record Mark Mark.Ty where
  name := "Property"
  order := [.key, .timestamp]
  field
    | .key => required "key" asString .string
    | .timestamp => required "timestamp" asInt64 int64Json

theorem label_of_find? {name : String} {mark : Mark} (h : frame.find? name = some mark) :
    name = (frame.field mark).label :=
  Record.eq_label_of_find? (by cases mark <;> rfl) h

theorem find?_frame_eq_none_iff {name : String} :
    frame.find? name = none ↔ name ≠ "key" ∧ name ≠ "timestamp" := by
  unfold Record.find?
  simp [frame, required, @eq_comm _ name]

/-- What the members have said when the marked ones have filled these slots. -/
def seen (slots : Slots Mark.Ty) (others : List (String × Tree)) : Members :=
  ⟨slots .key, slots .timestamp, others⟩

/-- The members that are put aside. -/
def aside (members : List (Spelling × Tree)) : List (String × Tree) :=
  members.filterMap fun m => m.1.bind fun name =>
    if frame.find? name = none then some (name, m.2) else none

theorem aside_nil : aside [] = [] := rfl

section
variable {name : String} {t : Tree} {rest : List (Spelling × Tree)}

theorem aside_cons_other (h : frame.find? name = none) :
    aside ((some name, t) :: rest) = (name, t) :: aside rest :=
  List.filterMap_cons_some (if_pos h)

theorem aside_cons_marked {mark : Mark} (h : frame.find? name = some mark) :
    aside ((some name, t) :: rest) = aside rest :=
  List.filterMap_cons_none (if_neg (by rw [h]; exact Option.some_ne_none mark))

end

theorem mem_aside_iff {members : List (Spelling × Tree)} {name : String} {t : Tree} :
    (name, t) ∈ aside members ↔ (some name, t) ∈ members ∧ frame.find? name = none := by
  unfold aside
  rw [List.mem_filterMap]
  constructor
  · rintro ⟨⟨_ | other, u⟩, hmem, heq⟩
    · cases heq
    · rw [Option.bind_some] at heq
      by_cases hnone : frame.find? other = none
      · rw [if_pos hnone] at heq
        cases heq
        exact ⟨hmem, hnone⟩
      · rw [if_neg hnone] at heq
        cases heq
  · rintro ⟨hmem, hnone⟩
    exact ⟨_, hmem, if_pos hnone⟩

section
variable {slots : Slots Mark.Ty} {others : List (String × Tree)} {t : Tree}
  {rest : List (Spelling × Tree)}

theorem readMembers_marked (mark : Mark) :
    readMembers (seen slots others) ((some (frame.field mark).label, t) :: rest) =
      if (slots mark).isSome then .error (.duplicateField (frame.field mark).label)
      else (frame.field mark).read t >>= fun value =>
        readMembers (seen (fill slots mark value) others) rest := by
  cases mark <;> rfl

theorem readMembers_other {name : String} (h : frame.find? name = none) :
    readMembers (seen slots others) ((some name, t) :: rest) =
      asValue t >>= fun _ => readMembers (seen slots (others ++ [(name, t)])) rest := by
  obtain ⟨hkey, htimestamp⟩ := find?_frame_eq_none_iff.mp h
  rw [readMembers, asName]
  dsimp only [bind, Except.bind]
  rw [if_neg hkey, if_neg htimestamp]
  rfl

end

theorem skip_of_asValue {t : Tree} {v : Value} (h : asValue t = .ok v) : skip t = .ok () := by
  cases t with
  | list items ending =>
    rw [asValue] at h
    obtain ⟨_, _, h⟩ := bind_eq_ok h
    obtain ⟨_, hend, _⟩ := bind_eq_ok h
    cases ending <;> first | rfl | cases hend
  | object members ending =>
    rw [asValue] at h
    obtain ⟨_, _, h⟩ := bind_eq_ok h
    obtain ⟨_, hend, _⟩ := bind_eq_ok h
    cases ending <;> first | rfl | cases hend
  | deep | broken => cases h
  | _ => rfl

/-- **The members of an object are taken in** when the marked ones fill their slots and all others are
    documents, which are put aside in their order. -/
theorem readMembers_eq_ok_iff {slots : Slots Mark.Ty} {others : List (String × Tree)}
    {members : List (Spelling × Tree)} {m : Members} :
    readMembers (seen slots others) members = .ok m ↔
      ∃ out, frame.Fills slots members out ∧ (∀ e ∈ aside members, ∃ v, asValue e.2 = .ok v) ∧
        m = seen out (others ++ aside members) := by
  -- on the members: each fills a slot or is put behind those that were put aside before
  constructor
  · intro h
    induction members generalizing slots others with
    | nil =>
      cases h
      rw [aside_nil, List.append_nil]
      exact ⟨slots, .nil _, fun _ he => (nomatch he), rfl⟩
    | cons n rest ih =>
      obtain ⟨_ | name, t⟩ := n
      · cases h
      cases hfind : frame.find? name with
      | none =>
        rw [readMembers_other hfind] at h
        obtain ⟨v, hv, hrest⟩ := bind_eq_ok h
        obtain ⟨out, hfills, hdocs, rfl⟩ := ih hrest
        rw [aside_cons_other hfind]
        refine ⟨out, .skipped hfind (skip_of_asValue hv) hfills, ?_, ?_⟩
        · exact List.forall_mem_cons.mpr ⟨⟨v, hv⟩, hdocs⟩
        · rw [List.append_assoc, List.singleton_append]
      | some mark =>
        cases label_of_find? hfind
        rw [readMembers_marked] at h
        by_cases hslot : (slots mark).isSome
        · rw [if_pos hslot] at h
          cases h
        · rw [if_neg hslot] at h
          obtain ⟨value, hread, hrest⟩ := bind_eq_ok h
          obtain ⟨out, hfills, hdocs, rfl⟩ := ih hrest
          rw [aside_cons_marked hfind]
          exact ⟨out, .filled hfind (Option.not_isSome_iff_eq_none.mp hslot) hread hfills, hdocs, rfl⟩
  · rintro ⟨out, hfills, hdocs, rfl⟩
    induction hfills generalizing others with
    | nil slots =>
      rw [aside_nil, List.append_nil]
      rfl
    | @skipped slots out name t rest hfind _ _ ih =>
      rw [aside_cons_other hfind] at hdocs ⊢
      obtain ⟨⟨v, hv⟩, hrest⟩ := List.forall_mem_cons.mp hdocs
      have htaken := @ih (others ++ [(name, t)]) hrest
      rw [List.append_assoc, List.singleton_append] at htaken
      rw [readMembers_other hfind, hv]
      exact htaken
    | filled hfind hslot hread _ ih =>
      rw [aside_cons_marked hfind] at hdocs ⊢
      cases label_of_find? hfind
      rw [readMembers_marked, hslot, hread]
      exact ih hdocs

/-! ## The member that names the variant -/

section
variable {name : String} {t : Tree} {others rest : List (String × Tree)}
  {variant : Variant PropertyValue}

theorem readValue_named (h : PropertyValue.variant? name = some variant) :
    readValue ((name, t) :: rest) = variant.read t := by
  unfold PropertyValue.variant? at h
  rw [readValue, h]

theorem readValue_unnamed (h : PropertyValue.variant? name = none) :
    readValue ((name, t) :: rest) = readValue rest := by
  unfold PropertyValue.variant? at h
  rw [readValue, h]

/-- The value is read out of the only member that names a variant. -/
theorem readValue_of_only (hmem : (name, t) ∈ others)
    (hvariant : PropertyValue.variant? name = some variant)
    (honly : ∀ e ∈ others, PropertyValue.variant? e.1 ≠ none → e = (name, t)) :
    readValue others = variant.read t := by
  induction others with
  | nil => cases hmem
  | cons e rest ih =>
    obtain ⟨hfirst, hrest⟩ := List.forall_mem_cons.mp honly
    by_cases hnone : PropertyValue.variant? e.1 = none
    · rw [readValue_unnamed hnone]
      rcases List.mem_cons.mp hmem with rfl | hmem
      · rw [hvariant] at hnone
        cases hnone
      · exact ih hmem hrest
    · rw [hfirst hnone, readValue_named hvariant]

theorem exists_of_readValue {v : PropertyValue} (h : readValue others = .ok v) :
    ∃ e ∈ others, PropertyValue.variant? e.1 ≠ none := by
  induction others with
  | nil => cases h
  | cons e rest ih =>
    by_cases hnone : PropertyValue.variant? e.1 = none
    · rw [readValue_unnamed hnone] at h
      obtain ⟨e', he', hnamed⟩ := ih h
      exact ⟨e', List.mem_cons_of_mem e he', hnamed⟩
    · exact ⟨e, List.mem_cons_self, hnone⟩

end

/-- **An object is read as a property** when the marked members fill their slots, all others are
    documents and among these a value is found. -/
theorem read_object_eq_ok_iff {members : List (Spelling × Tree)} {ending : Ending} {p : Property} :
    read (.object members ending) = .ok p ↔
      (∃ out, frame.Fills (fun _ => none) members out ∧ out .key = some p.key ∧
        out .timestamp = some p.timestamp) ∧
      (∀ e ∈ aside members, ∃ v, asValue e.2 = .ok v) ∧ ending.check = .ok () ∧
      readValue (aside members) = .ok p.value := by
  constructor
  · intro h
    rw [read] at h
    obtain ⟨m, hmembers, h⟩ := bind_eq_ok h
    obtain ⟨_, hend, h⟩ := bind_eq_ok h
    obtain ⟨out, hfills, hdocs, rfl⟩ :=
      (@readMembers_eq_ok_iff (fun _ => none) [] members m).mp hmembers
    rw [List.nil_append] at h
    dsimp only [seen] at h
    cases hkey : out .key with
    | none =>
      rw [hkey] at h
      cases h
    | some key =>
      cases htimestamp : out .timestamp with
      | none =>
        rw [hkey, htimestamp] at h
        cases h
      | some timestamp =>
        rw [hkey, htimestamp] at h
        change (readValue (aside members) >>= fun value => .ok ⟨key, value, timestamp⟩) = .ok p at h
        obtain ⟨value, hvalue, h⟩ := bind_eq_ok h
        cases h
        exact ⟨⟨out, hfills, hkey, htimestamp⟩, hdocs, hend, hvalue⟩
  · rintro ⟨⟨out, hfills, hkey, htimestamp⟩, hdocs, hend, hvalue⟩
    have hmembers := (@readMembers_eq_ok_iff (fun _ => none) [] members _).mpr
      ⟨out, hfills, hdocs, rfl⟩
    rw [List.nil_append] at hmembers
    -- a reader that has seen nothing has its slots empty and nothing put aside
    change readMembers {} members = .ok (seen out (aside members)) at hmembers
    rw [read, hmembers, hend]
    dsimp only [seen, bind, Except.bind]
    rw [hkey, htimestamp, hvalue]
    rfl

/-! ## Written properties -/

/-- The members of a written property. -/
def members (p : Property) : List (String × Value) :=
  [("key", .string p.key), p.value.member, ("timestamp", int64Json p.timestamp)]

/-- The names that have a meaning in a property. -/
def names : List String := ["key", "timestamp", PropertyValue.textLabel, PropertyValue.numberLabel]

/-- A member of another name is put aside and names no variant. -/
theorem other_of_not_mem {name : String} (h : name ∉ names) :
    frame.find? name = none ∧ PropertyValue.variant? name = none := by
  unfold names at h
  simp only [List.mem_cons, List.not_mem_nil, or_false, not_or] at h
  exact ⟨find?_frame_eq_none_iff.mpr ⟨h.1, h.2.1⟩,
    PropertyValue.variant?_eq_none_iff.mpr h.2.2⟩

/-- Members of other names fill no slot. -/
theorem fills_others (slots : Slots Mark.Ty) {others : List (String × Value)}
    (hnames : ∀ m ∈ others, m.1 ∉ names) : frame.Fills slots (memberTrees others) slots := by
  induction others with
  | nil => exact .nil slots
  | cons m rest ih =>
    obtain ⟨hfirst, hrest⟩ := List.forall_mem_cons.mp hnames
    exact .skipped (other_of_not_mem hfirst).1 (skip_of_asValue (asValue_tree m.2)) (ih hrest)

theorem fills_members (p : Property) {others : List (String × Value)}
    (hnames : ∀ m ∈ others, m.1 ∉ names) :
    frame.Fills (fun _ => none) (memberTrees (p.members ++ others))
      (fill (fill (fun _ => none) .key p.key) .timestamp p.timestamp) := by
  have hvalue : frame.find? p.value.member.1 = none := by
    cases p.value <;> rfl
  have hskip : skip p.value.member.2.tree = .ok () := skip_of_asValue (asValue_tree _)
  have hkey : (frame.field .key).read (Value.string p.key).tree = .ok p.key := rfl
  have htimestamp : (frame.field .timestamp).read (int64Json p.timestamp).tree = .ok p.timestamp :=
    asInt64_tree _
  have hrest := fills_others (fill (fill (fun _ => none) .key p.key) .timestamp p.timestamp) hnames
  rw [members, memberTrees_eq]
  rw [memberTrees_eq] at hrest
  exact .filled rfl rfl hkey (.skipped hvalue hskip (.filled rfl rfl htimestamp hrest))

/-- A property is read from its members in any order, with others of other names among them. -/
theorem read_shuffled (p : Property) {members others : List (String × Value)}
    (hperm : members.Perm (p.members ++ others)) (hnames : ∀ m ∈ others, m.1 ∉ names) :
    read (Value.object members).tree = .ok p := by
  have htrees : (memberTrees (p.members ++ others)).Perm (memberTrees members) := by
    rw [memberTrees_eq, memberTrees_eq]
    exact (hperm.map _).symm
  have hmem : ∀ e ∈ aside (memberTrees members), ∃ m ∈ members, e = (m.1, m.2.tree) := by
    rintro ⟨name, t⟩ he
    rw [mem_aside_iff, memberTrees_eq, List.mem_map] at he
    obtain ⟨⟨m, hm, heq⟩, _⟩ := he
    cases heq
    exact ⟨m, hm, rfl⟩
  obtain ⟨variant, hvariant, hread⟩ := p.value.exists_variant?
  -- the marked members fill their slots in any order, so only the value is to be found
  rw [Value.tree, read_object_eq_ok_iff]
  refine ⟨⟨_, (p.fills_members hnames).perm htrees, rfl, rfl⟩, ?_, rfl, ?_⟩
  · intro e he
    obtain ⟨m, _, rfl⟩ := hmem e he
    exact ⟨m.2, asValue_tree m.2⟩
  · rw [readValue_of_only ?_ hvariant ?_, hread]
    · rw [mem_aside_iff, memberTrees_eq, List.mem_map]
      have hown : p.value.member ∈ members := hperm.mem_iff.mpr (by simp [Property.members])
      refine ⟨⟨p.value.member, hown, rfl⟩, ?_⟩
      cases p.value <;> rfl
    · intro e he hnamed
      obtain ⟨m, hm, rfl⟩ := hmem e he
      -- neither the marked members nor those of other names name a variant
      rcases List.mem_append.mp (hperm.mem_iff.mp hm) with hown | hother
      · simp only [Property.members, List.mem_cons, List.not_mem_nil, or_false] at hown
        rcases hown with rfl | rfl | rfl
        · exact absurd rfl hnamed
        · rfl
        · exact absurd rfl hnamed
      · exact absurd (other_of_not_mem (hnames m hother)).2 hnamed

theorem fits_members (p : Property) : ∀ m ∈ p.members, m.2.Fits 0 := by
  have hfits := p.fits_toJson
  cases hfits with
  | object h => exact h

/-- What the text of a property is to the reader. -/
structure Coded (p : Property) : Prop where
  written : p.toJson = .object p.members
  /-- The members may stand in any order, and others of other names among them. -/
  back : ∀ members others, members.Perm (p.members ++ others) →
    (∀ m ∈ others, m.1 ∉ names ∧ m.2.Fits 126) → (∀ x ∈ (Value.object members).reals, ReadsBack x) →
    decode read (encode (Value.object members).text) = .ok p

theorem coded (p : Property) : p.Coded where
  written := rfl
  back members others hperm hothers hreals := by
    have hfits : (Value.object members).Fits maxDepth := by
      refine .object fun m hm => ?_
      rcases List.mem_append.mp (hperm.mem_iff.mp hm) with hown | hother
      · exact (p.fits_members m hown).mono (by decide)
      · exact (hothers m hother).2
    rw [decode_text read hfits hreals]
    exact p.read_shuffled hperm fun m hm => (hothers m hm).1

/-- A text of an object in which no member names a variant is refused, whatever else it says. -/
theorem refused_of_unnamed {octets : Octets} {members : List (Spelling × Tree)} {ending : Ending}
    (hroot : (Document.ofOctets octets).root = .object members ending)
    (hnone : ∀ m ∈ members, m.1 ≠ some PropertyValue.textLabel ∧
      m.1 ≠ some PropertyValue.numberLabel) : ∃ error, decode read octets = .error error := by
  apply exists_decode_eq_error
  intro p hread
  rw [hroot] at hread
  obtain ⟨_, _, _, hvalue⟩ := read_object_eq_ok_iff.mp hread
  obtain ⟨⟨name, t⟩, he, hnamed⟩ := exists_of_readValue hvalue
  obtain ⟨htext, hnumber⟩ := hnone _ (mem_aside_iff.mp he).1
  exact hnamed (PropertyValue.variant?_eq_none_iff.mpr
    ⟨fun h => htext (congrArg some h), fun h => hnumber (congrArg some h)⟩)

/-- **Properties keep their variant.**  A text never comes back as a number nor a number as a text. -/
theorem variantsKept :
    (∀ p : Property, p.Coded) ∧
      ∀ octets members ending, (Document.ofOctets octets).root = .object members ending →
        (∀ m ∈ members, m.1 ≠ some PropertyValue.textLabel ∧
          m.1 ≠ some PropertyValue.numberLabel) →
        ∃ error, decode read octets = .error error :=
  ⟨coded, fun _ _ _ hroot hnone => refused_of_unnamed hroot hnone⟩

/-- A text of digits and one half, each in an object with its members in reverse order, and an object
    with neither. -/
theorem variantsKept_reversed :
    decode read (encode (Value.object [("note", .object [("numberValue", .list [.null])]),
      ("timestamp", .integer (-9223372036854775808)), ("stringValue", .string "42"),
      ("key", .string "")]).text) = .ok ⟨"", .text "42", Int64.minValue⟩ ∧
    ReadsBack ⟨0x3FE0000000000000⟩ ∧
    decode read (encode (Value.object [("timestamp", .integer 5),
      ("numberValue", .real ⟨0x3FE0000000000000⟩), ("key", .string "load")]).text) =
        .ok ⟨"load", .number ⟨0x3FE0000000000000⟩, 5⟩ ∧
    ∃ error, decode read (encode "\x7b\"key\":\"k\",\"value\":42,\"timestamp\":5\x7d") =
      .error error := by
  have hhalf : ReadsBack ⟨0x3FE0000000000000⟩ := by decide +kernel
  refine ⟨?_, hhalf, ?_, ?_⟩
  · apply (variantsKept.1 ⟨"", .text "42", Int64.minValue⟩).back _
      [("note", .object [("numberValue", .list [.null])])] (List.reverse_perm _)
    · rw [List.forall_mem_singleton]
      refine ⟨by decide, .object ?_⟩
      rw [List.forall_mem_singleton]
      refine .list ?_
      rw [List.forall_mem_singleton]
      exact .null
    · exact fun x hx => nomatch hx
  · apply (variantsKept.1 ⟨"load", .number ⟨0x3FE0000000000000⟩, 5⟩).back _ [] (List.reverse_perm _)
    · exact fun m hm => nomatch hm
    · exact List.forall_mem_singleton.mpr hhalf
  · exact variantsKept.2 _ _ _ rfl (by decide)

end Property

end AdapterGateway.Inventory
