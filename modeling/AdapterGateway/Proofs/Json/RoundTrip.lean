import AdapterGateway.Proofs.Json.Forms
import AdapterGateway.Proofs.Json.Numbers
import AdapterGateway.Proofs.Json.Strings

/-!
# The text of a document is read back

A document whose integers fit 64 bits, whose brackets are not nested too deep and whose doubles come
back from their own texts comes back from its text.  Nothing else is asked of it: neither its size nor
what its strings hold.
-/

namespace AdapterGateway.Json

open Decimal Text

mutual

/-- What the text of a document says. -/
def Value.tree : Value → Tree
  | .null => .null
  | .bool b => .bool b
  | .integer i => .number (.integer i)
  | .real x => .number (.real x)
  | .string s => .string (some s)
  | .list items => .list (itemTrees items) .exact
  | .object members => .object (memberTrees members) .exact

def itemTrees : List Value → List Tree
  | [] => []
  | v :: rest => v.tree :: itemTrees rest

def memberTrees : List (String × Value) → List (Spelling × Tree)
  | [] => []
  | (name, v) :: rest => (some name, v.tree) :: memberTrees rest

end

/-! ## Steps of the reader -/

/-- How the reader goes on after a value inside the open brackets. -/
def resume (fuel : Nat) (value : Tree) : List Frame → Octets → Document
  | [], rest => ⟨value, rest.all isSpace⟩
  | frame :: outer, rest => readOn fuel (frame.add value :: outer) .comma rest

section
variable {fuel : Nat} {frames outer : List Frame} {rest : Octets}

theorem readOn_openList (orEnd : Bool) :
    readOn (fuel + 1) frames (.value orEnd) (0x5B :: rest) =
      readOn fuel (.list [] :: frames) (.value true) rest := rfl

theorem readOn_openObject (orEnd : Bool) :
    readOn (fuel + 1) frames (.value orEnd) (0x7B :: rest) =
      readOn fuel (.object [] none :: frames) (.name true) rest := rfl

theorem readOn_emptyList {frame : Frame} :
    readOn (fuel + 1) (frame :: outer) (.value true) (0x5D :: rest) =
      resume fuel (frame.close outer .exact) outer rest := by
  cases outer <;> rfl

theorem readOn_emptyObject :
    readOn (fuel + 1) (.object [] none :: outer) (.name true) (0x7D :: rest) =
      resume fuel (Frame.close outer .exact (.object [] none)) outer rest := by
  cases outer <;> rfl

theorem readOn_name {members : List (Spelling × Tree)} {octets : Octets} {name : Spelling}
    (hname : readString ⟨some [], none⟩ .plain octets = some (name, rest)) (orEnd : Bool) :
    readOn (fuel + 1) (.object members none :: outer) (.name orEnd) (0x22 :: octets) =
      readOn fuel (.object members (some name) :: outer) .colon rest := by
  have hstart : (0x22 :: octets).dropWhile isSpace = 0x22 :: octets := rfl
  rw [readOn, hstart]
  dsimp only
  rw [if_neg (by simp), if_pos (by decide), hname]
  intro _ h
  cases h

theorem readOn_colon :
    readOn (fuel + 1) frames .colon (0x3A :: rest) = readOn fuel frames (.value false) rest := rfl

theorem readOn_nextItem {items : List Tree} :
    readOn (fuel + 1) (.list items :: outer) .comma (0x2C :: rest) =
      readOn fuel (.list items :: outer) (.value false) rest := rfl

theorem readOn_endList {items : List Tree} :
    readOn (fuel + 1) (.list items :: outer) .comma (0x5D :: rest) =
      resume fuel (Frame.close outer .exact (.list items)) outer rest := by
  cases outer <;> rfl

theorem readOn_nextMember {members : List (Spelling × Tree)} :
    readOn (fuel + 1) (.object members none :: outer) .comma (0x2C :: rest) =
      readOn fuel (.object members none :: outer) (.name false) rest := rfl

theorem readOn_endObject {members : List (Spelling × Tree)} :
    readOn (fuel + 1) (.object members none :: outer) .comma (0x7D :: rest) =
      resume fuel (Frame.close outer .exact (.object members none)) outer rest := by
  cases outer <;> rfl

theorem start_of_readScalar {b : UInt8} {octets : Octets} {r : Tree × Octets}
    (h : readScalar (b :: octets) = some r) :
    isSpace b = false ∧ b ≠ 0x5B ∧ b ≠ 0x7B ∧ b ≠ 0x5D := by
  refine ⟨?_, ?_, ?_, ?_⟩
  · cases hspace : isSpace b with
    | false => rfl
    | true =>
      simp only [isSpace, Bool.or_eq_true, beq_iff_eq] at hspace
      rcases hspace with ((rfl | rfl) | rfl) | rfl <;> cases h
  all_goals
    rintro rfl
    cases h

theorem readOn_scalar {octets : Octets} {value : Tree} (h : readScalar octets = some (value, rest))
    (orEnd : Bool) :
    readOn (fuel + 1) frames (.value orEnd) octets = resume fuel value frames rest := by
  cases octets with
  | nil => cases h
  | cons b octets =>
    obtain ⟨hspace, hlist, hobject, hend⟩ := start_of_readScalar h
    rw [readOn, List.dropWhile_cons, hspace, if_neg (by decide)]
    dsimp only
    rw [if_neg (by simpa using hlist), if_neg (by simpa using hobject), if_neg (by simp [hend]), h]
    cases frames <;> rfl

end

/-! ## Values -/

/-- Nothing else is read: `octets` stand for the tree `t` wherever so many levels of brackets are left,
    and the reader has steps enough for what follows when it had them before. -/
def Reads (depth : Nat) (t : Tree) (octets : Octets) : Prop :=
  ∀ fuel frames orEnd rest, depth + frames.length ≤ maxDepth → Parted rest →
    (octets ++ rest).length < fuel →
    ∃ left, rest.length < left ∧
      readOn fuel frames (.value orEnd) (octets ++ rest) = resume left t frames rest

theorem reads_of_readScalar {depth : Nat} {t : Tree} {octets : Octets}
    (h : ∀ rest, Parted rest → readScalar (octets ++ rest) = some (t, rest)) :
    Reads depth t octets := by
  intro fuel frames orEnd rest _ hrest hfuel
  obtain ⟨left, rfl⟩ : ∃ left, fuel = left + 1 := ⟨fuel - 1, by omega⟩
  have hscalar := h rest hrest
  refine ⟨left, ?_, readOn_scalar hscalar orEnd⟩
  -- a value has at least one octet
  have hsome : octets ≠ [] := by
    rintro rfl
    have hnil := h [] parted_nil
    cases hnil
  have hlength := List.length_pos_iff.mpr hsome
  rw [List.length_append] at hfuel
  omega

/-- The octets of texts behind commas. -/
theorem encode_intercalate (first : String) (others : List String) :
    encode (String.intercalate "," (first :: others)) =
      encode first ++ others.flatMap fun s => 0x2C :: encode s := by
  induction others generalizing first with
  | nil => rw [List.flatMap_nil, List.append_nil, String.intercalate_singleton]
  | cons s others ih =>
    rw [String.intercalate_cons_cons, encode_append, encode_append, ih, List.flatMap_cons,
      List.append_assoc]
    rfl

theorem not_isDeep {outer : List Frame} (h : outer.length < maxDepth) : isDeep outer = false := by
  have hnone : outer.drop (maxDepth - 1) = [] := List.drop_eq_nil_of_le (by omega)
  rw [isDeep, hnone]
  rfl

theorem itemTrees_eq (items : List Value) : itemTrees items = items.map Value.tree := by
  induction items with
  | nil => rfl
  | cons v rest ih => rw [itemTrees, ih, List.map_cons]

theorem memberTrees_eq (members : List (String × Value)) :
    memberTrees members = members.map fun m => (some m.1, m.2.tree) := by
  induction members with
  | nil => rfl
  | cons m rest ih => rw [memberTrees, ih, List.map_cons]

/-- Elements behind a first one and the end of their bracket.  `frame` is what is open when those in
    `done` are read; each of the others is read behind its comma. -/
theorem reads_rest {α : Type} {octets : α → Octets} {ending : UInt8} {frame : List α → Frame}
    {outer : List Frame} {items : List α} (hending : isNumeric ending = false)
    (hitem : ∀ a ∈ items, ∀ fuel done rest, Parted rest → (octets a ++ rest).length < fuel →
      ∃ left, rest.length < left ∧
        readOn (fuel + 1) (frame done :: outer) .comma (0x2C :: (octets a ++ rest)) =
          readOn left (frame (done ++ [a]) :: outer) .comma rest)
    (hend : ∀ fuel done rest, readOn (fuel + 1) (frame done :: outer) .comma (ending :: rest) =
      resume fuel (Frame.close outer .exact (frame done)) outer rest)
    (fuel : Nat) (done : List α) (rest : Octets)
    (hfuel : ((items.flatMap fun a => 0x2C :: octets a) ++ ending :: rest).length < fuel) :
    ∃ left, rest.length < left ∧
      readOn fuel (frame done :: outer) .comma
          ((items.flatMap fun a => 0x2C :: octets a) ++ ending :: rest) =
        resume left (Frame.close outer .exact (frame (done ++ items))) outer rest := by
  -- on the elements: the steps that one of them leaves are enough for those behind it
  induction items generalizing fuel done with
  | nil =>
    obtain ⟨left, rfl⟩ : ∃ left, fuel = left + 1 := ⟨fuel - 1, by omega⟩
    rw [List.flatMap_nil, List.nil_append, List.length_cons] at hfuel
    refine ⟨left, by omega, ?_⟩
    rw [List.flatMap_nil, List.nil_append, hend, List.append_nil]
  | cons a items ih =>
    obtain ⟨hfirst, hothers⟩ := List.forall_mem_cons.mp hitem
    obtain ⟨more, rfl⟩ : ∃ more, fuel = more + 1 := ⟨fuel - 1, by omega⟩
    rw [List.flatMap_cons, List.cons_append, List.cons_append, List.append_assoc,
      List.length_cons] at hfuel
    rw [List.flatMap_cons, List.cons_append, List.cons_append, List.append_assoc]
    have hparted : Parted ((items.flatMap fun a => 0x2C :: octets a) ++ ending :: rest) := by
      cases items with
      | nil => exact parted_cons hending _
      | cons b items => exact parted_cons (by decide) _
    obtain ⟨left, hleft, hread⟩ := hfirst more done _ hparted (by omega)
    obtain ⟨last, hlast, hrest⟩ := ih hothers left (done ++ [a]) hleft
    rw [List.append_assoc, List.singleton_append] at hrest
    exact ⟨last, hlast, hread.trans hrest⟩

/-- The items of a list behind its first one, and its end. -/
theorem reads_items {depth : Nat} {first : Value} {items : List Value}
    (h : ∀ v ∈ items, Reads depth v.tree (encode v.text)) {outer : List Frame}
    (hdepth : depth + (outer.length + 1) ≤ maxDepth) (fuel : Nat) (rest : Octets)
    (hfuel : ((items.flatMap fun v => 0x2C :: encode v.text) ++ 0x5D :: rest).length < fuel) :
    ∃ left, rest.length < left ∧
      readOn fuel (.list [first.tree] :: outer) .comma
          ((items.flatMap fun v => 0x2C :: encode v.text) ++ 0x5D :: rest) =
        resume left (.list ((first :: items).map Value.tree) .exact) outer rest := by
  obtain ⟨left, hleft, hread⟩ := @reads_rest Value (fun v => encode v.text) 0x5D
    (fun done => .list (done.map Value.tree).reverse) outer items (by decide)
    (fun v hv fuel done rest hrest hfuel => by
      obtain ⟨left, hleft, hvalue⟩ := h v hv fuel (.list (done.map Value.tree).reverse :: outer)
        false rest hdepth hrest hfuel
      refine ⟨left, hleft, ?_⟩
      rw [readOn_nextItem, hvalue, List.map_append, List.reverse_append]
      rfl)
    (fun _ _ _ => readOn_endList) fuel [first] rest hfuel
  refine ⟨left, hleft, hread.trans ?_⟩
  rw [Frame.close, not_isDeep (by omega), if_neg (by decide), List.reverse_reverse]
  rfl

def memberText (m : String × Value) : String := stringText m.1 ++ ":" ++ m.2.text

theorem encode_memberText (m : String × Value) (rest : Octets) :
    encode (memberText m) ++ rest =
      0x22 :: (octetsOf (m.1.toList.flatMap escapeChar) ++
        0x22 :: 0x3A :: (encode m.2.text ++ rest)) := by
  have hcolon : encode ":" = [0x3A] := rfl
  rw [memberText, encode_append, encode_append, encode_stringText, hcolon]
  simp only [List.cons_append, List.append_assoc, List.nil_append]

theorem reads_member {depth : Nat} {m : String × Value}
    (h : Reads depth m.2.tree (encode m.2.text)) {outer : List Frame}
    (hdepth : depth + (outer.length + 1) ≤ maxDepth) (fuel : Nat) (orEnd : Bool)
    (done : List (Spelling × Tree)) {rest : Octets} (hrest : Parted rest)
    (hfuel : (encode (memberText m) ++ rest).length < fuel) :
    ∃ left, rest.length < left ∧
      readOn fuel (.object done none :: outer) (.name orEnd) (encode (memberText m) ++ rest) =
        readOn left (.object ((some m.1, m.2.tree) :: done) none :: outer) .comma rest := by
  rw [encode_memberText] at hfuel ⊢
  simp only [List.length_cons, List.length_append] at hfuel
  obtain ⟨more, rfl⟩ : ∃ more, fuel = more + 2 := ⟨fuel - 2, by omega⟩
  rw [readOn_name (readString_stringText m.1 _), readOn_colon]
  exact h _ (.object done (some m.1) :: outer) false rest hdepth hrest
    (by rw [List.length_append]; omega)

/-- The members of an object behind its first one, and its end. -/
theorem reads_members {depth : Nat} {first : String × Value} {members : List (String × Value)}
    (h : ∀ m ∈ members, Reads depth m.2.tree (encode m.2.text)) {outer : List Frame}
    (hdepth : depth + (outer.length + 1) ≤ maxDepth) (fuel : Nat) (rest : Octets)
    (hfuel : ((members.flatMap fun m => 0x2C :: encode (memberText m)) ++ 0x7D :: rest).length <
      fuel) :
    ∃ left, rest.length < left ∧
      readOn fuel (.object [(some first.1, first.2.tree)] none :: outer) .comma
          ((members.flatMap fun m => 0x2C :: encode (memberText m)) ++ 0x7D :: rest) =
        resume left (.object ((first :: members).map fun m => (some m.1, m.2.tree)) .exact) outer
          rest := by
  obtain ⟨left, hleft, hread⟩ := @reads_rest (String × Value) (fun m => encode (memberText m)) 0x7D
    (fun done => .object (done.map fun m => (some m.1, m.2.tree)).reverse none) outer members
    (by decide)
    (fun m hm fuel done rest hrest hfuel => by
      obtain ⟨left, hleft, hmember⟩ := reads_member (h m hm) hdepth fuel false
        (done.map fun m => (some m.1, m.2.tree)).reverse hrest hfuel
      refine ⟨left, hleft, ?_⟩
      rw [readOn_nextMember, hmember, List.map_append, List.reverse_append]
      rfl)
    (fun _ _ _ => readOn_endObject) fuel [first] rest hfuel
  refine ⟨left, hleft, hread.trans ?_⟩
  rw [Frame.close, not_isDeep (by omega), if_neg (by decide), List.reverse_reverse]
  rfl

/-! ## Documents -/

theorem encode_list (v : Value) (rest : List Value) :
    encode (Value.list (v :: rest)).text =
      0x5B :: (encode v.text ++ ((rest.flatMap fun v => 0x2C :: encode v.text) ++ [0x5D])) := by
  have hopen : encode "[" = [0x5B] := rfl
  have hclose : encode "]" = [0x5D] := rfl
  rw [Value.text, itemTexts_eq, List.map_cons, encode_append, encode_append, encode_intercalate,
    List.flatMap_map, hopen, hclose]
  simp only [List.cons_append, List.nil_append, List.append_assoc]

theorem encode_object (m : String × Value) (rest : List (String × Value)) :
    encode (Value.object (m :: rest)).text =
      0x7B :: (encode (memberText m) ++
        ((rest.flatMap fun m => 0x2C :: encode (memberText m)) ++ [0x7D])) := by
  have hopen : encode "\x7b" = [0x7B] := rfl
  have hclose : encode "\x7d" = [0x7D] := rfl
  rw [Value.text, memberTexts_eq, List.map_cons, encode_append, encode_append, encode_intercalate,
    List.flatMap_map, hopen, hclose]
  simp only [List.cons_append, List.nil_append, List.append_assoc]
  rfl

theorem reads_list {depth : Nat} {items : List Value}
    (h : ∀ v ∈ items, Reads depth v.tree (encode v.text)) :
    Reads (depth + 1) (Value.list items).tree (encode (Value.list items).text) := by
  intro fuel frames orEnd rest hdepth hrest hfuel
  obtain ⟨more, rfl⟩ : ∃ more, fuel = more + 1 := ⟨fuel - 1, by omega⟩
  rw [Value.tree, itemTrees_eq]
  cases items with
  | nil =>
    have hoctets : encode (Value.list []).text = [0x5B, 0x5D] := rfl
    rw [hoctets] at hfuel ⊢
    simp only [List.length_append, List.length_cons, List.length_nil] at hfuel
    obtain ⟨left, rfl⟩ : ∃ left, more = left + 1 := ⟨more - 1, by omega⟩
    refine ⟨left, by omega, ?_⟩
    rw [List.cons_append, readOn_openList, List.cons_append, readOn_emptyList, Frame.close,
      not_isDeep (by omega), if_neg (by decide)]
    rfl
  | cons v items =>
    obtain ⟨hfirst, hothers⟩ := List.forall_mem_cons.mp h
    rw [encode_list, List.cons_append, List.length_cons, List.append_assoc, List.append_assoc,
      List.singleton_append] at hfuel
    rw [encode_list, List.cons_append, List.append_assoc, List.append_assoc, List.singleton_append,
      readOn_openList]
    have hparted : Parted ((items.flatMap fun v => 0x2C :: encode v.text) ++ 0x5D :: rest) := by
      cases items <;> exact parted_cons (by decide) _
    have hinner : depth + (frames.length + 1) ≤ maxDepth := by omega
    obtain ⟨left, hleft, hvalue⟩ := hfirst more (.list [] :: frames) true _ hinner hparted (by omega)
    rw [hvalue]
    exact reads_items hothers hinner left rest hleft

theorem reads_object {depth : Nat} {members : List (String × Value)}
    (h : ∀ m ∈ members, Reads depth m.2.tree (encode m.2.text)) :
    Reads (depth + 1) (Value.object members).tree (encode (Value.object members).text) := by
  intro fuel frames orEnd rest hdepth hrest hfuel
  obtain ⟨more, rfl⟩ : ∃ more, fuel = more + 1 := ⟨fuel - 1, by omega⟩
  rw [Value.tree, memberTrees_eq]
  cases members with
  | nil =>
    have hoctets : encode (Value.object []).text = [0x7B, 0x7D] := rfl
    rw [hoctets] at hfuel ⊢
    simp only [List.length_append, List.length_cons, List.length_nil] at hfuel
    obtain ⟨left, rfl⟩ : ∃ left, more = left + 1 := ⟨more - 1, by omega⟩
    refine ⟨left, by omega, ?_⟩
    rw [List.cons_append, readOn_openObject, List.cons_append, readOn_emptyObject, Frame.close,
      not_isDeep (by omega), if_neg (by decide)]
    rfl
  | cons m members =>
    obtain ⟨hfirst, hothers⟩ := List.forall_mem_cons.mp h
    rw [encode_object, List.cons_append, List.length_cons, List.append_assoc, List.append_assoc,
      List.singleton_append] at hfuel
    rw [encode_object, List.cons_append, List.append_assoc, List.append_assoc,
      List.singleton_append, readOn_openObject]
    have hparted :
        Parted ((members.flatMap fun m => 0x2C :: encode (memberText m)) ++ 0x7D :: rest) := by
      cases members <;> exact parted_cons (by decide) _
    have hinner : depth + (frames.length + 1) ≤ maxDepth := by omega
    obtain ⟨left, hleft, hmember⟩ := reads_member hfirst hinner more true [] hparted (by omega)
    rw [hmember]
    exact reads_members hothers hinner left rest hleft

/-! ## Doubles that come back from their texts -/

/-- The double is read from its own text. -/
def ReadsBack (x : Binary64) : Prop := parse (encode (realText x)) = .ok (.real x)

/-- The double that was read, if it is one. -/
def real? : Except DecodeError Value → Option Binary64
  | .ok (.real x) => some x
  | _ => none

theorem real?_eq_some_iff {r : Except DecodeError Value} {x : Binary64} :
    real? r = some x ↔ r = .ok (.real x) := by
  rcases r with e | v
  · simp [real?]
  · cases v <;> simp [real?]

instance : DecidablePred ReadsBack := fun _ => decidable_of_iff _ real?_eq_some_iff

theorem start_of_isNumeric {b : UInt8} (hb : isNumeric b = true) :
    isSpace b = false ∧ b ≠ 0x5B ∧ b ≠ 0x7B := by
  refine ⟨?_, ?_, ?_⟩
  · cases hspace : isSpace b with
    | false => rfl
    | true =>
      simp only [isSpace, Bool.or_eq_true, beq_iff_eq] at hspace
      rcases hspace with ((rfl | rfl) | rfl) | rfl <;> exact absurd hb (by decide)
  all_goals
    rintro rfl
    exact absurd hb (by decide)

theorem eq_real_of_asDocument {n : Number} {x : Binary64}
    (h : asDocument (.number n) = .ok (.real x)) : n = .real x := by
  cases n with
  | integer i => cases h
  | tooLarge => cases h
  | real y =>
    change Except.ok (Value.canonical (.real y)) = .ok (.real x) at h
    rw [Value.canonical] at h
    split at h
    · cases h
      rfl
    · cases h

/-- A number that a text of numeric octets is parsed to is read in front of anything that does not go
    on with it. -/
theorem readScalar_of_parse {b : UInt8} {octets rest : Octets} {x : Binary64}
    (hnumeric : ∀ c ∈ b :: octets, isNumeric c = true) (h : parse (b :: octets) = .ok (.real x))
    (hrest : Parted rest) :
    readScalar (b :: octets ++ rest) = some (.number (.real x), rest) := by
  obtain ⟨hspace, hlist, hobject⟩ := start_of_isNumeric (hnumeric b List.mem_cons_self)
  cases hscalar : readScalar (b :: octets) with
  | none =>
    have hdocument : Document.ofOctets (b :: octets) = ⟨.broken, false⟩ := by
      rw [Document.ofOctets, readOn, List.dropWhile_cons, hspace, if_neg (by decide)]
      dsimp only
      rw [if_neg (by simpa using hlist), if_neg (by simpa using hobject), if_neg (by simp), hscalar]
      rfl
    rw [parse, decode, hdocument] at h
    cases h
  | some r =>
    obtain ⟨t, left⟩ := r
    have hdocument : Document.ofOctets (b :: octets) = ⟨t, left.all isSpace⟩ :=
      readOn_scalar hscalar false
    have hfirst : b = 0x2D ∨ isDigit b = true := by
      have hb := hnumeric b List.mem_cons_self
      simp only [isNumeric, Bool.or_eq_true, beq_iff_eq] at hb
      rcases hb with ((((hdigit | rfl) | rfl) | rfl) | rfl) | rfl
      · exact .inr hdigit
      · cases hscalar
      · exact .inl rfl
      · cases hscalar
      · cases hscalar
      · cases hscalar
    obtain ⟨⟨n, rfl⟩, hsuffix, hmore⟩ := number_of_readScalar hfirst hscalar
    rw [parse, decode, hdocument] at h
    cases hroot : asDocument (.number n) with
    | error e =>
      simp only [hroot] at h
      cases h
    | ok v =>
      simp only [hroot] at h
      cases hblank : left.all isSpace with
      | false =>
        rw [hblank] at h
        cases h
      | true =>
        rw [hblank, if_pos rfl] at h
        cases h
        -- what is left over is blank, and no octet of a number is
        have hnil : left = [] := by
          refine List.eq_nil_iff_forall_not_mem.mpr fun c hc => ?_
          have hc' := (start_of_isNumeric (hnumeric c (hsuffix.mem hc))).1
          rw [List.all_eq_true.mp hblank c hc] at hc'
          cases hc'
        rw [hmore rest hrest, hnil, eq_real_of_asDocument hroot, List.nil_append]

theorem readScalar_real {x : Binary64} {rest : Octets} (hx : ReadsBack x) (hrest : Parted rest) :
    readScalar (encode (realText x) ++ rest) = some (.number (.real x), rest) := by
  unfold ReadsBack at hx
  cases htext : x.text? with
  | none =>
    have hnull : realText x = "null" := by rw [realText, htext]; rfl
    have hparse : parse (encode "null") = .ok .null := rfl
    rw [hnull, hparse] at hx
    cases hx
  | some s =>
    have hs : realText x = s := by rw [realText, htext]; rfl
    have hnumeric : ∀ b ∈ encode s, isNumeric b = true := fun b hb =>
      (numerical_text? htext).octets hb
    rw [hs] at hx ⊢
    cases hoctets : encode s with
    | nil =>
      have hparse : parse [] = .error .malformed := rfl
      rw [hoctets, hparse] at hx
      cases hx
    | cons b octets =>
      rw [hoctets] at hx hnumeric
      exact readScalar_of_parse hnumeric hx hrest

/-! ## Documents that come back from their texts -/

theorem reads_text {depth : Nat} {v : Value} (hv : v.Fits depth)
    (hreals : ∀ x ∈ v.reals, ReadsBack x) : Reads depth v.tree (encode v.text) := by
  induction hv with
  | null =>
    refine reads_of_readScalar fun rest _ => ?_
    exact rfl
  | bool b =>
    refine reads_of_readScalar fun rest _ => ?_
    cases b <;> rfl
  | integer hlow hhigh =>
    exact reads_of_readScalar fun rest hrest => readScalar_integer hlow hhigh hrest
  | real x =>
    exact reads_of_readScalar fun rest hrest =>
      readScalar_real (hreals x List.mem_cons_self) hrest
  | string s =>
    refine reads_of_readScalar fun rest _ => ?_
    rw [Value.text, encode_stringText, List.cons_append, List.append_assoc, List.singleton_append,
      readScalar, if_pos (by decide), readString_stringText]
    rfl
  | list _ ih =>
    exact reads_list fun v hv => ih v hv fun x hx => hreals x (mem_reals_list hv hx)
  | object _ ih =>
    exact reads_object fun m hm => ih m hm fun x hx => hreals x (mem_reals_object hm hx)

/-- The text of a document is read to its end, as what it says. -/
theorem ofOctets_text {v : Value} (hv : v.Fits maxDepth) (hreals : ∀ x ∈ v.reals, ReadsBack x) :
    Document.ofOctets (encode v.text) = ⟨v.tree, true⟩ := by
  obtain ⟨left, _, hread⟩ := reads_text hv hreals ((encode v.text).length + 1) [] false []
    (Nat.le_refl _) parted_nil (by rw [List.append_nil]; exact Nat.lt_succ_self _)
  rw [List.append_nil] at hread
  exact hread

theorem asValue_tree (v : Value) : asValue v.tree = .ok v := by
  induction v with
  | null => rfl
  | bool b => rfl
  | integer i => rfl
  | real x => rfl
  | string s => rfl
  | list items ih =>
    have hitems : asValues (itemTrees items) = .ok items := by
      induction items with
      | nil => rfl
      | cons v rest hrest =>
        obtain ⟨hv, hothers⟩ := List.forall_mem_cons.mp ih
        rw [itemTrees, asValues, hv, hrest hothers]
        rfl
    rw [Value.tree, asValue, hitems]
    rfl
  | object members ih =>
    have hmembers : asMembers (memberTrees members) = .ok members := by
      induction members with
      | nil => rfl
      | cons m rest hrest =>
        obtain ⟨hm, hothers⟩ := List.forall_mem_cons.mp ih
        rw [memberTrees, asMembers, hm, hrest hothers]
        rfl
    rw [Value.tree, asValue, hmembers]
    rfl

/-- Reading a text is reading what it says. -/
theorem decode_text {α : Type} (read : Reader α) {v : Value} (hv : v.Fits maxDepth)
    (hreals : ∀ x ∈ v.reals, ReadsBack x) : decode read (encode v.text) = read v.tree := by
  rw [decode, ofOctets_text hv hreals]
  cases read v.tree <;> rfl

/-- The same for a text without doubles. -/
theorem decode_plain {α : Type} (read : Reader α) {v : Value} (hv : v.Plain maxDepth) :
    decode read (encode v.text) = read v.tree := by
  apply decode_text read hv.fits
  intro x hx
  rw [hv.reals] at hx
  cases hx

/-- **A document comes back from its text**, with its members in order. -/
theorem parse_text {v : Value} (hv : v.Fits maxDepth) (hreals : ∀ x ∈ v.reals, ReadsBack x) :
    parse (encode v.text) = .ok v.canonical := by
  rw [parse, decode_text asDocument hv hreals, asDocument, asValue_tree]
  rfl

theorem parse_plain {v : Value} (hv : v.Plain maxDepth) : parse (encode v.text) = .ok v.canonical := by
  rw [parse, decode_plain asDocument hv, asDocument, asValue_tree]
  rfl

end AdapterGateway.Json
