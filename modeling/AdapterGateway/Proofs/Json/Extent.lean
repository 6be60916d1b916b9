import AdapterGateway.Proofs.Json.Origins
import AdapterGateway.Text.Blank
import Mathlib.Logic.Relation

/-!
# Texts that are read to their ends

A text that is read to its end leaves no hole in its tree: every bracket is closed, every integer fits
64 bits, and brackets are looked into only as deep as the reader goes.  What such a tree says can be
written and read again.  A text of blanks is not read to its end.
-/

namespace AdapterGateway.Json

open Text

/-! ## Blanks -/

theorem dropWhile_isSpace {octets : Octets} (hblank : octets.all isAsciiBlank = true) :
    octets.dropWhile isSpace = [] ∨ ∃ rest, octets.dropWhile isSpace = 0x0C :: rest := by
  -- of the blanks only the form feed may not stand between the tokens of a document
  induction octets with
  | nil => exact .inl rfl
  | cons octet octets ih =>
    rw [List.all_cons, Bool.and_eq_true] at hblank
    rw [List.dropWhile_cons]
    by_cases hspace : isSpace octet = true
    · rw [if_pos hspace]
      exact ih hblank.2
    · rw [if_neg hspace]
      refine .inr ⟨octets, ?_⟩
      have hfeed : octet = 0x0C := by
        have hfirst := hblank.1
        simp only [isAsciiBlank, isSpace, Bool.or_eq_true, beq_iff_eq, not_or] at hfirst hspace
        rcases hfirst with (((h | h) | h) | h) | h
        · exact absurd h hspace.1.1.1
        · exact absurd h hspace.1.1.2
        · exact absurd h hspace.1.2
        · exact h
        · exact absurd h hspace.2
      rw [hfeed]

theorem ofOctets_blank {octets : Octets} (hblank : octets.all isAsciiBlank = true) :
    Document.ofOctets octets = ⟨.broken, false⟩ := by
  unfold Document.ofOctets readOn
  rcases dropWhile_isSpace hblank with hnone | ⟨rest, hfeed⟩
  · rw [hnone]
    rfl
  · rw [hfeed]
    rfl

/-- Blanks are no document. -/
theorem parse_blank {octets : Octets} (hblank : octets.all isAsciiBlank = true) :
    parse octets = .error .malformed := by
  unfold parse decode
  rw [ofOctets_blank hblank]
  rfl

/-! ## Whole trees -/

/-- Nothing is missing in the tree, its integers fit 64 bits, and what is nested deeper than so many
    levels is not looked into. -/
inductive Tree.Whole : Nat → Tree → Prop where
  | null {depth : Nat} : Whole depth .null
  | bool {depth : Nat} (b : Bool) : Whole depth (.bool b)
  | number {depth : Nat} {n : Number} :
      (∀ i, n = .integer i → -9223372036854775808 ≤ i ∧ i < 18446744073709551616) →
      Whole depth (.number n)
  | string {depth : Nat} (s : Spelling) : Whole depth (.string s)
  | list {depth : Nat} {items : List Tree} : (∀ t ∈ items, Whole depth t) →
      Whole (depth + 1) (.list items .exact)
  | object {depth : Nat} {members : List (Spelling × Tree)} : (∀ m ∈ members, Whole depth m.2) →
      Whole (depth + 1) (.object members .exact)
  | deep {depth : Nat} (isList : Bool) : Whole depth (.deep isList .exact)

theorem Tree.Whole.skip_eq {depth : Nat} {t : Tree} (h : t.Whole depth) : skip t = .ok () := by
  cases h <;> rfl

theorem Tree.Whole.children {depth : Nat} {t : Tree} (h : t.Whole depth) :
    ∀ child ∈ t.children, child.Whole (depth - 1) := by
  cases h with
  | list hitems => exact hitems
  | object hmembers =>
    intro child hchild
    obtain ⟨m, hm, rfl⟩ := List.mem_map.mp hchild
    exact hmembers m hm
  | _ => exact List.forall_mem_nil _

/-- The second tree stands somewhere in the first, or is the first. -/
def Tree.Holds : Tree → Tree → Prop := Relation.ReflTransGen fun t child => child ∈ t.children

theorem Tree.Whole.holds {depth : Nat} {t u : Tree} (h : t.Whole depth) (hu : t.Holds u) :
    ∃ depth, u.Whole depth := by
  induction hu with
  | refl => exact ⟨depth, h⟩
  | tail _ hchild ih =>
    obtain ⟨level, hlevel⟩ := ih
    exact ⟨level - 1, hlevel.children _ hchild⟩

/-! ## What is read is whole -/

theorem absorb_le {significand : Nat} (h : significand ≤ maxSignificand) (ds : List Nat) :
    (absorb significand ds).1 ≤ maxSignificand := by
  induction ds generalizing significand with
  | nil => exact h
  | cons d rest ih =>
    rw [absorb]
    split
    · rename_i hfits
      exact ih hfits
    · exact h

theorem integerOf_range {negative : Bool} {significand : Nat} (h : significand ≤ maxSignificand)
    {i : Int} (hi : integerOf negative significand = .integer i) :
    -9223372036854775808 ≤ i ∧ i < 18446744073709551616 := by
  have hmax : maxSignificand = 18446744073709551615 := rfl
  have hpow : Nat.pow 2 63 = 9223372036854775808 := rfl
  unfold integerOf at hi
  rw [hpow] at hi
  split at hi
  · cases hi
    omega
  · split at hi
    · cases hi
    · rename_i hsmall
      cases hi
      omega

theorem realOf_ne_integer (negative : Bool) (significand : Nat) (exponent i : Int) :
    realOf negative significand exponent ≠ .integer i := by
  intro h
  unfold realOf at h
  split at h <;> cases h

theorem Numeral.value_range {n : Numeral} {i : Int} (h : n.value = .integer i) :
    -9223372036854775808 ≤ i ∧ i < 18446744073709551616 := by
  unfold value at h
  dsimp only at h
  split at h
  · exact integerOf_range (absorb_le (Nat.zero_le _) n.whole) h
  · split at h
    · exact (realOf_ne_integer _ _ _ i h).elim
    · split at h
      · split at h <;> cases h
      · exact (realOf_ne_integer _ _ _ i h).elim

theorem whole_of_readScalar {octets rest : Octets} {t : Tree} (depth : Nat)
    (h : readScalar octets = some (t, rest)) : t.Whole depth := by
  have hmap {α : Type} {read : Option α} {f : α → Tree × Octets} (hf : ∀ a, (f a).1.Whole depth)
      (h : read.map f = some (t, rest)) : t.Whole depth := by
    obtain ⟨a, _, ha⟩ := Option.map_eq_some_iff.mp h
    have hwhole := hf a
    rw [ha] at hwhole
    exact hwhole
  cases octets with
  | nil => cases h
  | cons b octets =>
    rw [readScalar] at h
    split at h
    · exact hmap (fun _ => .string _) h
    · split at h
      · exact hmap (fun _ => .number fun _ => Numeral.value_range) h
      · split at h
        · exact hmap (fun _ => .number fun _ => Numeral.value_range) h
        · split at h
          · exact hmap (fun _ => .null) h
          · split at h
            · exact hmap (fun _ => .bool true) h
            · split at h
              · exact hmap (fun _ => .bool false) h
              · cases h

/-! ## Open brackets -/

/-- What was read inside a bracket is whole. -/
def Frame.Whole (depth : Nat) : Frame → Prop
  | .list items => ∀ t ∈ items, t.Whole depth
  | .object members _ => ∀ m ∈ members, m.2.Whole depth

/-- No name waits for its value. -/
def Frame.Settled : Frame → Prop
  | .object _ (some _) => False
  | _ => True

/-- What was read inside the open brackets is whole, each as deep as is left inside it. -/
def FramesWhole : List Frame → Prop
  | [] => True
  | frame :: outer => frame.Whole (maxDepth - (outer.length + 1)) ∧ FramesWhole outer

/-- The open brackets are ready for what is expected next. -/
def Expected.Ready : Expected → List Frame → Prop
  | .value true, frames => ∃ items outer, frames = .list items :: outer
  | .comma, frames => ∀ frame ∈ frames.head?, frame.Settled
  | _, _ => True

/-- A document that is complete is whole. -/
def Document.Whole (d : Document) : Prop := d.complete = true → d.root.Whole maxDepth

theorem whole_abandon (frames : List Frame) (value : Option Tree) : (abandon frames value).Whole := by
  have hcomplete : (abandon frames value).complete = false := by
    induction frames generalizing value with
    | nil => rfl
    | cons frame outer ih => exact ih _
  intro h
  rw [hcomplete] at h
  cases h

theorem Frame.whole_add {depth : Nat} {frame : Frame} {value : Tree} (h : frame.Whole depth)
    (hvalue : value.Whole depth) : (frame.add value).Whole depth := by
  cases frame with
  | list items => exact List.forall_mem_cons.mpr ⟨hvalue, h⟩
  | object members name =>
    cases name with
    | none => exact h
    | some name => exact List.forall_mem_cons.mpr ⟨hvalue, h⟩

theorem Frame.settled_add (frame : Frame) (value : Tree) : (frame.add value).Settled := by
  rcases frame with _ | ⟨_, _ | _⟩ <;> trivial

theorem Frame.whole_close {frame : Frame} {outer : List Frame}
    (h : frame.Whole (maxDepth - (outer.length + 1))) (hsettled : frame.Settled) :
    (frame.close outer .exact).Whole (maxDepth - outer.length) := by
  -- beyond the limit a bracket closes to a tree that nobody looks into
  by_cases hdeep : isDeep outer = true
  · rcases frame with items | ⟨members, _ | name⟩ <;> rw [close, if_pos hdeep] <;> exact .deep _
  · have hlevel : maxDepth - outer.length = maxDepth - (outer.length + 1) + 1 := by
      have hmax : maxDepth = 127 := rfl
      have hshallow : outer.length ≤ maxDepth - 1 := by simpa [isDeep] using hdeep
      omega
    rw [hlevel]
    rcases frame with items | ⟨members, _ | name⟩
    · rw [close, if_neg hdeep]
      exact .list fun t ht => h t (List.mem_reverse.mp ht)
    · rw [close, if_neg hdeep]
      exact .object fun m hm => h m (List.mem_reverse.mp hm)
    · exact hsettled.elim

/-- With a value that is whole a document is read that is whole. -/
theorem whole_resume {fuel : Nat}
    (ih : ∀ frames expected octets, FramesWhole frames → expected.Ready frames →
      (readOn fuel frames expected octets).Whole)
    {value : Tree} {frames : List Frame} (hvalue : value.Whole (maxDepth - frames.length))
    (hframes : FramesWhole frames) (rest : Octets) : (resume fuel value frames rest).Whole := by
  cases frames with
  | nil => exact fun _ => hvalue
  | cons frame outer =>
    refine ih _ _ _ ⟨frame.whole_add hframes.1 hvalue, hframes.2⟩ fun next hnext => ?_
    cases hnext
    exact frame.settled_add value

theorem whole_readOn (fuel : Nat) (frames : List Frame) (expected : Expected) (octets : Octets)
    (hframes : FramesWhole frames) (hready : expected.Ready frames) :
    (readOn fuel frames expected octets).Whole := by
  induction fuel generalizing frames expected octets with
  | zero => exact whole_abandon _ _
  | succ fuel ih =>
    have hresume {value : Tree} {frames : List Frame} (hvalue : value.Whole (maxDepth - frames.length))
        (hframes : FramesWhole frames) (rest : Octets) : (resume fuel value frames rest).Whole :=
      whole_resume (fun _ _ _ => ih _ _ _) hvalue hframes rest
    unfold readOn
    split
    · exact whole_abandon _ _
    · rename_i b rest _
      dsimp only
      split
      · -- a value, or the end of a list that has just begun
        rename_i orEnd
        split
        · exact ih _ _ _ ⟨List.forall_mem_nil _, hframes⟩ ⟨[], frames, rfl⟩
        · split
          · exact ih _ _ _ ⟨List.forall_mem_nil _, hframes⟩ trivial
          · split
            · rename_i hend
              rw [Bool.and_eq_true] at hend
              rw [hend.2] at hready
              obtain ⟨items, outer, rfl⟩ := hready
              have hclosed := hresume (Frame.whole_close hframes.1 trivial) hframes.2 rest
              cases outer <;> exact hclosed
            · split
              · rename_i value rest hscalar
                have hread := hresume (whole_of_readScalar _ hscalar) hframes rest
                cases frames <;> exact hread
              · exact whole_abandon _ _
      · -- a name, or the end of an object that has just begun
        rename_i members outer
        split
        · have hclosed := hresume (Frame.whole_close hframes.1 trivial) hframes.2 rest
          cases outer <;> exact hclosed
        · split
          · split
            · exact ih _ _ _ ⟨hframes.1, hframes.2⟩ trivial
            · exact whole_abandon _ _
          · exact whole_abandon _ _
      · split
        · exact ih _ _ _ hframes trivial
        · exact whole_abandon _ _
      · -- a comma or the end of the innermost bracket
        rename_i frame outer
        have hclosed := hresume (Frame.whole_close hframes.1 (hready frame rfl)) hframes.2 rest
        split
        · split
          · exact ih _ _ _ hframes trivial
          · split
            · cases outer <;> exact hclosed
            · exact whole_abandon _ _
        · split
          · exact ih _ _ _ hframes trivial
          · split
            · cases outer <;> exact hclosed
            · exact whole_abandon _ _
      · exact whole_abandon _ _

theorem whole_ofOctets (octets : Octets) : (Document.ofOctets octets).Whole :=
  whole_readOn _ _ _ _ trivial trivial

/-! ## What a whole tree says -/

theorem forall_asValues {P : Value → Prop} {items : List Tree} {values : List Value}
    (h : asValues items = .ok values) (hP : ∀ t ∈ items, ∀ v, asValue t = .ok v → P v) :
    ∀ v ∈ values, P v := by
  induction items generalizing values with
  | nil =>
    cases h
    exact List.forall_mem_nil _
  | cons t rest ih =>
    obtain ⟨hfirst, hrest⟩ := List.forall_mem_cons.mp hP
    rw [asValues] at h
    obtain ⟨v, hvalue, h⟩ := bind_eq_ok h
    obtain ⟨vs, hvalues, h⟩ := bind_eq_ok h
    cases h
    exact List.forall_mem_cons.mpr ⟨hfirst v hvalue, ih hvalues hrest⟩

theorem forall_asMembers {P : Value → Prop} {members : List (Spelling × Tree)}
    {values : List (String × Value)} (h : asMembers members = .ok values)
    (hP : ∀ m ∈ members, ∀ v, asValue m.2 = .ok v → P v) : ∀ m ∈ values, P m.2 := by
  induction members generalizing values with
  | nil =>
    cases h
    exact List.forall_mem_nil _
  | cons m rest ih =>
    obtain ⟨hfirst, hrest⟩ := List.forall_mem_cons.mp hP
    obtain ⟨name, t⟩ := m
    rw [asMembers] at h
    obtain ⟨_, _, h⟩ := bind_eq_ok h
    obtain ⟨v, hvalue, h⟩ := bind_eq_ok h
    obtain ⟨vs, hvalues, h⟩ := bind_eq_ok h
    cases h
    exact List.forall_mem_cons.mpr ⟨hfirst v hvalue, ih hvalues hrest⟩

/-- What a whole tree says can be written so that it is read back. -/
theorem Tree.Whole.fits {depth : Nat} {t : Tree} (h : t.Whole depth) {v : Value}
    (hv : asValue t = .ok v) : v.Fits depth := by
  induction h generalizing v with
  | null =>
    cases hv
    exact .null
  | bool b =>
    cases hv
    exact .bool b
  | @number depth n hrange =>
    cases n with
    | integer i =>
      cases hv
      exact .integer (hrange i rfl).1 (hrange i rfl).2
    | real x =>
      cases hv
      exact .real x
    | tooLarge => cases hv
  | string s =>
    cases s with
    | none => cases hv
    | some s =>
      cases hv
      exact .string s
  | @list depth items _ ih =>
    rw [asValue] at hv
    obtain ⟨values, hvalues, hv⟩ := bind_eq_ok hv
    cases hv
    exact .list (forall_asValues hvalues fun t ht v => ih t ht)
  | @object depth members _ ih =>
    rw [asValue] at hv
    obtain ⟨values, hvalues, hv⟩ := bind_eq_ok hv
    cases hv
    exact .object (forall_asMembers hvalues fun m hm v => ih m hm)
  | deep isList => cases hv

theorem Tree.Whole.stable {depth : Nat} {t : Tree} (h : t.Whole depth) {v : Value}
    (hv : asDocument t = .ok v) : v.Stable depth := by
  unfold asDocument at hv
  obtain ⟨w, hvalue, rfl⟩ := map_eq_ok hv
  exact (h.fits hvalue).stable_canonical

end AdapterGateway.Json
