import AdapterGateway.Proofs.Text.Utf8

/-!
# Strict reading

Octets that are read strictly are the encoding of the text that they are read as.  The machine that
cuts octets into characters is followed from the first octet of a character to its last: whatever it
lets pass lies in the ranges in which encoded characters lie.
-/

namespace AdapterGateway.Text

namespace Utf8

/-! ## First octets -/

/-- What the first of several octets says of a character: its leading bits, and the range of the
    second octet, which leaves out overlong forms, surrogates and what lies behind the last code
    point. -/
def Opens (b : UInt8) (p : Pending) : Prop :=
  (p.missing = 1 ∧ b.toNat = 0xC0 + p.bits ∧ 2 ≤ p.bits ∧ p.bits < 32 ∧
    0x80 ≤ p.low.toNat ∧ p.high.toNat ≤ 0xBF) ∨
  (p.missing = 2 ∧ b.toNat = 0xE0 + p.bits ∧ p.bits < 16 ∧
    0x80 ≤ p.low.toNat ∧ p.high.toNat ≤ 0xBF ∧
    (p.bits = 0 → 0xA0 ≤ p.low.toNat) ∧ (p.bits = 13 → p.high.toNat ≤ 0x9F)) ∨
  (p.missing = 3 ∧ b.toNat = 0xF0 + p.bits ∧ p.bits ≤ 4 ∧
    0x80 ≤ p.low.toNat ∧ p.high.toNat ≤ 0xBF ∧
    (p.bits = 0 → 0x90 ≤ p.low.toNat) ∧ (p.bits = 4 → p.high.toNat ≤ 0x8F))

instance (b : UInt8) (p : Pending) : Decidable (Opens b p) :=
  inferInstanceAs (Decidable (_ ∨ _ ∨ _))

/-- What is found at an octet with which a character starts: the character, or that the octet is no
    part of any, or an open character. -/
def Starts (b : UInt8) (found : List (Option Char) × Option Pending) : Prop :=
  (b.toNat < 0x80 ∧ found = ([some (Char.ofNat b.toNat)], none)) ∨ found = ([none], none) ∨
    found.1 = [] ∧ ∃ p ∈ found.2, Opens b p

instance (b : UInt8) (found : List (Option Char) × Option Pending) : Decidable (Starts b found) :=
  inferInstanceAs (Decidable (_ ∨ _ ∨ _))

/-- The table of first octets, checked octet by octet. -/
theorem starts_start (b : UInt8) : Starts b (start b) := by
  have hall : ∀ n < 256, Starts (UInt8.ofNat n) (start (UInt8.ofNat n)) := by decide +kernel
  have hb := hall b.toNat b.toNat_lt
  rwa [UInt8.ofNat_toNat] at hb

/-! ## Characters -/

theorem exists_char {v : Nat} (hv : v < 0xD800 ∨ 0xDFFF < v ∧ v < 0x110000) :
    ∃ c : Char, c.val.toNat = v := ⟨Char.ofNatAux v hv, rfl⟩

theorem ofNat_eq {b : UInt8} {n : Nat} (hb : n = b.toNat) : UInt8.ofNat n = b := by
  rw [hb, UInt8.ofNat_toNat]

theorem exists_char_two {b s : UInt8} {bits : Nat} (hb : b.toNat = 0xC0 + bits) (hlow : 2 ≤ bits)
    (hhigh : bits < 32) (hs : 0x80 ≤ s.toNat ∧ s.toNat ≤ 0xBF) :
    ∃ c, String.utf8EncodeChar c = [b, s] := by
  obtain ⟨c, hc⟩ := exists_char (v := bits * 64 + (s.toNat - 0x80)) (by omega)
  refine ⟨c, ?_⟩
  unfold String.utf8EncodeChar
  simp only [hc]
  rw [if_neg (by omega), if_pos (by omega), ofNat_eq (b := b) (by omega),
    ofNat_eq (b := s) (by omega)]

/-- The second octet keeps the character clear of overlong forms and of surrogates. -/
theorem exists_char_three {b s t : UInt8} {bits : Nat} (hb : b.toNat = 0xE0 + bits)
    (hhigh : bits < 16) (hs : 0x80 ≤ s.toNat ∧ s.toNat ≤ 0xBF) (hover : bits = 0 → 0xA0 ≤ s.toNat)
    (hsurrogate : bits = 13 → s.toNat ≤ 0x9F) (ht : 0x80 ≤ t.toNat ∧ t.toNat ≤ 0xBF) :
    ∃ c, String.utf8EncodeChar c = [b, s, t] := by
  obtain ⟨c, hc⟩ := exists_char
    (v := (bits * 64 + (s.toNat - 0x80)) * 64 + (t.toNat - 0x80)) (by omega)
  refine ⟨c, ?_⟩
  unfold String.utf8EncodeChar
  simp only [hc]
  rw [if_neg (by omega), if_neg (by omega), if_pos (by omega), ofNat_eq (b := b) (by omega),
    ofNat_eq (b := s) (by omega), ofNat_eq (b := t) (by omega)]

/-- The second octet keeps the character clear of overlong forms and behind no code point. -/
theorem exists_char_four {b s t u : UInt8} {bits : Nat} (hb : b.toNat = 0xF0 + bits)
    (hhigh : bits ≤ 4) (hs : 0x80 ≤ s.toNat ∧ s.toNat ≤ 0xBF) (hover : bits = 0 → 0x90 ≤ s.toNat)
    (hlast : bits = 4 → s.toNat ≤ 0x8F) (ht : 0x80 ≤ t.toNat ∧ t.toNat ≤ 0xBF)
    (hu : 0x80 ≤ u.toNat ∧ u.toNat ≤ 0xBF) :
    ∃ c, String.utf8EncodeChar c = [b, s, t, u] := by
  obtain ⟨c, hc⟩ := exists_char
    (v := ((bits * 64 + (s.toNat - 0x80)) * 64 + (t.toNat - 0x80)) * 64 + (u.toNat - 0x80))
    (by omega)
  refine ⟨c, ?_⟩
  unfold String.utf8EncodeChar
  simp only [hc]
  rw [if_neg (by omega), if_neg (by omega), if_neg (by omega), ofNat_eq (b := b) (by omega),
    ofNat_eq (b := s) (by omega), ofNat_eq (b := t) (by omega), ofNat_eq (b := u) (by omega)]

/-! ## What the machine lets pass -/

/-- What is found ill-formed stays among the pieces. -/
theorem mem_cut_of_mem {done : List (Option Char)} (h : none ∈ done) (state : Option Pending)
    (octets : Octets) : none ∈ cut done state octets := by
  induction octets generalizing done state with
  | nil =>
    cases state <;> simp [cut, h]
  | cons b rest ih =>
    rw [cut]
    apply ih
    rw [List.reverseAux_eq]
    exact List.mem_append_right _ h

/-- An open character goes on with an octet in its range. -/
theorem exists_of_cut_open {done : List (Option Char)} {p : Pending} {octets : Octets}
    (h : none ∉ cut done (some p) octets) :
    ∃ b rest, octets = b :: rest ∧ p.low ≤ b ∧ b ≤ p.high := by
  cases octets with
  | nil => simp [cut] at h
  | cons b rest =>
    by_cases hrange : p.low ≤ b ∧ b ≤ p.high
    · exact ⟨b, rest, rfl, hrange⟩
    · -- any other octet ends the character, which is ill-formed then
      rw [cut] at h
      simp only [step, if_neg hrange] at h
      refine absurd (mem_cut_of_mem ?_ _ _) h
      rw [List.reverseAux_eq]
      simp

theorem exists_of_cut_last {done : List (Option Char)} {p : Pending} {octets : Octets}
    (hmissing : p.missing = 1) (h : none ∉ cut done (some p) octets) :
    ∃ b rest done', octets = b :: rest ∧ (p.low.toNat ≤ b.toNat ∧ b.toNat ≤ p.high.toNat) ∧
      none ∉ cut done' none rest := by
  obtain ⟨b, rest, rfl, hlow, hhigh⟩ := exists_of_cut_open h
  rw [cut_last hlow hhigh (Nat.le_of_eq hmissing)] at h
  exact ⟨b, rest, _, rfl, ⟨hlow, hhigh⟩, h⟩

theorem exists_of_cut_next {done : List (Option Char)} {p : Pending} {octets : Octets}
    (hmissing : 1 < p.missing) (h : none ∉ cut done (some p) octets) :
    ∃ b rest bits, octets = b :: rest ∧ (p.low.toNat ≤ b.toNat ∧ b.toNat ≤ p.high.toNat) ∧
      none ∉ cut done (some ⟨bits, p.missing - 1, 0x80, 0xBF⟩) rest := by
  obtain ⟨b, rest, rfl, hlow, hhigh⟩ := exists_of_cut_open h
  rw [cut_next hlow hhigh hmissing] at h
  exact ⟨b, rest, _, rfl, ⟨hlow, hhigh⟩, h⟩

/-- Octets of which no stretch is ill-formed begin with a character. -/
theorem exists_char_of_cut {done : List (Option Char)} {b : UInt8} {rest : Octets}
    (h : none ∉ cut done none (b :: rest)) :
    ∃ c rest' done',
      b :: rest = String.utf8EncodeChar c ++ rest' ∧ none ∉ cut done' none rest' := by
  rcases starts_start b with ⟨hone, hstart⟩ | hstart | ⟨hnow, p, hp, hopens⟩
  · -- the octet is a character
    rw [cut] at h
    simp only [step, hstart] at h
    obtain ⟨c, hc⟩ := exists_char (v := b.toNat) (by omega)
    refine ⟨c, rest, _, ?_, h⟩
    unfold String.utf8EncodeChar
    simp only [hc]
    rw [if_pos (by omega), UInt8.ofNat_toNat]
    rfl
  · -- the octet is no part of any, which stays among the pieces
    rw [cut] at h
    simp only [step, hstart] at h
    exact absurd (mem_cut_of_mem List.mem_cons_self _ _) h
  -- the octet opens a character, which takes as many octets as it says
  have hstart : start b = ([], some p) := Prod.ext hnow hp
  rw [cut_start hstart] at h
  rcases hopens with ⟨hm, hb, hfew, hmany, hl, hh⟩ | ⟨hm, hb, hmany, hl, hh, hover, hsurrogate⟩ |
    ⟨hm, hb, hmany, hl, hh, hover, hlast⟩
  · obtain ⟨s, rest, done', rfl, hs, h⟩ := exists_of_cut_last hm h
    have hrange : 0x80 ≤ s.toNat ∧ s.toNat ≤ 0xBF := by omega
    obtain ⟨c, hc⟩ := exists_char_two hb hfew hmany hrange
    exact ⟨c, rest, done', by rw [hc]; rfl, h⟩
  · obtain ⟨s, rest, bits, rfl, hs, h⟩ := exists_of_cut_next (by omega) h
    rw [hm] at h
    obtain ⟨t, rest, done', rfl, ht, h⟩ := exists_of_cut_last rfl h
    have hrange : 0x80 ≤ s.toNat ∧ s.toNat ≤ 0xBF := by omega
    have hlow : p.bits = 0 → 0xA0 ≤ s.toNat := by omega
    have hhigh : p.bits = 13 → s.toNat ≤ 0x9F := by omega
    obtain ⟨c, hc⟩ := exists_char_three hb hmany hrange hlow hhigh ht
    exact ⟨c, rest, done', by rw [hc]; rfl, h⟩
  · obtain ⟨s, rest, bits, rfl, hs, h⟩ := exists_of_cut_next (by omega) h
    rw [hm] at h
    obtain ⟨t, rest, bits', rfl, ht, h⟩ := exists_of_cut_next (by simp) h
    obtain ⟨u, rest, done', rfl, hu, h⟩ := exists_of_cut_last rfl h
    have hrange : 0x80 ≤ s.toNat ∧ s.toNat ≤ 0xBF := by omega
    have hlow : p.bits = 0 → 0x90 ≤ s.toNat := by omega
    have hhigh : p.bits = 4 → s.toNat ≤ 0x8F := by omega
    obtain ⟨c, hc⟩ := exists_char_four hb hmany hrange hlow hhigh ht hu
    exact ⟨c, rest, done', by rw [hc]; rfl, h⟩

end Utf8

/-! ## Texts -/

theorem exists_octetsOf_of_cut {done : List (Option Char)} {octets : Octets}
    (h : none ∉ Utf8.cut done none octets) : ∃ cs, octets = octetsOf cs := by
  cases octets with
  | nil => exact ⟨[], rfl⟩
  | cons b rest =>
    obtain ⟨c, rest', done', heq, hrest⟩ := Utf8.exists_char_of_cut h
    have hshorter : rest'.length < (b :: rest).length := by
      rw [heq, List.length_append]
      have hpos := List.length_pos_iff.mpr (String.utf8EncodeChar_ne_nil (c := c))
      omega
    obtain ⟨cs, hcs⟩ := exists_octetsOf_of_cut hrest
    refine ⟨c :: cs, ?_⟩
    rw [heq, hcs]
    rfl
-- a character takes one octet at least, and often more than one
termination_by octets.length

theorem mapM_id_of_mem {l : List (Option Char)} (h : none ∈ l) : l.mapM id = none := by
  induction l with
  | nil => cases h
  | cons piece rest ih =>
    rw [List.mapM_cons]
    cases piece with
    | none => rfl
    | some c =>
      have hrest : none ∈ rest := by simpa using h
      rw [ih hrest]
      rfl

/-- Strict reading accepts what encoding produces and nothing else. -/
theorem decode?_eq_some_iff {octets : Octets} {s : String} :
    decode? octets = some s ↔ octets = encode s := by
  constructor
  · intro h
    have hnone : none ∉ Utf8.pieces octets := by
      intro hmem
      unfold decode? at h
      rw [mapM_id_of_mem hmem] at h
      cases h
    obtain ⟨cs, hcs⟩ := exists_octetsOf_of_cut hnone
    have hencode : octets = encode (String.ofList cs) := by
      rw [encode_eq, String.toList_ofList, hcs]
    rw [hencode, decode?_encode] at h
    rw [hencode, Option.some.inj h]
  · rintro rfl
    exact decode?_encode s

-- An overlong form of a slash.
example : decode? [0xC0, 0xAF] = none := rfl

end AdapterGateway.Text
