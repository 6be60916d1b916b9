import AdapterGateway.Text.Utf8

/-!
# Encoded text

Reading the octets of a text strictly gives the text back, and the octets below 0x80 of an encoding
are its characters below 0x80, so that such a character separates the octets as it separates the
text.
-/

namespace AdapterGateway.Text

/-- What a look at each of them shows of some characters; `decide` alone would try all there are. -/
theorem forall_mem_of_all {P : Char → Prop} [DecidablePred P] {cs : List Char}
    (h : (cs.all fun c => decide (P c)) = true) : ∀ c ∈ cs, P c := by
  intro c hc
  exact of_decide_eq_true (List.all_eq_true.mp h c hc)

namespace Utf8

/-! ## One octet -/

theorem cut_start {b : UInt8} {p : Pending} (hb : start b = ([], some p))
    (done : List (Option Char)) (rest : Octets) :
    cut done none (b :: rest) = cut done (some p) rest := by
  rw [cut]
  simp only [step, hb, List.reverseAux_nil]

theorem cut_next {p : Pending} {b : UInt8} (hlow : p.low ≤ b) (hhigh : b ≤ p.high)
    (hmissing : 1 < p.missing) (done : List (Option Char)) (rest : Octets) :
    cut done (some p) (b :: rest) =
      cut done (some ⟨p.bits * 64 + (b.toNat - 0x80), p.missing - 1, 0x80, 0xBF⟩) rest := by
  rw [cut]
  simp only [step, if_pos (And.intro hlow hhigh), if_neg (Nat.not_le.mpr hmissing),
    List.reverseAux_nil]

theorem cut_last {p : Pending} {b : UInt8} (hlow : p.low ≤ b) (hhigh : b ≤ p.high)
    (hmissing : p.missing ≤ 1) (done : List (Option Char)) (rest : Octets) :
    cut done (some p) (b :: rest) =
      cut (some (Char.ofNat (p.bits * 64 + (b.toNat - 0x80))) :: done) none rest := by
  rw [cut]
  simp only [step, if_pos (And.intro hlow hhigh), if_pos hmissing]
  rfl

/-! ## One character -/

theorem toNat_octet {n : Nat} (hn : n < 256) : (UInt8.ofNat n).toNat = n := by
  rw [UInt8.toNat_ofNat', Nat.mod_eq_of_lt hn]

theorem le_octet {low : UInt8} {n : Nat} (hn : n < 256) :
    low ≤ UInt8.ofNat n ↔ low.toNat ≤ n := by
  rw [UInt8.le_iff_toNat_le, toNat_octet hn]

theorem octet_le {high : UInt8} {n : Nat} (hn : n < 256) :
    UInt8.ofNat n ≤ high ↔ n ≤ high.toNat := by
  rw [UInt8.le_iff_toNat_le, toNat_octet hn]

/-- The octets that go on with a character, with the bits that they carry. -/
theorem tail_octet (n : Nat) :
    (0x80 : UInt8) ≤ UInt8.ofNat (n % 64 + 128) ∧ UInt8.ofNat (n % 64 + 128) ≤ (0xBF : UInt8) ∧
      (UInt8.ofNat (n % 64 + 128)).toNat - 0x80 = n % 64 := by
  have hn : n % 64 + 128 < 256 := by omega
  rw [le_octet hn, octet_le hn, toNat_octet hn]
  change 128 ≤ _ ∧ _ ≤ 191 ∧ _
  omega

theorem start_two {v : Nat} (hlow : 0x80 ≤ v) (hhigh : v ≤ 0x7FF) :
    start (UInt8.ofNat (v / 64 % 32 + 192)) = ([], some ⟨v / 64, 1, 0x80, 0xBF⟩) := by
  have hn : v / 64 % 32 + 192 < 256 := by omega
  have hbits : v / 64 % 32 + 192 - 192 = v / 64 := by omega
  unfold start
  rw [toNat_octet hn, if_neg (by omega), if_neg (by omega), if_pos (by omega), hbits]

/-- The second octet lies in the range that the first of three leaves for it: after E0 the overlong
    forms are left out, after ED the surrogates. -/
theorem start_three {v : Nat} (hlow : 0x800 ≤ v) (hhigh : v ≤ 0xFFFF)
    (hvalid : v < 0xD800 ∨ 0xDFFF < v) :
    ∃ low high, start (UInt8.ofNat (v / 4096 % 16 + 224)) = ([], some ⟨v / 4096, 2, low, high⟩) ∧
      low ≤ UInt8.ofNat (v / 64 % 64 + 128) ∧ UInt8.ofNat (v / 64 % 64 + 128) ≤ high := by
  have hn : v / 4096 % 16 + 224 < 256 := by omega
  have hsecond : v / 64 % 64 + 128 < 256 := by omega
  have hbits : v / 4096 % 16 + 224 - 224 = v / 4096 := by omega
  unfold start
  rw [toNat_octet hn, if_neg (by omega), if_neg (by omega), if_neg (by omega)]
  by_cases he0 : v / 4096 = 0
  · rw [if_pos (by omega), he0]
    have hover : 0xA0 ≤ v / 64 % 64 + 128 := by omega
    exact ⟨0xA0, 0xBF, rfl, (le_octet hsecond).mpr hover, (tail_octet _).2.1⟩
  by_cases hed : v / 4096 = 13
  · rw [if_neg (by omega), if_pos (by omega), hed]
    have hsurrogate : v / 64 % 64 + 128 ≤ 0x9F := by omega
    exact ⟨0x80, 0x9F, rfl, (tail_octet _).1, (octet_le hsecond).mpr hsurrogate⟩
  · rw [if_neg (by omega), if_neg (by omega), if_pos (by omega), hbits]
    exact ⟨0x80, 0xBF, rfl, (tail_octet _).1, (tail_octet _).2.1⟩

/-- After F0 the overlong forms are left out, after F4 what lies behind the last code point. -/
theorem start_four {v : Nat} (hlow : 0x10000 ≤ v) (hhigh : v < 0x110000) :
    ∃ low high, start (UInt8.ofNat (v / 262144 % 8 + 240)) =
        ([], some ⟨v / 262144, 3, low, high⟩) ∧
      low ≤ UInt8.ofNat (v / 4096 % 64 + 128) ∧ UInt8.ofNat (v / 4096 % 64 + 128) ≤ high := by
  have hn : v / 262144 % 8 + 240 < 256 := by omega
  have hsecond : v / 4096 % 64 + 128 < 256 := by omega
  have hbits : v / 262144 % 8 + 240 - 240 = v / 262144 := by omega
  unfold start
  rw [toNat_octet hn, if_neg (by omega), if_neg (by omega), if_neg (by omega), if_neg (by omega),
    if_neg (by omega), if_neg (by omega)]
  by_cases hf0 : v / 262144 = 0
  · rw [if_pos (by omega), hf0]
    have hover : 0x90 ≤ v / 4096 % 64 + 128 := by omega
    exact ⟨0x90, 0xBF, rfl, (le_octet hsecond).mpr hover, (tail_octet _).2.1⟩
  by_cases hf4 : v / 262144 = 4
  · rw [if_neg (by omega), if_neg (by omega), if_pos (by omega), hf4]
    have hlast : v / 4096 % 64 + 128 ≤ 0x8F := by omega
    exact ⟨0x80, 0x8F, rfl, (tail_octet _).1, (octet_le hsecond).mpr hlast⟩
  · rw [if_neg (by omega), if_pos (by omega), hbits]
    exact ⟨0x80, 0xBF, rfl, (tail_octet _).1, (tail_octet _).2.1⟩

theorem cut_utf8EncodeChar (c : Char) (done : List (Option Char)) (rest : Octets) :
    cut done none (String.utf8EncodeChar c ++ rest) = cut (some c :: done) none rest := by
  have hvalid : c.toNat < 0xD800 ∨ 0xDFFF < c.toNat ∧ c.toNat < 0x110000 := c.valid
  have hc : Char.ofNat c.toNat = c := Char.ofNat_toNat c
  generalize hv : c.toNat = v at hvalid hc
  have hval : c.val.toNat = v := hv
  unfold String.utf8EncodeChar
  simp only [hval]
  split
  · rename_i hone
    have hstart : start (UInt8.ofNat v) = ([some c], none) := by
      unfold start
      rw [toNat_octet (by omega), if_pos (by omega), hc]
    rw [List.singleton_append, cut]
    simp only [step, hstart]
    rfl
  split
  · rename_i hone htwo
    obtain ⟨hlow, hhigh, hbits⟩ := tail_octet v
    have hsum : v / 64 * 64 + v % 64 = v := by omega
    rw [List.cons_append, List.singleton_append, cut_start (start_two (by omega) htwo),
      cut_last hlow hhigh (Nat.le_refl 1), hbits, hsum, hc]
  split
  · rename_i hone htwo hthree
    obtain ⟨low, high, hstart, hlow, hhigh⟩ := start_three (by omega) hthree (by omega)
    obtain ⟨hlow', hhigh', hbits'⟩ := tail_octet v
    have hbits := (tail_octet (v / 64)).2.2
    have hsum : (v / 4096 * 64 + v / 64 % 64) * 64 + v % 64 = v := by omega
    rw [List.cons_append, List.cons_append, List.singleton_append, cut_start hstart,
      cut_next hlow hhigh (by simp), cut_last hlow' hhigh' (by simp), hbits, hbits', hsum, hc]
  · rename_i hone htwo hthree
    obtain ⟨low, high, hstart, hlow, hhigh⟩ := start_four (v := v) (by omega) (by omega)
    obtain ⟨hlow', hhigh', hbits'⟩ := tail_octet (v / 64)
    obtain ⟨hlow'', hhigh'', hbits''⟩ := tail_octet v
    have hbits := (tail_octet (v / 4096)).2.2
    have hsum : ((v / 262144 * 64 + v / 4096 % 64) * 64 + v / 64 % 64) * 64 + v % 64 = v := by omega
    rw [List.cons_append, List.cons_append, List.cons_append, List.singleton_append,
      cut_start hstart, cut_next hlow hhigh (by simp), cut_next hlow' hhigh' (by simp),
      cut_last hlow'' hhigh'' (by simp), hbits, hbits', hbits'', hsum, hc]

/-! ## Texts -/

theorem cut_encoded (cs : List Char) (done : List (Option Char)) :
    cut done none (cs.flatMap String.utf8EncodeChar) = done.reverse ++ cs.map some := by
  induction cs generalizing done with
  | nil => simp [cut]
  | cons c cs ih =>
    rw [List.flatMap_cons, cut_utf8EncodeChar, ih, List.reverse_cons, List.append_assoc]
    rfl

end Utf8

def octetsOf (cs : List Char) : Octets := cs.flatMap String.utf8EncodeChar

theorem octetsOf_append (cs ds : List Char) : octetsOf (cs ++ ds) = octetsOf cs ++ octetsOf ds :=
  List.flatMap_append

theorem encode_eq (s : String) : encode s = octetsOf s.toList := by
  unfold encode String.toUTF8 octetsOf
  rw [← String.utf8Encode_toList, List.utf8Encode, List.data_toByteArray]

theorem encode_append (s t : String) : encode (s ++ t) = encode s ++ encode t := by
  rw [encode_eq, String.toList_append, octetsOf_append, ← encode_eq, ← encode_eq]

theorem decode?_encode (s : String) : decode? (encode s) = some s := by
  have hall : ∀ cs : List Char, (cs.map some).mapM id = some cs := by
    intro cs
    induction cs with
    | nil => rfl
    | cons c cs ih =>
      rw [List.map_cons, List.mapM_cons, ih]
      rfl
  unfold decode? Utf8.pieces
  rw [encode_eq, octetsOf, Utf8.cut_encoded, List.reverse_nil, List.nil_append, hall,
    Option.map_some, String.ofList_toList]

theorem lossy_octetsOf (cs : List Char) : lossy (octetsOf cs) = String.ofList cs := by
  unfold lossy Utf8.pieces octetsOf
  rw [Utf8.cut_encoded, List.reverse_nil, List.nil_append, List.map_map]
  change String.ofList (cs.map id) = _
  rw [List.map_id]

/-! ## Characters of one octet -/

theorem utf8EncodeChar_of_lt {c : Char} (hc : c.toNat < 0x80) :
    String.utf8EncodeChar c = [UInt8.ofNat c.toNat] := by
  have hval : c.val.toNat = c.toNat := rfl
  unfold String.utf8EncodeChar
  simp only [hval]
  rw [if_pos (by omega)]

theorem octetsOf_of_lt {cs : List Char} (hcs : ∀ c ∈ cs, c.toNat < 0x80) :
    octetsOf cs = cs.map fun c => UInt8.ofNat c.toNat := by
  induction cs with
  | nil => rfl
  | cons c cs ih =>
    have hrest := ih fun d hd => hcs d (List.mem_cons_of_mem c hd)
    unfold octetsOf at hrest ⊢
    rw [List.flatMap_cons, utf8EncodeChar_of_lt (hcs c List.mem_cons_self), hrest]
    rfl

theorem le_of_mem_utf8EncodeChar {c : Char} (hc : 0x80 ≤ c.toNat) {b : UInt8}
    (hb : b ∈ String.utf8EncodeChar c) : 0x80 ≤ b.toNat := by
  have hval : c.val.toNat = c.toNat := rfl
  unfold String.utf8EncodeChar at hb
  simp only [hval] at hb
  rw [if_neg (by omega)] at hb
  split at hb
  · simp only [List.mem_cons, List.not_mem_nil, or_false] at hb
    rcases hb with rfl | rfl <;> rw [Utf8.toNat_octet (by omega)] <;> omega
  split at hb
  · simp only [List.mem_cons, List.not_mem_nil, or_false] at hb
    rcases hb with rfl | rfl | rfl <;> rw [Utf8.toNat_octet (by omega)] <;> omega
  · simp only [List.mem_cons, List.not_mem_nil, or_false] at hb
    rcases hb with rfl | rfl | rfl | rfl <;> rw [Utf8.toNat_octet (by omega)] <;> omega

theorem utf8EncodeChar_eq_cons (c : Char) :
    ∃ first more, String.utf8EncodeChar c = first :: more ∧ ∀ b ∈ more, 0x80 ≤ b.toNat := by
  by_cases hc : c.toNat < 0x80
  · exact ⟨_, [], utf8EncodeChar_of_lt hc, by simp⟩
  · obtain ⟨first, more, heq⟩ := List.exists_cons_of_ne_nil (String.utf8EncodeChar_ne_nil (c := c))
    refine ⟨first, more, heq, fun b hb => ?_⟩
    apply le_of_mem_utf8EncodeChar (Nat.le_of_not_lt hc)
    rw [heq]
    exact List.mem_cons_of_mem _ hb

/-- The octet of a character below 0x80 stands where the character does, and nowhere else. -/
theorem mem_octetsOf_iff {d : Char} (hd : d.toNat < 0x80) {cs : List Char} :
    UInt8.ofNat d.toNat ∈ octetsOf cs ↔ d ∈ cs := by
  have hoctet : (UInt8.ofNat d.toNat).toNat = d.toNat := Utf8.toNat_octet (by omega)
  unfold octetsOf
  rw [List.mem_flatMap]
  constructor
  · rintro ⟨c, hc, hmem⟩
    by_cases hlt : c.toNat < 0x80
    · rw [utf8EncodeChar_of_lt hlt, List.mem_singleton] at hmem
      have heq := congrArg UInt8.toNat hmem
      rw [hoctet, Utf8.toNat_octet (by omega)] at heq
      rwa [Char.toNat_inj.mp heq]
    · have hle := le_of_mem_utf8EncodeChar (by omega) hmem
      omega
  · intro hmem
    exact ⟨d, hmem, by rw [utf8EncodeChar_of_lt hd]; exact List.mem_singleton_self _⟩

end AdapterGateway.Text
