import AdapterGateway.Json.Decode
import AdapterGateway.Proofs.Text.Utf8

/-!
# Numbers that are read back

The reader of numbers goes as far as the octets are those of a number, so that it reads the same in
front of anything else.  Integers of 64 bits come back as they were.  A double comes back only if its
text is scaled to it again, which is not so for every one.
-/

namespace AdapterGateway.Json

open Decimal Text

/-- The octets that numbers are written with. -/
def isNumeric (b : UInt8) : Bool :=
  isDigit b || b == 0x2B || b == 0x2D || b == 0x2E || b == 0x45 || b == 0x65

/-- A number that stands before these octets does not go on in them. -/
def Parted (rest : Octets) : Prop := ∀ b ∈ rest.head?, isNumeric b = false

theorem parted_nil : Parted [] := fun _ hb => nomatch hb

theorem parted_cons {b : UInt8} (hb : isNumeric b = false) (rest : Octets) : Parted (b :: rest) := by
  intro other hmem
  rw [Option.mem_some.mp hmem] at hb
  exact hb

theorem Parted.cons_not {b : UInt8} {rest : Octets} (h : Parted (b :: rest)) :
    isDigit b = false ∧ b ≠ 0x2E ∧ b ≠ 0x65 ∧ b ≠ 0x45 := by
  have hb := h b rfl
  simp only [isNumeric, Bool.or_eq_false_iff, beq_eq_false_iff_ne] at hb
  obtain ⟨⟨⟨⟨⟨hdigit, _⟩, _⟩, hpoint⟩, hupper⟩, hlower⟩ := hb
  exact ⟨hdigit, hpoint, hlower, hupper⟩

theorem Parted.takeWhile_eq {rest : Octets} (h : Parted rest) : rest.takeWhile isDigit = [] := by
  cases rest with
  | nil => rfl
  | cons b rest => rw [List.takeWhile_cons, h.cons_not.1]; rfl

theorem Parted.dropWhile_eq {rest : Octets} (h : Parted rest) : rest.dropWhile isDigit = rest := by
  cases rest with
  | nil => rfl
  | cons b rest => rw [List.dropWhile_cons, h.cons_not.1]; rfl

/-! ## The parts of a number -/

/-- The sign of an exponent, and what stands behind it. -/
def splitMark : Octets → Bool × Octets
  | [] => (false, [])
  | sign :: more =>
    if sign == 0x2D then (true, more) else if sign == 0x2B then (false, more)
    else (false, sign :: more)

theorem readFraction_point {octets left : Octets} {fraction : List Nat} :
    readFraction (0x2E :: octets) = some (fraction, left) ↔
      (splitDigits octets).1 ≠ [] ∧ splitDigits octets = (fraction, left) := by
  rw [readFraction, if_pos (by decide)]
  obtain ⟨ds, behind⟩ := splitDigits octets
  cases ds with
  | nil => exact ⟨fun h => (nomatch h), fun h => absurd rfl h.1⟩
  | cons d ds =>
    constructor
    · intro h
      cases h
      exact ⟨List.cons_ne_nil d ds, rfl⟩
    · rintro ⟨_, h⟩
      cases h
      rfl

theorem readFraction_other {b : UInt8} (hb : b ≠ 0x2E) (octets : Octets) :
    readFraction (b :: octets) = some ([], b :: octets) := by
  rw [readFraction, if_neg (by simpa using hb)]

theorem readExponent_mark {b : UInt8} (hb : b = 0x65 ∨ b = 0x45) {octets left : Octets}
    {exponent : Option (Bool × List Nat)} :
    readExponent (b :: octets) = some (exponent, left) ↔
      (splitDigits (splitMark octets).2).1 ≠ [] ∧
        exponent = some ((splitMark octets).1, (splitDigits (splitMark octets).2).1) ∧
        left = (splitDigits (splitMark octets).2).2 := by
  have hmark : (b == 0x65 || b == 0x45) = true := by simpa using hb
  have hsplit : readExponent (b :: octets) =
      if (splitDigits (splitMark octets).2).1 = [] then none
      else some (some ((splitMark octets).1, (splitDigits (splitMark octets).2).1),
        (splitDigits (splitMark octets).2).2) := by
    rw [readExponent.eq_def]
    dsimp only
    rw [if_pos hmark]
    cases octets with
    | nil => rfl
    | cons sign more =>
      unfold splitMark
      by_cases hdown : (sign == 0x2D) = true
      · simp only [hdown, if_true]
        obtain ⟨ds, behind⟩ := splitDigits more
        cases ds <;> rfl
      by_cases hup : (sign == 0x2B) = true
      · simp only [hdown, hup, Bool.false_eq_true, if_true, if_false]
        obtain ⟨ds, behind⟩ := splitDigits more
        cases ds <;> rfl
      · simp only [hdown, hup, Bool.false_eq_true, if_false]
        obtain ⟨ds, behind⟩ := splitDigits (sign :: more)
        cases ds <;> rfl
  rw [hsplit]
  split
  · rename_i hnone
    exact ⟨fun h => (nomatch h), fun h => absurd hnone h.1⟩
  · rename_i hsome
    constructor
    · intro h
      cases h
      exact ⟨hsome, rfl, rfl⟩
    · rintro ⟨_, rfl, rfl⟩
      rfl

theorem readExponent_other {b : UInt8} (hb : b ≠ 0x65 ∧ b ≠ 0x45) (octets : Octets) :
    readExponent (b :: octets) = some (none, b :: octets) := by
  rw [readExponent.eq_def]
  dsimp only
  rw [if_neg (by simpa using hb)]

/-! ## Reading in front of something else -/

variable {rest : Octets}

theorem splitDigits_append (octets : Octets) (hrest : Parted rest) :
    splitDigits (octets ++ rest) = ((splitDigits octets).1, (splitDigits octets).2 ++ rest) := by
  have hboth : (octets ++ rest).takeWhile isDigit = octets.takeWhile isDigit ∧
      (octets ++ rest).dropWhile isDigit = octets.dropWhile isDigit ++ rest := by
    induction octets with
    | nil => exact ⟨hrest.takeWhile_eq, hrest.dropWhile_eq⟩
    | cons b octets ih =>
      rw [List.cons_append, List.takeWhile_cons, List.dropWhile_cons, List.takeWhile_cons,
        List.dropWhile_cons, ih.1, ih.2]
      cases isDigit b <;> exact ⟨rfl, rfl⟩
  unfold splitDigits
  rw [hboth.1, hboth.2]

theorem splitMark_append {octets : Octets} (hne : octets ≠ []) (rest : Octets) :
    splitMark (octets ++ rest) = ((splitMark octets).1, (splitMark octets).2 ++ rest) := by
  cases octets with
  | nil => exact absurd rfl hne
  | cons sign more =>
    unfold splitMark
    cases hdown : sign == 0x2D <;> cases hup : sign == 0x2B <;> simp [hdown, hup]

theorem readFraction_of_parted (hrest : Parted rest) : readFraction rest = some ([], rest) := by
  cases rest with
  | nil => rfl
  | cons b rest => exact readFraction_other hrest.cons_not.2.1 rest

theorem readExponent_of_parted (hrest : Parted rest) : readExponent rest = some (none, rest) := by
  cases rest with
  | nil => rfl
  | cons b rest => exact readExponent_other hrest.cons_not.2.2 rest

/-- A reader that stops where a number does: what it leaves is the end of what it was given, and it
    reads the same in front of anything that does not go on with the number. -/
def Stops {α : Type} (read : Octets → Option (α × Octets)) : Prop :=
  ∀ octets a left, read octets = some (a, left) →
    left <:+ octets ∧ ∀ rest, Parted rest → read (octets ++ rest) = some (a, left ++ rest)

theorem suffix_splitDigits (octets : Octets) : (splitDigits octets).2 <:+ octets :=
  List.dropWhile_suffix isDigit

theorem suffix_splitMark (octets : Octets) : (splitMark octets).2 <:+ octets := by
  cases octets with
  | nil => exact List.suffix_refl _
  | cons sign more =>
    unfold splitMark
    cases hdown : sign == 0x2D <;> cases hup : sign == 0x2B <;> simp [hdown, hup]

theorem stops_readFraction : Stops readFraction := by
  intro octets fraction left h
  cases octets with
  | nil =>
    cases h
    exact ⟨List.suffix_refl _, fun rest hrest => readFraction_of_parted hrest⟩
  | cons b octets =>
    by_cases hb : b = 0x2E
    · subst hb
      obtain ⟨hne, hsplit⟩ := readFraction_point.mp h
      refine ⟨?_, fun rest hrest => ?_⟩
      · have hsuffix := suffix_splitDigits octets
        rw [hsplit] at hsuffix
        exact hsuffix.trans (List.suffix_cons _ _)
      · have hlonger := splitDigits_append octets hrest
        rw [List.cons_append, readFraction_point, hlonger, hsplit]
        exact ⟨by rwa [hsplit] at hne, rfl⟩
    · rw [readFraction_other hb] at h
      cases h
      exact ⟨List.suffix_refl _, fun rest _ => readFraction_other hb _⟩

theorem stops_readExponent : Stops readExponent := by
  intro octets exponent left h
  cases octets with
  | nil =>
    cases h
    exact ⟨List.suffix_refl _, fun rest hrest => readExponent_of_parted hrest⟩
  | cons b octets =>
    by_cases hb : b = 0x65 ∨ b = 0x45
    · obtain ⟨hne, rfl, rfl⟩ := (readExponent_mark hb).mp h
      -- a mark at the very end is no exponent, though it may become one in front of digits
      have hnil : octets ≠ [] := by
        rintro rfl
        exact hne rfl
      refine ⟨?_, fun rest hrest => ?_⟩
      · have hmark := suffix_splitMark octets
        exact (suffix_splitDigits _).trans (hmark.trans (List.suffix_cons _ _))
      · rw [List.cons_append, readExponent_mark hb, splitMark_append hnil, splitDigits_append _ hrest]
        exact ⟨hne, rfl, rfl⟩
    · rw [not_or] at hb
      rw [readExponent_other hb] at h
      cases h
      exact ⟨List.suffix_refl _, fun rest _ => readExponent_other hb _⟩

theorem readNumber_eq {negative : Bool} {octets behind : Octets} {d : Nat} {ds : List Nat}
    (hsplit : splitDigits octets = (d :: ds, behind)) (hlead : d ≠ 0 ∨ ds = []) :
    readNumber negative octets =
      (readFraction behind).bind fun f => (readExponent f.2).map fun e =>
        (⟨negative, d :: ds, f.1, !f.1.isEmpty || e.1.isSome, e.1⟩, e.2) := by
  unfold readNumber
  rw [hsplit]
  split
  · rename_i heq
    cases heq
  · rename_i heq
    cases heq
    rcases hlead with hzero | hnil
    · exact absurd rfl hzero
    · cases hnil
  · rename_i heq
    cases heq
    cases readFraction behind with
    | none => rfl
    | some f =>
      obtain ⟨fraction, behind⟩ := f
      dsimp only [Option.bind_some]
      cases readExponent behind <;> rfl

theorem exists_splitDigits_of_readNumber {negative : Bool} {octets left : Octets} {n : Numeral}
    (h : readNumber negative octets = some (n, left)) :
    ∃ d ds behind, splitDigits octets = (d :: ds, behind) ∧ (d ≠ 0 ∨ ds = []) := by
  unfold readNumber at h
  split at h
  · cases h
  · cases h
  · rename_i whole behind hnil hzero hsplit
    cases whole with
    | nil => exact absurd rfl hnil
    | cons d ds =>
      refine ⟨d, ds, behind, hsplit, ?_⟩
      cases ds with
      | nil => exact .inr rfl
      | cons e es =>
        refine .inl ?_
        rintro rfl
        exact hzero e es rfl

theorem stops_readNumber (negative : Bool) : Stops (readNumber negative) := by
  intro octets n left h
  obtain ⟨d, ds, behind, hsplit, hlead⟩ := exists_splitDigits_of_readNumber h
  rw [readNumber_eq hsplit hlead] at h
  obtain ⟨⟨fraction, after⟩, hfraction, hrest⟩ := Option.bind_eq_some_iff.mp h
  obtain ⟨⟨exponent, last⟩, hexponent, hnumber⟩ := Option.map_eq_some_iff.mp hrest
  cases hnumber
  obtain ⟨hfractionEnd, hfractionMore⟩ := stops_readFraction _ _ _ hfraction
  obtain ⟨hexponentEnd, hexponentMore⟩ := stops_readExponent _ _ _ hexponent
  have hbehind := suffix_splitDigits octets
  rw [hsplit] at hbehind
  refine ⟨hexponentEnd.trans (hfractionEnd.trans hbehind), fun rest hparted => ?_⟩
  have hlonger := splitDigits_append octets hparted
  rw [hsplit] at hlonger
  rw [readNumber_eq hlonger hlead, hfractionMore rest hparted, Option.bind_some,
    hexponentMore rest hparted]
  rfl

theorem readScalar_minus (octets : Octets) :
    readScalar (0x2D :: octets) =
      (readNumber true octets).map fun n => (.number n.1.value, n.2) := rfl

theorem readScalar_digit {b : UInt8} (hb : isDigit b = true) (octets : Octets) :
    readScalar (b :: octets) =
      (readNumber false (b :: octets)).map fun n => (.number n.1.value, n.2) := by
  have hrange : 0x30 ≤ b.toNat ∧ b.toNat ≤ 0x39 := by
    simp only [isDigit, Bool.and_eq_true, decide_eq_true_eq] at hb
    exact hb
  have hquote : (b == 0x22) = false := by
    rw [beq_eq_false_iff_ne]
    rintro rfl
    exact absurd hrange.1 (by decide)
  have hminus : (b == 0x2D) = false := by
    rw [beq_eq_false_iff_ne]
    rintro rfl
    exact absurd hrange.1 (by decide)
  rw [readScalar, hquote, hminus, if_neg (by decide), if_neg (by decide), if_pos hb]

/-- What begins as a number is read as one, up to its end and no further. -/
theorem number_of_readScalar {b : UInt8} {octets left : Octets} {t : Tree}
    (hb : b = 0x2D ∨ isDigit b = true) (h : readScalar (b :: octets) = some (t, left)) :
    (∃ n, t = .number n) ∧ left <:+ b :: octets ∧
      ∀ rest, Parted rest → readScalar (b :: octets ++ rest) = some (t, left ++ rest) := by
  rcases hb with rfl | hdigit
  · rw [readScalar_minus] at h
    obtain ⟨⟨n, left⟩, hnumber, heq⟩ := Option.map_eq_some_iff.mp h
    cases heq
    obtain ⟨hsuffix, hmore⟩ := stops_readNumber true _ _ _ hnumber
    refine ⟨⟨_, rfl⟩, hsuffix.trans (List.suffix_cons _ _), fun rest hrest => ?_⟩
    rw [List.cons_append, readScalar_minus, hmore rest hrest]
    rfl
  · rw [readScalar_digit hdigit] at h
    obtain ⟨⟨n, left⟩, hnumber, heq⟩ := Option.map_eq_some_iff.mp h
    cases heq
    obtain ⟨hsuffix, hmore⟩ := stops_readNumber false _ _ _ hnumber
    refine ⟨⟨_, rfl⟩, hsuffix, fun rest hrest => ?_⟩
    have hlonger := hmore rest hrest
    rw [List.cons_append] at hlonger ⊢
    rw [readScalar_digit hdigit, hlonger]
    rfl

/-! ## Integers -/

/-- The values of the decimal digits of a number. -/
def digitsOf (n : Nat) : List Nat := (Nat.toDigits 10 n).map fun c => c.toNat - 0x30

theorem digitsOf_of_lt {n : Nat} (hn : n < 10) : digitsOf n = [n] := by
  rw [digitsOf, Nat.toDigits_of_lt_base hn, List.map_singleton, Nat.toNat_digitChar_of_lt_ten hn,
    Nat.add_sub_cancel_left]

theorem digitsOf_of_le {n : Nat} (hn : 10 ≤ n) : digitsOf n = digitsOf (n / 10) ++ [n % 10] := by
  have hlast : n % 10 < 10 := Nat.mod_lt n (by decide)
  rw [digitsOf, Nat.toDigits_of_base_le (by decide) hn, List.map_append, List.map_singleton,
    Nat.toNat_digitChar_of_lt_ten hlast, Nat.add_sub_cancel_left]
  rfl

theorem exists_digitsOf_of_ne_zero {n : Nat} (hn : n ≠ 0) :
    ∃ d ds, digitsOf n = d :: ds ∧ d ≠ 0 := by
  induction n using Nat.strongRecOn with
  | ind n ih =>
    by_cases hsmall : n < 10
    · exact ⟨n, [], digitsOf_of_lt hsmall, hn⟩
    · obtain ⟨d, ds, hdigits, hlead⟩ := ih (n / 10) (by omega) (by omega)
      exact ⟨d, ds ++ [n % 10], by rw [digitsOf_of_le (by omega), hdigits]; rfl, hlead⟩

/-- Decimal digits do not begin with a zero, unless that is all. -/
theorem exists_digitsOf (n : Nat) : ∃ d ds, digitsOf n = d :: ds ∧ (d ≠ 0 ∨ ds = []) := by
  by_cases hn : n = 0
  · subst hn
    exact ⟨0, [], digitsOf_of_lt (by decide), .inr rfl⟩
  · obtain ⟨d, ds, hdigits, hlead⟩ := exists_digitsOf_of_ne_zero hn
    exact ⟨d, ds, hdigits, .inl hlead⟩

theorem absorb_append {ds : List Nat} {significand n d : Nat} (h : absorb significand ds = (n, 0))
    (hfits : n * 10 + d ≤ maxSignificand) :
    absorb significand (ds ++ [d]) = (n * 10 + d, 0) := by
  induction ds generalizing significand with
  | nil =>
    cases h
    rw [List.nil_append, absorb, if_pos hfits, absorb]
  | cons e es ih =>
    rw [absorb] at h
    rw [List.cons_append, absorb]
    split at h
    · rename_i hle
      rw [if_pos hle]
      exact ih h
    · cases h

theorem absorb_digitsOf {n : Nat} (hn : n ≤ maxSignificand) : absorb 0 (digitsOf n) = (n, 0) := by
  -- the digits grow at their end, and all of them but the last are those of a smaller number
  induction n using Nat.strongRecOn with
  | ind n ih =>
    by_cases hsmall : n < 10
    · rw [digitsOf_of_lt hsmall, absorb, if_pos (by omega), absorb, Nat.zero_mul, Nat.zero_add]
    · have hbefore := ih (n / 10) (by omega) (by omega)
      have hsum : n / 10 * 10 + n % 10 = n := by omega
      rw [digitsOf_of_le (by omega), absorb_append hbefore (by omega), hsum]

theorem mem_toDigits {c : Char} {n : Nat} (h : c ∈ Nat.toDigits 10 n) :
    ∃ d < 10, c = Nat.digitChar d := by
  induction n using Nat.strongRecOn with
  | ind n ih =>
    by_cases hsmall : n < 10
    · rw [Nat.toDigits_of_lt_base hsmall, List.mem_singleton] at h
      exact ⟨n, hsmall, h⟩
    · rw [Nat.toDigits_of_base_le (by decide) (by omega), List.mem_append, List.mem_singleton] at h
      rcases h with hbefore | hlast
      · exact ih (n / 10) (by omega) hbefore
      · exact ⟨n % 10, Nat.mod_lt n (by decide), hlast⟩

theorem encode_repr (n : Nat) :
    encode (Nat.repr n) = (Nat.toDigits 10 n).map fun c => UInt8.ofNat c.toNat := by
  have hone : ∀ d < 10, (Nat.digitChar d).toNat < 0x80 := by decide
  rw [encode_eq, Nat.toList_repr]
  refine octetsOf_of_lt fun c hc => ?_
  obtain ⟨d, hd, rfl⟩ := mem_toDigits hc
  exact hone d hd

theorem isDigit_of_mem_encode_repr {n : Nat} {b : UInt8} (hb : b ∈ encode (Nat.repr n)) :
    isDigit b = true := by
  have hdigit : ∀ d < 10, isDigit (UInt8.ofNat (Nat.digitChar d).toNat) = true := by decide
  rw [encode_repr] at hb
  obtain ⟨c, hc, rfl⟩ := List.mem_map.mp hb
  obtain ⟨d, hd, rfl⟩ := mem_toDigits hc
  exact hdigit d hd

theorem splitDigits_repr (n : Nat) (hrest : Parted rest) :
    splitDigits (encode (Nat.repr n) ++ rest) = (digitsOf n, rest) := by
  have hvalue : ∀ d < 10, (UInt8.ofNat (Nat.digitChar d).toNat).toNat - 0x30 =
      (Nat.digitChar d).toNat - 0x30 := by decide
  have hvalues : (encode (Nat.repr n)).map (·.toNat - 0x30) = digitsOf n := by
    rw [encode_repr, List.map_map, digitsOf]
    refine List.map_congr_left fun c hc => ?_
    obtain ⟨d, hd, rfl⟩ := mem_toDigits hc
    exact hvalue d hd
  have hall : ∀ b ∈ encode (Nat.repr n), isDigit b = true := fun b hb => isDigit_of_mem_encode_repr hb
  unfold splitDigits
  rw [List.takeWhile_append_of_pos hall, List.dropWhile_append_of_pos hall, hrest.takeWhile_eq,
    hrest.dropWhile_eq, List.append_nil, hvalues]

theorem readNumber_repr {n : Nat} (hn : n ≤ maxSignificand) (negative : Bool) (hrest : Parted rest) :
    ∃ numeral, readNumber negative (encode (Nat.repr n) ++ rest) = some (numeral, rest) ∧
      numeral.value = integerOf negative n := by
  obtain ⟨d, ds, hdigits, hlead⟩ := exists_digitsOf n
  have hsplit := splitDigits_repr n hrest
  rw [hdigits] at hsplit
  refine ⟨⟨negative, d :: ds, [], false, none⟩, ?_, ?_⟩
  · rw [readNumber_eq hsplit hlead, readFraction_of_parted hrest, Option.bind_some,
      readExponent_of_parted hrest]
    rfl
  · rw [← hdigits]
    unfold Numeral.value
    simp only [absorb_digitsOf hn]
    rw [if_pos (by decide)]

/-- The text of an integer of 64 bits is read as that integer. -/
theorem readScalar_integer {i : Int} (hlow : -9223372036854775808 ≤ i)
    (hhigh : i < 18446744073709551616) (hrest : Parted rest) :
    readScalar (encode (toString i) ++ rest) = some (.number (.integer i), rest) := by
  have hmax : maxSignificand = 18446744073709551615 := rfl
  cases i with
  | ofNat n =>
    have hn : n < 18446744073709551616 := Int.ofNat_lt.mp hhigh
    obtain ⟨numeral, hread, hvalue⟩ := readNumber_repr (n := n) (by omega) false hrest
    change readScalar (encode (Nat.repr n) ++ rest) = _
    cases hoctets : encode (Nat.repr n) with
    | nil =>
      rw [encode_repr, List.map_eq_nil_iff] at hoctets
      exact absurd hoctets Nat.toDigits_ne_nil
    | cons b more =>
      have hdigit : isDigit b = true := by
        apply isDigit_of_mem_encode_repr (n := n)
        rw [hoctets]
        exact List.mem_cons_self
      rw [hoctets, List.cons_append] at hread
      rw [List.cons_append, readScalar_digit hdigit, hread, Option.map_some, hvalue]
      rfl
  | negSucc n =>
    have hminus : encode (toString (Int.negSucc n)) = 0x2D :: encode (Nat.repr (n + 1)) := by
      change encode ("-" ++ Nat.repr (n + 1)) = _
      rw [encode_eq, String.toList_append, octetsOf_append, ← encode_eq, ← encode_eq]
      rfl
    obtain ⟨numeral, hread, hvalue⟩ := readNumber_repr (n := n + 1) (by omega) true hrest
    rw [hminus, List.cons_append, readScalar_minus, hread, Option.map_some, hvalue]
    -- neither a negative zero nor below what 64 bits with a sign hold, which would be doubles
    have hsmall : ¬ (n + 1 = 0 ∨ Nat.pow 2 63 < n + 1) := by
      change ¬ (n + 1 = 0 ∨ 9223372036854775808 < n + 1)
      omega
    unfold integerOf
    rw [if_neg (by decide), if_neg hsmall]
    rfl

/-! ## The texts of doubles -/

/-- The characters that doubles are written with. -/
def numberChars : List Char :=
  ['0', '1', '2', '3', '4', '5', '6', '7', '8', '9', '+', '-', '.', 'e']

/-- All characters of the text are those of doubles. -/
def Numerical (s : String) : Prop := ∀ c ∈ s.toList, c ∈ numberChars

instance : DecidablePred Numerical := fun s => List.decidableBAll (· ∈ numberChars) s.toList

theorem Numerical.append {s t : String} (hs : Numerical s) (ht : Numerical t) :
    Numerical (s ++ t) := by
  intro c hc
  rw [String.toList_append] at hc
  exact (List.mem_append.mp hc).elim (hs c) (ht c)

theorem numerical_ofList {cs : List Char} (hcs : ∀ c ∈ cs, c ∈ numberChars) :
    Numerical (String.ofList cs) := by
  intro c hc
  rw [String.toList_ofList] at hc
  exact hcs c hc

theorem mem_numberChars_of_digits {c : Char} {n : Nat} (h : c ∈ Nat.toDigits 10 n) :
    c ∈ numberChars := by
  have hall : ∀ d < 10, Nat.digitChar d ∈ numberChars := by decide
  obtain ⟨d, hd, rfl⟩ := mem_toDigits h
  exact hall d hd

theorem numerical_zeros (n : Nat) : Numerical (zeros n) := by
  refine numerical_ofList fun c hc => ?_
  rw [List.eq_of_mem_replicate hc]
  decide

theorem numerical_text (s : Scaled) : Numerical s.text := by
  have hdigits : ∀ c ∈ Nat.toDigits 10 s.digits, c ∈ numberChars := fun c hc =>
    mem_numberChars_of_digits hc
  unfold Scaled.text
  dsimp only
  split
  · split
    · exact ((numerical_ofList hdigits).append (numerical_zeros _)).append (by decide)
    split
    · refine ((numerical_ofList fun c hc => ?_).append (by decide)).append
        (numerical_ofList fun c hc => ?_)
      · exact hdigits c (List.mem_of_mem_take hc)
      · exact hdigits c (List.mem_of_mem_drop hc)
    · exact (Numerical.append (by decide) (numerical_zeros _)).append (numerical_ofList hdigits)
  · refine Numerical.append (Numerical.append ?_ ?_) ?_
    · -- the digits with a point behind the first of them
      split
      · rename_i d hd
        rw [hd] at hdigits
        exact numerical_ofList hdigits
      · rename_i d rest _ hd
        rw [hd] at hdigits
        obtain ⟨hfirst, hrest⟩ := List.forall_mem_cons.mp hdigits
        refine numerical_ofList ?_
        exact List.forall_mem_cons.mpr ⟨hfirst, List.forall_mem_cons.mpr ⟨by decide, hrest⟩⟩
      · decide
    · split <;> decide
    · intro c hc
      change c ∈ (Nat.repr _).toList at hc
      rw [Nat.toList_repr] at hc
      exact mem_numberChars_of_digits hc

theorem numerical_text? {x : Binary64} {s : String} (h : x.text? = some s) : Numerical s := by
  unfold Binary64.text? at h
  have hsign : Numerical (if x.isNegative then "-" else "") := by split <;> decide
  split at h
  · cases h
  · dsimp only at h
    split at h
    · cases h
      exact hsign.append (by decide)
    · cases h
      exact hsign.append (numerical_text _)

theorem Numerical.octets {s : String} (hs : Numerical s) {b : UInt8} (hb : b ∈ encode s) :
    isNumeric b = true := by
  have hall : ∀ c ∈ numberChars, c.toNat < 0x80 ∧ isNumeric (UInt8.ofNat c.toNat) = true :=
    forall_mem_of_all (by decide)
  rw [encode_eq, octetsOf_of_lt fun c hc => (hall c (hs c hc)).1] at hb
  obtain ⟨c, hc, rfl⟩ := List.mem_map.mp hb
  exact (hall c (hs c hc)).2

end AdapterGateway.Json
