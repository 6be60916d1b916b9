import AdapterGateway.Json.Decode
import AdapterGateway.Proofs.Text.Utf8

/-!
# Strings that are read back

The reader of strings undoes what the writer does to each character: it takes plain octets as they
are, and an escape for the one octet of the character that was written so.
-/

namespace AdapterGateway.Json

open Text

variable {acc : Octets}

/-! ## Single characters -/

/-- Octets that mean nothing to the reader of strings are taken as they are. -/
theorem readString_plain {octets : Octets} (h : ∀ b ∈ octets, b ≠ 0x22 ∧ b ≠ 0x5C ∧ ¬ b < 0x20)
    (acc rest : Octets) :
    readString ⟨some acc, none⟩ .plain (octets ++ rest) =
      readString ⟨some (octets.reverse ++ acc), none⟩ .plain rest := by
  induction octets generalizing acc with
  | nil => rfl
  | cons b octets ih =>
    obtain ⟨⟨hquote, hslash, hlow⟩, hothers⟩ := List.forall_mem_cons.mp h
    rw [List.cons_append, readString, if_neg (by simpa using hquote), if_neg (by simpa using hslash),
      if_neg hlow, List.reverse_cons, List.append_assoc]
    exact ih hothers (b :: acc)

/-- A backslash and a letter are taken for the octet that the letter stands for. -/
theorem readString_escaped {letter b : UInt8} (hunit : letter ≠ 0x75)
    (h : escaped? letter = some b) (acc rest : Octets) :
    readString ⟨some acc, none⟩ .plain (0x5C :: letter :: rest) =
      readString ⟨some (b :: acc), none⟩ .plain rest := by
  rw [readString, if_neg (by decide), if_pos (by decide), readString, if_neg (by simpa using hunit), h]
  rfl

theorem hexDigit?_of_lt {n : Nat} (hn : n < 0x20) :
    hexDigit? (UInt8.ofNat (Nat.digitChar (n / 16)).toNat) = some (n / 16) ∧
      hexDigit? (UInt8.ofNat (Nat.digitChar (n % 16)).toNat) = some (n % 16) := by
  have hall : ∀ n < 0x20, hexDigit? (UInt8.ofNat (Nat.digitChar (n / 16)).toNat) = some (n / 16) ∧
      hexDigit? (UInt8.ofNat (Nat.digitChar (n % 16)).toNat) = some (n % 16) := by decide
  exact hall n hn

theorem readString_unit {c : Char} (hc : c.toNat < 0x20) (acc rest : Octets) :
    readString ⟨some acc, none⟩ .plain
        (0x5C :: 0x75 :: 0x30 :: 0x30 :: UInt8.ofNat (Nat.digitChar (c.toNat / 16)).toNat ::
          UInt8.ofNat (Nat.digitChar (c.toNat % 16)).toNat :: rest) =
      readString ⟨some (UInt8.ofNat c.toNat :: acc), none⟩ .plain rest := by
  obtain ⟨hfirst, hsecond⟩ := hexDigit?_of_lt hc
  have hzero : hexDigit? 0x30 = some 0 := by decide
  have hvalue : ((0 * 16 + 0) * 16 + c.toNat / 16) * 16 + c.toNat % 16 = c.toNat := by omega
  rw [readString, if_neg (by decide), if_pos (by decide), readString, if_pos (by decide)]
  iterate 2 rw [readString, hzero]; dsimp only; rw [if_neg (by decide)]
  rw [readString, hfirst]
  dsimp only
  rw [if_neg (by decide), readString, hsecond]
  dsimp only
  rw [if_pos (by decide), hvalue, Content.pushUnit, if_neg (by omega), if_neg (by omega),
    Char.ofNat_toNat, utf8EncodeChar_of_lt (by omega)]
  rfl

theorem octetsOf_unit {c : Char} (hc : c.toNat < 0x20) :
    octetsOf ['\\', 'u', '0', '0', Nat.digitChar (c.toNat / 16), Nat.digitChar (c.toNat % 16)] =
      [0x5C, 0x75, 0x30, 0x30, UInt8.ofNat (Nat.digitChar (c.toNat / 16)).toNat,
        UInt8.ofNat (Nat.digitChar (c.toNat % 16)).toNat] := by
  have hdigit : ∀ n < 16, (Nat.digitChar n).toNat < 0x80 := by decide
  rw [octetsOf_of_lt]
  · rfl
  · simp only [List.forall_mem_cons, List.not_mem_nil, false_implies, implies_true, and_true]
    exact ⟨by decide, by decide, by decide, by decide, hdigit _ (by omega), hdigit _ (by omega)⟩

/-- A character that needs no escape has no octet that means something in a string. -/
theorem plain_utf8EncodeChar {c : Char} (hquote : c ≠ '"') (hslash : c ≠ '\\')
    (hlow : ¬ c.toNat < 0x20) :
    ∀ b ∈ String.utf8EncodeChar c, b ≠ 0x22 ∧ b ≠ 0x5C ∧ ¬ b < 0x20 := by
  intro b hb
  have hnumber : b.toNat ≠ 0x22 ∧ b.toNat ≠ 0x5C ∧ ¬ b.toNat < 0x20 := by
    by_cases hone : c.toNat < 0x80
    · rw [utf8EncodeChar_of_lt hone, List.mem_singleton] at hb
      rw [hb, Utf8.toNat_octet (by omega)]
      exact ⟨fun h => hquote (Char.toNat_inj.mp h), fun h => hslash (Char.toNat_inj.mp h), hlow⟩
    · have hhigh := le_of_mem_utf8EncodeChar (Nat.le_of_not_lt hone) hb
      omega
  refine ⟨?_, ?_, fun h => hnumber.2.2 h⟩
  · rintro rfl
    exact hnumber.1 rfl
  · rintro rfl
    exact hnumber.2.1 rfl

/-- However a character is written, it is read as its octets. -/
theorem readString_escapeChar (c : Char) (acc rest : Octets) :
    readString ⟨some acc, none⟩ .plain (octetsOf (escapeChar c) ++ rest) =
      readString ⟨some ((String.utf8EncodeChar c).reverse ++ acc), none⟩ .plain rest := by
  have hnumber {n : Nat} (h : c.toNat = n) : c = Char.ofNat n := by rw [← h, Char.ofNat_toNat]
  -- the cases are those of the writer: seven characters with an escape of their own, the other
  -- control characters by their numbers, and all others as they are
  unfold escapeChar
  by_cases hquote : c = '"'
  · subst hquote
    exact readString_escaped (by decide) rfl acc rest
  by_cases hslash : c = '\\'
  · subst hslash
    exact readString_escaped (by decide) rfl acc rest
  rw [if_neg hquote, if_neg hslash]
  by_cases hlow : c.toNat < 0x20
  · rw [if_pos hlow]
    by_cases hbackspace : c.toNat = 0x08
    · cases hnumber hbackspace
      exact readString_escaped (by decide) rfl acc rest
    by_cases htab : c = '\t'
    · subst htab
      exact readString_escaped (by decide) rfl acc rest
    by_cases hline : c = '\n'
    · subst hline
      exact readString_escaped (by decide) rfl acc rest
    by_cases hfeed : c.toNat = 0x0C
    · cases hnumber hfeed
      exact readString_escaped (by decide) rfl acc rest
    by_cases hreturn : c = '\r'
    · subst hreturn
      exact readString_escaped (by decide) rfl acc rest
    · rw [if_neg hbackspace, if_neg htab, if_neg hline, if_neg hfeed, if_neg hreturn,
        octetsOf_unit hlow, utf8EncodeChar_of_lt (by omega)]
      exact readString_unit hlow acc rest
  · rw [if_neg hlow, octetsOf, List.flatMap_singleton]
    exact readString_plain (plain_utf8EncodeChar hquote hslash hlow) acc rest

/-! ## Whole strings -/

theorem readString_content (cs : List Char) (acc rest : Octets) :
    readString ⟨some acc, none⟩ .plain (octetsOf (cs.flatMap escapeChar) ++ 0x22 :: rest) =
      some (decode? (acc.reverse ++ octetsOf cs), rest) := by
  -- `acc` holds the octets of the characters that are behind the reader, the last one first
  induction cs generalizing acc with
  | nil =>
    rw [List.flatMap_nil, octetsOf, List.flatMap_nil, List.nil_append, readString, if_pos (by decide),
      List.append_nil]
    rfl
  | cons c cs ih =>
    rw [List.flatMap_cons, octetsOf_append, List.append_assoc, readString_escapeChar, ih,
      List.reverse_append, List.reverse_reverse, List.append_assoc]
    rfl

theorem encode_stringText (s : String) :
    encode (stringText s) = 0x22 :: (octetsOf (s.toList.flatMap escapeChar) ++ [0x22]) := by
  rw [encode_eq, stringText, String.toList_ofList, List.cons_append, ← List.singleton_append,
    octetsOf_append, octetsOf_append]
  rfl

/-- The text of a string is read up to its closing quote, as that string. -/
theorem readString_stringText (s : String) (rest : Octets) :
    readString ⟨some [], none⟩ .plain (octetsOf (s.toList.flatMap escapeChar) ++ 0x22 :: rest) =
      some (some s, rest) := by
  rw [readString_content, List.reverse_nil, List.nil_append, ← encode_eq, decode?_encode]

end AdapterGateway.Json
