import AdapterGateway.Http.Intake
import AdapterGateway.Proofs.Text.Lines

/-!
# Framing of requests

Where a request ends is a matter of its octets and not of the pieces in which they arrive: once the
end of the head is in sight, all that comes in later amounts to what it would have amounted to at
once.  So a head that ends within the limit is followed by exactly the body that it declares.
-/

namespace AdapterGateway.Http

open Text

/-! ## The end of a head -/

theorem length_le_of_findHeadEnd {b : Octets} {n : Nat} (h : findHeadEnd b = some n) :
    n + headEnd.length ≤ b.length := by
  induction b generalizing n with
  | nil => cases h
  | cons octet rest ih =>
    unfold findHeadEnd at h
    split at h
    · rename_i hhere
      cases h
      have hle := (List.isPrefixOf_iff_prefix.mp hhere).length_le
      omega
    · obtain ⟨m, hm, rfl⟩ := Option.map_eq_some_iff.mp h
      have hle := ih hm
      rw [List.length_cons]
      omega

/-- The end of the head is the first place where its mark stands. -/
theorem findHeadEnd_eq_some_iff {b : Octets} {n : Nat} :
    findHeadEnd b = some n ↔ headEnd <+: b.drop n ∧ ∀ m < n, ¬ headEnd <+: b.drop m := by
  -- on the octets: the mark stands at the first of them, or its first place is one in the rest
  induction b generalizing n with
  | nil => simp [findHeadEnd, headEnd]
  | cons octet rest ih =>
    unfold findHeadEnd
    by_cases hhere : headEnd <+: octet :: rest
    · rw [if_pos (List.isPrefixOf_iff_prefix.mpr hhere)]
      constructor
      · intro h
        cases h
        exact ⟨hhere, fun m hm => absurd hm (Nat.not_lt_zero m)⟩
      · rintro ⟨_, hfirst⟩
        cases n with
        | zero => rfl
        | succ n => exact absurd hhere (hfirst 0 (Nat.succ_pos n))
    · rw [if_neg fun h => hhere (List.isPrefixOf_iff_prefix.mp h)]
      cases n with
      | zero =>
        constructor
        · intro h
          obtain ⟨m, _, hm⟩ := Option.map_eq_some_iff.mp h
          cases hm
        · exact fun h => absurd h.1 hhere
      | succ n =>
        rw [Option.map_eq_some_iff]
        constructor
        · rintro ⟨m, hm, heq⟩
          cases heq
          obtain ⟨hthere, hfirst⟩ := ih.mp hm
          refine ⟨hthere, fun k hk => ?_⟩
          cases k with
          | zero => exact hhere
          | succ k => exact hfirst k (Nat.lt_of_succ_lt_succ hk)
        · rintro ⟨hthere, hfirst⟩
          refine ⟨n, ih.mpr ⟨hthere, fun k hk => ?_⟩, rfl⟩
          exact hfirst (k + 1) (Nat.succ_lt_succ hk)

/-- A mark that stands within the first octets stands there whatever follows them. -/
theorem headEnd_prefix_drop_append {b more : Octets} {m : Nat}
    (hm : m + headEnd.length ≤ b.length) :
    headEnd <+: (b ++ more).drop m ↔ headEnd <+: b.drop m := by
  rw [List.drop_append_of_le_length (by omega)]
  constructor
  · intro h
    refine List.prefix_of_prefix_length_le h (List.prefix_append _ _) ?_
    rw [List.length_drop]
    omega
  · exact fun h => h.trans (List.prefix_append _ _)

theorem findHeadEnd_append {b : Octets} {n : Nat} (h : findHeadEnd b = some n) (more : Octets) :
    findHeadEnd (b ++ more) = some n := by
  have hle := length_le_of_findHeadEnd h
  rw [findHeadEnd_eq_some_iff] at h ⊢
  refine ⟨(headEnd_prefix_drop_append hle).mpr h.1, fun m hm => ?_⟩
  rw [headEnd_prefix_drop_append (by omega)]
  exact h.2 m hm

theorem findHeadEnd_of_append {b more : Octets} {n : Nat} (h : findHeadEnd (b ++ more) = some n)
    (hle : n + headEnd.length ≤ b.length) : findHeadEnd b = some n := by
  rw [findHeadEnd_eq_some_iff] at h ⊢
  refine ⟨(headEnd_prefix_drop_append hle).mp h.1, fun m hm hmark => ?_⟩
  exact h.2 m hm ((headEnd_prefix_drop_append (by omega)).mpr hmark)

/-- The mark does not stand where there is no carriage return. -/
theorem findHeadEnd_of_not_mem {line rest : Octets} (h : 0x0D ∉ line) :
    findHeadEnd (line ++ rest) = (findHeadEnd rest).map (· + line.length) := by
  induction line with
  | nil => cases hrest : findHeadEnd rest <;> simp [hrest]
  | cons octet line ih =>
    rw [List.mem_cons, not_or] at h
    have hmark : ¬ headEnd.isPrefixOf (octet :: (line ++ rest)) = true := by
      intro hprefix
      obtain ⟨hsame, _⟩ := List.cons_prefix_cons.mp (List.isPrefixOf_iff_prefix.mp hprefix)
      exact h.1 hsame
    rw [List.cons_append, findHeadEnd, if_neg hmark, ih h.2, Option.map_map]
    rfl

/-- If a head ends at all, it ends before the limit can have been exceeded. -/
def Timely (stream : Octets) : Prop :=
  ∀ n, findHeadEnd stream = some n → n + headEnd.length ≤ maxHeadSize + 1

theorem timely_of_none {stream : Octets} (h : findHeadEnd stream = none) : Timely stream := by
  intro n hn
  rw [h] at hn
  cases hn

theorem timely_of_some {stream : Octets} {n : Nat} (h : findHeadEnd stream = some n)
    (hle : n + headEnd.length ≤ maxHeadSize + 1) : Timely stream := by
  intro m hm
  rw [h] at hm
  cases hm
  exact hle

namespace Intake

variable {maxBody : Nat} {client : Option Net.Endpoint}

/-! ## Pieces -/

theorem foldl_refused (response : Response) (pieces : List Octets) :
    pieces.foldl (receive maxBody client) (refused response) = refused response := by
  induction pieces with
  | nil => rfl
  | cons piece pieces ih => exact ih

theorem foldl_complete (request : Request) (pieces : List Octets) :
    pieces.foldl (receive maxBody client) (complete request) = complete request := by
  induction pieces with
  | nil => rfl
  | cons piece pieces ih => exact ih

theorem ofBody_of_le {request : Request} {length : Nat} {buffer : Octets}
    (h : length ≤ buffer.length) : ofBody request length buffer =
      complete { request with body := if length = 0 then none else some (buffer.take length) } :=
  if_pos h

theorem ofBody_of_lt {request : Request} {length : Nat} {buffer : Octets}
    (h : buffer.length < length) : ofBody request length buffer = body request length buffer :=
  if_neg (by omega)

theorem foldl_ofBody (request : Request) (length : Nat) (buffer : Octets) (pieces : List Octets) :
    pieces.foldl (receive maxBody client) (ofBody request length buffer) =
      ofBody request length (buffer ++ pieces.flatten) := by
  induction pieces generalizing buffer with
  | nil => simp
  | cons piece pieces ih =>
    by_cases h : length ≤ buffer.length
    · -- the body is there, and what is taken of the octets stays the same
      rw [ofBody_of_le h, foldl_complete, ofBody_of_le (by rw [List.length_append]; omega),
        List.take_append_of_le_length h]
    · rw [ofBody_of_lt (by omega), List.foldl_cons, List.flatten_cons, ← List.append_assoc]
      exact ih (buffer ++ piece)

theorem foldl_ofHead (head rest : Octets) (pieces : List Octets) :
    pieces.foldl (receive maxBody client) (ofHead maxBody client head rest) =
      ofHead maxBody client head (rest ++ pieces.flatten) := by
  unfold ofHead
  split
  · exact foldl_refused _ pieces
  · split
    · exact foldl_refused _ pieces
    · exact foldl_ofBody _ 0 rest pieces
    · split
      · exact foldl_refused _ pieces
      · exact foldl_ofBody _ _ rest pieces

theorem ofBuffer_of_some {buffer : Octets} {n : Nat} (h : findHeadEnd buffer = some n) :
    ofBuffer maxBody client buffer =
      ofHead maxBody client (buffer.take n) (buffer.drop (n + headEnd.length)) := by
  unfold ofBuffer
  rw [h]

theorem ofBuffer_of_none {buffer : Octets} (h : findHeadEnd buffer = none) :
    ofBuffer maxBody client buffer =
      if buffer.length > maxHeadSize then refused (.plain 431 "Request header fields too large")
      else head buffer := by
  unfold ofBuffer
  rw [h]

/-- Once the end of the head is there, what comes later does not depend on its pieces. -/
theorem foldl_ofBuffer {buffer : Octets} {n : Nat} (h : findHeadEnd buffer = some n)
    (pieces : List Octets) :
    pieces.foldl (receive maxBody client) (ofBuffer maxBody client buffer) =
      ofBuffer maxBody client (buffer ++ pieces.flatten) := by
  have hle := length_le_of_findHeadEnd h
  rw [ofBuffer_of_some h, foldl_ofHead, ofBuffer_of_some (findHeadEnd_append h _),
    List.take_append_of_le_length (by omega), List.drop_append_of_le_length hle]

/-- Pieces whose head ends in time amount to their octets, and so do those without an end of a
    head. -/
theorem foldl_head {buffer : Octets} (hnone : findHeadEnd buffer = none)
    (hlimit : buffer.length ≤ maxHeadSize) {pieces : List Octets}
    (htime : Timely (buffer ++ pieces.flatten)) :
    pieces.foldl (receive maxBody client) (head buffer) =
      ofBuffer maxBody client (buffer ++ pieces.flatten) := by
  -- on the pieces: the head is either still open within the limit, or found, or open beyond it,
  -- where no later octet can end it in time any more
  induction pieces generalizing buffer with
  | nil =>
    rw [List.flatten_nil, List.append_nil, ofBuffer_of_none hnone, if_neg (by omega)]
    rfl
  | cons piece pieces ih =>
    rw [List.flatten_cons, ← List.append_assoc] at htime ⊢
    rw [List.foldl_cons]
    change pieces.foldl _ (ofBuffer maxBody client (buffer ++ piece)) = _
    cases hfound : findHeadEnd (buffer ++ piece) with
    | some n => exact foldl_ofBuffer hfound pieces
    | none =>
      by_cases hwithin : (buffer ++ piece).length ≤ maxHeadSize
      · rw [ofBuffer_of_none hfound, if_neg (by omega)]
        exact ih hfound hwithin htime
      · have hall : findHeadEnd (buffer ++ piece ++ pieces.flatten) = none := by
          cases hlate : findHeadEnd (buffer ++ piece ++ pieces.flatten) with
          | none => rfl
          | some n =>
            have hle := htime n hlate
            rw [findHeadEnd_of_append hlate (by omega)] at hfound
            cases hfound
        rw [ofBuffer_of_none hfound, if_pos (by omega), foldl_refused, ofBuffer_of_none hall,
          if_pos (by rw [List.length_append]; omega)]

theorem ofPieces_eq_ofBuffer {pieces : List Octets} (htime : Timely pieces.flatten) :
    ofPieces maxBody client pieces = ofBuffer maxBody client pieces.flatten :=
  foldl_head (rfl : findHeadEnd [] = none) (Nat.zero_le _) htime

end Intake

/-! ## What a head declares -/

/-- The first colon ends the name of a field, whatever its value holds. -/
theorem headerOf?_append {name : String} (h : ':' ∉ name.toList) (value : String) :
    Request.headerOf? (name ++ ":" ++ value) = some (lower (trim name), trim value) := by
  have hcolon : ":" = String.singleton ':' := rfl
  rw [Request.headerOf?, hcolon, splitFirst_append ':' h]
  rfl

/-- The fields of a head in their order, with names in lower case. -/
def fieldsOf (head : Octets) : List (String × String) :=
  ((lines (lossy head)).tail.takeWhile (!·.isEmpty)).filterMap Request.headerOf?

/-- The length of the body behind a head: the number in the last of its length fields, or nothing if
    it has none. -/
inductive Declares (head : Octets) : Nat → Prop where
  | absent : lastValue? (fieldsOf head) "content-length" = none → Declares head 0
  | digits {s : String} : lastValue? (fieldsOf head) "content-length" = some s → s ≠ "" →
      (∀ c ∈ s.toList, c.isDigit) → Declares head (natOfDigits s.toList)

theorem natural?_of_digits {cs : List Char} (hne : cs ≠ []) (hdigits : ∀ c ∈ cs, c.isDigit) :
    natural? cs = some (natOfDigits cs) := by
  unfold natural?
  have hall : cs.all Char.isDigit = true := List.all_eq_true.mpr hdigits
  rw [hall, List.isEmpty_eq_false_iff.mpr hne]
  rfl

theorem length?_of_digits {s : String} (hne : s ≠ "") (hdigits : ∀ c ∈ s.toList, c.isDigit) :
    length? s = if natOfDigits s.toList < UInt64.size then some (natOfDigits s.toList) else none := by
  have hlist : s.toList ≠ [] := fun h => hne (String.toList_eq_nil_iff.mp h)
  have hnumber : natural? s.toList = some (natOfDigits s.toList) :=
    natural?_of_digits hlist hdigits
  have hplus : ∀ cs, s.toList ≠ '+' :: cs := by
    intro cs h
    have hdigit := hdigits '+' (by rw [h]; exact List.mem_cons_self)
    revert hdigit
    decide
  unfold length?
  split
  · rename_i cs h
    exact absurd h (hplus cs)
  · dsimp only
    rw [hnumber, Option.filter_some]
    simp only [decide_eq_true_eq]

theorem exists_ofHead? {head : Octets} (client : Option Net.Endpoint)
    (hline : ∃ line ∈ (lines (lossy head)).head?, 2 ≤ (words line).length) :
    ∃ request, Request.ofHead? (lossy head) client = some request ∧
      request.header? "content-length" = lastValue? (fieldsOf head) "content-length" := by
  obtain ⟨line, hfirst, htokens⟩ := hline
  cases hlines : lines (lossy head) with
  | nil =>
    rw [hlines] at hfirst
    cases hfirst
  | cons first fields =>
    rw [hlines] at hfirst
    cases hfirst
    cases hwords : words line with
    | nil =>
      rw [hwords] at htokens
      exact absurd htokens (by decide)
    | cons method others =>
      cases others with
      | nil =>
        rw [hwords] at htokens
        exact absurd htokens (Nat.not_succ_le_self 1)
      | cons target others =>
        unfold Request.ofHead?
        rw [hlines]
        dsimp only
        rw [hwords]
        -- of several fields with one name the dictionary keeps the last
        refine ⟨_, rfl, ?_⟩
        have hname : lower "content-length" = "content-length" := by decide +kernel
        unfold Request.header? fieldsOf
        rw [hname, Dictionary.get?_ofList, hlines]
        rfl

theorem ofHead_of_declares {maxBody : Nat} {client : Option Net.Endpoint} {head : Octets}
    {request : Request} {length : Nat} (hrequest : Request.ofHead? (lossy head) client = some request)
    (hheader : request.header? "content-length" = lastValue? (fieldsOf head) "content-length")
    (hlength : Declares head length) (rest : Octets) :
    Intake.ofHead maxBody client head rest =
      if UInt64.size ≤ length then .refused (.plain 400 "Invalid Content-Length")
      else if maxBody < length then .refused (.plain 413 "Payload Too Large")
      else .ofBody request length rest := by
  unfold Intake.ofHead
  rw [hrequest]
  dsimp only
  rw [hheader]
  cases hlength with
  | absent hnone =>
    rw [hnone, if_neg (by decide), if_neg (Nat.not_lt_zero maxBody)]
    rfl
  | @digits s hsome hne hdigits =>
    rw [hsome, Option.map_some, length?_of_digits hne hdigits]
    by_cases hlarge : UInt64.size ≤ natOfDigits s.toList
    · rw [if_neg (by omega), if_pos hlarge]
    · rw [if_pos (by omega), if_neg hlarge]

/-! ## Framing -/

/-- A stream of a head, its mark and the octets behind it is framed by the length of the body,
    however it is cut into pieces. -/
structure Framed (maxBody : Nat) (client : Option Net.Endpoint) (head rest : Octets) (length : Nat)
    (request : Request) : Prop where
  /-- A body within the limit is taken out of the octets behind the head, which may be more. -/
  complete : length ≤ maxBody → length ≤ rest.length →
    ∀ pieces : List Octets, pieces.flatten = head ++ headEnd ++ rest →
      readRequest maxBody client pieces =
        .ok (.ok { request with body := if length = 0 then none else some (rest.take length) })
  /-- A body beyond the limit is refused with the piece that ends the head. -/
  tooLarge : maxBody < length → length < UInt64.size →
    ∀ pieces : List Octets, pieces.flatten <+: head ++ headEnd ++ rest →
      head.length + headEnd.length ≤ pieces.flatten.length →
      Intake.ofPieces maxBody client pieces = .refused (.plain 413 "Payload Too Large")
  /-- So is a length that is no number of 64 bits. -/
  beyondNumbers : UInt64.size ≤ length →
    ∀ pieces : List Octets, pieces.flatten <+: head ++ headEnd ++ rest →
      head.length + headEnd.length ≤ pieces.flatten.length →
      Intake.ofPieces maxBody client pieces = .refused (.plain 400 "Invalid Content-Length")
  /-- A body that is not all there is no request. -/
  cutShort : length ≤ maxBody → rest.length < length →
    ∀ pieces : List Octets, pieces.flatten = head ++ headEnd ++ rest →
      readRequest maxBody client pieces = .error Intake.closedInBody

/-- The pieces that bring a whole head amount to that head with the octets behind it. -/
theorem ofPieces_of_head {maxBody : Nat} {client : Option Net.Endpoint} {head rest : Octets}
    (hfirst : ∀ n < head.length, ¬ headEnd <+: (head ++ headEnd ++ rest).drop n)
    (hsize : head.length + headEnd.length ≤ maxHeadSize) {pieces : List Octets}
    (hpieces : pieces.flatten <+: head ++ headEnd ++ rest)
    (hle : head.length + headEnd.length ≤ pieces.flatten.length) :
    Intake.ofPieces maxBody client pieces =
      Intake.ofHead maxBody client head
        (pieces.flatten.drop (head.length + headEnd.length)) := by
  obtain ⟨more, hmore⟩ := hpieces
  -- the mark that ends the head in the whole stream ends it in as much as has arrived
  have hstream : findHeadEnd (head ++ headEnd ++ rest) = some head.length := by
    rw [findHeadEnd_eq_some_iff]
    refine ⟨?_, hfirst⟩
    rw [List.append_assoc, List.drop_left]
    exact List.prefix_append _ _
  have hfound : findHeadEnd pieces.flatten = some head.length := by
    rw [← hmore] at hstream
    exact findHeadEnd_of_append hstream hle
  have hhead : pieces.flatten.take head.length = head := by
    have htake := congrArg (List.take head.length) hmore
    rw [List.take_append_of_le_length (by omega), List.append_assoc, List.take_left] at htake
    exact htake
  rw [Intake.ofPieces_eq_ofBuffer (timely_of_some hfound (by omega)),
    Intake.ofBuffer_of_some hfound, hhead]

/-- **Requests are framed by their octets.**  A head that ends within the limit and declares a body is
    read with exactly that body, in whatever pieces it and its body arrive. -/
theorem readRequest_framed (maxBody : UInt64) (client : Option Net.Endpoint) {head rest : Octets}
    {length : Nat} (hfirst : ∀ n < head.length, ¬ headEnd <+: (head ++ headEnd ++ rest).drop n)
    (hsize : head.length + headEnd.length ≤ maxHeadSize)
    (hline : ∃ line ∈ (lines (lossy head)).head?, 2 ≤ (words line).length)
    (hlength : Declares head length) :
    ∃ request, Request.ofHead? (lossy head) client = some request ∧
      Framed maxBody.toNat client head rest length request := by
  obtain ⟨request, hrequest, hheader⟩ := exists_ofHead? client hline
  have hmax : maxBody.toNat < UInt64.size := maxBody.toNat_lt_size
  -- the pieces of the whole stream bring its head, with all of the rest behind it
  have hwhole : ∀ pieces : List Octets, pieces.flatten = head ++ headEnd ++ rest →
      Intake.ofPieces maxBody.toNat client pieces =
        Intake.ofHead maxBody.toNat client head rest := by
    intro pieces hpieces
    have hle : head.length + headEnd.length ≤ pieces.flatten.length := by
      rw [hpieces]
      simp only [List.length_append]
      omega
    have hrest : pieces.flatten.drop (head.length + headEnd.length) = rest := by
      rw [hpieces, ← List.length_append, List.drop_left]
    rw [ofPieces_of_head hfirst hsize (hpieces ▸ List.prefix_rfl) hle, hrest]
  refine ⟨request, hrequest, ⟨?_, ?_, ?_, ?_⟩⟩
  · intro hlimit hbody pieces hpieces
    unfold readRequest
    rw [hwhole pieces hpieces, ofHead_of_declares hrequest hheader hlength, if_neg (by omega),
      if_neg (by omega), Intake.ofBody_of_le hbody]
    rfl
  · intro hlarge hnumber pieces hpieces hle
    rw [ofPieces_of_head hfirst hsize hpieces hle, ofHead_of_declares hrequest hheader hlength,
      if_neg (by omega), if_pos hlarge]
  · intro hnumber pieces hpieces hle
    rw [ofPieces_of_head hfirst hsize hpieces hle, ofHead_of_declares hrequest hheader hlength,
      if_pos hnumber]
  · intro hlimit hshort pieces hpieces
    unfold readRequest
    rw [hwhole pieces hpieces, ofHead_of_declares hrequest hheader hlength, if_neg (by omega),
      if_neg (by omega), Intake.ofBody_of_lt hshort]
    rfl

/-- A head with two length fields, of which the last counts. -/
def twoLengths : Octets :=
  encode "POST /collect HTTP/1.1\r\ncontent-length: 9\r\nContent-Length: 2"

def bodyWithSurplus : Octets := encode "\x7b\x7dGET"

theorem twoLengths_declares : Declares twoLengths 2 := by
  have hdigits : "2".toList.all Char.isDigit = true := by decide
  exact .digits (s := "2") (by decide +kernel) (by decide) (List.all_eq_true.mp hdigits)

theorem readRequest_framed_twoLengths :
    (∀ n < twoLengths.length, ¬ headEnd <+: (twoLengths ++ headEnd ++ bodyWithSurplus).drop n) ∧
      twoLengths.length + headEnd.length ≤ maxHeadSize ∧
      (∃ line ∈ (lines (lossy twoLengths)).head?, 2 ≤ (words line).length) ∧
      Declares twoLengths 2 ∧
      ∃ request, Request.ofHead? (lossy twoLengths) none = some request ∧
        Framed (4096 : UInt64).toNat none twoLengths bodyWithSurplus 2 request := by
  have hfirst : ∀ n < twoLengths.length,
      ¬ headEnd <+: (twoLengths ++ headEnd ++ bodyWithSurplus).drop n := by decide +kernel
  have hsize : twoLengths.length + headEnd.length ≤ maxHeadSize := by decide +kernel
  have hline : ∃ line ∈ (lines (lossy twoLengths)).head?, 2 ≤ (words line).length :=
    ⟨"POST /collect HTTP/1.1", by decide +kernel, by decide +kernel⟩
  exact ⟨hfirst, hsize, hline, twoLengths_declares,
    readRequest_framed 4096 none hfirst hsize hline twoLengths_declares⟩

end AdapterGateway.Http
