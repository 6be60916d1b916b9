import AdapterGateway.Proofs.Http.Framing
import AdapterGateway.Proofs.Text.Utf8

/-!
# The limit of a head

The limit is tested between two reads, on as many octets as have arrived by then.  A head that ends
within it, or so far beyond it that no read can jump over the octets between, meets the same end in
whatever pieces it arrives.  Every head in between is read in some pieces and refused in others.
-/

namespace AdapterGateway.Http

open Text

/-- A stream arrives in pieces, of which none is empty or larger than one read. -/
structure Split (stream : Octets) (pieces : List Octets) : Prop where
  flatten_eq : pieces.flatten = stream
  ne_nil : ∀ piece ∈ pieces, piece ≠ []
  length_le : ∀ piece ∈ pieces, piece.length ≤ maxPiece

/-! ## Splits -/

theorem split_singles (stream : Octets) : Split stream (stream.map ([·])) where
  flatten_eq := by
    induction stream with
    | nil => rfl
    | cons octet stream ih => rw [List.map_cons, List.flatten_cons, ih, List.singleton_append]
  ne_nil piece hpiece := by
    obtain ⟨octet, _, rfl⟩ := List.mem_map.mp hpiece
    exact List.cons_ne_nil octet []
  length_le piece hpiece := by
    obtain ⟨octet, _, rfl⟩ := List.mem_map.mp hpiece
    change 1 ≤ maxPiece
    decide

theorem split_piece {piece : Octets} (hne : piece ≠ []) (hle : piece.length ≤ maxPiece) :
    Split piece [piece] where
  flatten_eq := by simp
  ne_nil p hp := by rwa [List.mem_singleton.mp hp]
  length_le p hp := by rwa [List.mem_singleton.mp hp]

theorem Split.append {stream stream' : Octets} {pieces pieces' : List Octets}
    (h : Split stream pieces) (h' : Split stream' pieces') :
    Split (stream ++ stream') (pieces ++ pieces') where
  flatten_eq := by rw [List.flatten_append, h.flatten_eq, h'.flatten_eq]
  ne_nil piece hpiece := by
    rcases List.mem_append.mp hpiece with hfirst | hlast
    · exact h.ne_nil piece hfirst
    · exact h'.ne_nil piece hlast
  length_le piece hpiece := by
    rcases List.mem_append.mp hpiece with hfirst | hlast
    · exact h.length_le piece hfirst
    · exact h'.length_le piece hlast

theorem Split.read {stream : Octets} {pieces : List Octets} {k : Nat}
    (h : Split (stream.drop k) pieces) (hpos : 0 < k) (hsize : k ≤ maxPiece)
    (hk : k ≤ stream.length) : Split stream (stream.take k :: pieces) := by
  have hlength : (stream.take k).length = k := by
    rw [List.length_take]
    omega
  have hne : stream.take k ≠ [] := List.ne_nil_of_length_pos (by omega)
  have hall := (split_piece hne (by omega)).append h
  rwa [List.take_append_drop] at hall

/-- The reads that go beyond a limit for the first time go beyond it by less than one read. -/
theorem exists_before (limit : Nat) {pieces : List Octets}
    (hpieces : ∀ piece ∈ pieces, piece.length ≤ maxPiece) (hlimit : limit < pieces.flatten.length) :
    ∃ before after, pieces = before ++ after ∧ limit < before.flatten.length ∧
      before.flatten.length ≤ limit + maxPiece := by
  -- on the reads, each of which uses up a part of the limit
  induction pieces generalizing limit with
  | nil => exact absurd hlimit (Nat.not_lt_zero limit)
  | cons piece pieces ih =>
    have hpiece := hpieces piece List.mem_cons_self
    by_cases hhere : limit < piece.length
    · refine ⟨[piece], pieces, rfl, ?_, ?_⟩ <;>
        rw [List.flatten_cons, List.flatten_nil, List.append_nil] <;> omega
    · rw [List.flatten_cons, List.length_append] at hlimit
      obtain ⟨before, after, rfl, hbeyond, hwithin⟩ :=
        ih (limit - piece.length) (fun p hp => hpieces p (List.mem_cons_of_mem piece hp)) (by omega)
      refine ⟨piece :: before, after, rfl, ?_, ?_⟩ <;>
        rw [List.flatten_cons, List.length_append] <;> omega

/-! ## Heads around the limit -/

def headRefusal : Response := .plain 431 "Request header fields too large"

variable {maxBody : Nat} {client : Option Net.Endpoint}

theorem ofPieces_append (before after : List Octets) :
    Intake.ofPieces maxBody client (before ++ after) =
      after.foldl (Intake.receive maxBody client) (Intake.ofPieces maxBody client before) :=
  List.foldl_append

theorem readRequest_of_beyond {before : List Octets} (hnone : findHeadEnd before.flatten = none)
    (hbeyond : maxHeadSize < before.flatten.length) (after : List Octets) :
    readRequest maxBody client (before ++ after) = .ok (.error headRefusal) := by
  unfold readRequest
  rw [ofPieces_append, Intake.ofPieces_eq_ofBuffer (timely_of_none hnone),
    Intake.ofBuffer_of_none hnone, if_pos hbeyond, Intake.foldl_refused]
  rfl

/-- A read that jumps from within the limit behind the end of the head lets the head pass. -/
theorem readRequest_of_jump {before : List Octets} {piece : Octets} {n : Nat}
    (hnone : findHeadEnd before.flatten = none) (hwithin : before.flatten.length ≤ maxHeadSize)
    (hfound : findHeadEnd (before.flatten ++ piece) = some n) (after : List Octets) :
    readRequest maxBody client (before ++ piece :: after) =
      (Intake.ofBuffer maxBody client (before ++ piece :: after).flatten).close := by
  have hstill : Intake.ofPieces maxBody client before = .head before.flatten := by
    rw [Intake.ofPieces_eq_ofBuffer (timely_of_none hnone), Intake.ofBuffer_of_none hnone,
      if_neg (by omega)]
  unfold readRequest
  rw [ofPieces_append, hstill, List.foldl_cons, List.flatten_append, List.flatten_cons,
    ← List.append_assoc]
  change (after.foldl _ (Intake.ofBuffer maxBody client (before.flatten ++ piece))).close = _
  rw [Intake.foldl_ofBuffer hfound]

/-- A head that has been found is not refused for its length. -/
theorem close_ofBuffer_ne {stream : Octets} {n : Nat} (hfound : findHeadEnd stream = some n) :
    (Intake.ofBuffer maxBody client stream).close ≠ .ok (.error headRefusal) := by
  rw [Intake.ofBuffer_of_some hfound]
  have hbody : ∀ (request : Request) (length : Nat) (buffer : Octets),
      (Intake.ofBody request length buffer).close ≠ .ok (.error headRefusal) := by
    intro request length buffer
    by_cases hle : length ≤ buffer.length
    · rw [Intake.ofBody_of_le hle]
      exact fun h => nomatch h
    · rw [Intake.ofBody_of_lt (by omega)]
      exact fun h => nomatch h
  -- whatever else a head is refused for, the status tells it from this refusal
  have hrefused : ∀ (status : Nat) (text : String), status ≠ 431 →
      (Intake.refused (.plain status text)).close ≠ .ok (.error headRefusal) := by
    intro status text hstatus h
    cases h
    exact hstatus rfl
  unfold Intake.ofHead
  split
  · exact hrefused 400 _ (by decide)
  · split
    · exact hrefused 400 _ (by decide)
    · exact hbody _ _ _
    · split
      · exact hrefused 413 _ (by decide)
      · exact hbody _ _ _

theorem readRequest_eq_close {stream : Octets} {pieces : List Octets} (hs : Split stream pieces)
    (htime : Timely stream) :
    readRequest maxBody client pieces = (Intake.ofBuffer maxBody client stream).close := by
  have heq := hs.flatten_eq
  subst heq
  unfold readRequest
  rw [Intake.ofPieces_eq_ofBuffer htime]

theorem readRequest_of_far {stream : Octets} {pieces : List Octets} {n : Nat}
    (hs : Split stream pieces) (hfound : findHeadEnd stream = some n)
    (hfar : maxHeadSize + maxPiece < n + headEnd.length) :
    readRequest maxBody client pieces = .ok (.error headRefusal) := by
  have heq := hs.flatten_eq
  subst heq
  have hle := length_le_of_findHeadEnd hfound
  obtain ⟨before, after, rfl, hbeyond, hwithin⟩ :=
    exists_before maxHeadSize hs.length_le (by omega)
  refine readRequest_of_beyond ?_ hbeyond after
  cases hearly : findHeadEnd before.flatten with
  | none => rfl
  | some m =>
    -- an end that is found early would be the end that is found in all of the stream
    have hsame := findHeadEnd_append hearly after.flatten
    rw [← List.flatten_append, hfound] at hsame
    cases hsame
    have hshort := length_le_of_findHeadEnd hearly
    omega

theorem findHeadEnd_take {stream : Octets} {n k : Nat} (hfound : findHeadEnd stream = some n)
    (hk : k < n + headEnd.length) : findHeadEnd (stream.take k) = none := by
  cases hearly : findHeadEnd (stream.take k) with
  | none => rfl
  | some m =>
    have hsame := findHeadEnd_append hearly (stream.drop k)
    rw [List.take_append_drop, hfound] at hsame
    cases hsame
    have hshort := length_le_of_findHeadEnd hearly
    rw [List.length_take] at hshort
    omega

/-- A head that ends between the limit and one read beyond it is refused when the octets come one by
    one. -/
theorem readRequest_singles {stream : Octets} {n : Nat} (hfound : findHeadEnd stream = some n)
    (hlate : maxHeadSize + 1 < n + headEnd.length) :
    readRequest maxBody client (stream.map ([·])) = .ok (.error headRefusal) := by
  have hle := length_le_of_findHeadEnd hfound
  have hbefore := (split_singles (stream.take (maxHeadSize + 1))).flatten_eq
  rw [← List.take_append_drop (maxHeadSize + 1) stream, List.map_append]
  refine readRequest_of_beyond ?_ ?_ _
  · rw [hbefore]
    exact findHeadEnd_take hfound hlate
  · rw [hbefore, List.length_take]
    omega

/-- The same head passes when one read brings all that lies beyond the limit. -/
theorem exists_split_read (maxBody : Nat) (client : Option Net.Endpoint) {stream : Octets}
    {n : Nat} (hfound : findHeadEnd stream = some n)
    (hlate : maxHeadSize + 1 < n + headEnd.length)
    (hnear : n + headEnd.length ≤ maxHeadSize + maxPiece) :
    ∃ pieces, Split stream pieces ∧
      readRequest maxBody client pieces = (Intake.ofBuffer maxBody client stream).close := by
  -- octet by octet up to the limit, then the rest of the head in one read
  have hle := length_le_of_findHeadEnd hfound
  let size := n + headEnd.length - maxHeadSize
  let first := stream.take maxHeadSize
  let piece := (stream.drop maxHeadSize).take size
  let last := (stream.drop maxHeadSize).drop size
  have hwhole : first ++ (piece ++ last) = stream := by
    rw [List.take_append_drop, List.take_append_drop]
  have hpiece : piece.length = size := by
    rw [List.length_take, List.length_drop]
    omega
  have hsplit : Split stream (first.map ([·]) ++ ([piece] ++ last.map ([·]))) := by
    have hone : Split piece [piece] := by
      refine split_piece ?_ (by omega)
      intro hnil
      rw [hnil] at hpiece
      have hempty : ([] : Octets).length = 0 := rfl
      omega
    have h := (split_singles first).append (hone.append (split_singles last))
    rwa [hwhole] at h
  refine ⟨_, hsplit, ?_⟩
  have hbefore := (split_singles first).flatten_eq
  have hend : findHeadEnd (first ++ piece) = some n := by
    rw [← hwhole, ← List.append_assoc] at hfound
    refine findHeadEnd_of_append hfound ?_
    rw [List.length_append, hpiece, List.length_take]
    omega
  rw [List.singleton_append, readRequest_of_jump (n := n)]
  · rw [← List.singleton_append, hsplit.flatten_eq]
  · rw [hbefore]
    exact findHeadEnd_take hfound (by omega)
  · rw [hbefore, List.length_take]
    omega
  · rw [hbefore]
    exact hend

/-- **Where the pieces decide.**  All ways in which a stream can arrive come to the same end unless its
    head ends beyond the limit by more than one octet and by no more than one read. -/
theorem splits_agree_iff (maxBody : Nat) (client : Option Net.Endpoint) (stream : Octets) :
    (∀ pieces pieces', Split stream pieces → Split stream pieces' →
      readRequest maxBody client pieces = readRequest maxBody client pieces') ↔
    ∀ n, findHeadEnd stream = some n →
      n + headEnd.length ≤ maxHeadSize + 1 ∨ maxHeadSize + maxPiece < n + headEnd.length := by
  constructor
  · intro hagree n hfound
    by_cases hearly : n + headEnd.length ≤ maxHeadSize + 1
    · exact .inl hearly
    by_cases hfar : maxHeadSize + maxPiece < n + headEnd.length
    · exact .inr hfar
    · -- in between the stream is read in some pieces and refused when it comes octet by octet
      obtain ⟨pieces, hs, hread⟩ :=
        exists_split_read maxBody client hfound (by omega) (by omega)
      have hsame := hagree pieces (stream.map ([·])) hs (split_singles stream)
      rw [hread, readRequest_singles hfound (by omega)] at hsame
      exact absurd hsame (close_ofBuffer_ne hfound)
  · intro hlimits pieces pieces' hs hs'
    cases hfound : findHeadEnd stream with
    | none =>
      have htime := timely_of_none hfound
      rw [readRequest_eq_close hs htime, readRequest_eq_close hs' htime]
    | some n =>
      rcases hlimits n hfound with hearly | hfar
      · have htime := timely_of_some hfound hearly
        rw [readRequest_eq_close hs htime, readRequest_eq_close hs' htime]
      · rw [readRequest_of_far hs hfound hfar, readRequest_of_far hs' hfound hfar]

/-! ## A head that is told of in two ways -/

/-- The characters of a request line with something behind its target. -/
def lineWith (version : List Char) : List Char := ['G', 'E', 'T', ' ', '/', ' '] ++ version

theorem lines_lineWith {version : List Char} (h : '\n' ∉ version) :
    lines (String.ofList (lineWith version)) = [String.ofList (lineWith version)] := by
  apply lines_of_not_mem
  · intro hempty
    have hnil := String.toList_eq_nil_iff.mpr hempty
    rw [String.toList_ofList] at hnil
    cases hnil
  · rw [String.toList_ofList, lineWith, List.mem_append, not_or]
    exact ⟨by decide, h⟩

theorem length_words_lineWith (version : List Char) :
    2 ≤ (words (String.ofList (lineWith version))).length := by
  rw [words, String.toList_ofList]
  exact Nat.le_add_left 2 _

def longLine : List Char := lineWith (List.replicate 16384 'a')

/-- A request whose head ends ten octets beyond the limit. -/
def longHead : Octets := octetsOf longLine ++ headEnd

/-- The reads up to the limit when each is as large as it can be. -/
def firstReads : List Octets :=
  [longHead.take 4096, (longHead.drop 4096).take 4096, (longHead.drop 8192).take 4096,
    (longHead.drop 12288).take 4096]

def fullReads : List Octets := firstReads ++ [longHead.drop 16384]

theorem mem_longLine {c : Char} (h : c ∈ longLine) : c ∈ ['G', 'E', 'T', ' ', '/', 'a'] := by
  rcases List.mem_append.mp h with hfirst | hlast
  · have hall : ∀ c ∈ ['G', 'E', 'T', ' ', '/', ' '], c ∈ ['G', 'E', 'T', ' ', '/', 'a'] :=
      forall_mem_of_all (by decide)
    exact hall c hfirst
  · rw [List.eq_of_mem_replicate hlast]
    decide

theorem length_octetsOf_longLine : (octetsOf longLine).length = 16390 := by
  have hascii : ∀ c ∈ longLine, c.toNat < 0x80 := by
    intro c hc
    have hall : ∀ c ∈ ['G', 'E', 'T', ' ', '/', 'a'], c.toNat < 0x80 :=
      forall_mem_of_all (by decide)
    exact hall c (mem_longLine hc)
  rw [octetsOf_of_lt hascii, List.length_map, longLine, lineWith, List.length_append,
    List.length_replicate]
  rfl

theorem length_longHead : longHead.length = 16394 := by
  rw [longHead, List.length_append, length_octetsOf_longLine]
  rfl

theorem findHeadEnd_longHead : findHeadEnd longHead = some 16390 := by
  have hreturn : 0x0D ∉ octetsOf longLine := by
    intro hmem
    have hchar := (mem_octetsOf_iff (d := '\r') (by decide)).mp hmem
    have hnone : '\r' ∉ ['G', 'E', 'T', ' ', '/', 'a'] := by decide
    exact hnone (mem_longLine hchar)
  rw [longHead, ← List.append_nil headEnd, findHeadEnd_of_not_mem hreturn, length_octetsOf_longLine]
  rfl

theorem split_fullReads : Split longHead fullReads := by
  have hlength := length_longHead
  have hlast : (longHead.drop 16384).length = 10 := by
    rw [List.length_drop]
    omega
  have hlate : Split (longHead.drop 16384) [longHead.drop 16384] :=
    split_piece (List.ne_nil_of_length_pos (by omega)) (by rw [hlast]; decide)
  -- each full read is put in front of the reads of what it leaves
  have hread : ∀ (k : Nat) (pieces : List Octets), k + 4096 ≤ longHead.length →
      Split (longHead.drop (k + 4096)) pieces →
      Split (longHead.drop k) ((longHead.drop k).take 4096 :: pieces) := by
    intro k pieces hk h
    rw [← List.drop_drop] at h
    exact h.read (by decide) (by decide) (by rw [List.length_drop]; omega)
  exact hread 0 _ (by omega) (hread 4096 _ (by omega) (hread 8192 _ (by omega)
    (hread 12288 _ (by omega) hlate)))

theorem flatten_firstReads : firstReads.flatten = longHead.take 16384 := by
  have hwhole := split_fullReads.flatten_eq
  rw [fullReads, List.flatten_append, List.flatten_singleton] at hwhole
  exact List.append_cancel_right (hwhole.trans (List.take_append_drop 16384 longHead).symm)

/-- A request line beyond the limit is let through when it comes in full reads, and refused when it
    comes octet by octet. -/
theorem longHead_told_twice :
    Split longHead fullReads ∧ Split longHead (longHead.map ([·])) ∧
      (∃ request, readRequest 1048576 none fullReads = .ok (.ok request)) ∧
      readRequest 1048576 none (longHead.map ([·])) =
        .ok (.error (.plain 431 "Request header fields too large")) := by
  have hlines : lines (lossy (octetsOf longLine)) = [String.ofList longLine] := by
    rw [lossy_octetsOf]
    refine lines_lineWith fun hmem => ?_
    exact absurd (List.eq_of_mem_replicate hmem) (by decide)
  have hfields : fieldsOf (octetsOf longLine) = [] := by
    rw [fieldsOf, hlines]
    rfl
  have hline : ∃ line ∈ (lines (lossy (octetsOf longLine))).head?, 2 ≤ (words line).length := by
    rw [hlines]
    exact ⟨_, rfl, length_words_lineWith _⟩
  have hlength : Declares (octetsOf longLine) 0 := .absent (by rw [hfields]; rfl)
  obtain ⟨request, hrequest, hheader⟩ := exists_ofHead? none hline
  have hread : (Intake.ofBuffer 1048576 none longHead).close =
      .ok (.ok { request with body := none }) := by
    have hhead : longHead.take 16390 = octetsOf longLine := by
      rw [← length_octetsOf_longLine, longHead, List.take_left]
    rw [Intake.ofBuffer_of_some findHeadEnd_longHead, hhead,
      ofHead_of_declares hrequest hheader hlength, if_neg (by decide), if_neg (by decide),
      Intake.ofBody_of_le (Nat.zero_le _)]
    rfl
  -- the last of the full reads jumps over the octets in which the limit would be noticed
  have hjump : readRequest 1048576 none fullReads =
      (Intake.ofBuffer 1048576 none longHead).close := by
    have hfound : findHeadEnd (firstReads.flatten ++ longHead.drop 16384) = some 16390 := by
      rw [flatten_firstReads, List.take_append_drop]
      exact findHeadEnd_longHead
    rw [← split_fullReads.flatten_eq]
    refine readRequest_of_jump ?_ ?_ hfound []
    · rw [flatten_firstReads]
      exact findHeadEnd_take findHeadEnd_longHead (by decide)
    · rw [flatten_firstReads, List.length_take]
      exact Nat.min_le_left _ _
  exact ⟨split_fullReads, split_singles longHead, ⟨_, hjump.trans hread⟩,
    readRequest_singles findHeadEnd_longHead (by decide)⟩

end AdapterGateway.Http
