import Mathlib.Data.List.Basic
import AdapterGateway.Proofs.Http.HeadLimit

/-!
# Octets in memory

How many octets are kept while a request is read, from a connection that may deliver them forever.  The
limits are tested between two reads, so each is overstepped by one read at most.  The reading is taken
apart here into all the points that it comes to, with what is in memory at each of them.  Every point
amounts to one `Intake`, and reading goes on at both alike.
-/

namespace AdapterGateway.Http

open Text

/-! ## Points of a reading -/

/-- A point in the reading of a request, with the octets in memory. -/
inductive Stage where
  /-- The end of the head is looked for. -/
  | gather (front : Octets)
  /-- The end of the head was found at `n`, and nothing is cut yet. -/
  | cut (front : Octets) (n : Nat)
  /-- The octets behind the head are apart from it, and it is seen whether they are enough. -/
  | fill (front : Octets) (request : Request) (length : Nat) (body : Octets)
  /-- The reading is over. -/
  | ended (outcome : Except IoError (Except Response Request))

namespace Stage

/-- What is kept of the octets up to the end of the head. -/
def front : Stage → Octets
  | gather front | cut front _ | fill front _ _ _ => front
  | ended _ => []

/-- What is kept of the octets behind the head. -/
def body : Stage → Octets
  | fill _ _ _ body => body
  | gather _ | cut _ _ | ended _ => []

def refused (response : Response) : Stage := ended (.ok (.error response))

/-- A head is read, and the octets behind it are split off. -/
def ofHead (maxBody : Nat) (client : Option Net.Endpoint) (front : Octets) (n : Nat) : Stage :=
  match Request.ofHead? (lossy (front.take n)) client with
  | none => refused (.plain 400 "Bad Request")
  | some request =>
    let kept := front.take (n + headEnd.length)
    let body := front.drop (n + headEnd.length)
    match (request.header? "content-length").map length? with
    | some none => refused (.plain 400 "Invalid Content-Length")
    | none => fill kept request 0 body
    | some (some length) =>
      if length > maxBody then refused (.plain 413 "Payload Too Large")
      else fill kept request length body

/-- What follows without another read.  A point that waits for one stays as it is. -/
def proceed (maxBody : Nat) (client : Option Net.Endpoint) : Stage → Stage
  | gather front => match findHeadEnd front with
    | some n => cut front n
    | none => if front.length > maxHeadSize then refused headRefusal else gather front
  | cut front n => ofHead maxBody client front n
  | fill front request length body =>
    if length ≤ body.length then
      ended (.ok (.ok { request with body := if length = 0 then none else some (body.take length) }))
    else fill front request length body
  | ended outcome => ended outcome

/-- What follows a read, or the end of the connection. -/
def receive : Stage → Option Octets → Stage
  | gather front, some piece => gather (front ++ piece)
  | gather _, none => ended (.error Intake.closedInHead)
  | fill front request length body, some piece => fill front request length (body ++ piece)
  | fill _ _ _ _, none => ended (.error Intake.closedInBody)
  | cut front n, _ => cut front n
  | ended outcome, _ => ended outcome

/-- How far the request has been read.  It is not known of a connection that was closed too early. -/
def intake? (maxBody : Nat) (client : Option Net.Endpoint) : Stage → Option Intake
  | gather front => some (.ofBuffer maxBody client front)
  | cut front n =>
    some (.ofHead maxBody client (front.take n) (front.drop (n + headEnd.length)))
  | fill _ request length body => some (.ofBody request length body)
  | ended (.ok (.ok request)) => some (.complete request)
  | ended (.ok (.error response)) => some (.refused response)
  | ended (.error _) => none

end Stage

/-- The points that a reading comes to, each with the number of reads before it.  After `k` reads the
    connection delivers `reads k`, or is closed. -/
inductive Visits (maxBody : Nat) (client : Option Net.Endpoint) (reads : Nat → Option Octets) :
    Nat → Stage → Prop where
  | start : Visits maxBody client reads 0 (.gather [])
  | proceed {k : Nat} {s : Stage} : Visits maxBody client reads k s →
      Visits maxBody client reads k (s.proceed maxBody client)
  | receive {k : Nat} {s : Stage} : Visits maxBody client reads k s →
      s.proceed maxBody client = s → Visits maxBody client reads (k + 1) (s.receive (reads k))

variable {maxBody : Nat} {client : Option Net.Endpoint} {reads : Nat → Option Octets}

namespace Stage

theorem proceed_gather_of_some {front : Octets} {n : Nat} (h : findHeadEnd front = some n) :
    (gather front).proceed maxBody client = cut front n := by
  simp only [proceed, h]

theorem proceed_gather_of_none {front : Octets} (h : findHeadEnd front = none) :
    (gather front).proceed maxBody client =
      if front.length > maxHeadSize then refused headRefusal else gather front := by
  simp only [proceed, h]

/-- A head is refused, or it declares a body within the limit and the octets behind it are split off. -/
theorem ofHead_cases (maxBody : Nat) (client : Option Net.Endpoint) (front : Octets) (n : Nat) :
    (∃ response, ofHead maxBody client front n = refused response ∧
      Intake.ofHead maxBody client (front.take n) (front.drop (n + headEnd.length)) =
        .refused response) ∨
    ∃ request length, length ≤ maxBody ∧
      ofHead maxBody client front n = fill (front.take (n + headEnd.length)) request length
        (front.drop (n + headEnd.length)) ∧
      Intake.ofHead maxBody client (front.take n) (front.drop (n + headEnd.length)) =
        .ofBody request length (front.drop (n + headEnd.length)) := by
  unfold ofHead Intake.ofHead
  cases Request.ofHead? (lossy (front.take n)) client with
  | none => exact .inl ⟨_, rfl, rfl⟩
  | some request =>
    dsimp only
    cases (request.header? "content-length").map length? with
    | none => exact .inr ⟨request, 0, Nat.zero_le maxBody, rfl, rfl⟩
    | some declared =>
      cases declared with
      | none => exact .inl ⟨_, rfl, rfl⟩
      | some length =>
        dsimp only
        by_cases hlarge : length > maxBody
        · rw [if_pos hlarge, if_pos hlarge]
          exact .inl ⟨_, rfl, rfl⟩
        · rw [if_neg hlarge, if_neg hlarge]
          exact .inr ⟨request, length, Nat.le_of_not_gt hlarge, rfl, rfl⟩

theorem proceed_fill_of_le {front body : Octets} {request : Request} {length : Nat}
    (h : length ≤ body.length) : (fill front request length body).proceed maxBody client =
      ended (.ok (.ok { request with
        body := if length = 0 then none else some (body.take length) })) :=
  if_pos h

theorem proceed_fill_of_lt {front body : Octets} {request : Request} {length : Nat}
    (h : body.length < length) : (fill front request length body).proceed maxBody client =
      fill front request length body :=
  if_neg (by omega)

/-! A point at which the reading waits shows that the limits are not overstepped yet. -/

theorem of_proceed_gather {front : Octets}
    (h : (gather front).proceed maxBody client = gather front) :
    findHeadEnd front = none ∧ front.length ≤ maxHeadSize := by
  cases hfound : findHeadEnd front with
  | some n =>
    rw [proceed_gather_of_some hfound] at h
    cases h
  | none =>
    rw [proceed_gather_of_none hfound] at h
    by_cases hlong : front.length > maxHeadSize
    · rw [if_pos hlong] at h
      cases h
    · exact ⟨rfl, Nat.le_of_not_gt hlong⟩

theorem proceed_cut_ne (front : Octets) (n : Nat) :
    (cut front n).proceed maxBody client ≠ cut front n := by
  intro h
  rcases ofHead_cases maxBody client front n with ⟨_, hstage, _⟩ | ⟨_, _, _, hstage, _⟩
  · cases hstage.symm.trans h
  · cases hstage.symm.trans h

theorem of_proceed_fill {front body : Octets} {request : Request} {length : Nat}
    (h : (fill front request length body).proceed maxBody client = fill front request length body) :
    body.length < length := by
  by_contra hle
  rw [proceed_fill_of_le (Nat.le_of_not_lt hle)] at h
  cases h

/-! ## Agreement with the intake -/

theorem intake?_proceed (s : Stage) :
    (s.proceed maxBody client).intake? maxBody client = s.intake? maxBody client := by
  cases s with
  | gather front =>
    change _ = some (Intake.ofBuffer maxBody client front)
    cases hfound : findHeadEnd front with
    | some n =>
      rw [proceed_gather_of_some hfound, Intake.ofBuffer_of_some hfound]
      rfl
    | none =>
      rw [proceed_gather_of_none hfound]
      by_cases hlong : front.length > maxHeadSize
      · rw [if_pos hlong, Intake.ofBuffer_of_none hfound, if_pos hlong]
        rfl
      · rw [if_neg hlong]
        rfl
  | cut front n =>
    change (ofHead maxBody client front n).intake? maxBody client = some (Intake.ofHead _ _ _ _)
    rcases ofHead_cases maxBody client front n with ⟨_, hstage, hhead⟩ | ⟨_, _, _, hstage, hhead⟩
    · rw [hstage, hhead]
      rfl
    · rw [hstage, hhead]
      rfl
  | fill front request length body =>
    by_cases hle : length ≤ body.length
    · rw [proceed_fill_of_le hle]
      exact congrArg some (Intake.ofBody_of_le hle).symm
    · rw [proceed_fill_of_lt (Nat.lt_of_not_le hle)]
  | ended outcome => rfl

theorem intake?_receive {s : Stage} (hwait : s.proceed maxBody client = s) (piece : Octets) :
    (s.receive (some piece)).intake? maxBody client =
      (s.intake? maxBody client).map (Intake.receive maxBody client · piece) := by
  cases s with
  | gather front =>
    obtain ⟨hnone, hshort⟩ := of_proceed_gather hwait
    change _ = some (Intake.receive maxBody client (.ofBuffer maxBody client front) piece)
    rw [Intake.ofBuffer_of_none hnone, if_neg (Nat.not_lt_of_le hshort)]
    rfl
  | cut front n => exact absurd hwait (proceed_cut_ne front n)
  | fill front request length body =>
    change _ = some (Intake.receive maxBody client (.ofBody request length body) piece)
    rw [Intake.ofBody_of_lt (of_proceed_fill hwait)]
    rfl
  | ended outcome =>
    cases outcome with
    | error e => rfl
    | ok result => cases result <;> rfl

end Stage

/-- The connection delivers these pieces first. -/
def Delivers (reads : Nat → Option Octets) (pieces : List Octets) : Prop :=
  ∀ k < pieces.length, reads k = pieces[k]?

theorem Delivers.of_concat {pieces : List Octets} {piece : Octets}
    (h : Delivers reads (pieces ++ [piece])) :
    Delivers reads pieces ∧ reads pieces.length = some piece := by
  constructor
  · intro k hk
    rw [h k (by rw [List.length_append]; omega), List.getElem?_append_left hk]
  · rw [h _ (by rw [List.length_append]; exact Nat.lt_succ_self _), List.getElem?_concat_length]

namespace Visits

variable {k : Nat} {s : Stage}

/-- Every point amounts to what has been taken in by then. -/
theorem intake?_eq (h : Visits maxBody client reads k s) :
    ∀ pieces, Delivers reads pieces → pieces.length = k →
      s.intake? maxBody client = some (.ofPieces maxBody client pieces) := by
  -- on the points: a test keeps what a point amounts to, and a read takes in the last piece
  induction h with
  | start =>
    intro pieces _ hlength
    rw [List.eq_nil_of_length_eq_zero hlength]
    rfl
  | proceed _ ih =>
    intro pieces hpieces hlength
    rw [Stage.intake?_proceed]
    exact ih pieces hpieces hlength
  | receive _ hwait ih =>
    intro pieces hpieces hlength
    obtain rfl | ⟨before, piece, rfl⟩ := List.eq_nil_or_concat' pieces
    · cases hlength
    · obtain ⟨hbefore, hread⟩ := hpieces.of_concat
      rw [List.length_append, List.length_singleton] at hlength
      obtain rfl := Nat.succ.inj hlength
      rw [hread, Stage.intake?_receive hwait, ih before hbefore rfl, ofPieces_append]
      rfl

end Visits

/-- After `k` reads the reading comes to a point at which it waits for another or is over. -/
def Rests (maxBody : Nat) (client : Option Net.Endpoint) (reads : Nat → Option Octets) (k : Nat) :
    Prop :=
  ∃ s, Visits maxBody client reads k s ∧ s.proceed maxBody client = s

namespace Visits

variable {k n length : Nat} {front body : Octets} {request : Request}

theorem rests_fill (h : Visits maxBody client reads k (.fill front request length body)) :
    Rests maxBody client reads k := by
  by_cases hle : length ≤ body.length
  · have hnext := h.proceed
    rw [Stage.proceed_fill_of_le hle] at hnext
    exact ⟨_, hnext, rfl⟩
  · exact ⟨_, h, Stage.proceed_fill_of_lt (Nat.lt_of_not_le hle)⟩

theorem rests_cut (h : Visits maxBody client reads k (.cut front n)) :
    Rests maxBody client reads k := by
  have hnext : Visits maxBody client reads k (Stage.ofHead maxBody client front n) := h.proceed
  rcases Stage.ofHead_cases maxBody client front n with ⟨_, hstage, _⟩ | ⟨_, _, _, hstage, _⟩
  · rw [hstage] at hnext
    exact ⟨_, hnext, rfl⟩
  · rw [hstage] at hnext
    exact hnext.rests_fill

theorem rests_gather (h : Visits maxBody client reads k (.gather front)) :
    Rests maxBody client reads k := by
  have hnext := h.proceed
  cases hfound : findHeadEnd front with
  | some n =>
    rw [Stage.proceed_gather_of_some hfound] at hnext
    exact hnext.rests_cut
  | none =>
    have hstage : (Stage.gather front).proceed maxBody client = _ :=
      Stage.proceed_gather_of_none hfound
    by_cases hlong : front.length > maxHeadSize
    · rw [hstage, if_pos hlong] at hnext
      exact ⟨_, hnext, rfl⟩
    · rw [if_neg hlong] at hstage
      exact ⟨_, h, hstage⟩

end Visits

/-- A reading comes to rest before every read. -/
theorem rests (maxBody : Nat) (client : Option Net.Endpoint) (reads : Nat → Option Octets) (k : Nat) :
    Rests maxBody client reads k := by
  induction k with
  | zero => exact Visits.start.rests_gather
  | succ k ih =>
    obtain ⟨s, hvisit, hwait⟩ := ih
    have hnext := hvisit.receive hwait
    cases hs : s.receive (reads k) with
    | gather front => exact (hs ▸ hnext).rests_gather
    | cut front n => exact (hs ▸ hnext).rests_cut
    | fill front request length body => exact (hs ▸ hnext).rests_fill
    | ended outcome => exact ⟨_, hs ▸ hnext, rfl⟩

/-! ## Limits -/

/-- What is in memory is within the limits, each with what one read brings beyond it. -/
def Stage.Within (maxBody : Nat) : Stage → Prop
  | gather front => front.length ≤ maxHeadSize + maxPiece
  | cut front n => front.length ≤ maxHeadSize + maxPiece ∧ n + headEnd.length ≤ front.length
  | fill front _ length body => front.length ≤ maxHeadSize + maxPiece ∧ length ≤ maxBody ∧
      body.length ≤ max (maxHeadSize + 4092) (maxBody + 4095)
  | ended (.ok (.ok request)) => ∀ body ∈ request.body, body.length ≤ maxBody
  | ended (.ok (.error _)) | ended (.error _) => True

namespace Stage.Within

theorem ofHead {front : Octets} {n : Nat} (h : (cut front n).Within maxBody) :
    (Stage.ofHead maxBody client front n).Within maxBody := by
  obtain ⟨hfront, hcut⟩ := h
  rcases ofHead_cases maxBody client front n with ⟨_, hstage, _⟩ | ⟨_, length, hlength, hstage, _⟩
  · rw [hstage]
    exact True.intro
  · rw [hstage]
    refine ⟨?_, hlength, Nat.le_trans ?_ (Nat.le_max_left _ _)⟩
    · rw [List.length_take]
      omega
    · -- the end of the head itself is not among the octets behind it
      have hpiece : maxPiece = 4096 := rfl
      have hend : headEnd.length = 4 := rfl
      rw [List.length_drop]
      omega

theorem proceed {s : Stage} (h : s.Within maxBody) : (s.proceed maxBody client).Within maxBody := by
  cases s with
  | gather front =>
    cases hfound : findHeadEnd front with
    | some n =>
      rw [proceed_gather_of_some hfound]
      exact ⟨h, length_le_of_findHeadEnd hfound⟩
    | none =>
      rw [proceed_gather_of_none hfound]
      split
      · exact True.intro
      · exact h
  | cut front n => exact h.ofHead
  | fill front request length body =>
    by_cases hle : length ≤ body.length
    · rw [proceed_fill_of_le hle]
      intro given hgiven
      obtain ⟨_, hlength, _⟩ := h
      by_cases hzero : length = 0
      · simp only [hzero, if_true] at hgiven
        cases hgiven
      · simp only [hzero, if_false] at hgiven
        obtain rfl := Option.some.inj hgiven
        rw [List.length_take]
        omega
    · rw [proceed_fill_of_lt (Nat.lt_of_not_le hle)]
      exact h
  | ended outcome => exact h

theorem receive {s : Stage} (h : s.Within maxBody) (hwait : s.proceed maxBody client = s)
    {read : Option Octets} (hread : ∀ piece ∈ read, piece.length ≤ maxPiece) :
    (s.receive read).Within maxBody := by
  cases s with
  | gather front =>
    cases read with
    | none => exact True.intro
    | some piece =>
      -- before the read the limit was kept, or the head would have been refused
      obtain ⟨_, hshort⟩ := of_proceed_gather hwait
      have hpiece := hread piece rfl
      change (front ++ piece).length ≤ _
      rw [List.length_append]
      omega
  | cut front n => exact h
  | fill front request length body =>
    cases read with
    | none => exact True.intro
    | some piece =>
      obtain ⟨hfront, hlength, _⟩ := h
      -- before the read at least one octet was missing
      have hshort := of_proceed_fill hwait
      have hpiece := hread piece rfl
      refine ⟨hfront, hlength, Nat.le_trans ?_ (Nat.le_max_right _ _)⟩
      have hsize : maxPiece = 4096 := rfl
      rw [List.length_append]
      omega
  | ended outcome => exact h

end Stage.Within

theorem Visits.within {k : Nat} {s : Stage} (h : Visits maxBody client reads k s)
    (hreads : ∀ k, ∀ piece ∈ reads k, piece.length ≤ maxPiece) : s.Within maxBody := by
  induction h with
  | start => exact Nat.zero_le _
  | proceed _ ih => exact ih.proceed
  | receive _ hwait ih => exact ih.receive hwait (hreads _)

theorem Stage.Within.front_le {s : Stage} (h : s.Within maxBody) :
    s.front.length ≤ maxHeadSize + maxPiece := by
  cases s with
  | gather front => exact h
  | cut front n => exact h.1
  | fill front request length body => exact h.1
  | ended outcome => exact Nat.zero_le _

theorem Stage.Within.body_le {s : Stage} (h : s.Within maxBody) :
    s.body.length ≤ max (maxHeadSize + 4092) (maxBody + 4095) := by
  cases s with
  | gather front => exact Nat.zero_le _
  | cut front n => exact Nat.zero_le _
  | fill front request length body => exact h.2.2
  | ended outcome => exact Nat.zero_le _

/-! ## Any connection -/

/-- A reading keeps within its limits. -/
structure Buffered (maxBody : Nat) (client : Option Net.Endpoint) (reads : Nat → Option Octets) :
    Prop where
  front_le : ∀ k s, Visits maxBody client reads k s → s.front.length ≤ maxHeadSize + maxPiece
  body_le : ∀ k s, Visits maxBody client reads k s →
    s.body.length ≤ max (maxHeadSize + 4092) (maxBody + 4095)
  /-- What is split off lies behind the end of the head, and that is within what was gathered. -/
  cut_le : ∀ k front n, Visits maxBody client reads k (.cut front n) →
    n + headEnd.length ≤ front.length
  /-- A body that is handed over is within the limit, also one that the intake takes in. -/
  handed_le : ∀ k request, Visits maxBody client reads k (.ended (.ok (.ok request))) →
    ∀ body ∈ request.body, body.length ≤ maxBody
  taken_le : ∀ pieces request, Delivers reads pieces →
    readRequest maxBody client pieces = .ok (.ok request) →
    ∀ body ∈ request.body, body.length ≤ maxBody
  /-- There is such a point after any number of reads, and it amounts to what was taken in by then. -/
  rests : ∀ k, Rests maxBody client reads k
  intake : ∀ k s pieces, Visits maxBody client reads k s → Delivers reads pieces →
    pieces.length = k → s.intake? maxBody client = some (.ofPieces maxBody client pieces)

/-- A request that is taken in is the end of a reading. -/
theorem visits_of_readRequest {pieces : List Octets} {request : Request}
    (hpieces : Delivers reads pieces)
    (h : readRequest maxBody client pieces = .ok (.ok request)) :
    Visits maxBody client reads pieces.length (.ended (.ok (.ok request))) := by
  have hcomplete : Intake.ofPieces maxBody client pieces = .complete request := by
    unfold readRequest at h
    cases hintake : Intake.ofPieces maxBody client pieces with
    | head buffer =>
      rw [hintake] at h
      cases h
    | body request length buffer =>
      rw [hintake] at h
      cases h
    | complete request =>
      rw [hintake] at h
      cases h
      rfl
    | refused response =>
      rw [hintake] at h
      cases h
  -- the reading comes to rest, and a point that still waits amounts to no complete request
  obtain ⟨s, hvisit, hwait⟩ := rests maxBody client reads pieces.length
  have hamount := hvisit.intake?_eq pieces hpieces rfl
  rw [hcomplete] at hamount
  cases s with
  | gather front =>
    obtain ⟨hnone, hshort⟩ := Stage.of_proceed_gather hwait
    rw [Stage.intake?, Intake.ofBuffer_of_none hnone, if_neg (Nat.not_lt_of_le hshort)] at hamount
    cases hamount
  | cut front n => exact absurd hwait (Stage.proceed_cut_ne front n)
  | fill front request length body =>
    rw [Stage.intake?, Intake.ofBody_of_lt (Stage.of_proceed_fill hwait)] at hamount
    cases hamount
  | ended outcome =>
    cases outcome with
    | error e => cases hamount
    | ok result =>
      cases result with
      | error response => cases hamount
      | ok request' =>
        cases hamount
        exact hvisit

/-- **Bounded reading.**  However long a connection goes on, what is in memory while a request is read
    stays within the limits and one read. -/
theorem buffered (maxBody : Nat) (client : Option Net.Endpoint) (reads : Nat → Option Octets)
    (hreads : ∀ k, ∀ piece ∈ reads k, piece.length ≤ maxPiece) :
    Buffered maxBody client reads where
  front_le _ _ h := (h.within hreads).front_le
  body_le _ _ h := (h.within hreads).body_le
  cut_le _ _ _ h := (h.within hreads).2
  handed_le _ _ h := h.within hreads
  taken_le _ _ hpieces h := (visits_of_readRequest hpieces h).within hreads
  rests := rests maxBody client reads
  intake _ _ pieces h hpieces hlength := h.intake?_eq pieces hpieces hlength

/-- A connection that delivers full reads forever. -/
theorem buffered_endless :
    (∀ k, ∀ piece ∈ (fun _ => some (List.replicate 4096 0x41) : Nat → Option Octets) k,
      piece.length ≤ maxPiece) ∧
    Buffered 1048576 none fun _ => some (List.replicate 4096 0x41) := by
  have hreads : ∀ k, ∀ piece ∈ (fun _ => some (List.replicate 4096 0x41) : Nat → Option Octets) k,
      piece.length ≤ maxPiece := by
    intro k piece hpiece
    obtain rfl := Option.some.inj hpiece
    rw [List.length_replicate]
    exact Nat.le_refl 4096
  exact ⟨hreads, buffered 1048576 none _ hreads⟩

end AdapterGateway.Http
