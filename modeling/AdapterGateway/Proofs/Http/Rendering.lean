import AdapterGateway.Proofs.Admission
import AdapterGateway.Proofs.Http.Framing
import AdapterGateway.Proofs.Text.Utf8

/-!
# Rendering

Whatever the body of a response holds, the other side takes the response out of its octets again:
the first mark ends the head, the head tells of as many octets as stand behind the mark, and these
are the body.  Nothing in a body can be mistaken for the head, because the head comes first and no
line of it can hold the mark.
-/

namespace AdapterGateway.Http

open Text

/-! ## Heads made of lines -/

theorem not_mem_encode {s : String} (h : Unbroken s) : 0x0D ∉ encode s := by
  intro hmem
  rw [encode_eq] at hmem
  exact h.1 ((mem_octetsOf_iff (d := '\r') (by decide)).mp hmem)

theorem findHeadEnd_headEnd (rest : Octets) : findHeadEnd (headEnd ++ rest) = some 0 := rfl

/-- The end of a line is no end of a head where another line follows. -/
theorem findHeadEnd_lineEnd {octet : UInt8} (h : octet ≠ 0x0D) (rest : Octets) :
    findHeadEnd (encode "\r\n" ++ octet :: rest) =
      (findHeadEnd (octet :: rest)).map (· + (encode "\r\n").length) := by
  have hreturn : ¬ headEnd.isPrefixOf (0x0D :: 0x0A :: octet :: rest) = true := by
    simp [headEnd, List.isPrefixOf, h.symm]
  have hfeed : ¬ headEnd.isPrefixOf (0x0A :: octet :: rest) = true := by
    simp [headEnd, List.isPrefixOf]
  change findHeadEnd (0x0D :: 0x0A :: octet :: rest) = _
  rw [findHeadEnd, if_neg hreturn, findHeadEnd, if_neg hfeed, Option.map_map]
  rfl

theorem exists_encode_eq_cons {line : String} (h : IsLine line) :
    ∃ octet rest, encode line = octet :: rest ∧ octet ≠ 0x0D := by
  cases hencode : encode line with
  | nil =>
    have hback := decode?_encode line
    rw [hencode] at hback
    exact absurd (Option.some.inj hback).symm h.1
  | cons octet rest =>
    have hnone := not_mem_encode h.2
    rw [hencode, List.mem_cons, not_or] at hnone
    exact ⟨octet, rest, rfl, Ne.symm hnone.1⟩

/-- A head of lines ends behind the last of them. -/
theorem findHeadEnd_intercalate {ls : List String} (h : ∀ line ∈ ls, IsLine line) (rest : Octets) :
    findHeadEnd (encode ("\r\n".intercalate ls) ++ headEnd ++ rest) =
      some (encode ("\r\n".intercalate ls)).length := by
  -- on the lines: none of them holds the mark, and no end of one is followed by another end
  induction ls with
  | nil => exact findHeadEnd_headEnd rest
  | cons line ls ih =>
    rw [List.forall_mem_cons] at h
    obtain ⟨hline, hrest⟩ := h
    cases ls with
    | nil =>
      rw [String.intercalate_singleton, List.append_assoc,
        findHeadEnd_of_not_mem (not_mem_encode hline.2), findHeadEnd_headEnd, Option.map_some,
        Nat.zero_add]
    | cons next others =>
      obtain ⟨octet, more, hencode, hoctet⟩ :=
        exists_encode_eq_cons (hrest next List.mem_cons_self)
      have hbehind : ∃ more, encode ("\r\n".intercalate (next :: others)) = octet :: more := by
        cases others with
        | nil => exact ⟨more, by rw [String.intercalate_singleton, hencode]⟩
        | cons other others =>
          rw [String.intercalate_cons_cons, encode_append, encode_append, hencode]
          exact ⟨_, rfl⟩
      obtain ⟨behind, hbehind⟩ := hbehind
      have hih := ih hrest
      rw [hbehind, List.cons_append, List.cons_append] at hih
      rw [String.intercalate_cons_cons, encode_append, encode_append, hbehind]
      simp only [List.append_assoc, List.cons_append, List.length_append] at hih ⊢
      rw [findHeadEnd_of_not_mem (not_mem_encode hline.2), findHeadEnd_lineEnd hoctet, hih,
        Option.map_some, Option.map_some]
      congr 1
      omega

/-- The fields of a head of lines are those of all lines but the first. -/
theorem fieldsOf_intercalate {first : String} {fields : List String}
    (h : ∀ line ∈ first :: fields, IsLine line) :
    fieldsOf (encode ("\r\n".intercalate (first :: fields))) =
      fields.filterMap Request.headerOf? := by
  rw [fieldsOf, encode_eq, lossy_octetsOf, String.ofList_toList, lines_intercalate h, List.tail_cons,
    takeWhile_not_isEmpty (List.forall_mem_cons.mp h).2]

/-! ## Numbers in a head -/

theorem isDigit_of_mem_toString {n : Nat} {c : Char} (h : c ∈ (toString n).toList) :
    c.isDigit = true :=
  Nat.isDigit_of_mem_toDigits (by decide) (by decide) (Nat.toList_repr ▸ h)

theorem isBlank_of_isDigit {c : Char} (h : c.isDigit = true) : isBlank c = false := by
  have hrange : 0x30 ≤ c.toNat ∧ c.toNat ≤ 0x39 := Char.isDigit_iff_toNat.mp h
  unfold isBlank
  simp only [Bool.or_eq_false_iff, Bool.and_eq_false_iff, decide_eq_false_iff_not,
    beq_eq_false_iff_ne]
  omega

theorem isWord_toString (n : Nat) : IsWord (toString n) := by
  refine ⟨fun hempty => ?_, fun c hc => isBlank_of_isDigit (isDigit_of_mem_toString hc)⟩
  have hnil : Nat.toDigits 10 n = [] :=
    Nat.toList_repr.symm.trans (String.toList_eq_nil_iff.mpr hempty)
  exact Nat.toDigits_ne_nil hnil

/-- A number is read back from its digits. -/
theorem natural?_toString (n : Nat) : natural? (toString n).toList = some n := by
  have hne : (toString n).toList ≠ [] :=
    fun hnil => (isWord_toString n).1 (String.toList_eq_nil_iff.mp hnil)
  have hvalue : natOfDigits (toString n).toList = Nat.ofDigitChars 10 (Nat.toDigits 10 n) 0 := by
    rw [← Nat.toList_repr]
    unfold natOfDigits Nat.ofDigitChars
    simp only [Nat.mul_comm]
    rfl
  rw [natural?_of_digits hne fun c hc => isDigit_of_mem_toString hc, hvalue,
    Nat.ofDigitChars_toDigits (by decide) (by decide)]

/-! ## Responses -/

/-- A response as the other side makes it out. -/
structure Received where
  status : Nat
  body : Octets
  /-- What is left over behind the body. -/
  rest : Octets
deriving DecidableEq

/-- How the other side makes a response out of octets: the first mark ends the head, whose first line
    tells the status and whose length field how many of the octets behind the mark are the body. -/
def receive? (octets : Octets) : Option Received := do
  let n ← findHeadEnd octets
  let head := octets.take n
  let behind := octets.drop (n + headEnd.length)
  let line ← (lines (lossy head)).head?
  let status ← (words line)[1]?.bind fun word => natural? word.toList
  let length ← (lastValue? (fieldsOf head) "content-length").bind fun s => natural? s.toList
  if length ≤ behind.length then some ⟨status, behind.take length, behind.drop length⟩ else none

/-- The octets of `r` are `head`, the mark and `behind`, and the head says so. -/
structure Delimited (r : Response) (head behind : Octets) : Prop where
  octets : r.render = head ++ headEnd ++ behind
  /-- The first mark is the one behind the head, wherever else it stands. -/
  ended : findHeadEnd r.render = some head.length
  body : r.status ≠ 204 → r.status ≠ 304 → behind = encode r.body
  bodiless : r.status = 204 ∨ r.status = 304 → behind = []
  statusLine : (lines (lossy head)).head? =
    some ("HTTP/1.1 " ++ toString r.status ++ " " ++ Response.phrase r.status)
  /-- There is one length field. -/
  length : (fieldsOf head).filter (·.1 = "content-length") =
    [("content-length", toString behind.length)]
  /-- The type is told once of a body that is not empty, and of no other. -/
  type : (fieldsOf head).filter (·.1 = "content-type") =
    if behind = [] then [] else [("content-type", r.contentType)]
  received : receive? r.render = some ⟨r.status, behind, []⟩

namespace Response

theorem join_lines {ls : List String} (hne : ls ≠ []) :
    String.join (ls.map (· ++ "\r\n")) ++ "\r\n" = "\r\n".intercalate ls ++ "\r\n\r\n" := by
  induction ls with
  | nil => exact absurd rfl hne
  | cons line ls ih =>
    cases ls with
    | nil =>
      rw [List.map_singleton, String.join_cons, String.join_nil, String.intercalate_singleton,
        String.append_empty, String.append_assoc]
      rfl
    | cons next others =>
      rw [List.map_cons, String.join_cons, String.append_assoc, ih (List.cons_ne_nil next others),
        String.intercalate_cons_cons]
      simp only [String.append_assoc]

theorem render_eq (r : Response) :
    r.render = encode ("\r\n".intercalate r.headLines) ++ headEnd ++ r.payload := by
  have hmark : encode "\r\n\r\n" = headEnd := rfl
  rw [render, join_lines (by simp [headLines]), encode_append, hmark]

theorem phrase_unbroken (status : Nat) : Unbroken (phrase status) := by
  unfold phrase
  split <;> decide

theorem Made.contentType_eq {r : Response} (h : r.Made) :
    r.contentType = "application/json" ∨ r.contentType = "text/plain; charset=utf-8" := by
  cases h with
  | json => exact .inl rfl
  | plain => exact .inr rfl

/-- The line for the type of the body, and none for a body that is empty. -/
def typeLines (r : Response) : List String :=
  if r.payload.length = 0 then [] else ["content-type: " ++ r.contentType]

theorem headLines_eq (r : Response) :
    r.headLines = ("HTTP/1.1 " ++ toString r.status ++ " " ++ phrase r.status) ::
      (r.typeLines ++ ["Content-Length: " ++ toString r.payload.length, "Connection: close"]) := rfl

theorem Made.isLine_headLines {r : Response} (h : r.Made) : ∀ line ∈ r.headLines, IsLine line := by
  have hnumber (n : Nat) : Unbroken (toString n) := (isWord_toString n).isLine.2
  have htype : Unbroken r.contentType := by
    rcases h.contentType_eq with htype | htype <;> rw [htype] <;> decide
  have hstatus :
      IsLine ("HTTP/1.1 " ++ toString r.status ++ " " ++ phrase r.status) :=
    (((by decide : IsLine "HTTP/1.1 ").append (hnumber _)).append (by decide)).append
      (phrase_unbroken _)
  have htypeLines : ∀ line ∈ r.typeLines, IsLine line := by
    intro line hline
    unfold typeLines at hline
    split at hline
    · cases hline
    · rw [List.mem_singleton.mp hline]
      exact (by decide : IsLine "content-type: ").append htype
  have hlength : IsLine ("Content-Length: " ++ toString r.payload.length) :=
    (by decide : IsLine "Content-Length: ").append (hnumber _)
  rw [headLines_eq, List.forall_mem_cons, List.forall_mem_append, List.forall_mem_cons,
    List.forall_mem_singleton]
  exact ⟨hstatus, htypeLines, hlength, by decide⟩

theorem headerOf?_length (n : Nat) :
    Request.headerOf? ("Content-Length: " ++ toString n) = some ("content-length", toString n) := by
  have hline : "Content-Length: " ++ toString n =
      "Content-Length" ++ ":" ++ (" " ++ toString n) := by
    rw [← String.append_assoc]
    rfl
  have hname : lower (trim "Content-Length") = "content-length" := by decide +kernel
  rw [hline, headerOf?_append (by decide), hname, trim_append (isWord_toString n).2]

/-- The fields that a head tells. -/
theorem Made.fieldsOf_headLines {r : Response} (h : r.Made) :
    fieldsOf (encode ("\r\n".intercalate r.headLines)) =
      (if r.payload.length = 0 then [] else [("content-type", r.contentType)]) ++
        [("content-length", toString r.payload.length), ("connection", "close")] := by
  have htype : Request.headerOf? ("content-type: " ++ r.contentType) =
      some ("content-type", r.contentType) := by
    rcases h.contentType_eq with htype | htype <;> rw [htype] <;> decide +kernel
  have htypes : r.typeLines.filterMap Request.headerOf? =
      if r.payload.length = 0 then [] else [("content-type", r.contentType)] := by
    unfold typeLines
    split
    · rfl
    · rw [List.filterMap_cons_some htype, List.filterMap_nil]
  have hclose : Request.headerOf? "Connection: close" = some ("connection", "close") := by
    decide +kernel
  have hlines := h.isLine_headLines
  rw [headLines_eq] at hlines ⊢
  rw [fieldsOf_intercalate hlines, List.filterMap_append, htypes,
    List.filterMap_cons_some (headerOf?_length _), List.filterMap_cons_some hclose,
    List.filterMap_nil]

theorem payload_eq (r : Response) :
    r.payload = if r.status = 204 ∨ r.status = 304 then [] else encode r.body := by
  simp [payload, isBodiless]

end Response

theorem receive?_eq {octets head behind : Octets} {line word s : String} {status length : Nat}
    (hend : findHeadEnd octets = some head.length) (hoctets : octets = head ++ headEnd ++ behind)
    (hline : (lines (lossy head)).head? = some line) (hword : (words line)[1]? = some word)
    (hstatus : natural? word.toList = some status)
    (hfield : lastValue? (fieldsOf head) "content-length" = some s)
    (hlength : natural? s.toList = some length) (hle : length ≤ behind.length) :
    receive? octets = some ⟨status, behind.take length, behind.drop length⟩ := by
  have htake : octets.take head.length = head := by
    rw [hoctets, List.append_assoc, List.take_left]
  have hdrop : octets.drop (head.length + headEnd.length) = behind := by
    rw [hoctets, ← List.length_append, List.drop_left]
  unfold receive?
  simp only [hend, htake, hdrop, hline, hword, hstatus, hfield, hlength, Option.bind_eq_bind,
    Option.bind_some, if_pos hle]

/-- The octets of a response are delimited, whatever its body holds. -/
theorem Response.Made.delimited {r : Response} (h : r.Made) :
    Delimited r (encode ("\r\n".intercalate r.headLines)) r.payload := by
  have hlines := h.isLine_headLines
  have hfields := h.fieldsOf_headLines
  have hend := findHeadEnd_intercalate hlines r.payload
  rw [← r.render_eq] at hend
  have hstatus : (lines (lossy (encode ("\r\n".intercalate r.headLines)))).head? =
      some ("HTTP/1.1 " ++ toString r.status ++ " " ++ phrase r.status) := by
    rw [encode_eq, lossy_octetsOf, String.ofList_toList, lines_intercalate hlines]
    rfl
  -- the status is the second word of the line, whatever words the phrase has
  have hword : (words ("HTTP/1.1 " ++ toString r.status ++ " " ++ phrase r.status))[1]? =
      some (toString r.status) := by
    have hversion : "HTTP/1.1 " ++ toString r.status ++ " " ++ phrase r.status =
        "HTTP/1.1" ++ " " ++ (toString r.status ++ " " ++ phrase r.status) := by
      simp only [← String.append_assoc]
      rfl
    have hprotocol : IsWord "HTTP/1.1" := ⟨by decide, forall_mem_of_all (by decide)⟩
    rw [hversion, words_append hprotocol, words_append (isWord_toString r.status)]
    rfl
  -- the one length field is also the last
  have hlength : lastValue? (fieldsOf (encode ("\r\n".intercalate r.headLines)))
      "content-length" = some (toString r.payload.length) := by
    rw [hfields]
    split <;> rfl
  exact {
    octets := r.render_eq
    ended := hend
    body := fun hcontent hmodified => by
      rw [r.payload_eq, if_neg fun hnone => hnone.elim hcontent hmodified]
    bodiless := fun hnone => by rw [r.payload_eq, if_pos hnone]
    statusLine := hstatus
    length := by
      rw [hfields]
      split <;> simp
    type := by
      rw [hfields]
      by_cases hempty : r.payload = []
      · rw [if_pos hempty, hempty]
        rfl
      · have hpos : r.payload.length ≠ 0 := fun h => hempty (List.length_eq_zero_iff.mp h)
        rw [if_neg hempty, if_neg hpos]
        simp
    received := by
      have hreceived := receive?_eq hend r.render_eq hstatus hword (natural?_toString _) hlength
        (natural?_toString _) (Nat.le_refl _)
      rwa [List.take_length, List.drop_length] at hreceived }

/-- **Responses can be told from their octets.**  A response out of any document or message is
    delimited by its head, and nothing else is ever sent: neither as the answer to a request nor to
    refuse one, nor over a connection as a whole. -/
theorem responses_delimited (s : Settings) (inherited : Environment.Raw) (patience : Nat) :
    (∀ r : Response, r.Made → ∃ head behind, Delimited r head behind) ∧
      (∀ q t r, (Service.answer s inherited patience q).Runs t r → r.Made) ∧
      (∀ client pieces r,
        readRequest s.server.maxBodySize.toNat client pieces = .ok (.error r) → r.Made) ∧
      ∀ client pieces t octets,
        (Service.converse s inherited patience client pieces).Runs t (some octets) →
        ∃ r : Response, r.Made ∧ octets = r.render := by
  refine ⟨fun r hr => ⟨_, _, hr.delimited⟩,
    fun q t r hruns => (Service.proper_answer s inherited patience hruns).made,
    fun client pieces r hread => (proper_of_refused hread).made, ?_⟩
  intro client pieces t octets hruns
  obtain ⟨r, hproper, heq⟩ := Service.proper_converse hruns
  exact ⟨r, hproper.made, heq⟩

-- A body that looks like the end of a head and another length.
example : receive? (Response.plain 200 "\r\n\r\nContent-Length: 1").render =
    some ⟨200, encode "\r\n\r\nContent-Length: 1", []⟩ := by
  decide +kernel

end AdapterGateway.Http
