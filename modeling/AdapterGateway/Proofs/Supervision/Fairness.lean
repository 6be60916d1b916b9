import AdapterGateway.Proofs.Supervision.Relay

/-!
# Fairness

Interleavings that follow a schedule.  When the adapter and the reader move again and again, the
adapter comes to its end, and an operation that waits for it patiently enough comes to its own.
-/

namespace AdapterGateway

open Text

/-- Who moves before each question, and whether a wait is over when that is asked. -/
structure Schedule where
  turns : Nat → List Host.Turn
  passed : Nat → Bool

namespace Host

variable {b : Octets} {held : Nat} {taken : Bool} {h : Host}

/-- Whether the reader has tried to open the pipe. -/
def attending (h : Host) : Bool :=
  match h.channel.bind (·.reader) with
  | some .starting => false
  | _ => true

/-- How many moves the adapter has yet to make. -/
def remaining (h : Host) : Nat :=
  match h.adapter with
  | some ⟨script, _, none⟩ => script.deeds.length + 1
  | _ => 0

theorem attending_reader (hb : h.Carries b held taken) (more : Nat) :
    (h.move (.reader more)).attending = true := by
  obtain ⟨c, r, hchannel, _, ht⟩ := hb
  simp only [move, attending, hchannel, Option.map_some, Option.bind_some]
  cases ht with
  | opening hreader _ => rcases hreader with rfl | rfl <;> rfl
  | silent hreader _ => rcases hreader with rfl | rfl <;> rfl
  | @writing got buffer _ _ _ _ => cases buffer <;> rfl
  | @written held got buffer _ _ _ _ =>
    cases buffer with
    | nil => by_cases hheld : held = 0 <;> simp [Channel.listen, hheld]
    | cons octet buffer => rfl
  | finished => rfl
  | collected => rfl

/-- A reader that has tried to open the pipe has done so for good. -/
theorem attending_move (hb : h.Carries b held taken) (hattending : h.attending = true)
    (turn : Turn) : (h.move turn).attending = true := by
  cases turn with
  | reader more => exact attending_reader hb more
  | adapter =>
    obtain ⟨c, r, hchannel, hadapter, ht⟩ := hb
    have hpipe : h.pipe = c := by rw [pipe, hchannel]; rfl
    simp only [attending, hchannel, Option.bind_some] at hattending
    simp only [move, attending, hadapter, hpipe, hchannel, Option.map_some, Option.bind_some]
    cases ht with
    -- opening the pipe lets the waiting reader begin to read
    | opening hreader _ =>
      rcases hreader with rfl | rfl
      · exact hattending
      · rfl
    | @silent reader _ _ ended hreader _ => cases ended <;> exact hattending
    | @writing got buffer pieces _ _ _ => cases pieces <;> rfl
    | @written _ _ _ _ _ ended _ => cases ended <;> rfl
    | @finished _ _ _ ended => cases ended <;> rfl
    | @collected _ _ _ ended => cases ended <;> rfl

/-- Once the reader has tried to open the pipe, each move of the adapter brings it nearer its end. -/
theorem remaining_adapter (hb : h.Carries b held taken) (hattending : h.attending = true) :
    (h.move .adapter).remaining = h.remaining - 1 := by
  obtain ⟨c, r, hchannel, hadapter, ht⟩ := hb
  have hpipe : h.pipe = c := by rw [pipe, hchannel]; rfl
  simp only [attending, hchannel, Option.bind_some] at hattending
  simp only [move, remaining, hadapter, hpipe]
  cases ht with
  | opening hreader _ =>
    rcases hreader with rfl | rfl
    · cases hattending
    · rfl
  | @silent reader _ _ ended hreader _ => cases ended <;> rfl
  | @writing got buffer pieces _ _ _ => cases pieces <;> rfl
  | @written _ _ _ _ _ ended _ => cases ended <;> rfl
  | @finished _ _ _ ended => cases ended <;> rfl
  | @collected _ _ _ ended => cases ended <;> rfl

theorem ended_of_remaining (hb : h.Carries b held taken) (hnone : h.remaining = 0) :
    h.ended.isSome := by
  obtain ⟨c, r, _, hadapter, _⟩ := hb
  obtain ⟨script, holding, ended⟩ := r
  cases ended with
  | none => simp [remaining, hadapter] at hnone
  | some status => simp [Host.ended, hadapter]

/-- Several moves with one of the reader among them. -/
theorem attending_moves (hb : h.Carries b held taken) {turns : List Turn}
    (hreader : h.attending = true ∨ ∃ more, .reader more ∈ turns) :
    (h.moves turns).attending = true := by
  induction turns generalizing h with
  | nil =>
    rcases hreader with hattending | ⟨more, hmem⟩
    · exact hattending
    · cases hmem
  | cons turn turns ih =>
    refine ih (carries_move hb turn) ?_
    rcases hreader with hattending | ⟨more, hmem⟩
    · exact .inl (attending_move hb hattending turn)
    · rcases List.mem_cons.mp hmem with rfl | hlater
      · exact .inl (attending_reader hb more)
      · exact .inr ⟨more, hlater⟩

theorem remaining_moves_le (hb : h.Carries b held taken) (hattending : h.attending = true)
    (turns : List Turn) : (h.moves turns).remaining ≤ h.remaining := by
  induction turns generalizing h with
  | nil => exact Nat.le_refl _
  | cons turn turns ih =>
    have hrest := ih (carries_move hb turn) (attending_move hb hattending turn)
    cases turn with
    | reader more => exact hrest
    | adapter =>
      have hless : h.remaining - 1 ≤ h.remaining := Nat.sub_le _ _
      rw [remaining_adapter hb hattending] at hrest
      exact Nat.le_trans hrest hless

/-- Several moves with one of the adapter among them bring it nearer its end. -/
theorem remaining_moves (hb : h.Carries b held taken) (hattending : h.attending = true)
    {turns : List Turn} (hadapter : .adapter ∈ turns) :
    (h.moves turns).remaining ≤ h.remaining - 1 := by
  induction turns generalizing h with
  | nil => cases hadapter
  | cons turn turns ih =>
    have hnext := attending_move hb hattending turn
    rcases List.mem_cons.mp hadapter with rfl | hlater
    · have hrest := remaining_moves_le (carries_move hb .adapter) hnext turns
      rw [remaining_adapter hb hattending] at hrest
      exact hrest
    · have hrest := ih (carries_move hb turn) hnext hlater
      cases turn with
      | reader more => exact hrest
      | adapter =>
        rw [remaining_adapter hb hattending] at hrest
        rw [moves_cons]
        omega

end Host

namespace Schedule

open Host

/-- The answers of a host on which a schedule is followed, and which counts the questions. -/
def respond (σ : Schedule) : Dialogue.Responder Call Call.Answer (Host × Nat)
  | .isOver _, s => (σ.passed s.2, s.1.moves (σ.turns s.2), s.2 + 1)
  | question, s =>
    ((reply question (s.1.moves (σ.turns s.2))).1,
      (reply question (s.1.moves (σ.turns s.2))).2, s.2 + 1)

/-- The adapter and the reader move again and again. -/
structure Fair (σ : Schedule) : Prop where
  adapter : ∀ n, ∃ m, n ≤ m ∧ .adapter ∈ σ.turns m
  reader : ∀ n, ∃ m, n ≤ m ∧ ∃ more, .reader more ∈ σ.turns m

theorem respond_eq {σ : Schedule} {question : Call} {h next : Host} {n : Nat}
    {answer : question.Answer} (hquestion : ∀ milliseconds, question ≠ .isOver milliseconds)
    (hreply : reply question (h.moves (σ.turns n)) = (answer, next)) :
    σ.respond question (h, n) = (answer, next, n + 1) := by
  cases question
  case isOver milliseconds => exact absurd rfl (hquestion milliseconds)
  all_goals simp only [respond, hreply]

/-- What follows a schedule is an interleaving. -/
theorem interleaved_of_answered {σ : Schedule} {s s' : Host × Nat} {t : List Exchange}
    (ht : Dialogue.Answered σ.respond s t s') : Interleaved s.1 t s'.1 := by
  induction ht with
  | nil s => exact .still []
  | @cons s s' t question _ ih =>
    cases question
    case isOver => exact .answer (σ.turns s.2) _ (fun hne => absurd rfl (hne _)) ih
    all_goals exact .answer (σ.turns s.2) _ (fun _ => rfl) ih

/-! ## The end of the adapter -/

/-- The host after so many questions that change nothing. -/
def drift (σ : Schedule) (h : Host) (n : Nat) : Nat → Host
  | 0 => h
  | k + 1 => σ.drift (h.moves (σ.turns n)) (n + 1) k

theorem drift_add (σ : Schedule) (h : Host) (n j k : Nat) :
    σ.drift h n (j + k) = σ.drift (σ.drift h n j) (n + j) k := by
  induction j generalizing h n with
  | zero => rw [Nat.zero_add]; rfl
  | succ j ih =>
    rw [Nat.succ_add, drift, drift, ih]
    congr 1
    omega

variable {b : Octets} {held : Nat} {taken : Bool} {h : Host} {σ : Schedule}

theorem carries_drift (hb : h.Carries b held taken) (n k : Nat) :
    (σ.drift h n k).Carries b held taken := by
  induction k generalizing h n with
  | zero => exact hb
  | succ k ih => exact ih (carries_moves hb _) (n + 1)

theorem attending_drift (hb : h.Carries b held taken) (hattending : h.attending = true) (n k : Nat) :
    (σ.drift h n k).attending = true := by
  induction k generalizing h n with
  | zero => exact hattending
  | succ k ih => exact ih (carries_moves hb _) (attending_moves hb (.inl hattending)) (n + 1)

theorem remaining_drift_le (hb : h.Carries b held taken) (hattending : h.attending = true)
    (n k : Nat) : (σ.drift h n k).remaining ≤ h.remaining := by
  induction k generalizing h n with
  | zero => exact Nat.le_refl _
  | succ k ih =>
    have hrest := ih (carries_moves hb (σ.turns n)) (attending_moves hb (.inl hattending)) (n + 1)
    exact Nat.le_trans hrest (remaining_moves_le hb hattending _)

/-- The moves before the question `m` are made by the question after it. -/
theorem drift_until {n m : Nat} (hle : n ≤ m) :
    σ.drift h n (m - n + 1) = (σ.drift h n (m - n)).moves (σ.turns m) := by
  rw [drift_add, Nat.add_sub_cancel' hle]
  rfl

/-- Sooner or later the reader tries to open the pipe. -/
theorem eventually_attending (hfair : σ.Fair) (hb : h.Carries b held taken) (n : Nat) :
    ∃ k, (σ.drift h n k).attending = true := by
  obtain ⟨m, hle, hreader⟩ := hfair.reader n
  refine ⟨m - n + 1, ?_⟩
  rw [drift_until hle]
  exact attending_moves (carries_drift hb n _) (.inr hreader)

/-- Sooner or later the adapter comes to its end. -/
theorem eventually_ended (hfair : σ.Fair) (hb : h.Carries b held taken) (n : Nat) :
    ∃ k, (σ.drift h n k).ended.isSome := by
  -- once the reader is there, the moves that remain to the adapter become fewer and fewer
  have hlater : ∀ (bound : Nat) (h : Host) (n : Nat), h.Carries b held taken →
      h.attending = true → h.remaining ≤ bound → ∃ k, (σ.drift h n k).ended.isSome := by
    intro bound
    induction bound with
    | zero =>
      intro h n hb _ hbound
      exact ⟨0, ended_of_remaining hb (Nat.le_zero.mp hbound)⟩
    | succ bound ih =>
      intro h n hb hattending hbound
      obtain ⟨m, hle, hadapter⟩ := hfair.adapter n
      have hfewer : (σ.drift h n (m - n + 1)).remaining ≤ bound := by
        have hbefore := remaining_drift_le (σ := σ) hb hattending n (m - n)
        have hstep := remaining_moves (carries_drift (σ := σ) hb n (m - n))
          (attending_drift hb hattending n (m - n)) hadapter
        rw [drift_until hle]
        omega
      obtain ⟨k, hk⟩ := ih (σ.drift h n (m - n + 1)) (n + (m - n + 1)) (carries_drift hb n _)
        (attending_drift hb hattending n _) hfewer
      exact ⟨m - n + 1 + k, by rw [drift_add]; exact hk⟩
  obtain ⟨j, hj⟩ := eventually_attending hfair hb n
  obtain ⟨k, hk⟩ := hlater _ (σ.drift h n j) (n + j) (carries_drift hb n j) hj (Nat.le_refl _)
  exact ⟨j + k, by rw [drift_add]; exact hk⟩

/-- What the adapter has come to stays so. -/
theorem ended_drift_pred {n k : Nat} (hk : (σ.drift h n k).ended.isSome) :
    (σ.drift (h.moves (σ.turns n)) (n + 1) (k - 1)).ended.isSome := by
  cases k with
  | zero =>
    obtain ⟨status, hstatus⟩ := Option.isSome_iff_exists.mp hk
    have hended : (h.moves (σ.turns n)).ended = some status := ended_moves hstatus _
    rw [Nat.zero_sub, drift, hended]
    rfl
  | succ k => exact hk

end Schedule

end AdapterGateway
