import AdapterGateway.Proofs.Supervision.Interleaving

/-!
# Transfers

The way of the octets of one adapter through the pipe.  At every moment what the reader has got,
what is in the pipe and what the adapter has yet to write are together what the adapter set out to
write, and the reader meets the end only when all of it has been read.  The supervisor may have the
pipe open as well, but opens it only once the adapter has ended.
-/

namespace AdapterGateway

open Text

/-- `Transfer b held taken c r`: the octets `b` are on their way from the adapter `r` through the
    channel `c`.  The supervisor has the pipe open `held` times, and `taken` tells whether it took
    the outcome of the reader. -/
inductive Transfer (b : Octets) : Nat → Bool → Channel → Running → Prop where
  /-- The adapter has yet to open the pipe. -/
  | opening {reader : PipeReader} {pieces : List Octets} {ending : ExitStatus} {streams : Streams} :
      reader = .starting ∨ reader = .waiting → pieces.flatten = b →
      Transfer b 0 false ⟨true, 0, [], some reader⟩
        ⟨⟨.openPipe :: (pieces.map .write ++ [.closePipe]), some ending, streams⟩, false, none⟩
  /-- The adapter will never open the pipe. -/
  | silent {reader : PipeReader} {ending : ExitStatus} {streams : Streams}
      {ended : Option ExitStatus} :
      reader = .starting ∨ reader = .waiting → b = [] →
      Transfer b 0 false ⟨true, 0, [], some reader⟩ ⟨⟨[], some ending, streams⟩, false, ended⟩
  | writing {got buffer : Octets} {pieces : List Octets} {ending : ExitStatus} {streams : Streams} :
      got ++ buffer ++ pieces.flatten = b →
      Transfer b 0 false ⟨true, 1, buffer, some (.reading got)⟩
        ⟨⟨pieces.map .write ++ [.closePipe], some ending, streams⟩, true, none⟩
  | written {held : Nat} {got buffer : Octets} {ending : ExitStatus} {streams : Streams}
      {ended : Option ExitStatus} :
      got ++ buffer = b →
      Transfer b held false ⟨true, held, buffer, some (.reading got)⟩
        ⟨⟨[], some ending, streams⟩, false, ended⟩
  | finished {held : Nat} {ending : ExitStatus} {streams : Streams} {ended : Option ExitStatus} :
      Transfer b held false ⟨true, held, [], some (.finished (.ok b))⟩
        ⟨⟨[], some ending, streams⟩, false, ended⟩
  | collected {held : Nat} {ending : ExitStatus} {streams : Streams} {ended : Option ExitStatus} :
      Transfer b held true ⟨true, held, [], some .collected⟩
        ⟨⟨[], some ending, streams⟩, false, ended⟩

namespace Transfer

variable {b : Octets} {held : Nat} {taken : Bool} {c : Channel} {r : Running}

/-- A move of the reader loses nothing. -/
theorem listen (ht : Transfer b held taken c r) (more : Nat) :
    Transfer b held taken (c.listen more) r := by
  cases ht with
  | opening hreader hpieces =>
    rcases hreader with rfl | rfl
    · exact .opening (.inr rfl) hpieces
    · exact .opening (.inr rfl) hpieces
  | silent hreader hnone =>
    rcases hreader with rfl | rfl
    · exact .silent (.inr rfl) hnone
    · exact .silent (.inr rfl) hnone
  | @writing got buffer pieces ending streams hwhole =>
    cases buffer with
    | nil => exact .writing hwhole
    | cons octet buffer =>
      -- what leaves the pipe is put behind what the reader has got
      refine .writing ?_
      rw [List.append_assoc got, List.take_append_drop]
      exact hwhole
  | @written held got buffer ending streams ended hwhole =>
    cases buffer with
    | nil =>
      rw [List.append_nil] at hwhole
      subst hwhole
      -- an empty pipe is the end for the reader only if the supervisor does not hold it open
      by_cases hheld : held = 0
      · subst hheld
        exact .finished
      · have hstay : Channel.listen more ⟨true, held, [], some (.reading got)⟩ =
            ⟨true, held, [], some (.reading got)⟩ := by
          simp [Channel.listen, hheld]
        rw [hstay]
        exact .written (List.append_nil got)
    | cons octet buffer =>
      refine .written ?_
      rw [List.append_assoc got, List.take_append_drop]
      exact hwhole
  | finished => exact .finished
  | collected => exact .collected

/-- A move of the adapter loses nothing. -/
theorem advance (ht : Transfer b held taken c r) :
    Transfer b held taken (r.advance c).2 (r.advance c).1 := by
  cases ht with
  | opening hreader hpieces =>
    -- the pipe opens only once the reader waits for it
    rcases hreader with rfl | rfl
    · exact .opening (.inl rfl) hpieces
    · exact .writing hpieces
  | @silent reader ending streams ended hreader hnone =>
    cases ended with
    | some status => exact .silent hreader hnone
    | none => exact .silent hreader hnone
  | @writing got buffer pieces ending streams hwhole =>
    cases pieces with
    | nil => exact .written (by simpa using hwhole)
    | cons piece pieces =>
      refine .writing ?_
      simpa using hwhole
  | @written held got buffer ending streams ended hwhole =>
    cases ended with
    | some status => exact .written hwhole
    | none => exact .written hwhole
  | @finished held ending streams ended =>
    cases ended with
    | some status => exact .finished
    | none => exact .finished
  | @collected held ending streams ended =>
    cases ended with
    | some status => exact .collected
    | none => exact .collected

/-- The supervisor finds the reader at work, or takes all the octets. -/
theorem poll (ht : Transfer b held false c r) :
    c.poll = (none, c) ∨ ∃ c', c.poll = (some (.ok b), c') ∧ Transfer b held true c' r := by
  cases ht with
  | opening hreader _ => rcases hreader with rfl | rfl <;> exact .inl rfl
  | silent hreader _ => rcases hreader with rfl | rfl <;> exact .inl rfl
  | writing _ => exact .inl rfl
  | written _ => exact .inl rfl
  | finished => exact .inr ⟨_, rfl, .collected⟩

/-- Once the adapter has ended, the supervisor may open the pipe. -/
theorem openWriter (ht : Transfer b 0 false c r) (hended : r.ended.isSome) :
    c.openWriter? = none ∨ ∃ c', c.openWriter? = some c' ∧ Transfer b 1 false c' r := by
  -- while the adapter has something to do it has not ended
  cases ht with
  | opening _ _ => cases hended
  | silent hreader hnone =>
    rcases hreader with rfl | rfl
    · exact .inl rfl
    · exact .inr ⟨_, rfl, .written hnone.symm⟩
  | writing _ => cases hended
  | written hwhole => exact .inr ⟨_, rfl, .written hwhole⟩
  | finished => exact .inl rfl

theorem closeWriter (ht : Transfer b 1 taken c r) : Transfer b 0 taken c.closeWriter r := by
  cases ht with
  | written hwhole => exact .written hwhole
  | finished => exact .finished
  | collected => exact .collected

end Transfer

/-- An adapter that has ended makes no more moves. -/
theorem Running.advance_ended {r : Running} {c : Channel} {status : ExitStatus}
    (hended : r.ended = some status) : r.advance c = (r, c) := by
  unfold Running.advance
  rw [hended]

namespace Host

/-- The host `h` is in the middle of a transfer of the octets `b`. -/
def Carries (b : Octets) (held : Nat) (taken : Bool) (h : Host) : Prop :=
  ∃ c r, h.channel = some c ∧ h.adapter = some r ∧ Transfer b held taken c r

variable {b : Octets} {held : Nat} {taken : Bool} {h : Host}

theorem carries_move (hb : h.Carries b held taken) (turn : Turn) :
    (h.move turn).Carries b held taken := by
  obtain ⟨c, r, hchannel, hadapter, ht⟩ := hb
  cases turn with
  | reader more => exact ⟨_, r, by rw [move, hchannel]; rfl, hadapter, ht.listen more⟩
  | adapter =>
    have hpipe : h.pipe = c := by rw [pipe, hchannel]; rfl
    refine ⟨(r.advance c).2, (r.advance c).1, ?_, ?_, ht.advance⟩
    · simp only [move, hadapter, hpipe, hchannel, Option.map_some]
    · simp only [move, hadapter, hpipe]

theorem carries_moves (hb : h.Carries b held taken) (turns : List Turn) :
    (h.moves turns).Carries b held taken := by
  induction turns generalizing h with
  | nil => exact hb
  | cons turn turns ih => exact ih (carries_move hb turn)

theorem ended_move {status : ExitStatus} (hended : h.ended = some status) (turn : Turn) :
    (h.move turn).ended = some status := by
  cases turn with
  | reader more => exact hended
  | adapter =>
    cases hadapter : h.adapter with
    | none => simp [ended, hadapter] at hended
    | some r =>
      simp only [ended, hadapter, Option.bind_some] at hended
      simp only [move, hadapter, ended, Option.bind_some, Running.advance_ended hended]
      exact hended

theorem ended_moves {status : ExitStatus} (hended : h.ended = some status) (turns : List Turn) :
    (h.moves turns).ended = some status := by
  induction turns generalizing h with
  | nil => exact hended
  | cons turn turns ih => exact ih (ended_move hended turn)

/-- A look at the reader finds it at work and changes nothing, or takes all the octets. -/
theorem carries_poll (hb : h.Carries b held false) :
    h.poll = (none, h) ∨ ∃ h', h.poll = (some (.ok b), h') ∧ h'.Carries b held true ∧
      h'.ended = h.ended := by
  obtain ⟨c, r, hchannel, hadapter, ht⟩ := hb
  simp only [Host.poll, hchannel]
  rcases ht.poll with hpoll | ⟨c', hpoll, htaken⟩
  · rw [hpoll]
    refine .inl ?_
    cases h
    cases hchannel
    rfl
  · rw [hpoll]
    exact .inr ⟨_, rfl, ⟨c', r, rfl, hadapter, htaken⟩, rfl⟩

/-- Opening the pipe for an adapter that has ended changes nothing or makes the supervisor a
    writer. -/
theorem carries_openPipe (hb : h.Carries b 0 false) (hended : h.ended.isSome) :
    h.openPipe = (false, h) ∨ ∃ h', h.openPipe = (true, h') ∧ h'.Carries b 1 false ∧
      h'.ended = h.ended := by
  obtain ⟨c, r, hchannel, hadapter, ht⟩ := hb
  have hr : r.ended.isSome := by simpa [ended, hadapter] using hended
  simp only [Host.openPipe, hchannel, Option.bind_some]
  rcases ht.openWriter hr with hopen | ⟨c', hopen, hwriter⟩
  · rw [hopen]
    exact .inl rfl
  · rw [hopen]
    exact .inr ⟨_, rfl, ⟨c', r, rfl, hadapter, hwriter⟩, rfl⟩

theorem carries_closePipe (hb : h.Carries b 1 taken) :
    (reply .closePipe h).2.Carries b 0 taken ∧ (reply .closePipe h).2.ended = h.ended := by
  obtain ⟨c, r, hchannel, hadapter, ht⟩ := hb
  refine ⟨⟨c.closeWriter, r, ?_, hadapter, ht.closeWriter⟩, rfl⟩
  simp only [reply, hchannel, Option.map_some]

end Host

end AdapterGateway
