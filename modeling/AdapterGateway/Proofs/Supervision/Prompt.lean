import AdapterGateway.Proofs.Supervision.Patience

/-!
# Prompt hosts

A host on which the adapter and the reader always go on as far as they can.  When the supervisor looks
for the first time, the adapter has ended and the reader has got everything, so an operation is over
after one look at either.
-/

namespace AdapterGateway

open Text

/-- A reader whose adapter has ended takes everything out of the pipe at once, or meets the end. -/
theorem Transfer.listen_all {b : Octets} {c : Channel} {r : Running} (ht : Transfer b 0 false c r)
    (hsome : b ≠ []) (hended : r.ended.isSome) :
    c.listen c.buffer.length = ⟨true, 0, [], some (.reading b)⟩ ∨
      c.listen c.buffer.length = ⟨true, 0, [], some (.finished (.ok b))⟩ := by
  cases ht with
  | opening _ _ => cases hended
  | silent _ hnone => exact absurd hnone hsome
  | writing _ => cases hended
  | @written _ got buffer _ _ _ hwhole =>
    cases buffer with
    | nil =>
      rw [List.append_nil] at hwhole
      rw [hwhole]
      exact .inr rfl
    | cons octet buffer =>
      refine .inl ?_
      have htake : (octet :: buffer).take ((octet :: buffer).length + 1) = octet :: buffer :=
        List.take_of_length_le (Nat.le_succ _)
      have hdrop : (octet :: buffer).drop ((octet :: buffer).length + 1) = [] :=
        List.drop_of_length_le (Nat.le_succ _)
      simp only [Channel.listen, htake, hdrop, hwhole]
  | finished => exact .inr rfl

namespace Host

variable {b : Octets} {held : Nat} {taken : Bool} {h : Host}

theorem carries_round (hb : h.Carries b held taken) : h.round.Carries b held taken :=
  carries_move (carries_move hb _) .adapter

theorem remaining_round (hb : h.Carries b held taken) : h.round.remaining = h.remaining - 1 :=
  -- the reader moves first, so the adapter finds it at the pipe
  remaining_adapter (carries_move hb _) (attending_reader hb _)

theorem carries_rounds (hb : h.Carries b held taken) (n : Nat) :
    (Nat.repeat round n h).Carries b held taken := by
  induction n with
  | zero => exact hb
  | succ n ih => exact carries_round ih

theorem remaining_rounds (hb : h.Carries b held taken) (n : Nat) :
    (Nat.repeat round n h).remaining = h.remaining - n := by
  induction n with
  | zero => rfl
  | succ n ih =>
    have hstep := remaining_round (carries_rounds hb n)
    rw [ih] at hstep
    rw [Nat.repeat, hstep]
    omega

theorem ended_rounds {status : ExitStatus} (hended : h.ended = some status) (n : Nat) :
    (Nat.repeat round n h).ended = some status := by
  induction n with
  | zero => exact hended
  | succ n ih => exact ended_move (ended_move ih _) .adapter

/-- A round behind the end of the adapter is a move of the reader. -/
theorem round_ended {c : Channel} {r : Running} {status : ExitStatus} (hchannel : h.channel = some c)
    (hadapter : h.adapter = some r) (hended : r.ended = some status) :
    h.round.channel = some (c.listen c.buffer.length) ∧ h.round.adapter = some r := by
  have hround : h.round = (h.move (.reader c.buffer.length)).move .adapter := by
    change (h.move (.reader ((h.channel.map (·.buffer.length)).getD 0))).move .adapter = _
    rw [hchannel]
    rfl
  have hread : (h.move (.reader c.buffer.length)).channel =
      some (c.listen c.buffer.length) := by
    rw [move, hchannel]
    rfl
  have hstill : (h.move (.reader c.buffer.length)).adapter = some r := hadapter
  have hpipe : (h.move (.reader c.buffer.length)).pipe = c.listen c.buffer.length := by
    rw [pipe, hread]
    rfl
  rw [hround]
  generalize h.move (.reader c.buffer.length) = next at hread hstill hpipe ⊢
  simp only [move, hstill, hpipe, hread, Running.advance_ended hended, Option.map_some, and_self]

/-- The moves that remain to the adapter are made, and some rounds are left to the reader. -/
theorem remaining_lt_rounds (h : Host) : ∃ k, h.rounds = k + 2 ∧ h.remaining ≤ k := by
  refine ⟨(h.adapter.map (·.script.deeds.length)).getD 0 + 3, rfl, ?_⟩
  unfold remaining
  split
  · rename_i script holding hadapter
    rw [hadapter, Option.map_some, Option.getD_some]
    change script.deeds.length + 1 ≤ script.deeds.length + 3
    omega
  · exact Nat.zero_le _

/-- Where everybody goes on as far as possible, the adapter comes to its end and the reader gets all
    the octets. -/
theorem settle_finishes (hb : h.Carries b 0 false) (hsome : b ≠ []) :
    ∃ r status, h.settle.channel = some ⟨true, 0, [], some (.finished (.ok b))⟩ ∧
      h.settle.adapter = some r ∧ r.ended = some status := by
  obtain ⟨k, hrounds, henough⟩ := remaining_lt_rounds h
  have hcarries := carries_rounds hb k
  have hended : (Nat.repeat round k h).ended.isSome := by
    apply ended_of_remaining hcarries
    rw [remaining_rounds hb]
    omega
  obtain ⟨c, r, hchannel, hadapter, ht⟩ := hcarries
  have hr : r.ended.isSome := by simpa [ended, hadapter] using hended
  obtain ⟨status, hstatus⟩ := Option.isSome_iff_exists.mp hr
  have hsettle : h.settle = (Nat.repeat round k h).round.round := by rw [settle, hrounds]; rfl
  -- the last round but one empties the pipe, and in the last the reader meets the end
  obtain ⟨hfirst, hstill⟩ := round_ended hchannel hadapter hstatus
  obtain ⟨hlast, hover⟩ := round_ended hfirst hstill hstatus
  refine ⟨r, status, ?_, ?_, hstatus⟩
  · rw [hsettle, hlast]
    rcases ht.listen_all hsome hr with hread | hmet
    · rw [hread]
      rfl
    · rw [hmet]
      rfl
  · rw [hsettle, hover]

end Host

namespace Supervision

open Host

variable {b : Octets} {h : Host}

/-- The first look at the reader takes all the octets of an adapter that has then ended. -/
theorem respond_poll (hb : h.Carries b 0 false) (hsome : b ≠ []) :
    ∃ next status, respond .poll h = (some (.ok b), next) ∧ next.ended = some status := by
  obtain ⟨r, status, hchannel, hadapter, hended⟩ := settle_finishes hb hsome
  refine ⟨{ h.settle with channel := some ⟨true, 0, [], some .collected⟩ }, status, ?_, ?_⟩
  · simp only [respond, before, reply, Host.poll, hchannel]
    rfl
  · simp only [ended, hadapter, Option.bind_some, hended]

theorem respond_tryWait {status : ExitStatus} (hended : h.ended = some status) :
    respond .tryWait h = (.ok (some status), h.settle) := by
  have hstill : h.settle.ended = some status := ended_rounds hended h.rounds
  simp only [respond, before, reply, hstill]

/-- An adapter that delivers is waited for in one round. -/
theorem follow_collect {document : Json.Value} (hb : h.Carries b 0 false) (hsome : b ≠ [])
    (hdocument : judge (.delivered (.ok b)) = .ok document) (s : SupervisionSettings)
    (status patience : Nat) :
    ∃ ending next, (collect s status (patience + 1) {}).follow respond h =
      (some (.ok ⟨document, status⟩, { reaped := some ending }), next) := by
  obtain ⟨next, ending, hpoll, hended⟩ := respond_poll hb hsome
  refine ⟨ending, next.settle, ?_⟩
  have hawait : (await s.readTimeout? {} (patience + 1)).follow respond h =
      (some (.ok (.delivered (.ok b)), {}), next) := by
    unfold await
    rw [follow_call_bind, hpoll]
    rfl
  have hwait : (Child.waitFor {} s.exitGraceMillis.toNat (patience + 1)).follow respond next =
      (some (.ok (some ending), { reaped := some ending }), next.settle) := by
    unfold Child.waitFor Child.tryWait
    dsimp only
    rw [Dialogue.follow_bind, follow_call_bind, respond_tryWait hended]
    rfl
  unfold collect
  rw [Dialogue.follow_bind, hawait]
  dsimp only
  rw [hdocument]
  dsimp only
  rw [Dialogue.follow_bind, hwait]
  rfl

/-- On a prompt host the document of an adapter is delivered, however impatient the operation is. -/
theorem run_prompt {s : Settings} {inherited : Environment.Raw} {operation : String}
    {further : List String} {request : Option Request} {script : Script} {document : Json.Value}
    (hs : Starts s inherited operation further request h script) (hwrites : script.Writes b)
    (hsome : b ≠ []) (hdocument : judge (.delivered (.ok b)) = .ok document)
    (status patience : Nat) :
    ∃ next, h.follow (run s inherited operation further request status (patience + 1)) =
      (some (.ok ⟨document, status⟩), next) := by
  obtain ⟨arguments, directory, hwords, hmake, hfind⟩ := hs.started
  obtain ⟨first, hmade, hprepared⟩ := reply_makeDirectory hs.fresh hmake []
  obtain ⟨second, hpiped, hready⟩ := reply_makePipe hprepared (Channel.pathIn directory) []
  obtain ⟨third, hstarted, hreading⟩ := reply_startReader hready []
  obtain ⟨next, hspawned, hlaunched⟩ := reply_spawn hreading
    ((find_congr hreading.1 _ _).trans hfind) []
  obtain ⟨ending, later, hcollected⟩ := follow_collect (carries_of_writes hwrites hlaunched) hsome
    hdocument s.supervision status patience
  have hopen : (openChannel s.supervision.channelParent).follow respond h =
      (some (.ok (Channel.pathIn directory)), second) := by
    unfold openChannel
    rw [follow_call_bind, show respond _ h = _ from hmade]
    dsimp only
    rw [follow_call_bind, show respond _ first = _ from hpiped]
    rfl
  unfold Host.follow run
  simp only [hwords]
  rw [Dialogue.follow_bind, hopen]
  dsimp only
  rw [follow_call_bind, show respond _ second = _ from hstarted]
  dsimp only
  rw [follow_call_bind, show respond _ third = _ from hspawned]
  dsimp only
  rw [Dialogue.follow_bind, hcollected]
  exact ⟨_, rfl⟩

end Supervision

end AdapterGateway
