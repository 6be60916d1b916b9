import AdapterGateway.Proofs.Supervision.Fairness

/-!
# Patience

On a host where the adapter comes to its end, an operation comes to its own once it is followed for
enough rounds, and what comes of it does not depend on how many more there would be.
-/

namespace AdapterGateway

open Text

namespace Supervision

open Host Schedule

/-! ## Parts that never wait long -/

theorem total_releaseReader (attempts : Nat) : (releaseReader attempts).Total := by
  induction attempts with
  | zero => exact Dialogue.total_done _
  | succ attempts ih =>
    unfold releaseReader
    refine total_call_bind fun opened => ?_
    cases opened with
    | true =>
      refine total_call_bind fun _ => total_call_bind fun outcome => ?_
      cases outcome with
      | some octets => exact Dialogue.total_done _
      | none => exact ih
    | false =>
      refine total_call_bind fun outcome => ?_
      cases outcome with
      | some octets => exact Dialogue.total_done _
      | none => exact ih

theorem total_terminate (c : Child) : c.terminate.Total := by
  unfold Child.terminate
  split
  · exact Dialogue.total_done _
  · refine total_call_bind fun answer => ?_
    cases answer with
    | failed text => exact Dialogue.total_done _
    | _ =>
      refine total_call_bind fun waited => ?_
      cases waited with
      | ok status => exact Dialogue.total_done _
      | error e => exact Dialogue.total_done _

theorem total_finish (c : Child) : c.finish.Total := by
  unfold Child.finish
  split
  · exact Dialogue.total_done _
  · exact total_call_bind fun _ => Dialogue.total_done _

theorem total_release (c : Child) : c.release.Total := by
  unfold Child.release
  split
  · exact Dialogue.total_done _
  · exact (total_terminate c).bind fun _ => Dialogue.total_done _

/-! ## Parts that wait -/

variable {σ : Schedule} {b : Octets} {h : Host} {c : Child}

theorem follow_tryWait {α : Type} (f : Except IoError (Option ExitStatus) × Child → Program α)
    (hc : c.reaped = none) (h : Host) (n : Nat) :
    (c.tryWait >>= f).follow σ.respond (h, n) =
      (f (.ok (h.moves (σ.turns n)).ended, { c with reaped := (h.moves (σ.turns n)).ended })).follow
        σ.respond (h.moves (σ.turns n), n + 1) := by
  unfold Child.tryWait
  rw [hc]
  rfl

/-- How the wait for a result can end on a host, with the host and the number of the next question. -/
inductive Settled (b : Octets) (c : Child) : Except Fault Arrival × Child → Host × Nat → Prop where
  | delivered {next : Host} {n : Nat} {octets : Except IoError Octets} : next.Carries b 0 true →
      Settled b c (.ok (.delivered octets), c) (next, n)
  | left {status : ExitStatus} {octets : Except IoError Octets} {c' : Child} {s : Host × Nat} :
      c'.reaped = some status → Settled b c (.ok (.ended status octets), c') s
  | late {fault : Fault} {c' : Child} {s : Host × Nat} : Settled b c (.error fault, c') s

/-- A round of the wait in which the adapter is seen to have ended. -/
theorem follow_await_ended (hc : c.reaped = none) (limit : Option Nat) {n : Nat}
    (hpoll : σ.respond .poll (h, n) = (none, h.moves (σ.turns n), n + 1)) {status : ExitStatus}
    (hended : ((h.moves (σ.turns n)).moves (σ.turns (n + 1))).ended = some status)
    {octets : Except IoError Octets} {s : Host × Nat}
    (hreleased : (releaseReader releaseAttempts).follow σ.respond
      ((h.moves (σ.turns n)).moves (σ.turns (n + 1)), n + 2) = (some octets, s)) (patience : Nat) :
    (await limit c (patience + 1)).follow σ.respond (h, n) =
      (some (.ok (.ended status octets), { c with reaped := some status }), s) := by
  unfold await
  rw [follow_call_bind, hpoll]
  dsimp only
  rw [follow_tryWait _ hc, hended]
  dsimp only
  rw [Dialogue.follow_bind, hreleased]
  rfl

/-- A round of the wait in which the adapter goes on. -/
theorem follow_await_running (hc : c.reaped = none) (limit : Option Nat) {n : Nat}
    (hpoll : σ.respond .poll (h, n) = (none, h.moves (σ.turns n), n + 1))
    (hended : ((h.moves (σ.turns n)).moves (σ.turns (n + 1))).ended = none) (patience : Nat) :
    (await limit c (patience + 1)).follow σ.respond (h, n) =
      match limit with
      | none => (await limit c patience).follow σ.respond
          ((h.moves (σ.turns n)).moves (σ.turns (n + 1)), n + 2)
      | some seconds =>
        if σ.passed (n + 2) then
          (some (.error (.timeout seconds), c),
            ((h.moves (σ.turns n)).moves (σ.turns (n + 1))).moves (σ.turns (n + 2)), n + 3)
        else (await limit c patience).follow σ.respond
          (((h.moves (σ.turns n)).moves (σ.turns (n + 1))).moves (σ.turns (n + 2)), n + 3) := by
  have hsame : { c with reaped := none } = c := by
    cases c
    cases hc
    rfl
  conv => lhs; unfold await
  rw [follow_call_bind, hpoll]
  dsimp only
  rw [follow_tryWait _ hc, hended, hsame]
  cases limit with
  | none => rfl
  | some seconds =>
    dsimp only
    rw [follow_call_bind]
    change Dialogue.follow _ (if σ.passed (n + 2) then _ else _) _ = _
    cases σ.passed (n + 2) <;> rfl

/-- The wait for a result comes to an end when the adapter does. -/
theorem await_settles (hc : c.reaped = none) (limit : Option Nat) {n k : Nat}
    (hb : h.Carries b 0 false) (hk : (σ.drift h n k).ended.isSome) :
    ∃ a s, Settled b c a s ∧
      ∀ more, (await limit c (k + more + 1)).follow σ.respond (h, n) = (some a, s) := by
  -- on the number of questions after which the adapter has ended: a round asks two or three of
  -- them, hence a strong induction, and a round that finds the adapter running has some left
  induction k using Nat.strongRecOn generalizing h n with
  | ind k ih =>
    rcases carries_poll (carries_moves hb (σ.turns n)) with hpoll | ⟨next, hpoll, htaken, _⟩
    · have hpolled : σ.respond .poll (h, n) = (none, h.moves (σ.turns n), n + 1) :=
        respond_eq (by simp) hpoll
      have hb₂ := carries_moves (carries_moves hb (σ.turns n)) (σ.turns (n + 1))
      have hk₂ := ended_drift_pred (ended_drift_pred hk)
      cases hended : ((h.moves (σ.turns n)).moves (σ.turns (n + 1))).ended with
      | some status =>
        obtain ⟨octets, s, hreleased⟩ := total_releaseReader releaseAttempts _ σ.respond
          ((h.moves (σ.turns n)).moves (σ.turns (n + 1)), n + 2)
        exact ⟨_, s, .left rfl, fun more =>
          follow_await_ended hc limit hpolled hended hreleased (k + more)⟩
      | none =>
        have hround := follow_await_running hc limit hpolled hended
        have hkpos : k ≠ 0 := by
          rintro rfl
          rw [drift, hended] at hk₂
          cases hk₂
        cases limit with
        | none =>
          obtain ⟨a, s, hsettled, hfollow⟩ := ih (k - 1 - 1) (by omega) hb₂ hk₂
          refine ⟨a, s, hsettled, fun more => ?_⟩
          rw [hround, show k + more = k - 1 - 1 + (k + more - 1 - (k - 1 - 1)) + 1 by omega]
          exact hfollow _
        | some seconds =>
          cases hpassed : σ.passed (n + 2) with
          | true =>
            refine ⟨(.error (.timeout seconds), c),
              (((h.moves (σ.turns n)).moves (σ.turns (n + 1))).moves (σ.turns (n + 2)), n + 3),
              .late, fun more => ?_⟩
            rw [hround, hpassed]
            rfl
          | false =>
            obtain ⟨a, s, hsettled, hfollow⟩ := ih (k - 1 - 1 - 1) (by omega)
              (carries_moves hb₂ (σ.turns (n + 2))) (ended_drift_pred hk₂)
            refine ⟨a, s, hsettled, fun more => ?_⟩
            rw [hround, hpassed]
            dsimp only
            rw [if_neg (by simp),
              show k + more = k - 1 - 1 - 1 + (k + more - 1 - (k - 1 - 1 - 1)) + 1 by omega]
            exact hfollow _
    · have hpolled : σ.respond .poll (h, n) = (some (.ok b), next, n + 1) :=
        respond_eq (by simp) hpoll
      refine ⟨(.ok (.delivered (.ok b)), c), (next, n + 1), .delivered htaken, fun more => ?_⟩
      unfold await
      rw [follow_call_bind, hpolled]
      rfl

/-- A round of the wait for the end of an adapter. -/
theorem follow_waitFor (hc : c.reaped = none) (milliseconds : Nat) (h : Host) (n patience : Nat) :
    (c.waitFor milliseconds (patience + 1)).follow σ.respond (h, n) =
      match (h.moves (σ.turns n)).ended with
      | some status =>
        (some (.ok (some status), { c with reaped := some status }), h.moves (σ.turns n), n + 1)
      | none =>
        if σ.passed (n + 1) then
          (some (.ok none, c), (h.moves (σ.turns n)).moves (σ.turns (n + 1)), n + 2)
        else (c.waitFor milliseconds patience).follow σ.respond
          ((h.moves (σ.turns n)).moves (σ.turns (n + 1)), n + 2) := by
  have hsame : { c with reaped := none } = c := by
    cases c
    cases hc
    rfl
  conv => lhs; unfold Child.waitFor
  rw [follow_tryWait _ hc]
  cases (h.moves (σ.turns n)).ended with
  | some status => rfl
  | none =>
    dsimp only
    rw [hsame, follow_call_bind]
    change Dialogue.follow _ (if σ.passed (n + 1) then _ else _) _ = _
    cases σ.passed (n + 1) <;> rfl

/-- The wait for the end of an adapter comes to an end when the adapter does. -/
theorem waitFor_settles (hc : c.reaped = none) (milliseconds : Nat) {n k : Nat}
    (hk : (σ.drift h n k).ended.isSome) :
    ∃ a s, ∀ more,
      (c.waitFor milliseconds (k + more + 1)).follow σ.respond (h, n) = (some a, s) := by
  -- as above, with two questions in each round
  induction k using Nat.strongRecOn generalizing h n with
  | ind k ih =>
    have hk₁ := ended_drift_pred hk
    cases hended : (h.moves (σ.turns n)).ended with
    | some status => exact ⟨_, _, fun more => by rw [follow_waitFor hc, hended]⟩
    | none =>
      have hkpos : k ≠ 0 := by
        rintro rfl
        rw [drift, hended] at hk₁
        cases hk₁
      cases hpassed : σ.passed (n + 1) with
      | true =>
        refine ⟨(.ok none, c), ((h.moves (σ.turns n)).moves (σ.turns (n + 1)), n + 2),
          fun more => ?_⟩
        rw [follow_waitFor hc, hended, hpassed]
        rfl
      | false =>
        obtain ⟨a, s, hfollow⟩ := ih (k - 1 - 1) (by omega) (ended_drift_pred hk₁)
        refine ⟨a, s, fun more => ?_⟩
        rw [follow_waitFor hc, hended, hpassed]
        dsimp only
        rw [if_neg (by simp), show k + more = k - 1 - 1 + (k + more - 1 - (k - 1 - 1)) + 1 by omega]
        exact hfollow _

/-- A program comes to its end when its first part does and the rest always would. -/
theorem follow_bind_total {α β : Type} {p : Program α} {f : α → Program β} {s s' : Host × Nat}
    {a : α} (hp : p.follow σ.respond s = (some a, s')) (hf : (f a).Total) :
    ∃ b s'', (p >>= f).follow σ.respond s = (some b, s'') := by
  rw [Dialogue.follow_bind, hp]
  exact hf _ σ.respond s'

theorem total_graced (document : Json.Value) (status : Nat)
    (a : Except IoError (Option ExitStatus) × Child) :
    (match a.1 with
      | .error e => return (.error (.io e), a.2)
      | .ok (some _) => return (.ok ⟨document, status⟩, a.2)
      | .ok none => do
        let (_, c) ← a.2.terminate
        return (.ok ⟨document, status⟩, c) : Program (Except Fault Delivery × Child)).Total := by
  obtain ⟨ending, c⟩ := a
  rcases ending with e | _ | status
  · exact Dialogue.total_done _
  · exact (total_terminate c).bind fun _ => Dialogue.total_done _
  · exact Dialogue.total_done _

/-- Patience is rewarded: a started adapter is waited for to the end. -/
theorem collect_returns (hfair : σ.Fair) (s : SupervisionSettings) (status : Nat)
    (hc : c.reaped = none) (hb : h.Carries b 0 false) (n : Nat) :
    ∃ least, ∀ more, ∃ a s', (collect s status (least + more) c).follow σ.respond (h, n) =
      (some a, s') := by
  obtain ⟨k, hk⟩ := eventually_ended hfair hb n
  obtain ⟨⟨arrival, c₁⟩, ⟨next, m⟩, hsettled, hawait⟩ := await_settles hc s.readTimeout? hb hk
  cases hsettled with
  | late =>
    refine ⟨k + 1, fun more => ?_⟩
    unfold collect
    rw [show k + 1 + more = k + more + 1 by omega]
    refine follow_bind_total (hawait more) ((total_terminate c₁).bind fun _ => ?_)
    exact (total_releaseReader _).bind fun _ => Dialogue.total_done _
  | @left ending octets _ _ hreaped =>
    -- the adapter was seen to end, so there is no second wait
    refine ⟨k + 1, fun more => ?_⟩
    unfold collect
    rw [show k + 1 + more = k + more + 1 by omega]
    refine follow_bind_total (hawait more) ?_
    dsimp only
    cases judge (.ended ending octets) with
    | error fault => exact (total_terminate c₁).bind fun _ => Dialogue.total_done _
    | ok document =>
      have hwait : c₁.waitFor s.exitGraceMillis.toNat (k + more + 1) =
          .done (.ok (some ending), c₁) := by
        unfold Child.waitFor Child.tryWait
        simp only [hreaped]
        rfl
      simp only [hwait]
      exact total_graced document status (.ok (some ending), c₁)
  | @delivered _ _ octets htaken =>
    -- the two waits share one patience, which has to last for either
    obtain ⟨j, hj⟩ := eventually_ended hfair htaken m
    obtain ⟨a, s', hwait⟩ := waitFor_settles hc s.exitGraceMillis.toNat hj
    refine ⟨k + j + 1, fun more => ?_⟩
    unfold collect
    rw [show k + j + 1 + more = k + (j + more) + 1 by omega, Dialogue.follow_bind, hawait]
    dsimp only
    cases judge (.delivered octets) with
    | error fault =>
      exact ((total_terminate c).bind fun _ => Dialogue.total_done _) _ σ.respond (next, m)
    | ok document =>
      dsimp only
      rw [show k + (j + more) + 1 = j + (k + more) + 1 by omega]
      exact follow_bind_total (hwait (k + more)) (total_graced document status a)

/-- On a host where the adapter comes to its end, an operation comes to its own. -/
theorem run_returns {s : Settings} {inherited : Environment.Raw} {operation : String}
    {further : List String} {request : Option Request} {script : Script} (hfair : σ.Fair)
    (hs : Starts s inherited operation further request h script)
    (hscript : ∀ next : Host, Launched next script → next.Carries b 0 false) (status : Nat) :
    ∃ patience r s', (run s inherited operation further request status patience).follow σ.respond
      (h, 0) = (some r, s') := by
  obtain ⟨arguments, directory, hwords, hmake, hfind⟩ := hs.started
  -- the host after each of the four questions up to the start of the adapter
  obtain ⟨first, hmade, hprepared⟩ := reply_makeDirectory hs.fresh hmake (σ.turns 0)
  obtain ⟨second, hpiped, hready⟩ :=
    reply_makePipe hprepared (Channel.pathIn directory) (σ.turns 1)
  obtain ⟨third, hstarted, hreading⟩ := reply_startReader hready (σ.turns 2)
  obtain ⟨next, hspawned, hlaunched⟩ := reply_spawn hreading
    ((find_congr hreading.1 _ _).trans hfind) (σ.turns 3)
  obtain ⟨least, hcollect⟩ := collect_returns hfair s.supervision status (c := {}) rfl
    (hscript next hlaunched) 4
  obtain ⟨⟨r, c⟩, s', hcollected⟩ := hcollect 0
  have hopen : (openChannel s.supervision.channelParent).follow σ.respond (h, 0) =
      (some (.ok (Channel.pathIn directory)), second, 2) := by
    unfold openChannel
    rw [follow_call_bind, respond_eq (by simp) hmade]
    dsimp only
    rw [follow_call_bind, respond_eq (by simp) hpiped]
    rfl
  refine ⟨least, ?_⟩
  unfold run
  simp only [hwords]
  rw [Dialogue.follow_bind, hopen]
  dsimp only
  rw [follow_call_bind, respond_eq (by simp) hstarted]
  dsimp only
  rw [follow_call_bind, respond_eq (by simp) hspawned]
  dsimp only
  refine follow_bind_total hcollected ((total_finish c).bind fun finished => ?_)
  exact total_call_bind fun _ => (total_release finished.2).bind fun _ => Dialogue.total_done _

end Supervision

end AdapterGateway
