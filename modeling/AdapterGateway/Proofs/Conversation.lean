import AdapterGateway.Call

/-!
# Conversations

The questions that a program asks, each with the answer it was given.  A conversation stands for one
run of the program, so what holds of all conversations holds whatever is answered.
-/

namespace AdapterGateway

namespace Dialogue

variable {Ask : Type} {Answer : Ask → Type} {α β γ δ σ : Type}

/-- `p.Runs t a`: given the answers in `t`, the program `p` asks exactly the questions in `t` and
    delivers `a`. -/
inductive Runs : Dialogue Ask Answer α → List (Sigma Answer) → α → Prop where
  | done (result : α) : Runs (.done result) [] result
  | ask {question : Ask} {next : Answer question → Dialogue Ask Answer α} {t : List (Sigma Answer)}
      {a : α} (answer : Answer question) :
      Runs (next answer) t a → Runs (.ask question next) (⟨question, answer⟩ :: t) a

@[simp] theorem runs_done {result a : α} {t : List (Sigma Answer)} :
    (done result : Dialogue Ask Answer α).Runs t a ↔ t = [] ∧ a = result := by
  constructor
  · intro h
    cases h
    exact ⟨rfl, rfl⟩
  · rintro ⟨rfl, rfl⟩
    exact .done _

@[simp] theorem runs_suspended {a : α} {t : List (Sigma Answer)} :
    ¬ (suspended : Dialogue Ask Answer α).Runs t a := by
  intro h
  cases h

theorem runs_ask {question : Ask} {next : Answer question → Dialogue Ask Answer α}
    {t : List (Sigma Answer)} {a : α} :
    (ask question next).Runs t a ↔
      ∃ answer rest, t = ⟨question, answer⟩ :: rest ∧ (next answer).Runs rest a := by
  constructor
  · intro h
    cases h with
    | ask answer h => exact ⟨answer, _, rfl, h⟩
  · rintro ⟨answer, rest, rfl, h⟩
    exact .ask answer h

/-- A run of one program after the other is a run of the first followed by one of the second. -/
theorem runs_bind {p : Dialogue Ask Answer α} {f : α → Dialogue Ask Answer β}
    {t : List (Sigma Answer)} {b : β} :
    (p >>= f).Runs t b ↔ ∃ first a rest, t = first ++ rest ∧ p.Runs first a ∧ (f a).Runs rest b := by
  -- on the first program: each of its questions stands before those of the second
  induction p generalizing t with
  | done result =>
    rw [done_bind]
    constructor
    · intro h
      exact ⟨[], result, t, rfl, .done _, h⟩
    · rintro ⟨first, a, rest, rfl, hp, hf⟩
      obtain ⟨rfl, rfl⟩ := runs_done.mp hp
      exact hf
  | ask question next ih =>
    rw [ask_bind, runs_ask]
    constructor
    · rintro ⟨answer, rest, rfl, h⟩
      obtain ⟨first, a, rest, rfl, hp, hf⟩ := (ih answer).mp h
      exact ⟨_, a, rest, rfl, .ask answer hp, hf⟩
    · rintro ⟨first, a, rest, rfl, hp, hf⟩
      obtain ⟨answer, others, rfl, hnext⟩ := runs_ask.mp hp
      exact ⟨answer, others ++ rest, rfl, (ih answer).mpr ⟨others, a, rest, rfl, hnext, hf⟩⟩
  | suspended =>
    rw [suspended_bind]
    constructor
    · intro h
      exact absurd h runs_suspended
    · rintro ⟨_, _, _, _, hp, _⟩
      exact absurd hp runs_suspended

theorem follow_bind (respond : Responder Ask Answer σ) (p : Dialogue Ask Answer α)
    (f : α → Dialogue Ask Answer β) (s : σ) :
    (p >>= f).follow respond s =
      match p.follow respond s with
      | (some a, s) => (f a).follow respond s
      | (none, s) => (none, s) := by
  induction p generalizing s with
  | done result => rfl
  | ask question next ih =>
    rw [ask_bind]
    simp only [follow]
    exact ih _ _
  | suspended => rfl

/-- A conversation in which `respond` gives the answers. -/
inductive Answered (respond : Responder Ask Answer σ) : σ → List (Sigma Answer) → σ → Prop where
  | nil (s : σ) : Answered respond s [] s
  | cons {s s' : σ} {t : List (Sigma Answer)} (question : Ask) :
      Answered respond (respond question s).2 t s' →
      Answered respond s (⟨question, (respond question s).1⟩ :: t) s'

/-- A program that is followed to its end has a conversation. -/
theorem runs_of_follow {respond : Responder Ask Answer σ} {p : Dialogue Ask Answer α} {s s' : σ}
    {a : α} (h : p.follow respond s = (some a, s')) : ∃ t, p.Runs t a ∧ Answered respond s t s' := by
  induction p generalizing s with
  | done result =>
    cases h
    exact ⟨[], .done _, .nil _⟩
  | ask question next ih =>
    obtain ⟨t, hruns, hanswered⟩ := ih _ h
    exact ⟨_, .ask _ hruns, .cons question hanswered⟩
  | suspended => cases h

/-! ## Programs that come to their end -/

/-- Whatever it is answered, the program comes to its end. -/
def Total (p : Dialogue Ask Answer α) : Prop :=
  ∀ (σ : Type) (respond : Responder Ask Answer σ) (s : σ),
    ∃ a s', p.follow respond s = (some a, s')

theorem total_done (result : α) : (done result : Dialogue Ask Answer α).Total :=
  fun _ _ s => ⟨result, s, rfl⟩

theorem total_ask {question : Ask} {next : Answer question → Dialogue Ask Answer α}
    (h : ∀ answer, (next answer).Total) : (ask question next).Total :=
  fun σ respond s => h (respond question s).1 σ respond (respond question s).2

theorem Total.bind {p : Dialogue Ask Answer α} {f : α → Dialogue Ask Answer β} (hp : p.Total)
    (hf : ∀ a, (f a).Total) : (p >>= f).Total := by
  intro σ respond s
  obtain ⟨a, s', hfollow⟩ := hp σ respond s
  rw [follow_bind, hfollow]
  exact hf a σ respond s'

/-! ## What a program may come to ask -/

/-- `p.Begins t`: given the answers in `t`, the first that `p` asks are the questions in `t`.  Whether
    it then goes on does not matter. -/
inductive Begins : Dialogue Ask Answer α → List (Sigma Answer) → Prop where
  | nil (p : Dialogue Ask Answer α) : Begins p []
  | ask {question : Ask} {next : Answer question → Dialogue Ask Answer α} {t : List (Sigma Answer)}
      (answer : Answer question) :
      Begins (next answer) t → Begins (.ask question next) (⟨question, answer⟩ :: t)

/-- Whatever it is answered, the program asks questions with `P` only. -/
def Only (P : Ask → Prop) : Dialogue Ask Answer α → Prop
  | done _ | suspended => True
  | ask question next => P question ∧ ∀ answer, (next answer).Only P

/-- Whatever it is answered, the program asks one question without `P` at most, and that one has `Q`. -/
inductive Once (P Q : Ask → Prop) : Dialogue Ask Answer α → Prop where
  | never {p : Dialogue Ask Answer α} : p.Only P → Once P Q p
  | now {question : Ask} {next : Answer question → Dialogue Ask Answer α} :
      Q question → (∀ answer, (next answer).Only P) → Once P Q (.ask question next)
  | later {question : Ask} {next : Answer question → Dialogue Ask Answer α} :
      P question → (∀ answer, Once P Q (next answer)) → Once P Q (.ask question next)

theorem eq_nil_of_begins_done {result : α} {t : List (Sigma Answer)}
    (h : (done result : Dialogue Ask Answer α).Begins t) : t = [] := by
  cases h
  rfl

theorem begins_of_bind_done {p : Dialogue Ask Answer α} {f : α → β} {t : List (Sigma Answer)}
    (h : (p >>= fun a => done (f a)).Begins t) : p.Begins t := by
  induction p generalizing t with
  | done result =>
    cases h
    exact .nil _
  | ask question next ih =>
    rw [ask_bind] at h
    cases h with
    | nil => exact .nil _
    | ask answer h => exact .ask answer (ih answer h)
  | suspended =>
    cases h
    exact .nil _

variable {P Q : Ask → Prop}

theorem Only.bind {p : Dialogue Ask Answer α} {f : α → Dialogue Ask Answer β} (hp : p.Only P)
    (hf : ∀ a, (f a).Only P) : (p >>= f).Only P := by
  induction p with
  | done result => exact hf result
  | ask question next ih => exact ⟨hp.1, fun answer => ih answer (hp.2 answer)⟩
  | suspended => trivial

theorem Only.bind_once {p : Dialogue Ask Answer α} {f : α → Dialogue Ask Answer β} (hp : p.Only P)
    (hf : ∀ a, (f a).Once P Q) : (p >>= f).Once P Q := by
  induction p with
  | done result => exact hf result
  | ask question next ih => exact .later hp.1 fun answer => ih answer (hp.2 answer)
  | suspended => exact .never trivial

theorem Once.bind_only {p : Dialogue Ask Answer α} {f : α → Dialogue Ask Answer β}
    (hp : p.Once P Q) (hf : ∀ a, (f a).Only P) : (p >>= f).Once P Q := by
  induction hp with
  | never hp => exact .never (hp.bind hf)
  | now hquestion hnext => exact .now hquestion fun answer => (hnext answer).bind hf
  | later hquestion _ ih => exact .later hquestion ih

theorem Once.imp {Q' : Ask → Prop} {p : Dialogue Ask Answer α} (hp : p.Once P Q)
    (himp : ∀ question, Q question → Q' question) : p.Once P Q' := by
  induction hp with
  | never hp => exact .never hp
  | now hquestion hnext => exact .now (himp _ hquestion) hnext
  | later hquestion _ ih => exact .later hquestion ih

theorem Only.of_begins {p : Dialogue Ask Answer α} (hp : p.Only P) {t : List (Sigma Answer)}
    (h : p.Begins t) : ∀ x ∈ t, P x.1 := by
  induction h with
  | nil => exact List.forall_mem_nil _
  | ask answer _ ih => exact List.forall_mem_cons.mpr ⟨hp.1, ih (hp.2 answer)⟩

theorem Once.of_begins {p : Dialogue Ask Answer α} (hp : p.Once P Q) {t : List (Sigma Answer)}
    (h : p.Begins t) : (∀ x ∈ t, P x.1) ∨
      ∃ before x later, t = before ++ x :: later ∧ Q x.1 ∧ (∀ y ∈ before, P y.1) ∧
        ∀ y ∈ later, P y.1 := by
  induction hp generalizing t with
  | never hp => exact .inl (hp.of_begins h)
  | now hquestion hnext =>
    cases h with
    | nil => exact .inl (List.forall_mem_nil _)
    | ask answer h =>
      exact .inr ⟨[], _, _, rfl, hquestion, List.forall_mem_nil _, (hnext answer).of_begins h⟩
  | later hquestion _ ih =>
    cases h with
    | nil => exact .inl (List.forall_mem_nil _)
    | ask answer h =>
      rcases ih answer h with hall | ⟨before, x, later, rfl, hx, hbefore, hlater⟩
      · exact .inl (List.forall_mem_cons.mpr ⟨hquestion, hall⟩)
      · exact .inr ⟨_ :: before, x, later, rfl, hx, List.forall_mem_cons.mpr ⟨hquestion, hbefore⟩,
          hlater⟩

/-! ## Two programs side by side -/

/-- As long as the answers to both show the same to `see`, the two programs go the same way, and what
    they deliver is related by `R`.  A question whose answers show nothing may be asked by one of them
    alone. -/
inductive Abreast (see : Sigma Answer → Option σ) (R : α → β → Prop) :
    Dialogue Ask Answer α → Dialogue Ask Answer β → Prop where
  | done {a : α} {b : β} : R a b → Abreast see R (.done a) (.done b)
  | ask {question question' : Ask} {next : Answer question → Dialogue Ask Answer α}
      {next' : Answer question' → Dialogue Ask Answer β} :
      (∀ answer, (see ⟨question, answer⟩).isSome) →
      (∀ answer', (see ⟨question', answer'⟩).isSome) →
      (∀ answer answer', see ⟨question, answer⟩ = see ⟨question', answer'⟩ →
        Abreast see R (next answer) (next' answer')) →
      Abreast see R (.ask question next) (.ask question' next')
  | left {question : Ask} {next : Answer question → Dialogue Ask Answer α}
      {p' : Dialogue Ask Answer β} :
      (∀ answer, see ⟨question, answer⟩ = none) → (∀ answer, Abreast see R (next answer) p') →
      Abreast see R (.ask question next) p'
  | right {question : Ask} {next : Answer question → Dialogue Ask Answer β}
      {p : Dialogue Ask Answer α} :
      (∀ answer, see ⟨question, answer⟩ = none) → (∀ answer, Abreast see R p (next answer)) →
      Abreast see R p (.ask question next)
  | suspendedLeft (p' : Dialogue Ask Answer β) : Abreast see R .suspended p'
  | suspendedRight (p : Dialogue Ask Answer α) : Abreast see R p .suspended

/-- Two runs in which the same is seen deliver related results. -/
theorem Abreast.related {see : Sigma Answer → Option σ} {R : α → β → Prop}
    {p : Dialogue Ask Answer α} {p' : Dialogue Ask Answer β} (h : p.Abreast see R p')
    {t t' : List (Sigma Answer)} {a : α} {b : β} (hruns : p.Runs t a) (hruns' : p'.Runs t' b)
    (hseen : t.filterMap see = t'.filterMap see) : R a b := by
  induction h generalizing t t' with
  | done hR =>
    obtain ⟨_, rfl⟩ := runs_done.mp hruns
    obtain ⟨_, rfl⟩ := runs_done.mp hruns'
    exact hR
  | ask hsees hsees' _ ih =>
    obtain ⟨answer, rest, rfl, hnext⟩ := runs_ask.mp hruns
    obtain ⟨answer', rest', rfl, hnext'⟩ := runs_ask.mp hruns'
    obtain ⟨sight, hsight⟩ := Option.isSome_iff_exists.mp (hsees answer)
    obtain ⟨sight', hsight'⟩ := Option.isSome_iff_exists.mp (hsees' answer')
    rw [List.filterMap_cons_some hsight, List.filterMap_cons_some hsight'] at hseen
    obtain ⟨hfirst, hrest⟩ := List.cons.inj hseen
    exact ih answer answer' (by rw [hsight, hsight', hfirst]) hnext hnext' hrest
  | left hunseen _ ih =>
    obtain ⟨answer, rest, rfl, hnext⟩ := runs_ask.mp hruns
    rw [List.filterMap_cons_none (hunseen answer)] at hseen
    exact ih answer hnext hruns' hseen
  | right hunseen _ ih =>
    obtain ⟨answer, rest, rfl, hnext⟩ := runs_ask.mp hruns'
    rw [List.filterMap_cons_none (hunseen answer)] at hseen
    exact ih answer hruns hnext hseen
  | suspendedLeft _ => exact absurd hruns runs_suspended
  | suspendedRight _ => exact absurd hruns' runs_suspended

theorem Abreast.bind {see : Sigma Answer → Option σ} {R : α → β → Prop} {S : γ → δ → Prop}
    {p : Dialogue Ask Answer α} {p' : Dialogue Ask Answer β} {f : α → Dialogue Ask Answer γ}
    {f' : β → Dialogue Ask Answer δ} (h : p.Abreast see R p')
    (hf : ∀ a b, R a b → (f a).Abreast see S (f' b)) : (p >>= f).Abreast see S (p' >>= f') := by
  induction h with
  | done hR => exact hf _ _ hR
  | ask hsees hsees' _ ih => exact .ask hsees hsees' ih
  | left hunseen _ ih => exact .left hunseen ih
  | right hunseen _ ih => exact .right hunseen ih
  | suspendedLeft p' => exact .suspendedLeft _
  | suspendedRight p => exact .suspendedRight _

/-- A program of whose questions nothing is seen may be passed over on the left. -/
theorem Abreast.skipLeft {see : Sigma Answer → Option σ} {S : γ → δ → Prop}
    {p : Dialogue Ask Answer α} {f : α → Dialogue Ask Answer γ} {p' : Dialogue Ask Answer δ}
    (hp : p.Only fun question => ∀ answer, see ⟨question, answer⟩ = none)
    (hf : ∀ a, (f a).Abreast see S p') : (p >>= f).Abreast see S p' := by
  induction p with
  | done result => exact hf result
  | ask question next ih => exact .left hp.1 fun answer => ih answer (hp.2 answer)
  | suspended => exact .suspendedLeft p'

theorem Abreast.skipRight {see : Sigma Answer → Option σ} {S : γ → δ → Prop}
    {p : Dialogue Ask Answer γ} {p' : Dialogue Ask Answer α} {f : α → Dialogue Ask Answer δ}
    (hp : p'.Only fun question => ∀ answer, see ⟨question, answer⟩ = none)
    (hf : ∀ a, p.Abreast see S (f a)) : p.Abreast see S (p' >>= f) := by
  induction p' with
  | done result => exact hf result
  | ask question next ih => exact .right hp.1 fun answer => ih answer (hp.2 answer)
  | suspended => exact .suspendedRight p

end Dialogue

/-- One question of a program of calls with its answer. -/
abbrev Exchange := Sigma Call.Answer

@[simp] theorem runs_call_bind {α : Type} {c : Call} {f : c.Answer → Program α} {t : List Exchange}
    {a : α} :
    (call c >>= f).Runs t a ↔ ∃ answer rest, t = ⟨c, answer⟩ :: rest ∧ (f answer).Runs rest a :=
  Dialogue.runs_ask

theorem follow_call_bind {α σ : Type} (respond : Dialogue.Responder Call Call.Answer σ) (c : Call)
    (f : c.Answer → Program α) (s : σ) :
    (call c >>= f).follow respond s = (f (respond c s).1).follow respond (respond c s).2 := rfl

theorem total_call_bind {α : Type} {c : Call} {f : c.Answer → Program α}
    (h : ∀ answer, (f answer).Total) : (call c >>= f).Total :=
  Dialogue.total_ask h

theorem only_call {P : Call → Prop} {c : Call} (hc : P c) : (call c).Only P := ⟨hc, fun _ => trivial⟩

theorem only_call_bind {α : Type} {P : Call → Prop} {c : Call} {f : c.Answer → Program α} (hc : P c)
    (hf : ∀ answer, (f answer).Only P) : (call c >>= f).Only P :=
  ⟨hc, hf⟩

end AdapterGateway
