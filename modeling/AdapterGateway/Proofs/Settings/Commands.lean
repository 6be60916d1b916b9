import AdapterGateway.Proofs.Supervision.Starting
import AdapterGateway.Proofs.Text.Words

/-!
# Command lines

A configuration is valid when bodies may have a size and every command line has words.  That is tested
by trimming a line, and again by splitting it when its operation is run.  Both find the same lines to be
empty, so that an operation of a valid configuration never comes upon an empty command line.
-/

namespace AdapterGateway

open Text

namespace Settings

variable {s : Settings} {operation : String} {argv : List String}

def notConfigured (operation : String) : Fault :=
  .configuration ("no command configured for operation '" ++ operation ++ "'")

theorem commandFor_of_none (h : s.commands.get? operation = none) :
    s.commandFor operation = .error (notConfigured operation) := by
  unfold commandFor
  rw [h]
  rfl

theorem commandFor_of_some {line : String} (h : s.commands.get? operation = some line) :
    s.commandFor operation =
      if words line = [] then .error (emptyCommand operation) else .ok (words line) := by
  unfold commandFor
  rw [h]
  simp only [List.isEmpty_iff]

theorem commandFor_eq_ok_iff : s.commandFor operation = .ok argv ↔
    argv ≠ [] ∧ ∃ line, s.commands.get? operation = some line ∧ words line = argv := by
  cases hline : s.commands.get? operation with
  | none =>
    rw [commandFor_of_none hline]
    simp
  | some line =>
    rw [commandFor_of_some hline]
    by_cases hnil : words line = []
    · rw [if_pos hnil]
      simp only [Option.some.injEq, exists_eq_left', hnil]
      exact ⟨fun h => (nomatch h), fun h => absurd h.2.symm h.1⟩
    · rw [if_neg hnil]
      simp only [Option.some.injEq, exists_eq_left', Except.ok.injEq]
      exact ⟨fun h => ⟨h ▸ hnil, h⟩, fun h => h.2⟩

theorem validate_eq_ok_iff : s.validate = .ok () ↔ s.server.maxBodySize ≠ 0 ∧
    ∀ operation line, s.commands.get? operation = some line → words line ≠ [] := by
  unfold validate
  cases hfind : s.commands.entries.find? fun e => (trim e.2).isEmpty with
  | some e =>
    -- a line from which trimming leaves nothing has no words
    have hline := (s.commands.mem_entries_iff e.1 e.2).mp (List.mem_of_find?_eq_some hfind)
    have hempty := List.find?_some hfind
    refine iff_of_false (fun h => nomatch h) fun h => ?_
    exact h.2 e.1 e.2 hline (isEmpty_trim.mp hempty)
  | none =>
    have hwords : ∀ operation line, s.commands.get? operation = some line → words line ≠ [] := by
      intro operation line hline hnil
      have hmem := (s.commands.mem_entries_iff operation line).mpr hline
      exact List.find?_eq_none.mp hfind _ hmem (isEmpty_trim.mpr hnil)
    dsimp only
    by_cases hzero : s.server.maxBodySize = 0
    · rw [if_pos hzero]
      exact iff_of_false (fun h => nomatch h) fun h => h.1 hzero
    · rw [if_neg hzero]
      exact iff_of_true rfl ⟨hzero, hwords⟩

/-- The two ways in which there is no command line are told apart. -/
theorem notConfigured_ne_emptyCommand (operation other : String) :
    notConfigured operation ≠ emptyCommand other := by
  intro h
  have hfirst := congrArg (fun text : String => text.toList.head?) (Fault.configuration.inj h)
  simp only [String.toList_append, List.head?_append] at hfirst
  -- the texts differ in their first characters already
  have hletters : some 'n' = some 'c' := hfirst
  exact absurd hletters (by decide)

theorem commandFor_ne_emptyCommand (hvalid : s.validate = .ok ()) (operation other : String) :
    s.commandFor operation ≠ .error (emptyCommand other) := by
  cases hline : s.commands.get? operation with
  | none =>
    rw [commandFor_of_none hline]
    exact fun h => notConfigured_ne_emptyCommand operation other (Except.error.inj h)
  | some line =>
    rw [commandFor_of_some hline, if_neg ((validate_eq_ok_iff.mp hvalid).2 operation line hline)]
    exact fun h => nomatch h

end Settings

/-! ## Runs -/

/-- The fault of a start without words. -/
def Launch.nothingToStart : Fault := .configuration "empty command line"

theorem Launch.prepare_cons_ne (program : String) (arguments : List String)
    (environment : Environment) :
    prepare (program :: arguments) environment ≠ .error nothingToStart := by
  unfold prepare
  dsimp only
  split
  · split <;> exact fun h => nomatch h
  · exact fun h => nomatch h

namespace Supervision

variable {s : Settings} {inherited : Environment.Raw} {operation : String} {further : List String}
  {request : Option Request} {status patience : Nat}

/-- An operation that gets a command line asks for something before it comes to an end. -/
theorem run_ne_done (hvalid : s.validate = .ok ()) (other : String) :
    run s inherited operation further request status patience ≠
      .done (.error (Settings.emptyCommand other)) := by
  unfold run
  cases hwords : s.commandFor operation with
  | error fault =>
    intro h
    cases h
    exact Settings.commandFor_ne_emptyCommand hvalid operation other hwords
  | ok argv => exact fun h => nomatch h

/-- Whatever follows it, a command line of words is something to start. -/
theorem prepare_of_run {t : List Exchange}
    (ht : (run s inherited operation further request status patience).Begins t)
    {words : List String} {environment : Environment} {answer : Except Fault Unit}
    (hmem : ⟨.spawn words environment, answer⟩ ∈ t) :
    ∃ argv path, argv ≠ [] ∧ s.commandFor operation = .ok argv ∧
      words = argv ++ further ++ [path] ∧
      Launch.prepare words environment ≠ .error Launch.nothingToStart := by
  obtain ⟨argv, path, hargv, hspawn⟩ := of_mem_of_once (once_run ..) ht hmem rfl
  cases hspawn
  obtain ⟨hne, _⟩ := Settings.commandFor_eq_ok_iff.mp hargv
  refine ⟨argv, path, hne, hargv, rfl, ?_⟩
  cases argv with
  | nil => exact absurd rfl hne
  | cons program arguments => exact Launch.prepare_cons_ne program _ _

end Supervision

/-! ## Agreement -/

namespace Settings

open Supervision

/-- What validation says of a configuration against what its command lines come to. -/
structure CommandsAgree (s : Settings) : Prop where
  /-- A configuration is valid when there is a command for each of its operations. -/
  validate_iff : s.validate = .ok () ↔ s.server.maxBodySize ≠ 0 ∧
    ∀ operation ∈ s.commands.keys, ∃ argv, s.commandFor operation = .ok argv
  /-- A command is all the words of its line in order, of which there is one at least. -/
  words_of_ok : ∀ operation argv, s.commandFor operation = .ok argv → argv ≠ [] ∧
    ∃ line, s.commands.get? operation = some line ∧ MaximalRuns line.toList argv ∧
      (∀ w ∈ argv, IsWord w) ∧ argv.flatMap String.toList = line.toList.filter (!isBlank ·)
  absent : ∀ operation, operation ∉ s.commands.keys →
    s.commandFor operation = .error (notConfigured operation)
  /-- In a valid configuration no operation comes upon an empty command line. -/
  run_ne : s.validate = .ok () → ∀ inherited operation further request status patience,
    s.commandFor operation ≠ .error (emptyCommand operation) ∧
      run s inherited operation further request status patience ≠
        .done (.error (emptyCommand operation))
  /-- Nor does the start of a process. -/
  prepare_ne : s.validate = .ok () → ∀ inherited operation further request status patience t,
    (run s inherited operation further request status patience).Begins t →
    ∀ words environment answer, ⟨.spawn words environment, answer⟩ ∈ t →
      Launch.prepare words environment ≠ .error Launch.nothingToStart

/-- **Validation and commands agree.**  This is so for every configuration. -/
theorem commandsAgree (s : Settings) : s.CommandsAgree := by
  refine {
    validate_iff := ?_
    words_of_ok := fun operation argv hargv => ?_
    absent := fun operation hnot => ?_
    run_ne := fun hvalid _ operation _ _ _ _ =>
      ⟨commandFor_ne_emptyCommand hvalid operation operation, run_ne_done hvalid operation⟩
    prepare_ne := fun _ _ _ _ _ _ _ t ht words environment answer hmem => ?_ }
  · rw [validate_eq_ok_iff]
    apply and_congr_right
    intro _
    constructor
    · intro hwords operation hmem
      obtain ⟨line, hline⟩ := Option.isSome_iff_exists.mp ((s.commands.mem_keys_iff operation).mp hmem)
      exact ⟨_, commandFor_eq_ok_iff.mpr ⟨hwords operation line hline, line, hline, rfl⟩⟩
    · intro hcommands operation line hline
      have hmem : operation ∈ s.commands.keys := by
        rw [s.commands.mem_keys_iff, hline]
        rfl
      obtain ⟨argv, hargv⟩ := hcommands operation hmem
      obtain ⟨hne, line', hline', hwords⟩ := commandFor_eq_ok_iff.mp hargv
      rw [hline] at hline'
      cases hline'
      rw [hwords]
      exact hne
  · obtain ⟨hne, line, hline, rfl⟩ := commandFor_eq_ok_iff.mp hargv
    have hruns := maximalRuns_words line
    exact ⟨hne, line, hline, hruns, hruns.isWord, hruns.flatMap_toList⟩
  · apply commandFor_of_none
    rw [s.commands.mem_keys_iff, Bool.not_eq_true, Option.isSome_eq_false_iff,
      Option.isNone_iff_eq_none] at hnot
    exact hnot
  · obtain ⟨_, _, _, _, _, hprepare⟩ := prepare_of_run ht hmem
    exact hprepare

end Settings
end AdapterGateway
