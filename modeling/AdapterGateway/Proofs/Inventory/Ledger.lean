import AdapterGateway.Proofs.Inventory.Survey

/-!
# Ledgers

What instances collect against a record of everything that was added, through whichever handle: one
that was made or returned, a copy of one, or one that a collection was asked for.  An instance shows
exactly what the record has of it, in the order in which it was added.  Edges, calls to collections
and whatever is added to another instance leave that as it is.
-/

namespace AdapterGateway.Inventory

/-! ## Uses -/

/-- What a program run does with its objects. -/
inductive Use where
  | step (step : Step)
  /-- Copy a handle. -/
  | copy (n : Nat)
  /-- Ask a collection for the instance of a key. -/
  | fetch (n : Nat) (key : Key)
  /-- Ask a collection for all its instances. -/
  | list (n : Nat)
  /-- Ask an instance for the values of a property and for the latest of them. -/
  | inquire (n : Nat) (key : String)

/-- What is told of a property: all its values and the latest of them. -/
structure Answer where
  values : List PropertyValue
  latest : Option PropertyValue

/-- A survey that gets to know handles of instances that it knows already. -/
def Survey.meet (s : Survey) (handles : List Handle) : Survey :=
  { s with known := s.known ++ handles }

/-- What a use makes of a survey. -/
def Survey.follow (s : Survey) : Use → Survey
  | .step step => s.perform step
  | .copy n => s.meet s.known[n]?.toList
  | .fetch n key => s.meet ((s.tallies n).collection.get? key).toList
  | .list n => s.meet (s.tallies n).collection.entries
  | .inquire _ _ => s

namespace Use

/-- The samples that are added, each with the handle through which it is. -/
def samples (known : List Handle) : Use → List (Handle × Sample)
  | step s => s.samples known
  | copy _ | fetch _ _ | list _ | inquire _ _ => []

/-- The answers that are given. -/
def answers (s : Survey) : Use → List Answer
  | inquire n key => match s.known[n]? with
    | some h => [⟨(s.graph.look h).propertyValues key, (s.graph.look h).lastPropertyValue? key⟩]
    | none => []
  | step _ | copy _ | fetch _ _ | list _ => []

end Use

/-- A survey with a record of all samples that were added, each with its handle, and with all answers
    that were given. -/
structure Ledger where
  survey : Survey := {}
  records : List (Handle × Sample) := []
  answers : List Answer := []

namespace Ledger

def perform (l : Ledger) (use : Use) : Ledger where
  survey := l.survey.follow use
  records := l.records ++ use.samples l.survey.known
  answers := l.answers ++ use.answers l.survey

/-- What comes of several uses of a ledger that has just begun. -/
def after (uses : List Use) : Ledger := uses.foldl perform {}

/-- What was added to the instance of `h`, through any of its handles. -/
def samplesOf (l : Ledger) (h : Handle) : List Sample := Inventory.samplesOf l.records h

end Ledger

/-! ## The invariant -/

namespace Survey

variable {s : Survey}

theorem Sound.meet (hs : s.Sound) {handles : List Handle} (hmem : ∀ h ∈ handles, h ∈ s.known) :
    (s.meet handles).Sound where
  pass n := by
    have hall : ∀ h ∈ s.known ++ handles, h ∈ s.known := by
      intro h hh
      rcases List.mem_append.mp hh with hold | hnew
      · exact hold
      · exact hmem h hnew
    have hgenuine : Pass.Genuine s.graph (s.known ++ handles) :=
      ⟨fun h hh => hs.genuine.lt_size h (hall h hh),
        fun h hh h' hh' => hs.genuine.eq_of_id h (hall h hh) h' (hall h' hh')⟩
    exact (hs.pass n).widen hgenuine fun h hh => List.mem_append_left _ hh
  holds := hs.holds
  links_known l hl := by
    obtain ⟨hp, hc⟩ := hs.links_known l hl
    exact ⟨List.mem_append_left _ hp, List.mem_append_left _ hc⟩
  message := hs.message

/-- What a collection holds is known. -/
theorem Sound.known_of_get? (hs : s.Sound) {n : Nat} {key : Key} {h : Handle}
    (hget : (s.tallies n).collection.get? key = some h) : h ∈ s.known :=
  (hs.pass n).find?_known key.identity h hget

theorem Sound.known_of_entries (hs : s.Sound) {n : Nat} {h : Handle}
    (hmem : h ∈ (s.tallies n).collection.entries) : h ∈ s.known :=
  (hs.pass n).find?_known h.identity h ((hs.pass n).inStep.mem_entries.mp hmem)

theorem Sound.follow (hs : s.Sound) (use : Use) : (s.follow use).Sound := by
  cases use with
  | step step => exact hs.perform step
  | copy n => exact hs.meet fun h hh => List.mem_of_getElem? (Option.mem_toList.mp hh)
  | fetch n key => exact hs.meet fun h hh => hs.known_of_get? (Option.mem_toList.mp hh)
  | list n => exact hs.meet fun h hh => hs.known_of_entries hh
  | inquire n key => exact hs

/-- A step adds its samples to the instances of their handles, and nothing to any other. -/
theorem Sound.collects_perform (hs : s.Sound) (step : Step) {x : Handle} {samples : List Sample}
    (hx : (s.graph.look x).Collects samples) :
    ((s.perform step).graph.look x).Collects
      (samples ++ Inventory.samplesOf (step.samples s.known) x) := by
  have hmark : ((step.mark s.known s.graph).look x).Collects
      (samples ++ Inventory.samplesOf (step.samples s.known) x) := by
    rcases step.mark_eq s.known s.graph with ⟨hnone, hmark⟩ | ⟨_, h, hmem, added, hadded, hmark⟩
    · rw [hmark, hnone]
      exact (List.append_nil samples).symm ▸ Graph.collects_foldl_link hx
    · rw [hmark, hadded, samplesOf_map, Graph.look_modify (hs.genuine.lt_size h hmem)]
      split
      · exact hx.collect added
      · rw [List.append_nil]
        exact hx
  cases step with
  | act n act =>
    -- a call makes an instance at most, and one that is new has collected nothing
    change (((s.pass n).perform act).graph.look x).Collects (samples ++ [])
    rw [List.append_nil]
    rcases ((hs.pass n).reach act).2 with hsame | ⟨key, hnew⟩
    · rw [hsame]
      exact hx
    · rw [hnew, Graph.look_create]
      exact hx
  | _ => exact hmark

end Survey

namespace Ledger

/-- Every instance has collected what the record has of it. -/
structure Sound (l : Ledger) : Prop where
  survey : l.survey.Sound
  collects : ∀ h, (l.survey.graph.look h).Collects (l.samplesOf h)

theorem sound_begin : Sound {} where
  survey := Survey.sound_begin
  collects _ := ⟨rfl, rfl, rfl⟩

theorem Sound.perform {l : Ledger} (hl : l.Sound) (use : Use) : (l.perform use).Sound where
  survey := hl.survey.follow use
  collects h := by
    have hsamples : (l.perform use).samplesOf h =
        l.samplesOf h ++ Inventory.samplesOf (use.samples l.survey.known) h :=
      samplesOf_append _ _ h
    rw [hsamples]
    cases use with
    | step step => exact hl.survey.collects_perform step (hl.collects h)
    | _ => exact (List.append_nil (l.samplesOf h)).symm ▸ hl.collects h

theorem sound_after (uses : List Use) : (after uses).Sound := by
  suffices h : ∀ l : Ledger, l.Sound → (uses.foldl perform l).Sound from h {} sound_begin
  induction uses with
  | nil => exact fun l hl => hl
  | cons use uses ih => exact fun l hl => ih _ (hl.perform use)

/-! ## The samples of an instance -/

end Ledger
end AdapterGateway.Inventory
