import AdapterGateway.Proofs.Inventory.Agreement
import AdapterGateway.Proofs.Inventory.Edges
import AdapterGateway.Proofs.Inventory.Samples
import Mathlib.Logic.Function.Basic

/-!
# Surveys

Everything that a program run can do with instances and collections: several collections are filled
from one graph, and meanwhile instances get edges, samples and events through any of their handles,
whether a collection holds them or not.  A survey keeps a log of the edges that were asked for, and
after any steps the edge sets of the graph are what that log comes to.
-/

namespace AdapterGateway.Inventory

/-- One step of a survey.  A collection is named by its number, and a handle by its place among
    those that the survey has come to know. -/
inductive Step where
  /-- A call to a collection. -/
  | act (n : Nat) (act : Act)
  | parent (child parent : Nat)
  | child (parent child : Nat)
  | parents (child : Nat) (parents : List Nat)
  | children (parent : Nat) (children : List Nat)
  | metrics (n : Nat) (metrics : List Metric)
  | properties (n : Nat) (properties : List Property)
  | events (n : Nat) (events : List Event)
  /-- Put a collection into error mode. -/
  | fail (n : Nat) (message : String)

namespace Step

/-- The edges that a step asks for, each as a parent and a child. -/
def links (known : List Handle) : Step → List (Handle × Handle)
  | parent c p | child p c => match known[p]?, known[c]? with
    | some p, some c => [(p, c)]
    | _, _ => []
  | parents c ps => match known[c]? with
    | some c => (ps.filterMap (known[·]?)).map fun p => (p, c)
    | none => []
  | children p cs => match known[p]? with
    | some p => (cs.filterMap (known[·]?)).map fun c => (p, c)
    | none => []
  | act _ _ | metrics _ _ | properties _ _ | events _ _ | fail _ _ => []

/-- Samples that are added through the handle at a place. -/
def through (known : List Handle) (n : Nat) (samples : List Sample) : List (Handle × Sample) :=
  match known[n]? with
  | some h => samples.map fun s => (h, s)
  | none => []

/-- The samples that a step adds, each with the handle through which it does. -/
def samples (known : List Handle) : Step → List (Handle × Sample)
  | metrics n ms => through known n (ms.map .metric)
  | properties n ps => through known n (ps.map .property)
  | events n es => through known n (es.map .event)
  | act _ _ | parent _ _ | child _ _ | parents _ _ | children _ _ | fail _ _ => []

/-- What a step does to the instances that are there. -/
def mark (known : List Handle) (g : Graph) : Step → Graph
  | parent c p | child p c => match known[p]?, known[c]? with
    | some p, some c => g.link c p
    | _, _ => g
  | parents c ps => match known[c]? with
    | some c => g.linkParents c (ps.filterMap (known[·]?))
    | none => g
  | children p cs => match known[p]? with
    | some p => g.linkChildren p (cs.filterMap (known[·]?))
    | none => g
  | metrics n ms => match known[n]? with
    | some h => g.addMetrics h ms
    | none => g
  | properties n ps => match known[n]? with
    | some h => g.addProperties h ps
    | none => g
  | events n es => match known[n]? with
    | some h => g.addEvents h es
    | none => g
  | act _ _ | fail _ _ => g

theorem links_known {known : List Handle} {step : Step} {l : Handle × Handle}
    (hl : l ∈ step.links known) : l.1 ∈ known ∧ l.2 ∈ known := by
  have hall {ns : List Nat} {h : Handle} (hmem : h ∈ ns.filterMap (known[·]?)) : h ∈ known := by
    obtain ⟨n, _, hn⟩ := List.mem_filterMap.mp hmem
    exact List.mem_of_getElem? hn
  cases step with
  | parent c p | child p c =>
    simp only [links] at hl
    split at hl
    · rename_i hp hc
      rw [List.mem_singleton.mp hl]
      exact ⟨List.mem_of_getElem? hp, List.mem_of_getElem? hc⟩
    · cases hl
  | parents c ps =>
    simp only [links] at hl
    split at hl
    · rename_i hc
      obtain ⟨p, hp, rfl⟩ := List.mem_map.mp hl
      exact ⟨hall hp, List.mem_of_getElem? hc⟩
    · cases hl
  | children p cs =>
    simp only [links] at hl
    split at hl
    · rename_i hp
      obtain ⟨c, hc, rfl⟩ := List.mem_map.mp hl
      exact ⟨List.mem_of_getElem? hp, hall hc⟩
    · cases hl
  | act | metrics | properties | events | fail => cases hl

/-- A step makes the edges that it asks for, one after the other, or else adds samples through one
    handle. -/
theorem mark_eq (known : List Handle) (g : Graph) (step : Step) :
    step.samples known = [] ∧
        step.mark known g = (step.links known).foldl (fun g l => g.link l.2 l.1) g ∨
      step.links known = [] ∧ ∃ h ∈ known, ∃ added : List Sample,
        step.samples known = added.map (fun s => (h, s)) ∧
          step.mark known g = g.modify h (·.collect added) := by
  cases step with
  | act | fail => exact .inl ⟨rfl, rfl⟩
  | parent c p | child p c =>
    refine .inl ⟨rfl, ?_⟩
    simp only [links, mark]
    split <;> rfl
  | parents c ps =>
    refine .inl ⟨rfl, ?_⟩
    simp only [links, mark]
    split
    · rw [List.foldl_map, Graph.linkParents]
    · rfl
  | children p cs =>
    refine .inl ⟨rfl, ?_⟩
    simp only [links, mark]
    split
    · rw [List.foldl_map, Graph.linkChildren]
    · rfl
  | metrics n ms =>
    simp only [mark, samples, through]
    split
    · rename_i h hn
      refine .inr ⟨rfl, h, List.mem_of_getElem? hn, _, rfl, ?_⟩
      exact congrArg (g.modify h) (funext fun c => (c.collect_metrics ms).symm)
    · exact .inl ⟨rfl, rfl⟩
  | properties n ps =>
    simp only [mark, samples, through]
    split
    · rename_i h hn
      refine .inr ⟨rfl, h, List.mem_of_getElem? hn, _, rfl, ?_⟩
      exact congrArg (g.modify h) (funext fun c => (c.collect_properties ps).symm)
    · exact .inl ⟨rfl, rfl⟩
  | events n es =>
    simp only [mark, samples, through]
    split
    · rename_i h hn
      refine .inr ⟨rfl, h, List.mem_of_getElem? hn, _, rfl, ?_⟩
      exact congrArg (g.modify h) (funext fun c => (c.collect_events es).symm)
    · exact .inl ⟨rfl, rfl⟩

theorem size_mark (known : List Handle) (g : Graph) (step : Step) :
    (step.mark known g).contents.size = g.contents.size := by
  rcases step.mark_eq known g with ⟨_, hmark⟩ | ⟨_, h, _, added, _, hmark⟩
  · rw [hmark, Graph.size_foldl_link]
  · rw [hmark, Graph.size_modify]

theorem holds_mark {known : List Handle} {g : Graph} {links : List (Handle × Handle)}
    (hg : g.Holds links) (hknown : ∀ h ∈ known, h.id < g.contents.size) (step : Step) :
    (step.mark known g).Holds (links ++ step.links known) := by
  rcases step.mark_eq known g with ⟨_, hmark⟩ | ⟨hlinks, h, hmem, added, _, hmark⟩
  · rw [hmark]
    exact hg.foldl_link fun l hl =>
      ⟨hknown l.1 (links_known hl).1, hknown l.2 (links_known hl).2⟩
  · rw [hmark, hlinks, List.append_nil]
    -- samples go into the logs, and no log is an edge set
    exact hg.modify (hknown h hmem) fun _ => ⟨rfl, rfl⟩

end Step

/-- One collection of a survey, with what it returned and took and was told. -/
structure Tally where
  collection : Collection := {}
  returned : List (Key × Handle) := []
  accepted : List Handle := []
  messages : List String := []

namespace Tally

/-- The instances that a collection took, in the order in which it took them first. -/
def stored (t : Tally) : List Handle := t.accepted.eraseDups

def find? (t : Tally) (identity : Identity) : Option Handle :=
  t.stored.find? (·.identity == identity)

end Tally

/-- A survey in the middle of its work. -/
structure Survey where
  graph : Graph := {}
  known : List Handle := []
  tallies : Nat → Tally := fun _ => {}
  /-- The edges that were asked for, each as a parent and a child, in order. -/
  links : List (Handle × Handle) := []

namespace Survey

/-- The pass over one collection, which shares graph and handles with all the others. -/
def pass (s : Survey) (n : Nat) : Pass where
  graph := s.graph
  collection := (s.tallies n).collection
  known := s.known
  returned := (s.tallies n).returned
  accepted := (s.tallies n).accepted

def perform (s : Survey) (step : Step) : Survey :=
  match step with
  | .act n act =>
    let p := (s.pass n).perform act
    let t : Tally := { s.tallies n with
      collection := p.collection, returned := p.returned, accepted := p.accepted }
    { s with graph := p.graph, known := p.known, tallies := Function.update s.tallies n t }
  | .fail n message =>
    let old := s.tallies n
    let t : Tally := { old with
      collection := old.collection.withError message, messages := old.messages ++ [message] }
    { s with tallies := Function.update s.tallies n t }
  | step =>
    { s with graph := step.mark s.known s.graph, links := s.links ++ step.links s.known }

/-- What comes of several steps of a survey that has just begun. -/
def after (steps : List Step) : Survey := steps.foldl perform {}

end Survey

/-! ## What a call leaves as it is -/

namespace Collection

theorem errorMessage_insert {c c' : Collection} {h : Handle} (hc : c.insert h = .ok c') :
    c'.errorMessage = c.errorMessage := by
  rw [(eq_of_insert_eq_ok hc).2]

theorem errorMessage_add {c c' : Collection} {h : Handle} (hc : c.add h = .ok c') :
    c'.errorMessage = c.errorMessage := by
  rcases add_eq_ok hc with ⟨_, _, _, rfl⟩ | ⟨_, hinsert⟩
  · rfl
  · exact errorMessage_insert hinsert

theorem errorMessage_addAll (c : Collection) (refused : List String) (hs : List Handle) :
    (c.addAll refused hs).2.errorMessage = c.errorMessage := by
  induction hs generalizing c refused with
  | nil => rfl
  | cons h rest ih =>
    unfold addAll
    cases hadd : c.add h with
    | ok c' =>
      rw [← errorMessage_add hadd]
      exact ih c' refused
    | error fault =>
      cases fault with
      | duplicateIdentity keys => exact ih c (refused ++ keys)
      | _ => rfl

end Collection

namespace Pass

theorem errorMessage_perform (p : Pass) (act : Act) :
    (p.perform act).collection.errorMessage = p.collection.errorMessage := by
  cases act with
  | make key => rfl
  | object key =>
    simp only [perform]
    split
    · rename_i hobject
      rcases Collection.object_eq_ok hobject with ⟨_, _, rfl, _⟩ | ⟨_, _, hinsert⟩
      · rfl
      · exact Collection.errorMessage_insert hinsert
    · rfl
  | add n =>
    simp only [perform]
    split
    · split
      · rename_i hadd
        exact Collection.errorMessage_add hadd
      · rfl
    · rfl
  | addAll ns => exact Collection.errorMessage_addAll ..

/-- A call makes one instance at most and forgets no handle. -/
theorem Sound.reach {p : Pass} (hp : p.Sound) (act : Act) :
    (∀ h ∈ p.known, h ∈ (p.perform act).known) ∧
      ((p.perform act).graph = p.graph ∨
        ∃ key, (p.perform act).graph = (p.graph.create key).2) := by
  cases act with
  | make key => exact ⟨fun h hmem => List.mem_append_left _ hmem, .inr ⟨key, rfl⟩⟩
  | object key =>
    simp only [perform]
    split
    · rename_i hobject
      obtain ⟨_, _, horigin⟩ :=
        Collection.accepts_of_object (hp.inStep.identity_eq key.identity) hobject
      refine ⟨fun h hmem => List.mem_append_left _ hmem, ?_⟩
      rcases horigin with ⟨_, hgraph⟩ | hnew
      · exact .inl hgraph
      · exact .inr ⟨key, (Prod.mk.inj hnew).2⟩
    · exact ⟨fun h hmem => hmem, .inl rfl⟩
  | add n =>
    simp only [perform]
    split
    · split <;> exact ⟨fun h hmem => hmem, .inl rfl⟩
    · exact ⟨fun h hmem => hmem, .inl rfl⟩
  | addAll ns => exact ⟨fun h hmem => hmem, .inl rfl⟩

/-- A pass stays sound when others make instances and get to know handles. -/
theorem Sound.widen {p : Pass} (hp : p.Sound) {graph : Graph} {known : List Handle}
    (hg : Genuine graph known) (hknown : ∀ h ∈ p.known, h ∈ known) :
    Sound { p with graph, known } where
  genuine := hg
  inStep := hp.inStep
  find?_known identity h hfind := hknown h (hp.find?_known identity h hfind)
  find?_returned := hp.find?_returned

theorem Genuine.of_size {graph graph' : Graph} {known : List Handle} (hg : Genuine graph known)
    (hsize : graph'.contents.size = graph.contents.size) : Genuine graph' known where
  lt_size h hmem := by
    rw [hsize]
    exact hg.lt_size h hmem
  eq_of_id := hg.eq_of_id

end Pass

/-! ## The invariant -/

namespace Survey

/-- Every collection is sound, the graph holds the edges that were asked for, and the last message
    is the one that a collection keeps. -/
structure Sound (s : Survey) : Prop where
  pass : ∀ n, (s.pass n).Sound
  holds : s.graph.Holds s.links
  links_known : ∀ l ∈ s.links, l.1 ∈ s.known ∧ l.2 ∈ s.known
  message : ∀ n, (s.tallies n).collection.errorMessage = (s.tallies n).messages.getLast?

theorem sound_begin : Sound {} where
  pass _ := Pass.sound_begin
  holds := Graph.holds_nil
  links_known l hl := by cases hl
  message _ := rfl

theorem Sound.genuine {s : Survey} (hs : s.Sound) : Pass.Genuine s.graph s.known :=
  (hs.pass 0).genuine

theorem Sound.act {s : Survey} (hs : s.Sound) (n : Nat) (act : Act) :
    (s.perform (.act n act)).Sound := by
  have hq := (Pass.sound_perform (hs.pass n) act).1
  obtain ⟨hknown, hgraph⟩ := (hs.pass n).reach act
  refine ⟨fun m => ?_, ?_, fun l hl => ?_, fun m => ?_⟩
  · by_cases hm : m = n
    · simp only [Survey.pass, perform, hm, Function.update_self]
      exact hq
    · -- another collection only sees that there are more instances and handles
      simp only [Survey.pass, perform, Function.update_of_ne hm]
      exact (hs.pass m).widen hq.genuine hknown
  · change ((s.pass n).perform act).graph.Holds s.links
    rcases hgraph with hsame | ⟨key, hnew⟩
    · rw [hsame]
      exact hs.holds
    · rw [hnew]
      exact hs.holds.create key
  · obtain ⟨hp, hc⟩ := hs.links_known l hl
    exact ⟨hknown l.1 hp, hknown l.2 hc⟩
  · by_cases hm : m = n
    · simp only [perform, hm, Function.update_self]
      rw [Pass.errorMessage_perform]
      exact hs.message n
    · simp only [perform, Function.update_of_ne hm]
      exact hs.message m

theorem Sound.fail {s : Survey} (hs : s.Sound) (n : Nat) (message : String) :
    (s.perform (.fail n message)).Sound := by
  refine ⟨fun m => ?_, hs.holds, hs.links_known, fun m => ?_⟩
  · by_cases hm : m = n
    · simp only [Survey.pass, perform, hm, Function.update_self]
      -- a message touches neither the table nor the order
      obtain ⟨hgenuine, hstep, hknown, hreturned⟩ := hs.pass n
      exact ⟨hgenuine, ⟨hstep.nodup, hstep.mem_order, hstep.identity_eq, hstep.entries_eq⟩, hknown,
        hreturned⟩
    · simp only [Survey.pass, perform, Function.update_of_ne hm]
      exact hs.pass m
  · by_cases hm : m = n
    · simp only [perform, hm, Function.update_self, List.getLast?_append]
      rfl
    · simp only [perform, Function.update_of_ne hm]
      exact hs.message m

theorem Sound.mark {s : Survey} (hs : s.Sound) (step : Step) :
    Sound { s with
      graph := step.mark s.known s.graph, links := s.links ++ step.links s.known } where
  pass m := (hs.pass m).widen (hs.genuine.of_size (step.size_mark s.known s.graph)) fun _ hh => hh
  holds := Step.holds_mark hs.holds hs.genuine.lt_size step
  links_known l hl := by
    rcases List.mem_append.mp hl with hold | hnew
    · exact hs.links_known l hold
    · exact Step.links_known hnew
  message := hs.message

theorem Sound.perform {s : Survey} (hs : s.Sound) (step : Step) : (s.perform step).Sound := by
  cases step with
  | act n act => exact hs.act n act
  | fail n message => exact hs.fail n message
  | parent | child | parents | children | metrics | properties | events => exact hs.mark _

theorem sound_after (steps : List Step) : (after steps).Sound := by
  suffices h : ∀ s : Survey, s.Sound → (steps.foldl Survey.perform s).Sound from h {} sound_begin
  induction steps with
  | nil => exact fun s hs => hs
  | cons step steps ih => exact fun s hs => ih _ (hs.perform step)

/-! ## The edges of a survey -/

/-- The edge sets of all instances against the edges that were asked for. -/
structure EdgesKept (s : Survey) : Prop where
  /-- The children of an instance are the far ends of its edges, each identity once, in increasing
      order and with its latest key. -/
  children : ∀ h, Lists s.links h (latestKey? s.links h) (s.graph.children h)
  /-- So are its parents, over the same edges taken the other way round. -/
  parents : ∀ h, Lists (s.links.map Prod.swap) h (latestKey? (s.links.map Prod.swap) h)
    (s.graph.parents h)
  /-- Where no two instances share an identity, every edge is seen at both of its ends. -/
  mutual_iff :
    (∀ h ∈ s.known, ∀ h' ∈ s.known, h.identity = h'.identity → h.sameInstance h' = true) →
    ∀ p ∈ s.known, ∀ c ∈ s.known, c.key ∈ s.graph.children p ↔ p.key ∈ s.graph.parents c

/-- **Edges are kept as they were made.**  This is so after every sequence of steps. -/
theorem edgesKept (steps : List Step) : (after steps).EdgesKept := by
  have hs := sound_after steps
  refine ⟨hs.holds.lists_children, hs.holds.lists_parents, fun hdistinct p hp c hc => ?_⟩
  -- handles of one identity denote one instance, and two that are known are then the same
  have hsame : ∀ h ∈ (after steps).known, ∀ h' ∈ (after steps).known,
      h.sameInstance h' = true → h = h' :=
    fun h hh h' hh' hsame => hs.genuine.eq_of_id h hh h' hh' (eq_of_beq hsame)
  have hone : ∀ h ∈ (after steps).known, ∀ h' ∈ (after steps).known,
      h.identity = h'.identity → h = h' :=
    fun h hh h' hh' hidentity => hsame h hh h' hh' (hdistinct h hh h' hh' hidentity)
  rw [(hs.holds.lists_children p).key_mem_iff fun l hl => hone _ (hs.links_known l hl).2 c hc,
    (hs.holds.lists_parents c).key_mem_iff ?_]
  · constructor
    · rintro ⟨l, hl, hp', rfl⟩
      exact ⟨l.swap, List.mem_map_of_mem hl, BEq.refl _, hsame _ (hs.links_known l hl).1 p hp hp'⟩
    · rintro ⟨l, hl, hc', rfl⟩
      obtain ⟨l, hlink, rfl⟩ := List.mem_map.mp hl
      exact ⟨l, hlink, BEq.refl _, hsame _ (hs.links_known l hlink).2 c hc hc'⟩
  · intro l hl
    obtain ⟨l, hlink, rfl⟩ := List.mem_map.mp hl
    exact hone _ (hs.links_known l hlink).1 p hp

end Survey
end AdapterGateway.Inventory
