import AdapterGateway.Inventory.Graph
import AdapterGateway.Proofs.Inventory.Report

/-!
# Samples

Metrics, properties and events, in one list and in the order in which they were added.  The logs of an
instance are that list taken apart by kind, and the document of the instance shows them with its key.
Edges change no log.
-/

namespace AdapterGateway.Inventory

open Json

/-- Something that an instance collects. -/
inductive Sample where
  | metric (m : Metric)
  | property (p : Property)
  | event (e : Event)

namespace Sample

@[simp] def metric? : Sample → Option Metric
  | metric m => some m
  | property _ | event _ => none

@[simp] def property? : Sample → Option Property
  | property p => some p
  | metric _ | event _ => none

@[simp] def event? : Sample → Option Event
  | event e => some e
  | metric _ | property _ => none

end Sample

namespace Contents

variable {c : Contents} {samples : List Sample}

/-- Adds samples of any kind, one after the other. -/
def collect (c : Contents) (samples : List Sample) : Contents :=
  { c with
    metrics := c.metrics ++ samples.filterMap Sample.metric?
    properties := c.properties ++ samples.filterMap Sample.property?
    events := c.events ++ samples.filterMap Sample.event? }

/-- What is collected are these samples and no others. -/
structure Collects (c : Contents) (samples : List Sample) : Prop where
  metrics_eq : c.metrics = samples.filterMap Sample.metric?
  properties_eq : c.properties = samples.filterMap Sample.property?
  events_eq : c.events = samples.filterMap Sample.event?

theorem Collects.collect (hc : c.Collects samples) (more : List Sample) :
    (c.collect more).Collects (samples ++ more) where
  metrics_eq := by rw [Contents.collect, List.filterMap_append, ← hc.metrics_eq]
  properties_eq := by rw [Contents.collect, List.filterMap_append, ← hc.properties_eq]
  events_eq := by rw [Contents.collect, List.filterMap_append, ← hc.events_eq]

theorem collect_metrics (c : Contents) (ms : List Metric) :
    c.collect (ms.map .metric) = { c with metrics := c.metrics ++ ms } := by
  simp [Contents.collect, List.filterMap_map, Function.comp_def]

theorem collect_properties (c : Contents) (ps : List Property) :
    c.collect (ps.map .property) = { c with properties := c.properties ++ ps } := by
  simp [Contents.collect, List.filterMap_map, Function.comp_def]

theorem collect_events (c : Contents) (es : List Event) :
    c.collect (es.map .event) = { c with events := c.events ++ es } := by
  simp [Contents.collect, List.filterMap_map, Function.comp_def]

end Contents

namespace Graph

variable {g : Graph} {h x : Handle} {samples : List Sample}

/-- What changes no log leaves all instances with the samples that they have. -/
theorem collects_modify {f : Contents → Contents}
    (hf : ∀ c : Contents, c.Collects samples → (f c).Collects samples)
    (hx : (g.look x).Collects samples) : ((g.modify h f).look x).Collects samples := by
  rw [look_eq] at hx ⊢
  rw [modify, Array.getElem?_modify]
  split
  · cases hat : g.contents[x.id]? with
    | none =>
      rw [hat] at hx
      exact hx
    | some c =>
      rw [hat] at hx
      exact hf c hx
  · exact hx

theorem collects_foldl_link {links : List (Handle × Handle)} (hx : (g.look x).Collects samples) :
    ((links.foldl (fun g l => g.link l.2 l.1) g).look x).Collects samples := by
  induction links generalizing g with
  | nil => exact hx
  | cons l links ih =>
    apply ih
    -- either end of an edge keeps its logs
    refine collects_modify (fun c hc => ⟨hc.metrics_eq, hc.properties_eq, hc.events_eq⟩) ?_
    exact collects_modify (fun c hc => ⟨hc.metrics_eq, hc.properties_eq, hc.events_eq⟩) hx

/-- The document of an instance with this key and these samples. -/
def shown (key : Key) (samples : List Sample) : Value :=
  .object [
    ("events", .list ((samples.filterMap Sample.event?).map fun e => e.toJson.canonical)),
    ("key", key.wire),
    ("metrics", .list ((samples.filterMap Sample.metric?).map fun m => m.toJson.canonical)),
    ("properties", .list ((samples.filterMap Sample.property?).map fun p => p.toJson.canonical))]

end Graph

/-! ## Records -/

/-- What was added to the instance of `h`, through any of its handles. -/
def samplesOf (records : List (Handle × Sample)) (h : Handle) : List Sample :=
  (records.filter (·.1.sameInstance h)).map (·.2)

theorem samplesOf_append (records more : List (Handle × Sample)) (h : Handle) :
    samplesOf (records ++ more) h = samplesOf records h ++ samplesOf more h := by
  unfold samplesOf
  rw [List.filter_append, List.map_append]

/-- What is added through one handle is added to its instance and to no other. -/
theorem samplesOf_map (h x : Handle) (samples : List Sample) :
    samplesOf (samples.map fun s => (h, s)) x = if h.sameInstance x then samples else [] := by
  unfold samplesOf
  rw [List.filter_map, List.map_map]
  by_cases hsame : h.sameInstance x = true <;> simp [Function.comp_def, hsame]

end AdapterGateway.Inventory
