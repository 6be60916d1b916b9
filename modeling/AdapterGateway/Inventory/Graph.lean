import AdapterGateway.Inventory.Event
import AdapterGateway.Inventory.Key
/-!
# The object graph

Monitored objects are instances with a fixed key, growing logs of metrics, properties and events,
and edges to their parents and children. A handle denotes one instance and knows its key; copies of
a handle denote the same instance. Edges hold keys and not instances, so that cycles are harmless.
-/
namespace AdapterGateway.Inventory
open Json

/-- What an instance has collected. -/
structure Contents where
  metrics : List Metric := []
  properties : List Property := []
  events : List Event := []
  parents : Dictionary Identity Key := ∅
  children : Dictionary Identity Key := ∅
deriving Inhabited

namespace Contents

/-- Whether a metric, a property or an event was recorded. -/
def isRecorded (c : Contents) : Bool :=
  !(c.metrics.isEmpty && c.properties.isEmpty && c.events.isEmpty)

def metricsOf (c : Contents) (key : String) : List Metric := c.metrics.filter (·.key == key)

/-- The properties of one key, in the order in which they were added. -/
def propertiesOf (c : Contents) (key : String) : List Property :=
  c.properties.filter (·.key == key)

/-- The values of one property from the oldest to the latest; those of one time in the order in
which they were added. -/
def propertyValues (c : Contents) (key : String) : List PropertyValue :=
  ((c.propertiesOf key).mergeSort fun p q => decide (p.timestamp ≤ q.timestamp)).map (·.value)

def lastPropertyValue? (c : Contents) (key : String) : Option PropertyValue :=
  (c.propertyValues key).getLast?

end Contents

/-- A reference to one instance. -/
structure Handle where
  id : Nat
  key : Key
deriving DecidableEq

namespace Handle

/-- Whether both handles denote the same instance. -/
def sameInstance (a b : Handle) : Bool := a.id == b.id

def identity (h : Handle) : Identity := h.key.identity

end Handle

/-- All instances of a program run, by number. -/
structure Graph where
  contents : Array Contents := #[]
deriving Inhabited

namespace Graph

def create (g : Graph) (key : Key) : Handle × Graph :=
  (⟨g.contents.size, key⟩, ⟨g.contents.push {}⟩)

def look (g : Graph) (h : Handle) : Contents := g.contents.getD h.id {}

def modify (g : Graph) (h : Handle) (f : Contents → Contents) : Graph :=
  ⟨g.contents.modify h.id f⟩

theorem look_eq (g : Graph) (h : Handle) : g.look h = g.contents[h.id]?.getD {} :=
  Array.getD_eq_getD_getElem? ..

/-- A new instance has collected nothing, like one that is not there. -/
theorem look_create (g : Graph) (key : Key) (h : Handle) : (g.create key).2.look h = g.look h := by
  rw [look_eq, look_eq, create, Array.getElem?_push]
  split
  · rename_i heq
    rw [heq, Array.getElem?_eq_none (Nat.le_refl _)]
    rfl
  · rfl

theorem size_modify (g : Graph) (h : Handle) (f : Contents → Contents) :
    (g.modify h f).contents.size = g.contents.size := Array.size_modify

/-- To change one instance changes no other. -/
theorem look_modify {g : Graph} {h : Handle} (hlt : h.id < g.contents.size)
    (f : Contents → Contents) (x : Handle) :
    (g.modify h f).look x = if h.sameInstance x then f (g.look x) else g.look x := by
  rw [look_eq, look_eq, modify, Array.getElem?_modify]
  by_cases heq : h.id = x.id
  · have hsame : h.sameInstance x = true := by simpa [Handle.sameInstance] using heq
    rw [if_pos heq, if_pos hsame, ← heq, Array.getElem?_eq_getElem hlt]
    rfl
  · have hother : ¬ h.sameInstance x = true := by simpa [Handle.sameInstance] using heq
    rw [if_neg heq, if_neg hother]

def addMetrics (g : Graph) (h : Handle) (metrics : List Metric) : Graph :=
  g.modify h fun c => { c with metrics := c.metrics ++ metrics }

def addProperties (g : Graph) (h : Handle) (properties : List Property) : Graph :=
  g.modify h fun c => { c with properties := c.properties ++ properties }

def addEvents (g : Graph) (h : Handle) (events : List Event) : Graph :=
  g.modify h fun c => { c with events := c.events ++ events }

/-- Makes `parent` a parent of `child` and `child` a child of `parent`. -/
def link (g : Graph) (child parent : Handle) : Graph :=
  (g.modify child fun c => { c with parents := c.parents.insert parent.identity parent.key }).modify
    parent fun c => { c with children := c.children.insert child.identity child.key }

/-- Makes each of `parents` a parent of `child`, in order. -/
def linkParents (g : Graph) (child : Handle) (parents : List Handle) : Graph :=
  parents.foldl (fun g parent => g.link child parent) g

/-- Makes each of `children` a child of `parent`, in order. -/
def linkChildren (g : Graph) (parent : Handle) (children : List Handle) : Graph :=
  children.foldl (fun g child => g.link child parent) g

/-- The keys of the parents of an instance, in the order of their identities. -/
def parents (g : Graph) (h : Handle) : List Key := (g.look h).parents.values

/-- The keys of the children of an instance, in the order of their identities. -/
def children (g : Graph) (h : Handle) : List Key := (g.look h).children.values

def hasChildren (g : Graph) (h : Handle) : Bool := !(g.look h).children.isEmpty

/-- An instance inside a result document, members in the order of their names. -/
def wire (g : Graph) (h : Handle) : Value :=
  let c := g.look h
  Value.canonical (.object [
    ("key", h.key.wire),
    ("metrics", .list (c.metrics.map Metric.toJson)),
    ("properties", .list (c.properties.map Property.toJson)),
    ("events", .list (c.events.map Event.toJson))])

end Graph
end AdapterGateway.Inventory
