import AdapterGateway.Fault
import AdapterGateway.Inventory.Sample
/-!
# Events

Something that happened to a monitored object. The optional parts are left out of the written form
while they are not set, and what is left out reads as not set.
-/
namespace AdapterGateway.Inventory
open Json

/-- How serious an event is. -/
inductive Criticality where
  | none
  | info
  | warning
  | immediate
  | critical
  | automatic
deriving DecidableEq, Repr

namespace Criticality

def level : Criticality → Nat
  | .none => 0
  | .info => 1
  | .warning => 2
  | .immediate => 3
  | .critical => 4
  | .automatic => 5

def ofLevel? : Nat → Option Criticality
  | 0 => some .none
  | 1 => some .info
  | 2 => some .warning
  | 3 => some .immediate
  | 4 => some .critical
  | 5 => some .automatic
  | _ => Option.none

def name : Criticality → String
  | .none => "None"
  | .info => "Info"
  | .warning => "Warning"
  | .immediate => "Immediate"
  | .critical => "Critical"
  | .automatic => "Automatic"

def read : Reader Criticality := fun t => do
  let level ← asNatBelow 256 "u8" t
  match ofLevel? level with
  | some c => return c
  | Option.none => throw (.unknownCriticality level)

def toJson (c : Criticality) : Value := .integer c.level

end Criticality

/-- A number of collections that is not zero. -/
structure Cycles where
  count : UInt32
  positive : count ≠ 0
deriving DecidableEq, Repr

namespace Cycles

def one : Cycles := ⟨1, by decide⟩

def three : Cycles := ⟨3, by decide⟩

def ofCount? (count : UInt32) : Option Cycles :=
  if h : count ≠ 0 then some ⟨count, h⟩ else none

def read : Reader Cycles := fun t => do
  let n ← asNatBelow UInt32.size "a nonzero u32" t
  match ofCount? (UInt32.ofNat n) with
  | some c => return c
  | none => throw (.wrongValue (.integer n) "a nonzero u32")

def toJson (c : Cycles) : Value := .integer c.count.toNat

end Cycles

/-- An event on a monitored object. -/
structure Event where
  message : String
  criticality : Criticality
  faultKey : Option String := none
  autoCancel : Bool := true
  startDate : Option Int64 := none
  updateDate : Option Int64 := none
  cancelDate : Option Int64 := none
  /-- Collections that must show the event before it is reported. -/
  watchWaitCycle : Cycles := .one
  /-- Collections that must lack the event before it is withdrawn. -/
  cancelWaitCycle : Cycles := .three
deriving DecidableEq, Repr

namespace Event

/-- Sets both wait cycles; neither may be zero. -/
def withWaitCycles (e : Event) (watch cancel : UInt32) : Except Fault Event :=
  match Cycles.ofCount? watch with
  | none => .error (.invalidValue "watch_wait_cycle must be >= 1")
  | some watch => match Cycles.ofCount? cancel with
    | none => .error (.invalidValue "cancel_wait_cycle must be >= 1")
    | some cancel => .ok { e with watchWaitCycle := watch, cancelWaitCycle := cancel }

/-- A change of an event. -/
inductive Change where
  | faultKey (key : String)
  | autoCancel (flag : Bool)
  | startDate (time : Int64)
  | updateDate (time : Int64)
  | cancelDate (time : Int64)
  | watchWaitCycle (cycles : Cycles)
  | cancelWaitCycle (cycles : Cycles)
  | waitCycles (watch cancel : UInt32)
deriving DecidableEq, Repr

def change (e : Event) : Change → Except Fault Event
  | .faultKey key => .ok { e with faultKey := some key }
  | .autoCancel flag => .ok { e with autoCancel := flag }
  | .startDate time => .ok { e with startDate := some time }
  | .updateDate time => .ok { e with updateDate := some time }
  | .cancelDate time => .ok { e with cancelDate := some time }
  | .watchWaitCycle cycles => .ok { e with watchWaitCycle := cycles }
  | .cancelWaitCycle cycles => .ok { e with cancelWaitCycle := cycles }
  | .waitCycles watch cancel => e.withWaitCycles watch cancel

/-- Makes the changes that can be made, in order. -/
def changeAll (e : Event) (changes : List Change) : Event :=
  changes.foldl (fun e c => match e.change c with | .ok e => e | .error _ => e) e

/-- The fields of an event. -/
inductive Part where
  | message
  | criticality
  | faultKey
  | autoCancel
  | startDate
  | updateDate
  | cancelDate
  | watchWaitCycle
  | cancelWaitCycle
deriving DecidableEq, Repr

abbrev Part.Ty : Part → Type
  | .message => String
  | .criticality => Criticality
  | .faultKey => Option String
  | .autoCancel => Bool
  | .startDate | .updateDate | .cancelDate => Option Int64
  | .watchWaitCycle | .cancelWaitCycle => Cycles

/-- Events as records. Only the message must be present. -/
def record : Record Part Part.Ty where
  name := "Event"
  order := [.message, .criticality, .faultKey, .autoCancel, .startDate, .updateDate, .cancelDate,
    .watchWaitCycle, .cancelWaitCycle]
  field
    | .message => required "message" asString .string
    | .criticality => defaulted "criticality" Criticality.read Criticality.toJson .none
    | .faultKey => omittable "faultKey" asString .string
    | .autoCancel => defaulted "autoCancel" asBool .bool true
    | .startDate => omittable "startDate" asInt64 int64Json
    | .updateDate => omittable "updateDate" asInt64 int64Json
    | .cancelDate => omittable "cancelDate" asInt64 int64Json
    | .watchWaitCycle => defaulted "watchWaitCycle" Cycles.read Cycles.toJson .one
    | .cancelWaitCycle => defaulted "cancelWaitCycle" Cycles.read Cycles.toJson .three

def toRow (e : Event) : Row Part.Ty
  | .message => e.message
  | .criticality => e.criticality
  | .faultKey => e.faultKey
  | .autoCancel => e.autoCancel
  | .startDate => e.startDate
  | .updateDate => e.updateDate
  | .cancelDate => e.cancelDate
  | .watchWaitCycle => e.watchWaitCycle
  | .cancelWaitCycle => e.cancelWaitCycle

def ofRow (row : Row Part.Ty) : Event where
  message := row .message
  criticality := row .criticality
  faultKey := row .faultKey
  autoCancel := row .autoCancel
  startDate := row .startDate
  updateDate := row .updateDate
  cancelDate := row .cancelDate
  watchWaitCycle := row .watchWaitCycle
  cancelWaitCycle := row .cancelWaitCycle

def read : Reader Event := fun t =>
  (record.read (by intro f; cases f <;> decide) t).map ofRow

def toJson (e : Event) : Value := record.write e.toRow

end Event
end AdapterGateway.Inventory
