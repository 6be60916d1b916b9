import AdapterGateway.Json.Record
/-!
# Samples

Data points of monitored objects. A metric is a number in a time series; a property is a text or a
number that seldom changes. Times are milliseconds since the epoch.
-/
namespace AdapterGateway.Inventory
open Json Decimal

def asInt64 : Reader Int64 := fun t =>
  (asIntegerIn Int64.minValue.toInt Int64.maxValue.toInt "i64" t).map Int64.ofInt

def int64Json (n : Int64) : Value := .integer n.toInt

/-- A numeric data point. -/
structure Metric where
  key : String
  value : Binary64
  timestamp : Int64
deriving DecidableEq, Repr

namespace Metric

/-- The fields of a metric. -/
inductive Part where
  | key
  | value
  | timestamp
deriving DecidableEq, Repr

abbrev Part.Ty : Part → Type
  | .key => String
  | .value => Binary64
  | .timestamp => Int64

def record : Record Part Part.Ty where
  name := "Metric"
  order := [.key, .value, .timestamp]
  field
    | .key => required "key" asString .string
    | .value => required "numberValue" asReal .real
    | .timestamp => required "timestamp" asInt64 int64Json

def read : Reader Metric := fun t => do
  let row ← record.read (by intro f; cases f <;> decide) t
  return ⟨row .key, row .value, row .timestamp⟩

def toJson (m : Metric) : Value :=
  record.write fun
    | .key => m.key
    | .value => m.value
    | .timestamp => m.timestamp

end Metric

/-- The value of a property. -/
inductive PropertyValue where
  | text (s : String)
  | number (x : Binary64)
deriving DecidableEq, Repr

namespace PropertyValue

def textLabel : String := "stringValue"

def numberLabel : String := "numberValue"

/-- The text, if the value is one. -/
def text? : PropertyValue → Option String
  | .text s => some s
  | .number _ => none

def number? : PropertyValue → Option Binary64
  | .text _ => none
  | .number x => some x

/-- The two variants, each with how its content is read. -/
def variants : List (Variant PropertyValue) :=
  [fullVariant textLabel fun t => (asString t).map .text,
   fullVariant numberLabel fun t => (asReal t).map .number]

def read : Reader PropertyValue := asVariant variants

/-- The one member that a value is written as. -/
def member : PropertyValue → String × Value
  | .text s => (textLabel, .string s)
  | .number x => (numberLabel, .real x)

def toJson (v : PropertyValue) : Value := .object [v.member]

end PropertyValue

/-- A value that changes seldom. -/
structure Property where
  key : String
  value : PropertyValue
  timestamp : Int64
deriving DecidableEq, Repr

namespace Property

/-- What the members of a property object have said so far. The members without a fixed meaning are
kept in order: the value is one of them. -/
structure Members where
  key : Option String := none
  timestamp : Option Int64 := none
  others : List (String × Tree) := []

/-- Reads the members of a property object. Since the value is found only at the end, every member
without a fixed meaning has to be a document in order. -/
def readMembers (seen : Members) : List (Spelling × Tree) → Except DecodeError Members
  | [] => .ok seen
  | (name, t) :: rest => do
    let name ← asName name
    if name = "key" then
      if seen.key.isSome then throw (.duplicateField "key")
      let key ← asString t
      readMembers { seen with key := some key } rest
    else if name = "timestamp" then
      if seen.timestamp.isSome then throw (.duplicateField "timestamp")
      let timestamp ← asInt64 t
      readMembers { seen with timestamp := some timestamp } rest
    else
      let _ ← asValue t
      readMembers { seen with others := seen.others ++ [(name, t)] } rest

/-- The value among the members without a fixed meaning: the first that names a variant. -/
def readValue : List (String × Tree) → Except DecodeError PropertyValue
  | [] => .error (.noVariant "PropertyValue")
  | (name, t) :: rest =>
    match PropertyValue.variants.find? (·.name == name) with
    | some variant => variant.read t
    | none => readValue rest

/-- Reads a property. Its value stands among its members and not in one of its own, so that a list
cannot hold it. -/
def read : Reader Property
  | .object members ending => do
    let seen ← readMembers {} members
    ending.check
    let key ← match seen.key with
      | some key => pure key
      | none => throw (.missingField "key")
    let timestamp ← match seen.timestamp with
      | some timestamp => pure timestamp
      | none => throw (.missingField "timestamp")
    let value ← readValue seen.others
    return ⟨key, value, timestamp⟩
  | .deep false _ => .error .malformed
  | t => t.refuse "struct Property"

def toJson (p : Property) : Value :=
  .object [("key", .string p.key), p.value.member, ("timestamp", int64Json p.timestamp)]

end Property
end AdapterGateway.Inventory
