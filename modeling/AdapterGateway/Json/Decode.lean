import AdapterGateway.Json.Reader
import AdapterGateway.Json.Value
import AdapterGateway.Text.Quoted
/-!
# Typed reading of JSON

Readers from syntax trees to values of given types, and the errors they report. A reader looks at a
tree from left to right and stops at the first thing that is wrong.
-/
namespace AdapterGateway.Json
open AdapterGateway.Decimal AdapterGateway.Text

/-- What stands where something else was expected. -/
inductive Found where
  | null
  | boolean (b : Bool)
  | integer (i : Int)
  | real (x : Binary64)
  | string (s : String)
  | map
  | sequence
deriving DecidableEq, Repr

def Found.text : Found → String
  | .null => "null"
  | .boolean b => "boolean `" ++ (if b then "true" else "false") ++ "`"
  | .integer i => "integer `" ++ toString i ++ "`"
  | .real x => "floating point `" ++ realText x ++ "`"
  | .string s => "string " ++ quoted s
  | .map => "map"
  | .sequence => "sequence"

/-- Why a text is not the typed value it should be. -/
inductive DecodeError where
  /-- The text is not JSON, or JSON beyond what is read. -/
  | malformed
  | wrongType (found : Found) (expected : String)
  | wrongValue (found : Found) (expected : String)
  | missingField (name : String)
  | duplicateField (name : String)
  /-- A list stands for a record and stops before the field with the given number. -/
  | wrongLength (length : Nat) (record : String) (size : Nat)
  | unknownVariant (name : String) (known : List String)
  /-- The bare name of a variant that has content. -/
  | bareVariant
  | unknownCriticality (level : Nat)
  /-- None of the members names a variant. -/
  | noVariant (type : String)
deriving DecidableEq, Repr

def alternatives : List String → String
  | [a, b] => "expected `" ++ a ++ "` or `" ++ b ++ "`"
  | [a] => "expected `" ++ a ++ "`"
  | names => "expected one of " ++ String.intercalate ", " (names.map fun n => "`" ++ n ++ "`")

/-- Stands for what the JSON library says of a slip in the syntax. It has its own words for each kind of
slip, and these are not told apart here. -/
def slipText : String := "<json syntax>"

/-- The text of an error, without the place where it was found. -/
def DecodeError.message : DecodeError → String
  | .malformed => slipText
  | .wrongType found expected => "invalid type: " ++ found.text ++ ", expected " ++ expected
  | .wrongValue found expected => "invalid value: " ++ found.text ++ ", expected " ++ expected
  | .missingField name => "missing field `" ++ name ++ "`"
  | .duplicateField name => "duplicate field `" ++ name ++ "`"
  | .wrongLength length record size =>
    "invalid length " ++ toString length ++ ", expected " ++ record ++ " with " ++ toString size ++
      (if size = 1 then " element" else " elements")
  | .unknownVariant name known => "unknown variant `" ++ name ++ "`, " ++ alternatives known
  | .bareVariant => "invalid type: unit variant, expected newtype variant"
  | .unknownCriticality level => "invalid criticality " ++ toString level
  | .noVariant type => "no variant of enum " ++ type ++ " found in flattened data"

abbrev Reader (α : Type) := Tree → Except DecodeError α

/-- What a tree is, if its own text is in order. -/
def Tree.found? : Tree → Option Found
  | .null => some .null
  | .bool b => some (.boolean b)
  | .number (.integer i) => some (.integer i)
  | .number (.real x) => some (.real x)
  | .number .tooLarge => none
  | .string s => s.map .string
  | .list _ _ => some .sequence
  | .object _ _ => some .map
  | .deep true _ => some .sequence
  | .deep false _ => some .map
  | .broken => none

/-- Refuses a tree that is not of the expected type. -/
def Tree.refuse {α : Type} (expected : String) (t : Tree) : Except DecodeError α :=
  match t.found? with
  | some found => .error (.wrongType found expected)
  | none => .error .malformed

/-- Reads past a value of any type, which only has to be well-formed. -/
def skip : Reader Unit
  | .list _ .broken | .object _ .broken | .deep _ .broken | .broken => .error .malformed
  | _ => .ok ()

def asString : Reader String
  | .string (some s) => .ok s
  | t => t.refuse "a string"

def asPath : Reader String
  | .string (some s) => .ok s
  | t => t.refuse "path string"

def asBool : Reader Bool
  | .bool b => .ok b
  | t => t.refuse "a boolean"

def asIntegerIn (low high : Int) (expected : String) : Reader Int
  | .number (.integer i) =>
    if low ≤ i ∧ i ≤ high then .ok i else .error (.wrongValue (.integer i) expected)
  | t => t.refuse expected

def asNatBelow (bound : Nat) (expected : String) : Reader Nat := fun t =>
  (asIntegerIn 0 (bound - 1) expected t).map Int.toNat

def asReal : Reader Binary64
  | .number (.integer i) => .ok (Binary64.ofInt i)
  | .number (.real x) => .ok x
  | t => t.refuse "f64"

def asOptional {α : Type} (read : Reader α) : Reader (Option α)
  | .null => .ok none
  | t => (read t).map some

def readItems {α : Type} (read : Reader α) : List Tree → Except DecodeError (List α)
  | [] => .ok []
  | t :: rest => do
    let item ← read t
    let items ← readItems read rest
    return item :: items

def Ending.check : Ending → Except DecodeError Unit
  | .broken => .error .malformed
  | _ => .ok ()

def asList {α : Type} (read : Reader α) : Reader (List α)
  | .list items ending => do
    let values ← readItems read items
    ending.check
    return values
  | .deep true _ => .error .malformed
  | t => t.refuse "a sequence"

def asName : Spelling → Except DecodeError String
  | some s => .ok s
  | none => .error .malformed

/-- Reads the members of an object whose names do not matter in advance. -/
def readMembers {α : Type} (read : Reader α) :
    List (Spelling × Tree) → Except DecodeError (List (String × α))
  | [] => .ok []
  | (name, t) :: rest => do
    let name ← asName name
    let value ← read t
    let members ← readMembers read rest
    return (name, value) :: members

/-- Reads an object as a dictionary; of several members with one name the last counts. -/
def asDictionary {α : Type} (read : Reader α) : Reader (Dictionary String α)
  | .object members ending => do
    let pairs ← readMembers read members
    ending.check
    return Dictionary.ofList pairs
  | .deep false _ => .error .malformed
  | t => t.refuse "a map"

mutual

def asValue : Reader Value
  | .null => .ok .null
  | .bool b => .ok (.bool b)
  | .number (.integer i) => .ok (.integer i)
  | .number (.real x) => .ok (.real x)
  | .number .tooLarge => .error .malformed
  | .string (some s) => .ok (.string s)
  | .string none => .error .malformed
  | .list items ending => do
    let values ← asValues items
    ending.check
    return .list values
  | .object members ending => do
    let values ← asMembers members
    ending.check
    return .object values
  | .deep _ _ => .error .malformed
  | .broken => .error .malformed

def asValues : List Tree → Except DecodeError (List Value)
  | [] => .ok []
  | t :: rest => do
    let v ← asValue t
    let vs ← asValues rest
    return v :: vs

def asMembers : List (Spelling × Tree) → Except DecodeError (List (String × Value))
  | [] => .ok []
  | (name, t) :: rest => do
    let name ← asName name
    let v ← asValue t
    let vs ← asMembers rest
    return (name, v) :: vs

end

/-- Reads any document and puts its members into canonical order. -/
def asDocument : Reader Value := fun t => (asValue t).map Value.canonical

/-- One variant of a choice: its name, and how its content is read or its bare name answered. -/
structure Variant (α : Type) where
  name : String
  read : Reader α
  bare : Except DecodeError α

def findVariant {α : Type} (variants : List (Variant α)) (name : String) :
    Except DecodeError (Variant α) :=
  match variants.find? (·.name == name) with
  | some v => .ok v
  | none => .error (.unknownVariant name (variants.map (·.name)))

/-- Reads a choice: the bare name of a variant, or an object whose one member names it. -/
def asVariant {α : Type} (variants : List (Variant α)) : Reader α
  | .string (some s) => do (← findVariant variants s).bare
  | .object ((name, content) :: rest) ending => do
    let variant ← findVariant variants (← asName name)
    let value ← variant.read content
    if rest.isEmpty && ending != .broken then return value else throw .malformed
  | _ => .error .malformed

/-- A variant without content. Its body, where one is written, is empty. -/
def emptyVariant {α : Type} (name : String) (value : α) : Variant α where
  name
  read
    | .null | .list [] .lax | .object [] .lax => .ok value
    | t => t.refuse "unit"
  bare := .ok value

def fullVariant {α : Type} (name : String) (read : Reader α) : Variant α where
  name
  read
  bare := .error .bareVariant

/-- Reads a whole text: nothing but blanks may follow the value. -/
def decode {α : Type} (read : Reader α) (octets : Octets) : Except DecodeError α :=
  let document := Document.ofOctets octets
  match read document.root with
  | .ok value => if document.complete then .ok value else .error .malformed
  | .error e => .error e

/-- The document that a text holds, its members in canonical order. -/
def parse (octets : Octets) : Except DecodeError Value := decode asDocument octets

end AdapterGateway.Json
