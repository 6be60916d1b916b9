import AdapterGateway.Decimal.Shortest
import AdapterGateway.Dictionary
/-!
# JSON values

Documents as data, and their one text without spaces. `Value.canonical` orders the members of every
object by their names and keeps the last of several with one name: the form in which documents are
relayed and results are sent.
-/
namespace AdapterGateway.Json
open AdapterGateway.Decimal

/-- A JSON document. Objects list their members in the order in which they are written. -/
inductive Value where
  | null
  | bool (b : Bool)
  | integer (i : Int)
  | real (x : Binary64)
  | string (s : String)
  | list (items : List Value)
  | object (members : List (String × Value))
deriving Inhabited, BEq, Repr

/-- How `c` is written inside a JSON string. -/
def escapeChar (c : Char) : List Char :=
  if c = '"' then ['\\', '"']
  else if c = '\\' then ['\\', '\\']
  else if c.toNat < 0x20 then
    if c.toNat = 0x08 then ['\\', 'b']
    else if c = '\t' then ['\\', 't']
    else if c = '\n' then ['\\', 'n']
    else if c.toNat = 0x0C then ['\\', 'f']
    else if c = '\r' then ['\\', 'r']
    else ['\\', 'u', '0', '0', Nat.digitChar (c.toNat / 16), Nat.digitChar (c.toNat % 16)]
  else [c]

def stringText (s : String) : String :=
  String.ofList ('"' :: s.toList.flatMap escapeChar ++ ['"'])

/-- The text of a double. Infinities and not-a-numbers have no number text and are written as
null. -/
def realText (x : Binary64) : String := x.text?.getD "null"

mutual

def Value.text : Value → String
  | .null => "null"
  | .bool true => "true"
  | .bool false => "false"
  | .integer i => toString i
  | .real x => realText x
  | .string s => stringText s
  | .list items => "[" ++ String.intercalate "," (itemTexts items) ++ "]"
  | .object members => "\x7b" ++ String.intercalate "," (memberTexts members) ++ "\x7d"

def itemTexts : List Value → List String
  | [] => []
  | v :: rest => v.text :: itemTexts rest

def memberTexts : List (String × Value) → List String
  | [] => []
  | (name, v) :: rest => (stringText name ++ ":" ++ v.text) :: memberTexts rest

end

mutual

/-- The same document with members in increasing order of their names, each name once. A number
that has no text becomes null. -/
def Value.canonical : Value → Value
  | .real x => if x.isFinite then .real x else .null
  | .list items => .list (canonicalItems items)
  | .object members => .object (canonicalMembers members [])
  | v => v

/-- The canonical forms of several documents. -/
def canonicalItems : List Value → List Value
  | [] => []
  | v :: rest => v.canonical :: canonicalItems rest

/-- The canonical forms of members, put one after the other among those in `done`. -/
def canonicalMembers : List (String × Value) → List (String × Value) → List (String × Value)
  | [], done => done
  | (name, v) :: rest, done => canonicalMembers rest (insertEntry name v.canonical done)

end

end AdapterGateway.Json
