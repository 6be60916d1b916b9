import AdapterGateway.Json.Tree
/-!
# TOML documents

A document is a table of tables. Tables come into being in three ways: under their own header, as a
stop on the way to another header, and through dotted keys; what may be added to a table later
depends on its origin, so that no table is defined twice.
-/
namespace AdapterGateway.Toml

/-- How a table came into being. -/
inductive Origin where
  /-- Under its own header, or as the document itself. -/
  | header
  /-- On the way to a header. -/
  | passed
  /-- By a dotted key. -/
  | dotted
deriving DecidableEq, Repr

/-- A value, a table or a list of tables. -/
inductive Node where
  | string (s : String)
  | integer (i : Int)
  | real (x : Decimal.Binary64)
  | bool (b : Bool)
  /-- A date, a time or both, in their normal form. -/
  | time (text : String)
  | array (items : List Node)
  /-- A table in braces; the flag tells whether a dotted key inside braces made it. -/
  | inline (dotted : Bool) (entries : List (String × Node))
  | table (origin : Origin) (entries : List (String × Node))
  /-- The tables under headers in double brackets, the latest first. -/
  | tables (items : List Node)
deriving Inhabited

/-- Changes the entry of the given name, or adds what becomes of nothing. Fails if the change
does. -/
def alter (name : String) (change : Option Node → Option Node) :
    List (String × Node) → Option (List (String × Node))
  | [] => (change none).map fun n => [(name, n)]
  | (key, n) :: rest =>
    if key = name then (change (some n)).map fun n => (key, n) :: rest
    else (alter name change rest).map ((key, n) :: ·)

/-- Changes the table at the end of a path of headers. Tables on the way are made where they are
missing; of a list of tables the latest is meant. -/
def descend (change : Node → Option Node) : List String → Node → Option Node
  | [], n => change n
  | key :: path, .table origin entries =>
    let step : Option Node → Option Node
      | none => descend change path (.table .passed [])
      | some (.table o es) => descend change path (.table o es)
      | some (.tables (latest :: earlier)) =>
        (descend change path latest).map fun n => .tables (n :: earlier)
      | some _ => none
    (alter key step entries).map (.table origin)
  | _ :: _, _ => none

/-- Opens the table under a header. It may have been passed before, but not opened or dotted. -/
def openTable (name : String) : Node → Option Node
  | .table origin entries =>
    let start : Option Node → Option Node
      | none => some (.table .header [])
      | some (.table .passed es) => some (.table .header es)
      | some _ => none
    (alter name start entries).map (.table origin)
  | _ => none

/-- Opens one more table under a header in double brackets. -/
def openElement (name : String) : Node → Option Node
  | .table origin entries =>
    let start : Option Node → Option Node
      | none => some (.tables [.table .header []])
      | some (.tables items) => some (.tables (.table .header [] :: items))
      | some _ => none
    (alter name start entries).map (.table origin)
  | _ => none

def addEntry (name : String) (value : Node) (entries : List (String × Node)) :
    Option (List (String × Node)) :=
  alter name (fun | none => some value | some _ => none) entries

/-- Assigns a value to a dotted key of a table. Only tables made by dotted keys are entered that
way, and they are not extended otherwise. -/
def assign (value : Node) : List String → Bool → Node → Option Node
  | [], _, _ => none
  | [name], entered, .table origin entries =>
    if (origin == .dotted) == entered then (addEntry name value entries).map (.table origin)
    else none
  | key :: path, _, .table origin entries =>
    let step : Option Node → Option Node
      | none => assign value path true (.table .dotted [])
      | some (.table .header _) => none
      | some (.table o es) => assign value path true (.table o es)
      | some (.tables (latest :: earlier)) =>
        (assign value path true latest).map fun n => .tables (n :: earlier)
      | some _ => none
    (alter key step entries).map (.table origin)
  | _, _, _ => none

/-- Assigns a value to a dotted key of a table in braces. -/
def assignInline (value : Node) : List String → Bool → Node → Option Node
  | [], _, _ => none
  | [name], entered, .inline dotted entries =>
    if dotted == entered then (addEntry name value entries).map (.inline dotted) else none
  | key :: path, _, .inline dotted entries =>
    let step : Option Node → Option Node
      | none => assignInline value path true (.inline true [])
      | some (.inline true es) => assignInline value path true (.inline true es)
      | some _ => none
    (alter key step entries).map (.inline dotted)
  | _, _, _ => none

/-- The name under which a time stands where a table is read. -/
def timeLabel : String := "$__toml_private_datetime"

open Json in
mutual

/-- What typed readers see of a document. Lists read as records may hold more than is asked for. -/
def Node.toTree : Node → Tree
  | .string s => .string (some s)
  | .integer i => .number (.integer i)
  | .real x => .number (.real x)
  | .bool b => .bool b
  | .time text => .object [(some timeLabel, .string (some text))] .lax
  | .array items => .list (itemTrees items) .lax
  | .inline _ entries => .object (entryTrees entries) .lax
  | .table _ entries => .object (entryTrees entries) .lax
  | .tables items => .list (itemTrees items).reverse .lax

def itemTrees : List Node → List Tree
  | [] => []
  | n :: rest => n.toTree :: itemTrees rest

def entryTrees : List (String × Node) → List (Spelling × Tree)
  | [] => []
  | (name, n) :: rest => (some name, n.toTree) :: entryTrees rest

end

end AdapterGateway.Toml
