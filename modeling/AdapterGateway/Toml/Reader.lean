import AdapterGateway.Toml.Scalar
/-!
# Reading TOML

`Toml.parse?` reads a whole text as one document, line by line. It says nothing about what is wrong
with a text that is none.
-/
namespace AdapterGateway.Toml

/-- The number of nested brackets and braces that is too many. -/
def depthLimit : Nat := 80

def maxParts : Nat := 79

/-- The text behind a comment, if there is one. -/
def skipComment : List Char → List Char
  | '#' :: rest => rest.dropWhile isPlain
  | cs => cs

/-- The text behind blanks, comments and line ends. -/
def skipLayout : Nat → List Char → List Char
  | 0, cs => cs
  | fuel + 1, cs =>
    let cs := skipComment (skipWhite cs)
    match newline? cs with
    | some rest => skipLayout fuel rest
    | none => cs

def isBare (c : Char) : Bool := c.isAlphanum || c == '_' || c == '-'

def simpleKey (fuel : Nat) (cs : List Char) : Option (String × List Char) :=
  match cs with
  | '"' :: _ | '\'' :: _ => quotedString fuel cs
  | _ =>
    let name := cs.takeWhile isBare
    if name.isEmpty then none else some (String.ofList name, cs.dropWhile isBare)

/-- Takes a key off: at most so many parts, separated by dots and with blanks around them. -/
def key (fuel : Nat) : Nat → List Char → Option (List String × List Char)
  | 0, _ => none
  | parts + 1, cs => do
    let (first, rest) ← simpleKey fuel (skipWhite cs)
    match skipWhite rest with
    | '.' :: rest => do
      let (more, rest) ← key fuel parts rest
      some (first :: more, rest)
    | rest => some ([first], rest)

mutual

/-- Takes a value off. `depth` counts the brackets and braces around it. -/
def value (depth : Nat) : Nat → List Char → Option (Node × List Char)
  | 0, _ => none
  | fuel + 1, cs =>
    match cs with
    | [] => none
    | c :: rest =>
      if c = '"' ∨ c = '\'' then (anyString fuel cs).map fun (s, rest) => (.string s, rest)
      else if c = '[' then
        if depthLimit ≤ depth + 1 then none else array (depth + 1) fuel [] rest
      else if c = '\x7b' then
        if depthLimit ≤ depth + 1 then none
        else match skipWhite rest with
          | '\x7d' :: rest => some (.inline false [], rest)
          | rest => braces (depth + 1) fuel (.inline false []) rest
      else match cs with
        | 't' :: 'r' :: 'u' :: 'e' :: rest => some (.bool true, rest)
        | 'f' :: 'a' :: 'l' :: 's' :: 'e' :: rest => some (.bool false, rest)
        | _ => (time cs).or ((real cs).or (integer cs))

/-- Takes the elements of an array off, up to its closing bracket; `done` is reversed. -/
def array (depth : Nat) : Nat → List Node → List Char → Option (Node × List Char)
  | 0, _, _ => none
  | fuel + 1, done, cs =>
    match skipLayout fuel cs with
    | ']' :: rest => some (.array done.reverse, rest)
    | cs => do
      let (n, rest) ← value depth fuel cs
      match skipLayout fuel rest with
      | ',' :: rest => array depth fuel (n :: done) rest
      | ']' :: rest => some (.array (n :: done).reverse, rest)
      | _ => none

/-- Takes the entries of a table in braces off, up to its closing brace. -/
def braces (depth : Nat) : Nat → Node → List Char → Option (Node × List Char)
  | 0, _, _ => none
  | fuel + 1, table, cs => do
    let (path, rest) ← key fuel maxParts cs
    let rest ← mark '=' rest
    let (n, rest) ← value depth fuel (skipWhite rest)
    let table ← assignInline n path false table
    match skipWhite rest with
    | ',' :: rest => braces depth fuel table rest
    | '\x7d' :: rest => some (table, rest)
    | _ => none

end

/-- Takes what may stand at the end of a line off, the line end included. -/
def lineEnd (cs : List Char) : Option (List Char) :=
  match skipComment (skipWhite cs) with
  | [] => some []
  | cs => newline? cs

abbrev Path := List String

/-- Reads a header behind its opening brackets. -/
def header (fuel : Nat) (isElement : Bool) (root : Node) (cs : List Char) :
    Option (Node × Path × List Char) := do
  let (path, rest) ← key fuel maxParts cs
  let rest ← mark ']' rest
  let rest ← if isElement then mark ']' rest else some rest
  let rest ← lineEnd rest
  let name ← path.getLast?
  let start := if isElement then openElement name else openTable name
  let root ← descend start path.dropLast root
  some (root, path, rest)

/-- Reads line after line. `fuel` is at least twice the number of characters: a line takes one
character and one unit at least, an element of an array two characters and one unit, and a bracket
one character and two units. -/
def readLines : Nat → Node → Path → List Char → Option Node
  | 0, _, _, _ => none
  | fuel + 1, root, here, cs =>
    match skipWhite cs with
    | [] => some root
    | '#' :: rest => do
      let rest ← lineEnd ('#' :: rest)
      readLines fuel root here rest
    | '[' :: '[' :: rest => do
      let (root, here, rest) ← header fuel true root rest
      readLines fuel root here rest
    | '[' :: rest => do
      let (root, here, rest) ← header fuel false root rest
      readLines fuel root here rest
    | cs => match newline? cs with
      | some rest => readLines fuel root here rest
      | none => do
        let (path, rest) ← key fuel maxParts cs
        let rest ← mark '=' rest
        let (n, rest) ← value 0 fuel (skipWhite rest)
        let rest ← lineEnd rest
        let root ← descend (assign n path false) here root
        readLines fuel root here rest

/-- The document in a text, in front of which a byte order mark may stand. -/
def parse? (text : String) : Option Node :=
  let cs := match text.toList with
    | '\uFEFF' :: rest => rest
    | cs => cs
  readLines (2 * cs.length + 3) (.table .header []) [] cs

end AdapterGateway.Toml
