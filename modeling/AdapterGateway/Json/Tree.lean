import AdapterGateway.Json.Number
import AdapterGateway.Text.Utf8
/-!
# Syntax trees with holes

What a text says up to the point where it stops being JSON. A reader of typed data walks the tree in
the order of the text and so meets a wrong type that comes before a slip in the syntax first, and a
slip that comes before a wrong type first. Trees also carry what is well-formed only where nobody
looks: strings that are no text, numbers no double can hold, brackets nested too deep.
-/
namespace AdapterGateway.Json

/-- How a list or an object ends. -/
inductive Ending where
  /-- With its bracket, right behind the last element. -/
  | exact
  /-- So that elements beyond those asked for do not matter. -/
  | lax
  /-- Not: the text stops, or goes on with something else. -/
  | broken
deriving DecidableEq, Repr

/-- The text of a string; nothing for one whose octets or escapes are no characters. -/
abbrev Spelling := Option String

/-- A text read as far as it goes. -/
inductive Tree where
  | null
  | bool (b : Bool)
  | number (n : Number)
  | string (s : Spelling)
  | list (items : List Tree) (ending : Ending)
  | object (members : List (Spelling × Tree)) (ending : Ending)
  /-- A list or an object that is nested too deep to be looked into. -/
  | deep (isList : Bool) (ending : Ending)
  /-- No value stands here. -/
  | broken
deriving Inhabited, Repr

/-- A whole text: the tree at its start, and whether only blanks follow. -/
structure Document where
  root : Tree
  complete : Bool
deriving Repr

/-- The deepest level of brackets that is looked into. -/
def maxDepth : Nat := 127

end AdapterGateway.Json
