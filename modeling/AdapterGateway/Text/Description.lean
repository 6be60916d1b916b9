import AdapterGateway.Text.Quoted
/-!
# Descriptions

The form in which values are described in the log: named records with named fields, lists, pairs and
optional values.
-/
namespace AdapterGateway.Text

/-- A record with its fields, of which there is at least one. -/
def describeRecord (name : String) (fields : List (String × String)) : String :=
  name ++ " \x7b " ++ String.intercalate ", " (fields.map fun f => f.1 ++ ": " ++ f.2) ++ " \x7d"

def describeList (items : List String) : String := "[" ++ String.intercalate ", " items ++ "]"

def describeWrapped (name content : String) : String := name ++ "(" ++ content ++ ")"

def describeOption : Option String → String
  | some content => describeWrapped "Some" content
  | none => "None"

def describeBool (b : Bool) : String := if b then "true" else "false"

def redactedText : String := "REDACTED"

end AdapterGateway.Text
