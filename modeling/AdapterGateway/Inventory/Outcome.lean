import AdapterGateway.Json.Value
/-!
# Outcomes of the lesser operations

What an adapter sends after a connection test and after it was asked for the addresses it talks to.
-/
namespace AdapterGateway.Inventory
open Json

/-- The outcome of a connection test: fine, or the last message set. -/
structure TestOutcome where
  errorMessage : Option String := none
deriving DecidableEq, Repr

namespace TestOutcome

/-- Sets the message. The last one counts. -/
def withError (_ : TestOutcome) (message : String) : TestOutcome := ⟨some message⟩

def isSuccess (t : TestOutcome) : Bool := t.errorMessage.isNone

def wire (t : TestOutcome) : Value :=
  match t.errorMessage with
  | some message => .object [("errorMessage", .string message)]
  | none => .object []

end TestOutcome

/-- The addresses an adapter talks to, in the order in which they were added. -/
structure EndpointList where
  urls : List String := []
deriving DecidableEq, Repr

namespace EndpointList

def add (e : EndpointList) (url : String) : EndpointList := ⟨e.urls ++ [url]⟩

def wire (e : EndpointList) : Value := .object [("endpointUrls", .list (e.urls.map .string))]

end EndpointList
end AdapterGateway.Inventory
