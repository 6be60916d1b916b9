/-!
# Decimal digits

The number that a run of the digits 0 to 9 stands for.
-/
namespace AdapterGateway.Text

/-- The number that decimal digits stand for. -/
def natOfDigits (cs : List Char) : Nat := cs.foldl (fun n c => n * 10 + (c.toNat - '0'.toNat)) 0

/-- The number that a text of decimal digits stands for; nothing where there are none or something
else stands among them. -/
def natural? (cs : List Char) : Option Nat :=
  if !cs.isEmpty && cs.all Char.isDigit then some (natOfDigits cs) else none

end AdapterGateway.Text
