import AdapterGateway.Text.CaseTable
import AdapterGateway.Text.HiddenTable
/-!
# Quoted text

The form in which messages and descriptions for the log show a text: between double quotes, with
quotes, backslashes and everything invisible spelled out.
-/
namespace AdapterGateway.Text

/-- The digits of `n` in base sixteen, in lower case and without leading zeros. -/
def hexadecimal (n : Nat) : List Char := Nat.toDigits 16 n

def showChar (c : Char) : List Char :=
  if c = '"' then ['\\', '"']
  else if c = '\\' then ['\\', '\\']
  else if c = '\n' then ['\\', 'n']
  else if c = '\r' then ['\\', 'r']
  else if c = '\t' then ['\\', 't']
  else if c.toNat = 0 then ['\\', '0']
  else if CaseTable.within hiddenRanges c.toNat then
    ['\\', 'u', '\x7b'] ++ hexadecimal c.toNat ++ ['\x7d']
  else [c]

def quoted (s : String) : String :=
  String.ofList ('"' :: s.toList.flatMap showChar ++ ['"'])

end AdapterGateway.Text
