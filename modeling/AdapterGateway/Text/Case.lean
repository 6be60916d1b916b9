import AdapterGateway.Text.CaseTable
/-!
# Upper and lower case

The full Unicode mappings: one character may become several, and a capital sigma at the end of a
word becomes the final small sigma.
-/
namespace AdapterGateway.Text
open CaseTable

/-- The image of `c` under the mapping that `special` and, for all else, `runs` describe. -/
def mapCase (runs : List Run) (special : List (Nat × List Nat)) (c : Char) : List Char :=
  match special.lookup c.toNat with
  | some image => image.map Char.ofNat
  | none => match Run.find? runs c.toNat with
    | some n => [Char.ofNat n]
    | none => [c]

def upperChar (c : Char) : List Char :=
  if c.toNat < 0x80 then [c.toUpper] else mapCase upperRuns upperSpecial c

/-- The lower case of one character that is not a sigma. -/
def lowerChar (c : Char) : List Char :=
  if c.toNat < 0x80 then [c.toLower] else mapCase lowerRuns lowerSpecial c

def upper (s : String) : String := String.ofList (s.toList.flatMap upperChar)

/-- Whether the first character that is not transparent to case is a cased one. -/
def meetsCased (cs : List Char) : Bool :=
  match cs.dropWhile (fun c => within ignorableRanges c.toNat) with
  | [] => false
  | c :: _ => within casedRanges c.toNat

/-- The lower case of the characters behind `before`, which is held in reverse. A capital sigma
behind a cased character and not in front of one takes its final form. -/
def lowerFrom (before : List Char) : List Char → List Char
  | [] => []
  | c :: rest =>
    let image :=
      if c = 'Σ' then if meetsCased before && !meetsCased rest then ['ς'] else ['σ']
      else lowerChar c
    image ++ lowerFrom (c :: before) rest

def lower (s : String) : String := String.ofList (lowerFrom [] s.toList)

end AdapterGateway.Text
