/-!
# Blank characters

Two classes of blanks: the ASCII ones that make a document count as empty, and the Unicode ones that
separate the words of a command line and are trimmed from header fields. `words` yields the maximal
runs without blanks.
-/
namespace AdapterGateway.Text

/-- The Unicode property White_Space. -/
def isBlank (c : Char) : Bool :=
  let n := c.toNat
  (0x09 ≤ n && n ≤ 0x0D) || n == 0x20 || n == 0x85 || n == 0xA0 || n == 0x1680 ||
    (0x2000 ≤ n && n ≤ 0x200A) || n == 0x2028 || n == 0x2029 || n == 0x202F || n == 0x205F ||
    n == 0x3000

/-- Space, tab, line feed, form feed and carriage return. -/
def isAsciiBlank (b : UInt8) : Bool :=
  b == 0x20 || b == 0x09 || b == 0x0A || b == 0x0C || b == 0x0D

/-- Puts the word read so far, held in reverse, in front of `rest` unless it is empty. -/
def closeWord (word : List Char) (rest : List String) : List String :=
  if word.isEmpty then rest else String.ofList word.reverse :: rest

/-- The words of the characters behind `word`, the open one, held in reverse. -/
def wordsFrom (word : List Char) : List Char → List String
  | [] => closeWord word []
  | c :: rest =>
    if isBlank c then closeWord word (wordsFrom [] rest) else wordsFrom (c :: word) rest

/-- The maximal runs of `s` without blanks, in order. -/
def words (s : String) : List String := wordsFrom [] s.toList

def trim (s : String) : String :=
  String.ofList ((s.toList.dropWhile isBlank).reverse.dropWhile isBlank).reverse

/-- The lines of the characters behind `line`, the open one, held in reverse. -/
def linesFrom (line : List Char) : List Char → List String
  | [] => if line.isEmpty then [] else [String.ofList line.reverse]
  | '\n' :: rest =>
    let line := match line with
      | '\r' :: before => before
      | line => line
    String.ofList line.reverse :: linesFrom [] rest
  | c :: rest => linesFrom (c :: line) rest

/-- The lines of `s`. A line feed, with one carriage return before it or without, ends a line; what
follows the last of them is a line unless it is empty. -/
def lines (s : String) : List String := linesFrom [] s.toList

/-- Splits at the first `mark`, which neither part contains. -/
def splitFirst (mark : Char) (s : String) : Option (String × String) :=
  match s.toList.dropWhile (· != mark) with
  | [] => none
  | _ :: after => some (String.ofList (s.toList.takeWhile (· != mark)), String.ofList after)

end AdapterGateway.Text
