/-!
# Addresses

The two kinds of addresses of the internet, alone and with a port, read from their texts and written
in their one canonical form.
-/
namespace AdapterGateway.Net

/-- An address of the internet. -/
inductive Address where
  | v4 (a b c d : UInt8)
  /-- Eight groups of sixteen bits. -/
  | v6 (groups : List UInt16)
deriving DecidableEq, Repr

/-- An address with a port. -/
structure Endpoint where
  address : Address
  /-- The network an address of the newer kind belongs to, or zero. -/
  scope : UInt32 := 0
  port : UInt16
deriving DecidableEq, Repr

/-! ## Reading -/

/-- Reads something at the start of a text and comes back with the rest. -/
abbrev Scan (α : Type) := List Char → Option (α × List Char)

def mark (c : Char) : Scan Unit
  | d :: rest => if c = d then some ((), rest) else none
  | [] => none

def digitValue (c : Char) : Nat :=
  if c.isDigit then c.toNat - '0'.toNat
  else if 'a' ≤ c ∧ c ≤ 'f' then c.toNat - 'a'.toNat + 10
  else if 'A' ≤ c ∧ c ≤ 'F' then c.toNat - 'A'.toNat + 10
  else 16

def numberOf (base : Nat) (digits : List Char) : Nat :=
  digits.foldl (fun n c => n * base + digitValue c) 0

/-- Reads all digits that follow, at most so many if there is a limit, of a number below `bound`. -/
def scanNumber (base bound : Nat) (most : Option Nat) : Scan Nat := fun cs =>
  let digits := cs.takeWhile fun c => digitValue c < base
  let fits := match most with
    | some n => digits.length ≤ n
    | none => true
  if !digits.isEmpty && fits && numberOf base digits < bound then
    some (numberOf base digits, cs.drop digits.length)
  else none

/-- Reads one of the four numbers of an older address, which has no zeros in front. -/
def scanOctet : Scan UInt8 := fun cs => do
  let (n, rest) ← scanNumber 10 256 (some 3) cs
  if cs.head? = some '0' && cs.length - rest.length > 1 then none else some (UInt8.ofNat n, rest)

def scanV4 : Scan (UInt8 × UInt8 × UInt8 × UInt8) := fun cs => do
  let (a, cs) ← scanOctet cs
  let (_, cs) ← mark '.' cs
  let (b, cs) ← scanOctet cs
  let (_, cs) ← mark '.' cs
  let (c, cs) ← scanOctet cs
  let (_, cs) ← mark '.' cs
  let (d, cs) ← scanOctet cs
  some ((a, b, c, d), cs)

def groupOf (high low : UInt8) : UInt16 := high.toUInt16 * 256 + low.toUInt16

/-- Skips the colon in front of every group but the first. -/
def scanColon (first : Bool) : Scan Unit := fun cs => if first then some ((), cs) else mark ':' cs

/-- Reads at most so many groups, of which an older address may take the place of the last two.
Comes back with the groups, whether there was such an address, and the rest. -/
def scanGroups (first : Bool) : Nat → List Char → List UInt16 × Bool × List Char
  | 0, cs => ([], false, cs)
  | more + 1, cs =>
    let embedded := if more = 0 then none else do
      let (_, cs) ← scanColon first cs
      scanV4 cs
    match embedded with
    | some ((a, b, c, d), rest) => ([groupOf a b, groupOf c d], true, rest)
    | none =>
      let group := do
        let (_, cs) ← scanColon first cs
        scanNumber 16 0x10000 (some 4) cs
      match group with
      | none => ([], false, cs)
      | some (n, rest) =>
        let (groups, embedded, rest) := scanGroups false more rest
        (UInt16.ofNat n :: groups, embedded, rest)

/-- Reads a newer address. Two colons stand for all groups that are missing, one at least. -/
def scanV6 : Scan (List UInt16) := fun cs =>
  let (front, embedded, rest) := scanGroups true 8 cs
  if front.length = 8 then some (front, rest)
  else if embedded then none
  else do
    let (_, rest) ← mark ':' rest
    let (_, rest) ← mark ':' rest
    let (back, _, rest) := scanGroups true (7 - front.length) rest
    some (front ++ List.replicate (8 - front.length - back.length) 0 ++ back, rest)

def scanPort : Scan UInt16 := fun cs => do
  let (_, cs) ← mark ':' cs
  let (n, cs) ← scanNumber 10 0x10000 none cs
  some (UInt16.ofNat n, cs)

/-- Reads the network behind a percent sign, if there is one. -/
def scanScope (cs : List Char) : UInt32 × List Char :=
  match (do
    let (_, cs) ← mark '%' cs
    scanNumber 10 0x100000000 none cs) with
  | some (n, rest) => (UInt32.ofNat n, rest)
  | none => (0, cs)

/-- Reads an address with a port. The newer kind stands in brackets. -/
def scanEndpoint : Scan Endpoint := fun cs =>
  let older := do
    let ((a, b, c, d), cs) ← scanV4 cs
    let (port, cs) ← scanPort cs
    some ({ address := .v4 a b c d, port : Endpoint }, cs)
  let newer := do
    let (_, cs) ← mark '[' cs
    let (groups, cs) ← scanV6 cs
    let (scope, cs) := scanScope cs
    let (_, cs) ← mark ']' cs
    let (port, cs) ← scanPort cs
    some ({ address := .v6 groups, scope, port : Endpoint }, cs)
  older <|> newer

def whole {α : Type} (scan : Scan α) (s : String) : Option α :=
  match scan s.toList with
  | some (a, []) => some a
  | _ => none

def Address.parse? (s : String) : Option Address :=
  ((whole scanV4 s).map fun (a, b, c, d) => .v4 a b c d) <|> (whole scanV6 s).map .v6

/-- The address and the port that a text names. -/
def Endpoint.parse? (s : String) : Option Endpoint := whole scanEndpoint s

/-! ## Writing -/

def v4Text (a b c d : UInt8) : String :=
  String.intercalate "." ([a, b, c, d].map fun n => toString n.toNat)

def groupsText (groups : List UInt16) : String :=
  String.intercalate ":" (groups.map fun n => String.ofList (Nat.toDigits 16 n.toNat))

/-- The number of zero groups at the start. -/
def zeros (groups : List UInt16) : Nat := (groups.takeWhile (· = 0)).length

/-- Where the first of the longest runs of zero groups starts, and how long it is. -/
def longestZeros : List UInt16 → Nat × Nat
  | [] => (0, 0)
  | group :: rest =>
    let here := zeros (group :: rest)
    let (start, length) := longestZeros rest
    if here ≥ length then (0, here) else (start + 1, length)

/-- A newer address: two colons for the first of the longest runs of two or more zero groups. One
that stands for an older address shows it. -/
def v6Text (groups : List UInt16) : String :=
  match groups with
  | [0, 0, 0, 0, 0, 0xFFFF, high, low] =>
    "::ffff:" ++ v4Text (high / 256).toUInt8 high.toUInt8 (low / 256).toUInt8 low.toUInt8
  | _ =>
    let (start, length) := longestZeros groups
    if length > 1 then
      groupsText (groups.take start) ++ "::" ++ groupsText (groups.drop (start + length))
    else groupsText groups

def Address.text : Address → String
  | .v4 a b c d => v4Text a b c d
  | .v6 groups => v6Text groups

def Endpoint.text (e : Endpoint) : String :=
  let port := ":" ++ toString e.port.toNat
  match e.address with
  | .v4 a b c d => v4Text a b c d ++ port
  | .v6 groups =>
    let scope := if e.scope = 0 then "" else "%" ++ toString e.scope.toNat
    "[" ++ v6Text groups ++ scope ++ "]" ++ port

end AdapterGateway.Net
