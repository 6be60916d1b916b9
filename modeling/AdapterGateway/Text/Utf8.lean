/-!
# UTF-8

Octets and the characters they stand for. `pieces` cuts any octets into well-formed characters and
ill-formed stretches; reading strictly (`decode?`) refuses the latter, reading leniently (`lossy`)
puts the replacement character in the place of each.
-/
namespace AdapterGateway.Text

/-- A run of octets, as pipes, sockets and files carry it. -/
abbrev Octets := List UInt8

namespace Utf8

/-- A character whose first octets have been seen: the bits so far, how many octets are still to
come, and the range the next of them must lie in. -/
structure Pending where
  bits : Nat
  missing : Nat
  low : UInt8
  high : UInt8
deriving DecidableEq, Repr

/-- What an octet means where a character may start. The narrowed ranges after E0, ED, F0 and F4
exclude overlong forms, surrogates and values past the last code point. -/
def start (b : UInt8) : List (Option Char) × Option Pending :=
  let n := b.toNat
  if n < 0x80 then ([some (Char.ofNat n)], none)
  else if n < 0xC2 then ([none], none)
  else if n < 0xE0 then ([], some ⟨n - 0xC0, 1, 0x80, 0xBF⟩)
  else if n = 0xE0 then ([], some ⟨0, 2, 0xA0, 0xBF⟩)
  else if n = 0xED then ([], some ⟨0xD, 2, 0x80, 0x9F⟩)
  else if n < 0xF0 then ([], some ⟨n - 0xE0, 2, 0x80, 0xBF⟩)
  else if n = 0xF0 then ([], some ⟨0, 3, 0x90, 0xBF⟩)
  else if n < 0xF4 then ([], some ⟨n - 0xF0, 3, 0x80, 0xBF⟩)
  else if n = 0xF4 then ([], some ⟨4, 3, 0x80, 0x8F⟩)
  else ([none], none)

/-- One octet further: the pieces that are complete now, and the character that is open. An octet
that cannot go on with the open character ends it as ill-formed and is looked at afresh. -/
def step : Option Pending → UInt8 → List (Option Char) × Option Pending
  | none, b => start b
  | some p, b =>
    if p.low ≤ b ∧ b ≤ p.high then
      let bits := p.bits * 64 + (b.toNat - 0x80)
      if p.missing ≤ 1 then ([some (Char.ofNat bits)], none)
      else ([], some ⟨bits, p.missing - 1, 0x80, 0xBF⟩)
    else
      let (now, later) := start b
      (none :: now, later)

/-- The pieces of the octets behind those already cut, which `done` holds in reverse. -/
def cut (done : List (Option Char)) (state : Option Pending) : Octets → List (Option Char)
  | [] => match state with
    | none => done.reverse
    | some _ => (none :: done).reverse
  | b :: rest =>
    let (now, state) := step state b
    cut (now.reverseAux done) state rest

/-- The characters of `octets`, with `none` for each ill-formed stretch. -/
def pieces (octets : Octets) : List (Option Char) := cut [] none octets

end Utf8

/-- The text that `octets` encode, if they are well-formed. -/
def decode? (octets : Octets) : Option String :=
  ((Utf8.pieces octets).mapM id).map String.ofList

/-- The text that `octets` encode, each ill-formed stretch read as the replacement character. -/
def lossy (octets : Octets) : String :=
  String.ofList ((Utf8.pieces octets).map (·.getD '\uFFFD'))

def encode (s : String) : Octets := s.toUTF8.data.toList

end AdapterGateway.Text
