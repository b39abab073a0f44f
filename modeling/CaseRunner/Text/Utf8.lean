/-!
# Texts as bytes

Texts are exchanged as UTF-8. Decoding goes through the bytes once: each
character that is complete is one reading, and each longest piece that begins a
character and cannot be completed, or single byte that begins none, is one
failure. A strict reader refuses a text with a failure; a lenient one shows a
replacement character for each.
-/

namespace CaseRunner.Text

/-- The bytes of a text. -/
def encode (s : String) : List UInt8 := s.toUTF8.toList

/-- A character that has begun. -/
structure Pending where
  /-- How many bytes are still to come. -/
  left : Nat
  /-- The bits that have come. -/
  bits : Nat
  /-- The least value of the next byte. -/
  lo : Nat
  /-- The greatest value of the next byte. -/
  hi : Nat

/-- What a byte can be where a character begins. -/
inductive Lead where
  /-- A character by itself. -/
  | char (c : Char)
  /-- The first of several bytes. -/
  | begin (p : Pending)
  /-- Nothing. -/
  | bad

/-- A byte where a character begins. The second byte of a character is
restricted so that no character has two forms, none is half of a surrogate pair
and none is too large. -/
def lead (b : Nat) : Lead :=
  if b < 0x80 then .char (Char.ofNat b)
  else if b < 0xc2 then .bad
  else if b < 0xe0 then .begin ⟨1, b - 0xc0, 0x80, 0xbf⟩
  else if b < 0xf0 then
    .begin ⟨2, b - 0xe0, if b = 0xe0 then 0xa0 else 0x80, if b = 0xed then 0x9f else 0xbf⟩
  else if b < 0xf5 then
    .begin ⟨3, b - 0xf0, if b = 0xf0 then 0x90 else 0x80, if b = 0xf4 then 0x8f else 0xbf⟩
  else .bad

/-- A byte where a character begins: what it completes, and what it begins. -/
def startWith (b : UInt8) : List (Option Char) × Option Pending :=
  match lead b.toNat with
  | .char c => ([some c], none)
  | .begin p => ([], some p)
  | .bad => ([none], none)

/-- A byte behind what has begun: what it completes or breaks off, and what is
begun after it. A byte that does not fit begins anew. -/
def feed : Option Pending → UInt8 → List (Option Char) × Option Pending
  | none, b => startWith b
  | some p, b =>
    if p.lo ≤ b.toNat ∧ b.toNat ≤ p.hi then
      let bits := p.bits * 64 + (b.toNat - 0x80)
      if p.left ≤ 1 then ([some (Char.ofNat bits)], none)
      else ([], some ⟨p.left - 1, bits, 0x80, 0xbf⟩)
    else
      let (done, begun) := startWith b
      (none :: done, begun)

/-- The readings of a row of bytes, `none` for each failure. -/
def readings : Option Pending → List UInt8 → List (Option Char)
  | none, [] => []
  | some _, [] => [none]
  | p, b :: rest =>
    let (done, begun) := feed p b
    done ++ readings begun rest

/-- The text that a row of bytes is, if it is one. -/
def decode? (bytes : List UInt8) : Option String :=
  ((readings none bytes).mapM id).map String.ofList

/-- The text of a row of bytes, U+FFFD for each failure. -/
def decodeLossy (bytes : List UInt8) : String :=
  String.ofList ((readings none bytes).map fun r => r.getD '\uFFFD')

example : readings none [0x61, 0xe2, 0x82, 0x62, 0xff] =
    [some 'a', none, some 'b', none] := by decide +kernel
example : (decode? (encode "é世😀")).map (·.toList) = some "é世😀".toList := by decide +kernel

end CaseRunner.Text
