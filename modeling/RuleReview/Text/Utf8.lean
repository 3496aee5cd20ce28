import RuleReview.Text.Digit

/-! # UTF-8

A lead byte fixes how many bytes follow and the range of the first of them. A decoder reads bytes one by
one; where they are no UTF-8 it gives one `none` for each longest start of a character. `badBytes` tells
where the first of these stands.
-/
namespace RuleReview.Text

/-- The rest of a character that has begun: `owed` more bytes, the next one within `lo` and `hi`. -/
structure Pending where
  owed : Nat
  value : Nat
  lo : Nat
  hi : Nat

inductive Lead where
  | whole (c : Char)
  | opens (p : Pending)
  | invalid

def Lead.ofByte (b : Nat) : Lead :=
  if b < 0x80 then .whole (Char.ofNat b)
  else if 0xc2 ≤ b ∧ b ≤ 0xdf then .opens ⟨1, b - 0xc0, 0x80, 0xbf⟩
  else if b = 0xe0 then .opens ⟨2, 0, 0xa0, 0xbf⟩
  else if b = 0xed then .opens ⟨2, 0xd, 0x80, 0x9f⟩
  else if 0xe1 ≤ b ∧ b ≤ 0xef then .opens ⟨2, b - 0xe0, 0x80, 0xbf⟩
  else if b = 0xf0 then .opens ⟨3, 0, 0x90, 0xbf⟩
  else if b = 0xf4 then .opens ⟨3, 4, 0x80, 0x8f⟩
  else if 0xf1 ≤ b ∧ b ≤ 0xf3 then .opens ⟨3, b - 0xf0, 0x80, 0xbf⟩
  else .invalid

/-- The characters of the bytes, `none` standing for each part that is no UTF-8. -/
def decodeFrom : Option Pending → List UInt8 → List (Option Char)
  | none, [] => []
  | some _, [] => [none]
  | some p, b :: bs =>
    if p.lo ≤ b.toNat ∧ b.toNat ≤ p.hi then
      let value := p.value * 64 + (b.toNat - 0x80)
      if p.owed ≤ 1 then some (Char.ofNat value) :: decodeFrom none bs
      else decodeFrom (some ⟨p.owed - 1, value, 0x80, 0xbf⟩) bs
    else none :: match Lead.ofByte b.toNat with
      | .whole c => some c :: decodeFrom none bs
      | .opens q => decodeFrom (some q) bs
      | .invalid => none :: decodeFrom none bs
  | none, b :: bs =>
    match Lead.ofByte b.toNat with
    | .whole c => some c :: decodeFrom none bs
    | .opens q => decodeFrom (some q) bs
    | .invalid => none :: decodeFrom none bs

def replacement : Char := '\uFFFD'

def decodeLossy (bs : List UInt8) : Text := (decodeFrom none bs).map (·.getD replacement)

def decode? (bs : List UInt8) : Option Text := (decodeFrom none bs).mapM id

inductive ByteProblem where
  | start
  | continuation
  | ended
  deriving DecidableEq, Repr

def ByteProblem.message : ByteProblem → Text
  | .start => "invalid start byte"
  | .continuation => "invalid continuation byte"
  | .ended => "unexpected end of data"

structure BadBytes where
  first : Nat
  position : Nat
  count : Nat
  problem : ByteProblem
  deriving DecidableEq, Repr

def BadBytes.message (b : BadBytes) : Text :=
  let place : Text :=
    if b.count = 1 then .concat ["byte 0x", hex 2 b.first, " in position ", ofNat b.position]
    else .concat ["bytes in position ", ofNat b.position, "-", ofNat (b.position + b.count - 1)]
  .concat ["'utf-8' codec can't decode ", place, ": ", b.problem.message]

/-- The first bytes that are no character, from a position on. A character that has begun is given with its
first byte and how many bytes of it there are. -/
def badFrom (position : Nat) : Option (Pending × Nat × Nat) → List UInt8 → BadBytes
  | none, [] => ⟨0, position, 0, .ended⟩
  | some (_, first, count), [] => ⟨first, position, count, .ended⟩
  | some (p, first, count), b :: bs =>
    if p.lo ≤ b.toNat ∧ b.toNat ≤ p.hi then
      if p.owed ≤ 1 then badFrom (position + count + 1) none bs
      else badFrom position (some (⟨p.owed - 1, 0, 0x80, 0xbf⟩, first, count + 1)) bs
    else ⟨first, position, count, .continuation⟩
  | none, b :: bs =>
    match Lead.ofByte b.toNat with
    | .whole _ => badFrom (position + 1) none bs
    | .opens q => badFrom position (some (q, b.toNat, 1)) bs
    | .invalid => ⟨b.toNat, position, 1, .start⟩

def badBytes (bs : List UInt8) : BadBytes := badFrom 0 none bs

def encode (s : Text) : List UInt8 := s.flatMap String.utf8EncodeChar

end RuleReview.Text
