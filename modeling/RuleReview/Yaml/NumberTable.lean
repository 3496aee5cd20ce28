import RuleReview.Yaml.Atom

/-! # The order of a set of numbers

Numbers of a set are listed by their places in a table of open slots. A number looks for a free slot from its
residue on: in the slots right after it, and then in slots farther away, until it finds one. Atoms of other
kinds have no such place, and a set that holds one keeps the order in which it was given.
-/
namespace RuleReview.Yaml.NumberTable

/-- Numbers of the same value have the same residue for this modulus, of which two to its exponent is one. -/
def modulusBits : Nat := 61

def modulus : Nat := Nat.pow 2 modulusBits - 1

def wordSize : Nat := Nat.pow 2 64

/-- The residue with the sign of the number, as a machine word; that of minus one is taken. -/
def signed (negative : Bool) (residue : Nat) : Nat :=
  if !negative then residue
  else if residue = 1 then wordSize - 2
  else (wordSize - residue) % wordSize

def infiniteResidue : Nat := 314159

def residue? : Atom → Option Nat
  | .bool b => some (if b then 1 else 0)
  | .int n => some (signed (n < 0) (n.natAbs % modulus))
  | .float (.finite negative m q) =>
    some (signed negative (m * Nat.pow 2 (q % (modulusBits : Int)).toNat % modulus))
  | .float (.infinite negative) => some (signed negative infiniteResidue)
  | _ => none

def slotsFor (n : Nat) : Nat :=
  if n < 5 then 8 else (List.range n).foldl (fun size _ => if size ≤ 2 * n then 2 * size else size) 8

/-- How many slots after the first are looked at before one farther away. -/
def reach : Nat := 9

/-- The first free slot, from a slot on; `seed` says how far away to go on. -/
def freeSlot (table : Array (Option Atom)) : Nat → Nat → Nat → Nat
  | 0, slot, _ => slot
  | fuel + 1, slot, seed =>
    let near := List.range (if slot + reach < table.size then reach + 1 else 1)
    match near.find? fun k => (table[slot + k]?).any Option.isNone with
    | some k => slot + k
    | none => freeSlot table fuel ((5 * slot + 1 + seed / 32) % table.size) (seed / 32)

def insert (table : Array (Option Atom)) (a : Atom) (residue : Nat) : Array (Option Atom) :=
  table.setIfInBounds (freeSlot table (2 * table.size + modulusBits) (residue % table.size) residue) (some a)

def listed (atoms : List Atom) : List Atom :=
  match atoms.mapM fun a => (residue? a).map (a, ·) with
  | none => atoms
  | some placed =>
    let empty : Array (Option Atom) := Array.replicate (slotsFor atoms.length) none
    (placed.foldl (fun table (a, r) => insert table a r) empty).toList.filterMap id

end RuleReview.Yaml.NumberTable
