import RuleReview.Expression.Basic

/-! # Matching expressions

A part is matched at a place, and what comes after it is told by a function of the place where it ends. When that
gives nothing, the part tries the next way in which it matches.
-/
namespace RuleReview.Expression

/-- Where matching has come to: the characters before, backwards, and those after, and where numbered parts have
begun and ended, the latest first. -/
structure Spot where
  position : Nat := 0
  before : Text := []
  after : Text
  starts : List (Nat × Nat) := []
  ends : List (Nat × Nat) := []

namespace Spot

def step? (s : Spot) (p : Char → Bool) : Option Spot :=
  match s.after with
  | [] => none
  | c :: r =>
    if p c then some { s with position := s.position + 1, before := c :: s.before, after := r } else none

def back? (s : Spot) : Nat → Option Spot
  | 0 => some s
  | n + 1 =>
    match s.before with
    | [] => none
    | c :: b => back? { s with position := s.position - 1, before := b, after := c :: s.after } n

def isStart (s : Spot) (anyLine : Bool) : Bool := s.before.isEmpty || (anyLine && s.before.head? = some '\n')

def isFinish (s : Spot) (anyLine : Bool) : Bool :=
  s.after.isEmpty || s.after = ['\n'] || (anyLine && s.after.head? = some '\n')

def taken? (s : Spot) (n : Nat) : Option Text := do
  let first ← s.starts.lookup n
  let last ← s.ends.lookup n
  if last < first then none
  else some (((s.before.reverse ++ s.after).drop first).take (last - first))

def follow? (s : Spot) (letters : Letters) : Text → Option Spot
  | [] => some s
  | c :: t => (s.step? fun d => letters.key d = letters.key c).bind fun s => s.follow? letters t

end Spot

abbrev Next := Spot → Option Spot

/-- Takes a part as many times as will do; `count` times it has been taken, and `last` is where the last time
began that was not needed. A time that takes nothing is the last one. -/
def timesMost (part : Spot → Next → Option Spot) (least : Nat) (most : Option Nat) (next : Next) :
    Nat → Nat → Option Nat → Spot → Option Spot
  | 0, _, _, _ => none
  | fuel + 1, count, last, s =>
    if count < least then part s (timesMost part least most next fuel (count + 1) last)
    else
      let more :=
        if most.all (count < ·) && last != some s.position then
          part s (timesMost part least most next fuel (count + 1) (some s.position))
        else none
      more.orElse fun _ => next s

def timesFewest (part : Spot → Next → Option Spot) (least : Nat) (most : Option Nat) (next : Next) :
    Nat → Nat → Option Nat → Spot → Option Spot
  | 0, _, _, _ => none
  | fuel + 1, count, last, s =>
    if count < least then part s (timesFewest part least most next fuel (count + 1) last)
    else (next s).orElse fun _ =>
      if most.all (count < ·) && last != some s.position then
        part s (timesFewest part least most next fuel (count + 1) (some s.position))
      else none

/-- Takes a part as many times as there are, each time in the first way, and goes on in no other. -/
def timesAll (part : Spot → Next → Option Spot) (least : Nat) (most : Option Nat) :
    Nat → Nat → Option Nat → Spot → Option Spot
  | 0, _, _, _ => none
  | fuel + 1, count, last, s =>
    if count < least then (part s some).bind (timesAll part least most fuel (count + 1) last)
    else if most.all (count < ·) && last != some s.position then
      match part s some with
      | some t => timesAll part least most fuel (count + 1) (some s.position) t
      | none => some s
    else some s

/-- How many times a part can be taken at all before one of them takes nothing. -/
def timesLimit (least : Nat) (s : Spot) : Nat := least + s.after.length + 3

def run : Expression → Spot → Next → Option Spot
  | .nothing, s, next => next s
  | .oneOf k letters, s, next =>
    (s.step? fun c => (letters.variants c).any k.lists != k.negated).bind next
  | .start anyLine, s, next => if s.isStart anyLine then next s else none
  | .finish anyLine, s, next => if s.isFinish anyLine then next s else none
  | .seq a b, s, next => run a s fun s => run b s next
  | .either a b, s, next => (run a s next).orElse fun _ => run b s next
  | .group n a, s, next =>
    run a { s with starts := (n, s.position) :: s.starts } fun s =>
      next { s with ends := (n, s.position) :: s.ends }
  | .again n letters _, s, next => ((s.taken? n).bind (s.follow? letters)).bind next
  | .times least most greed a, s, next =>
    match greed with
    | .most => timesMost (run a) least most next (timesLimit least s) 0 none s
    | .fewest => timesFewest (run a) least most next (timesLimit least s) 0 none s
    | .all => (timesAll (run a) least most (timesLimit least s) 0 none s).bind next
  | .look behind wanted a, s, next =>
    let found := (if behind then s.back? a.width.1 else some s).bind fun s => run a s some
    match found with
    | some t => if wanted then next { s with starts := t.starts, ends := t.ends } else none
    | none => if wanted then none else next s
  | .firstWay a, s, next => (run a s some).bind next
  | .given n yes no, s, next => if (s.taken? n).isSome then run yes s next else run no s next

def accepts (e : Expression) (s : Text) : Bool := (run e { after := s } some).isSome

end RuleReview.Expression
