import Mathlib.Data.List.Infix
import Mathlib.Data.List.TakeWhile
import RuleReview.Expression.Match

/-! # Which of its ways a part is matched in

A part that can be taken in more than one way tries them one after the other, and what comes after it decides. One that
is taken as few times as will do ends at the first place where what comes after it goes on. One that is taken as many
times as will do ends where it can be taken no more, unless what comes after it goes on from a place before. A numbered
part leaves marks where it begins and ends, which tell what it has taken.
-/
namespace RuleReview

namespace CharClass
variable {c d : Char}

theorem lists_singles {negated : Bool} {s : Text} :
    CharClass.lists ⟨negated, s.map fun c => (c, c)⟩ d = true ↔ d ∈ s := by
  rw [CharClass.lists, List.any_map, List.any_eq_true]
  constructor
  · rintro ⟨c, hc, hd⟩
    have hle : c ≤ d ∧ d ≤ c := by simpa using hd
    exact Char.le_antisymm hle.1 hle.2 ▸ hc
  · exact fun hd => ⟨d, hd, by simp⟩

theorem lists_self {negated : Bool} : CharClass.lists ⟨negated, [(c, c)]⟩ d = true ↔ d = c :=
  (lists_singles (s := [c])).trans List.mem_singleton

theorem holds_anyBut : CharClass.holds ⟨true, [(c, c)]⟩ d = true ↔ d ≠ c := by
  rw [CharClass.holds, bne_iff_ne, ne_eq, lists_self]

theorem holds_only : (CharClass.only c).holds d = true ↔ d = c := by
  rw [CharClass.holds, CharClass.only, bne_iff_ne, ne_eq, Bool.not_eq_false, lists_self]

def any : CharClass := ⟨true, []⟩

@[simp] theorem takeWhile_any (s : Text) : s.takeWhile any.holds = s := List.takeWhile_eq_self_iff.mpr fun _ _ => rfl

end CharClass

namespace Expression
variable {k : CharClass} {next : Next} {s t : Spot} {u v : Text} {fuel count : Nat} {last : Option Nat}

/-! ## Places -/

def Spot.over (s : Spot) (u : Text) : Spot :=
  { s with position := s.position + u.length, before := u.reverse ++ s.before, after := s.after.drop u.length }

@[simp] theorem Spot.over_nil (s : Spot) : s.over [] = s := rfl

theorem Spot.over_append (s : Spot) (u v : Text) : s.over (u ++ v) = (s.over u).over v := by
  simp [Spot.over, Nat.add_assoc]

@[simp] theorem Spot.over_after (s : Spot) (u : Text) : (s.over u).after = s.after.drop u.length := rfl

theorem append_prefix_iff {u v s : Text} : u ++ v <+: s ↔ u <+: s ∧ v <+: s.drop u.length := by
  constructor
  · rintro ⟨r, rfl⟩
    simp
  · rintro ⟨⟨r, rfl⟩, h⟩
    simpa using h

/-! ## Characters -/

theorem Spot.step?_eq {c : Char} {r : Text} (h : s.after = c :: r) (p : Char → Bool) :
    s.step? p = if p c then some (s.over [c]) else none := by
  simp [step?, Spot.over, h]

theorem Spot.step?_eq_none {p : Char → Bool} (h : ∀ c, s.after.head? = some c → p c = false) : s.step? p = none := by
  cases hs : s.after with
  | nil => simp [step?, hs]
  | cons c r =>
    have hc : p c = false := h c (by rw [hs]; rfl)
    rw [step?_eq hs, hc]
    rfl

theorem run_oneOf (k : CharClass) (s : Spot) (next : Next) :
    run (oneOf k .same) s next = (s.step? k.holds).bind next := by
  simp only [run, Letters.variants, List.any_cons, List.any_nil, Bool.or_false]
  rfl

/-- An expression behind characters that are taken as they are. -/
def literally (u : Text) (e : Expression) : Expression := u.foldr (fun c e => .seq (.oneOf (.only c) .same) e) e

theorem run_literally (u : Text) (e : Expression) (s : Spot) (next : Next) :
    run (literally u e) s next = if u <+: s.after then run e (s.over u) next else none := by
  induction u generalizing s with
  | nil =>
    rw [if_pos List.nil_prefix]
    rfl
  | cons c u ih =>
    have hseq : run (literally (c :: u) e) s next = run (oneOf (.only c) .same) s fun s => run (literally u e) s next :=
      rfl
    rw [hseq, run_oneOf]
    cases hs : s.after with
    | nil => simp [Spot.step?, hs]
    | cons d r =>
      have hover : s.over (c :: u) = (s.over [c]).over u := s.over_append [c] u
      rw [Spot.step?_eq hs]
      by_cases hd : d = c
      · subst hd
        rw [if_pos (CharClass.holds_only.mpr rfl), Option.bind_some, ih, hover]
        simp [hs]
      · rw [if_neg (mt CharClass.holds_only.mp hd), if_neg fun h => hd (List.cons_prefix_cons.mp h).1.symm]
        rfl

/-! ## Parts that are repeated -/

theorem run_maybe (a : Expression) (s : Spot) (next : Next) :
    run (times 0 (some 1) .most a) s next = (run a s next).or (next s) := by
  have hlast (fuel : Nat) (last : Option Nat) : timesMost (run a) 0 (some 1) next (fuel + 1) 1 last = next := by
    funext t
    simp [timesMost]
  rw [run, timesLimit, timesMost]
  simp [hlast]

/-- The pieces of a class at a place, from none of its characters to all that are in a row. -/
def Spot.stretches (s : Spot) (k : CharClass) : List Text := (s.after.takeWhile k.holds).inits

theorem Spot.mem_stretches : u ∈ s.stretches k ↔ u <+: s.after ∧ ∀ c ∈ u, k.holds c = true := by
  rw [stretches, List.mem_inits]
  constructor
  · exact fun h => ⟨h.trans (List.takeWhile_prefix _), fun c hc => List.mem_takeWhile_imp (h.subset hc)⟩
  · rintro ⟨⟨r, hr⟩, hu⟩
    rw [← hr, List.takeWhile_append_of_pos hu]
    exact List.prefix_append u _

/-- How a part that takes characters of a class goes on: it can end here only, or take the next character, too. -/
theorem Spot.stretches_cases (s : Spot) (k : CharClass) :
    s.step? k.holds = none ∧ s.stretches k = [[]] ∨
      ∃ c, s.step? k.holds = some (s.over [c]) ∧ (s.over [c]).after.length < s.after.length ∧
        s.stretches k = [] :: ((s.over [c]).stretches k).map (c :: ·) := by
  cases hs : s.after with
  | nil => exact .inl (by simp [step?, stretches, hs])
  | cons c r =>
    cases hc : k.holds c with
    | false => exact .inl (by simp [step?, stretches, hs, hc])
    | true => exact .inr ⟨c, by simp [step?_eq hs, hc], by simp [hs], by simp [stretches, hs, hc]⟩

theorem timesFewest_succ (hlast : last ≠ some s.position) :
    timesFewest (run (oneOf k .same)) 0 none next (fuel + 1) count last s = (next s).or
      ((s.step? k.holds).bind (timesFewest (run (oneOf k .same)) 0 none next fuel (count + 1) (some s.position))) := by
  simp [timesFewest, hlast, run_oneOf]

theorem timesMost_succ (hlast : last ≠ some s.position) :
    timesMost (run (oneOf k .same)) 0 none next (fuel + 1) count last s =
      ((s.step? k.holds).bind (timesMost (run (oneOf k .same)) 0 none next fuel (count + 1) (some s.position))).or
        (next s) := by
  simp [timesMost, hlast, run_oneOf]

theorem Spot.lt_position_over (s : Spot) (c : Char) {p : Nat} (h : some s.position = some p) :
    p < (s.over [c]).position := Option.some.inj h ▸ Nat.lt_succ_self _

-- The place moves on with every character, so the fuel lasts and no place is that of the time before.

section Fuel
variable (hfuel : s.after.length < fuel) (hlast : ∀ p, last = some p → p < s.position)
include hfuel hlast

theorem timesFewest_oneOf : timesFewest (run (oneOf k .same)) 0 none next fuel count last s =
    (s.stretches k).findSome? fun u => next (s.over u) := by
  induction fuel generalizing count last s with
  | zero => omega
  | succ fuel ih =>
    rw [timesFewest_succ fun h => Nat.lt_irrefl _ (hlast _ h)]
    rcases s.stretches_cases k with ⟨hstep, hstretch⟩ | ⟨c, hstep, hshorter, hstretch⟩
    · simp [hstep, hstretch]
    · rw [hstep, hstretch, Option.bind_some, ih (by omega) fun _ => s.lt_position_over c, List.findSome?_cons,
        List.findSome?_map]
      simp only [Function.comp_def, ← Spot.over_append, List.singleton_append, Spot.over_nil]
      cases next s <;> rfl

theorem timesMost_oneOf : timesMost (run (oneOf k .same)) 0 none next fuel count last s =
    (s.stretches k).reverse.findSome? fun u => next (s.over u) := by
  induction fuel generalizing count last s with
  | zero => omega
  | succ fuel ih =>
    rw [timesMost_succ fun h => Nat.lt_irrefl _ (hlast _ h)]
    rcases s.stretches_cases k with ⟨hstep, hstretch⟩ | ⟨c, hstep, hshorter, hstretch⟩
    · simp [hstep, hstretch]
    · rw [hstep, hstretch, Option.bind_some, ih (by omega) fun _ => s.lt_position_over c, List.reverse_cons,
        List.findSome?_append, ← List.map_reverse, List.findSome?_map]
      simp [Function.comp_def, ← Spot.over_append]

end Fuel

theorem run_fewest (k : CharClass) (s : Spot) (next : Next) : run (times 0 none .fewest (oneOf k .same)) s next =
    (s.stretches k).findSome? fun u => next (s.over u) := by
  rw [run, timesLimit, Nat.zero_add]
  exact timesFewest_oneOf (by omega) (by simp)

/-- Characters of a class, as many as will do: the longest piece is tried first. -/
theorem run_most (k : CharClass) (s : Spot) (next : Next) : run (times 0 none .most (oneOf k .same)) s next =
    (s.stretches k).reverse.findSome? fun u => next (s.over u) := by
  rw [run, timesLimit, Nat.zero_add]
  exact timesMost_oneOf (by omega) (by simp)

section Prefixes
variable {α β : Type} {f : List α → Option β} {u w : List α} {b : β}

theorem forall_shorter_cons {P : List α → Prop} {a : α} (h : ∀ v, v <+: a :: w → v ≠ a :: w → P v) :
    P [] ∧ ∀ v, v <+: w → v ≠ w → P (a :: v) :=
  ⟨h [] List.nil_prefix (List.cons_ne_nil a w).symm, fun v hv hne =>
    h (a :: v) (List.cons_prefix_cons.mpr ⟨rfl, hv⟩) fun he => hne (List.cons.inj he).2⟩

theorem findSome?_inits_of_least (hu : u <+: w) (hb : f u = some b) (hleast : ∀ v, v <+: u → v ≠ u → f v = none) :
    w.inits.findSome? f = some b := by
  induction u generalizing f w with
  | nil => cases w <;> simp [hb]
  | cons a u ih =>
    obtain ⟨r, rfl⟩ := hu
    obtain ⟨hnil, hcons⟩ := forall_shorter_cons hleast
    rw [List.cons_append, List.inits_cons, List.findSome?_cons, hnil, List.findSome?_map]
    exact ih (List.prefix_append u r) hb hcons

theorem findSome?_reverse_inits (h : ∀ v, v <+: w → v ≠ w → f v = none) : w.inits.reverse.findSome? f = f w := by
  induction w generalizing f with
  | nil => simp
  | cons a w ih =>
    obtain ⟨hnil, hcons⟩ := forall_shorter_cons h
    rw [List.inits_cons, List.reverse_cons, List.findSome?_append, ← List.map_reverse, List.findSome?_map]
    simp [Function.comp_def, ih hcons, hnil]

end Prefixes

section Decided
variable (hnone : ∀ v, v <+: u → v ≠ u → next (s.over v) = none)
include hnone

theorem run_fewest_of_least (hu : u <+: s.after.takeWhile k.holds) (hend : next (s.over u) = some t) :
    run (times 0 none .fewest (oneOf k .same)) s next = some t := by
  rw [run_fewest]
  exact findSome?_inits_of_least hu hend hnone

theorem run_most_of_longest (hu : s.after.takeWhile k.holds = u) :
    run (times 0 none .most (oneOf k .same)) s next = next (s.over u) := by
  rw [run_most, Spot.stretches, hu]
  exact findSome?_reverse_inits hnone

end Decided

theorem run_fewest_eq_none (h : ∀ u, u <+: s.after → next (s.over u) = none) :
    run (times 0 none .fewest (oneOf k .same)) s next = none := by
  rw [run_fewest, List.findSome?_eq_none_iff]
  exact fun u hu => h u (Spot.mem_stretches.mp hu).1

/-! ## Ends and marks -/

theorem run_end (s : Spot) (next : Next) :
    run (look false false (oneOf .any .same)) s next = if s.after = [] then next s else none := by
  cases hs : s.after with
  | nil => simp [run, Spot.step?, hs]
  | cons c r => simp [run, Spot.step?, hs, CharClass.any, CharClass.lists, Letters.variants]

def Spot.opened (s : Spot) (n : Nat) : Spot := { s with starts := (n, s.position) :: s.starts }

def Spot.closed (s : Spot) (n : Nat) : Spot := { s with ends := (n, s.position) :: s.ends }

theorem run_group (n : Nat) (e : Expression) (s : Spot) (next : Next) :
    run (group n e) s next = run e (s.opened n) fun t => next (t.closed n) := rfl

/-- The place between two parts of a text, with the marks that are left so far. -/
def Spot.between (a b : Text) (starts ends : List (Nat × Nat)) : Spot := ⟨a.length, a.reverse, b, starts, ends⟩

section Between
variable {n : Nat} {a b : Text} {starts ends : List (Nat × Nat)} {e : Expression}

@[simp] theorem Spot.after_between : (between a b starts ends).after = b := rfl

@[simp] theorem Spot.opened_between :
    (between a b starts ends).opened n = between a b ((n, a.length) :: starts) ends := rfl

@[simp] theorem Spot.closed_between :
    (between a b starts ends).closed n = between a b starts ((n, a.length) :: ends) := rfl

theorem Spot.over_between (a u b : Text) (starts ends : List (Nat × Nat)) :
    (between a (u ++ b) starts ends).over u = between (a ++ u) b starts ends := by
  simp [Spot.over, Spot.between]

theorem run_literally_append :
    run (literally u e) (.between a (u ++ b) starts ends) next = run e (.between (a ++ u) b starts ends) next := by
  rw [run_literally, Spot.after_between, if_pos (List.prefix_append u b), Spot.over_between]

theorem run_literally_eq_none (h : ¬u <+: s.after) : run (literally u e) s next = none := by
  rw [run_literally, if_neg h]

theorem Spot.taken?_between {front behind : Text} (hstart : starts.lookup n = some front.length)
    (hend : ends.lookup n = some (front ++ u).length) (htext : a ++ b = front ++ u ++ behind) :
    (between a b starts ends).taken? n = some u := by
  have hwhole :
      (between a b starts ends).before.reverse ++ (between a b starts ends).after = front ++ (u ++ behind) := by
    rw [between, List.reverse_reverse, htext, List.append_assoc]
  have hfirst : (between a b starts ends).starts.lookup n = some front.length := hstart
  have hlast : (between a b starts ends).ends.lookup n = some (front ++ u).length := hend
  rw [taken?, hfirst, hlast, hwhole]
  simp

theorem Spot.taken?_eq_none (h : s.starts.lookup n = none) : s.taken? n = none := by
  rw [taken?, h]
  rfl

end Between

end Expression

end RuleReview
