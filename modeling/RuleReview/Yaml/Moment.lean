import RuleReview.Yaml.Cursor

/-! # Dates and times of day

A moment is read in two steps: the parts as they are written, and then the numbers, which must be in their
ranges.
-/
namespace RuleReview.Yaml

structure MomentText where
  year : Text
  month : Text
  day : Text
  time : Option (Text × Text × Text × Text)
  zone : Option (Char × Text × Text)

namespace MomentText

def digits (s : Text) (least most : Nat) : Option (Text × Text) :=
  let d := (s.take most).takeWhile Char.isDigit
  if d.length < least then none else some (d, s.drop d.length)

def expect (c : Char) (s : Text) : Option Text := if s.head? = some c then some s.tail else none

def zone? (s : Text) : Option (Option (Char × Text × Text)) := do
  match s.dropWhile isGap with
  | [] => if s.isEmpty then some none else none
  | ['Z'] => some (some ('+', "0", "0"))
  | c :: s =>
    if c = '-' ∨ c = '+' then
      let (hours, s) ← digits s 1 2
      if s.isEmpty then return some (c, hours, "0")
      let (minutes, s) ← digits (← expect ':' s) 2 2
      if s.isEmpty then return some (c, hours, minutes) else none
    else none

def time? (s : Text) : Option ((Text × Text × Text × Text) × Option (Char × Text × Text)) := do
  let s ← match s with
    | 'T' :: r => some r
    | 't' :: r => some r
    | c :: r => if isGap c then some (r.dropWhile isGap) else none
    | [] => none
  let (hour, s) ← digits s 1 2
  let (minute, s) ← digits (← expect ':' s) 2 2
  let (second, s) ← digits (← expect ':' s) 2 2
  let (fraction, s) := match s with
    | '.' :: r => (r.takeWhile Char.isDigit, r.dropWhile Char.isDigit)
    | r => ([], r)
  return ((hour, minute, second, fraction), ← zone? s)

def read? (s : Text) : Option MomentText := do
  let (year, s) ← digits s 4 4
  let (month, s) ← digits (← expect '-' s) 1 2
  let (day, s) ← digits (← expect '-' s) 1 2
  if s.isEmpty then return ⟨year, month, day, none, none⟩
  let (time, zone) ← time? s
  return ⟨year, month, day, time, zone⟩

/-- Whether a plain scalar is a moment: a date alone must have two digits for month and day. -/
def isPlain (s : Text) : Bool :=
  match read? s with
  | some m => m.time.isSome || (m.month.length = 2 && m.day.length = 2)
  | none => false

end MomentText

structure Date where
  year : Nat
  month : Nat
  day : Nat
  deriving DecidableEq

/-- A time of day; the zone is a distance from universal time in minutes. -/
structure Clock where
  hour : Nat
  minute : Nat
  second : Nat
  micro : Nat
  zone : Option Int
  deriving DecidableEq

structure Moment where
  date : Date
  clock : Option Clock
  deriving DecidableEq

namespace Moment

def isLeap (y : Nat) : Bool := (y % 4 = 0 && y % 100 != 0) || y % 400 = 0

def daysIn (y m : Nat) : Nat :=
  if m = 2 then (if isLeap y then 29 else 28) else if m = 4 ∨ m = 6 ∨ m = 9 ∨ m = 11 then 30 else 31

def dateOf (y m d : Nat) : Except Problem Date :=
  if y = 0 then .error (.year y)
  else if m = 0 ∨ 12 < m then .error .month
  else if d = 0 ∨ daysIn y m < d then .error .day
  else .ok ⟨y, m, d⟩

def zoneOf (sign : Char) (hours minutes : Nat) : Except Problem Int :=
  let size := 60 * hours + minutes
  let offset : Int := if sign = '-' then -size else size
  if size < 1440 then .ok offset
  else .error (.offset (offset / 1440) (60 * (offset % 1440)))

/-- Reads a date, or a date with a time of day: the zone is checked first, then the date, then the time. -/
def ofText (s : Text) : Except Problem Moment := do
  match MomentText.read? s with
  | none => .error .noTimestamp
  | some m =>
    let number := Text.numberOfDigits
    match m.time with
    | none => return ⟨← dateOf (number m.year) (number m.month) (number m.day), none⟩
    | some (hour, minute, second, fraction) =>
      let zone ← m.zone.mapM fun (sign, h, mm) => zoneOf sign (number h) (number mm)
      let d ← dateOf (number m.year) (number m.month) (number m.day)
      if 23 < number hour then .error .hour
      if 59 < number minute then .error .minute
      if 59 < number second then .error .second
      let micro := number ((fraction ++ List.replicate 6 '0').take 6)
      return ⟨d, some ⟨number hour, number minute, number second, micro, zone⟩⟩

def daysBefore (y : Nat) : Nat := 365 * (y - 1) + (y - 1) / 4 - (y - 1) / 100 + (y - 1) / 400

def dayNumber (d : Date) : Nat :=
  daysBefore d.year + (List.range (d.month - 1)).foldl (fun n m => n + daysIn d.year (m + 1)) 0 + d.day

def instant (d : Date) (c : Clock) (zone : Int) : Int :=
  (((dayNumber d : Int) * 1440 + 60 * c.hour + c.minute - zone) * 60 + c.second) * 1000000 + c.micro

/-- Whether two moments are the same: with a zone they are compared in universal time. -/
def same (a b : Moment) : Bool :=
  match a.clock, b.clock with
  | some c, some d =>
    match c.zone, d.zone with
    | some x, some y => instant a.date c x == instant b.date d y
    | _, _ => a == b
  | _, _ => a == b

end Moment

end RuleReview.Yaml
