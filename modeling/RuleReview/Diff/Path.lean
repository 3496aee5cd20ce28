import RuleReview.Failure
import RuleReview.Text.Utf8

/-! # Paths in diff headers

Git writes a path after `a/` or `b/`, and between quotes with escapes when the name is unusual. An escape
stands for bytes, which are read as UTF-8 when the whole name is known.
-/
namespace RuleReview.Diff

def octalByte? (a b c : Char) : Option Nat := do
  let a ← Text.octalValue? a
  let b ← Text.octalValue? b
  let c ← Text.octalValue? c
  return (a * 8 + b) * 8 + c

def escapeBytes (c : Char) : List UInt8 :=
  if c = 'a' then [7]
  else if c = 'b' then [8]
  else if c = 't' then [9]
  else if c = 'n' then [10]
  else if c = 'v' then [11]
  else if c = 'f' then [12]
  else if c = 'r' then [13]
  else Text.encode [c]

/-- The bytes of a quoted name. Three octal digits are one byte, so they stop at 377. -/
def unquoteBytes : Text → Except Failure (List UInt8)
  | [] => .ok []
  | '\\' :: a :: b :: c :: r =>
    match octalByte? a b c with
    | some n =>
      if n < 256 then (unquoteBytes r).map (UInt8.ofNat n :: ·) else .error .byteRange
    | none => (unquoteBytes (b :: c :: r)).map (escapeBytes a ++ ·)
  | '\\' :: a :: r => (unquoteBytes r).map (escapeBytes a ++ ·)
  | c :: r => (unquoteBytes r).map (Text.encode [c] ++ ·)

def unquote (body : Text) : Except Failure Text := (unquoteBytes body).map Text.decodeLossy

def quotedBody? : Text → Option Text
  | '"' :: s => if s.getLast? = some '"' then some s.dropLast else none
  | _ => none

def nonempty (s : Text) : Option Text := if s.isEmpty then none else some s

def dropReturns (s : Text) : Text := Text.dropTrailing (· == '\r') s

def unquoteIfQuoted (s : Text) : Except Failure Text :=
  match quotedBody? s with
  | some body => unquote body
  | none => .ok s

def pathOfName (s : Text) : Option Text :=
  let p := match s with
    | 'a' :: '/' :: r | 'b' :: '/' :: r => r
    | r => r
  if p = "/dev/null".toList ∨ p = "dev/null".toList then none else nonempty p

def markedPath (s : Text) : Except Failure (Option Text) :=
  (unquoteIfQuoted (dropReturns (s.upTo '\t'))).map pathOfName

def barePath (s : Text) : Except Failure (Option Text) :=
  (unquoteIfQuoted (dropReturns s)).map nonempty

/-- A quoted name whose opening quote has been read: its body, and the text after the closing quote. -/
def quotedName? : Text → Option (Text × Text)
  | [] => none
  | '"' :: r => some ([], r)
  | '\\' :: c :: r => (quotedName? r).map fun (body, rest) => ('\\' :: c :: body, rest)
  | '\\' :: [] => none
  | c :: r => (quotedName? r).map fun (body, rest) => (c :: body, rest)

def quotedPair? : Text → Option (Text × Text)
  | '"' :: s =>
    match quotedName? s with
    | some (left, ' ' :: '"' :: s) =>
      match quotedName? s with
      | some (right, []) => some (left, right)
      | _ => none
    | _ => none
  | _ => none

def evenPair? (s : Text) : Option (Text × Text) :=
  let left := s.take ((s.length - 1) / 2)
  match left, s.drop ((s.length - 1) / 2) with
  | 'a' :: '/' :: p, ' ' :: 'b' :: '/' :: q =>
    if s.length % 2 = 1 ∧ p = q then some (left, 'b' :: '/' :: q) else none
  | _, _ => none

/-- The parts around the first ` b/` that leaves neither of them empty. -/
def splitAtSecond? : Text → Option (Text × Text)
  | [] => none
  | c :: s =>
    match s with
    | ' ' :: 'b' :: '/' :: d :: r => some ([c], 'b' :: '/' :: d :: r)
    | s => (splitAtSecond? s).map fun (left, right) => (c :: left, right)

def plainPair? : Text → Option (Text × Text)
  | 'a' :: '/' :: s => (splitAtSecond? s).map fun (left, right) => ('a' :: '/' :: left, right)
  | _ => none

def gitHeaderMark : Text := "diff --git "

def headerPaths (line : Text) : Except Failure (Option Text × Option Text) := do
  let names := dropReturns (line.drop gitHeaderMark.length)
  match quotedPair? names with
  | some (left, right) =>
    let old ← markedPath (← unquote left)
    let new ← markedPath (← unquote right)
    return (old, new)
  | none =>
    match (evenPair? names).or (plainPair? names) with
    | some (left, right) =>
      let old ← markedPath left
      let new ← markedPath right
      return (old, new)
    | none => return (none, none)

end RuleReview.Diff
