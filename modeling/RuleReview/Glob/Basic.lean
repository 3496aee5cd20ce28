import RuleReview.Expression.Basic

/-! # The tokens of globs

A token takes a piece off the front of a path; what it may leave is `Token.rests`, so a path matches when
taking pieces can use it up. A pattern is read into parts, and these into tokens: there are none when a
range runs backwards, or when a class goes on after the bracket that should close it.
-/
namespace RuleReview.Glob

inductive Token where
  | directories
  | anything
  | segment
  | one
  | lit (c : Char)
  | oneOf (k : CharClass)
  deriving DecidableEq, Repr

def restsWhile (p : Char → Bool) : Text → List Text
  | [] => [[]]
  | c :: s => (c :: s) :: if p c then restsWhile p s else []

/-- The suffixes that follow a slash with no line feed before it. -/
def restsAfterSlash : Text → List Text
  | [] => []
  | c :: s => (if c = '/' then [s] else []) ++ if c = '\n' then [] else restsAfterSlash s

/-- What a token may leave of a text. -/
def Token.rests : Token → Text → List Text
  | .directories, s => s :: restsAfterSlash s
  | .anything, s => restsWhile (· != '\n') s
  | .segment, s => restsWhile (· != '/') s
  | .one, c :: s => if c = '/' then [] else [s]
  | .lit d, c :: s => if c = d then [s] else []
  | .oneOf k, c :: s => if k.holds c then [s] else []
  | _, [] => []

/-- Whether the tokens use up a path, but for one final line feed. -/
def accepts : List Token → Text → Bool
  | [], s => s.isEmpty || s == ['\n']
  | t :: ts, s => (t.rests s).any (accepts ts)

inductive Part where
  | token (t : Token)
  | brackets (body : Text)
  deriving DecidableEq, Repr

def closes (s : Text) : Bool :=
  let s := match s with
    | '!' :: r => r
    | r => r
  let s := match s with
    | ']' :: r => r
    | r => r
  s.contains ']'

/-- Whether a closing bracket after this body ends the class: not right after it opens. -/
def closable (body : Text) : Bool := !(body.isEmpty || body == ['!'])

/-- The parts of a pattern; the body of a class that is open is collected backwards. -/
def parts : Option Text → Text → List Part
  | none, '*' :: '*' :: '/' :: r => .token .directories :: parts none r
  | none, '*' :: '*' :: r => .token .anything :: parts none r
  | none, '*' :: r => .token .segment :: parts none r
  | none, '?' :: r => .token .one :: parts none r
  | none, c :: r =>
    if c = '[' ∧ closes r then parts (some []) r else .token (.lit c) :: parts none r
  | some body, c :: r =>
    if c = ']' ∧ closable body.reverse then .brackets body.reverse :: parts none r
    else parts (some (c :: body)) r
  | _, [] => []

def members : Text → Option (List (Char × Char))
  | [] => some []
  | a :: '-' :: b :: r => if a ≤ b then (members r).map ((a, b) :: ·) else none
  | a :: r => (members r).map ((a, a) :: ·)

def classOfBody (body : Text) : Option CharClass :=
  match body with
  | '!' :: r | '^' :: r => (members r).map (⟨true, ·⟩)
  | r => (members r).map (⟨false, ·⟩)

/-- The token of a part. A class with the sole body `^` has none, for its bracket does not close it. -/
def Part.token? : Part → Option Token
  | .token t => some t
  | .brackets ['^'] => none
  | .brackets body => (classOfBody body).map .oneOf

def tokens? (ps : List Part) : Option (List Token) := ps.mapM Part.token?

end RuleReview.Glob
