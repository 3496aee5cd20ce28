import RuleReview.Members
import RuleReview.Decimal.Numeral
import RuleReview.Json.Basic

/-! # Reading JSON

A reader consumes the front of a text and gives the rest. A failure keeps the text from where it arose,
so that its place is found by counting what came before. Beside the standard's values `NaN`, `Infinity`
and `-Infinity` are numbers. Integers have the limit of numerals, and there is one for the nesting.
-/
namespace RuleReview.Json

inductive Container where
  | array
  | object
  deriving DecidableEq, Repr

def Container.name : Container → Text
  | .array => "array"
  | .object => "object"

inductive Fault where
  | value
  | name
  | colon
  | comma
  | extra
  | unterminated
  | control
  | escape
  | unicodeEscape
  | byteOrderMark
  | tooLong (digits : Nat)
  | tooDeep (container : Container)
  deriving DecidableEq, Repr

def Fault.message : Fault → Text
  | .value => "Expecting value"
  | .name => "Expecting property name enclosed in double quotes"
  | .colon => "Expecting ':' delimiter"
  | .comma => "Expecting ',' delimiter"
  | .extra => "Extra data"
  | .unterminated => "Unterminated string starting at"
  | .control => "Invalid control character at"
  | .escape => "Invalid \\escape"
  | .unicodeEscape => "Invalid \\uXXXX escape"
  | .byteOrderMark => "Unexpected UTF-8 BOM (decode using utf-8-sig)"
  | .tooLong digits => (Numeral.Problem.tooLong digits).message
  | .tooDeep c =>
    .concat ["maximum recursion depth exceeded while decoding a JSON ", c.name, " from a unicode string"]

def Fault.isMalformed : Fault → Bool
  | .tooLong _ | .tooDeep _ => false
  | _ => true

structure Stop where
  fault : Fault
  rest : Text

def isSpace (c : Char) : Bool := c = ' ' || c = '\t' || c = '\n' || c = '\r'

def skipSpace (s : Text) : Text := s.dropWhile isSpace

def unitOf? (a b c d : Char) : Option Nat := do
  let a ← Text.hexValue? a
  let b ← Text.hexValue? b
  let c ← Text.hexValue? c
  let d ← Text.hexValue? d
  return ((a * 16 + b) * 16 + c) * 16 + d

def simpleEscape? (c : Char) : Option Char :=
  if c = '"' ∨ c = '\\' ∨ c = '/' then some c
  else if c = 'b' then some '\x08'
  else if c = 'f' then some '\x0c'
  else if c = 'n' then some '\n'
  else if c = 'r' then some '\r'
  else if c = 't' then some '\t'
  else none

def charOfPair? (hi lo : Nat) : Option Char :=
  if 0xd800 ≤ hi ∧ hi ≤ 0xdbff ∧ 0xdc00 ≤ lo ∧ lo ≤ 0xdfff then
    some (Char.ofNat (0x10000 + (hi - 0xd800) * 0x400 + (lo - 0xdc00)))
  else none

/-- The glyphs of code units; a half of a pair that stands alone is broken. -/
def glyphsOfUnits : List Nat → Glyphs
  | [] => []
  | [u] => [.ofPoint u]
  | u :: v :: us =>
    match charOfPair? u v with
    | some c => .char c :: glyphsOfUnits us
    | none => .ofPoint u :: glyphsOfUnits (v :: us)

/-- The code units of a string after its opening quote; `start` is the text from that quote on. An escape
of a code unit never ends the text. -/
def units (start : Text) : Text → Except Stop (List Nat × Text)
  | [] => .error ⟨.unterminated, start⟩
  | '"' :: r => .ok ([], r)
  | ['\\'] => .error ⟨.unterminated, start⟩
  | '\\' :: 'u' :: a :: b :: c :: d :: r =>
    match r.isEmpty, unitOf? a b c d with
    | false, some u => (units start r).map fun (us, rest) => (u :: us, rest)
    | _, _ => .error ⟨.unicodeEscape, 'u' :: a :: b :: c :: d :: r⟩
  | '\\' :: c :: r =>
    if c = 'u' then .error ⟨.unicodeEscape, c :: r⟩
    else match simpleEscape? c with
      | none => .error ⟨.escape, '\\' :: c :: r⟩
      | some k => (units start r).map fun (us, rest) => (k.toNat :: us, rest)
  | c :: r =>
    if c.toNat < 0x20 then .error ⟨.control, c :: r⟩
    else (units start r).map fun (us, rest) => (c.toNat :: us, rest)

def string (start : Text) : Except Stop (Glyphs × Text) :=
  (units start (start.drop 1)).map fun (us, rest) => (glyphsOfUnits us, rest)

def digits (s : Text) : Text × Text := (s.takeWhile Char.isDigit, s.dropWhile Char.isDigit)

def fraction? : Text → Option (Text × Text)
  | '.' :: s => match digits s with
    | ([], _) => none
    | found => some found
  | _ => none

def exponent? : Text → Option (Int × Text)
  | c :: s =>
    if c = 'e' ∨ c = 'E' then
      let (negative, s) := match s with
        | '-' :: r => (true, r)
        | '+' :: r => (false, r)
        | r => (false, r)
      match digits s with
      | ([], _) => none
      | (ds, rest) =>
        let n : Int := Text.numberOfDigits ds
        some (if negative then -n else n, rest)
    else none
  | [] => none

def number (s : Text) : Except Stop (Json × Text) :=
  let (negative, unsigned) := match s with
    | '-' :: r => (true, r)
    | r => (false, r)
  let (whole, rest) := match unsigned with
    | '0' :: r => (['0'], r)
    | r => digits r
  if whole.isEmpty then .error ⟨.value, s⟩
  else match fraction? rest, exponent? ((fraction? rest).map (·.2) |>.getD rest) with
    | none, none =>
      if Numeral.digitLimit < whole.length then .error ⟨.tooLong whole.length, s⟩
      else
        let n : Int := Text.numberOfDigits whole
        .ok (.int (if negative then -n else n), rest)
    | fr, ex =>
      let places := (fr.map (·.1)).getD []
      let after := (fr.map (·.2)).getD rest
      let (e, after) := ex.getD (0, after)
      .ok (.float (.ofDecimal negative (Text.numberOfDigits (whole ++ places)) (e - places.length)), after)

def word? (s : Text) : Option (Json × Text) :=
  [("null", Json.null), ("true", .bool true), ("false", .bool false), ("NaN", .float .nan),
    ("Infinity", .float (.infinite false)), ("-Infinity", .float (.infinite true))].findSome?
    fun (w, v) => (Text.after? s w.toList).map (v, ·)

def nestingLimit : Nat := 988

mutual

/-- A value at the front of a text with no blank before it, in a container of some depth. The fuel bounds the
nesting and the length. -/
def value : Nat → Nat → Text → Except Stop (Json × Text)
  | 0, _, s => .error ⟨.value, s⟩
  | fuel + 1, depth, s => match s with
    | '"' :: _ => do let (t, rest) ← string s; return (.ofGlyphs t, rest)
    | '{' :: r =>
      if nestingLimit ≤ depth then .error ⟨.tooDeep .object, s⟩
      else match skipSpace r with
        | '}' :: rest => .ok (.obj [], rest)
        | r => do let (ms, rest) ← members fuel (depth + 1) [] r; return (.ofMembers ms, rest)
    | '[' :: r =>
      if nestingLimit ≤ depth then .error ⟨.tooDeep .array, s⟩
      else match skipSpace r with
        | ']' :: rest => .ok (.arr [], rest)
        | r => do let (vs, rest) ← items fuel (depth + 1) r; return (.arr vs, rest)
    | _ => (word? s).elim (number s) .ok

def items : Nat → Nat → Text → Except Stop (List Json × Text)
  | 0, _, s => .error ⟨.value, s⟩
  | fuel + 1, depth, s => do
    let (v, rest) ← value fuel depth s
    match skipSpace rest with
    | ']' :: rest => return ([v], rest)
    | ',' :: rest => let (vs, rest) ← items fuel depth (skipSpace rest); return (v :: vs, rest)
    | rest => .error ⟨.comma, rest⟩

def members : Nat → Nat → List (Glyphs × Json) → Text → Except Stop (List (Glyphs × Json) × Text)
  | 0, _, _, s => .error ⟨.name, s⟩
  | fuel + 1, depth, before, s => match s with
    | '"' :: _ => do
      let (k, rest) ← string s
      match skipSpace rest with
      | ':' :: rest => do
        let (v, rest) ← value fuel depth (skipSpace rest)
        let ms := Members.put before k v
        match skipSpace rest with
        | '}' :: rest => return (ms, rest)
        | ',' :: rest => members fuel depth ms (skipSpace rest)
        | rest => .error ⟨.comma, rest⟩
      | rest => .error ⟨.colon, rest⟩
    | s => .error ⟨.name, s⟩

end

structure Problem where
  fault : Fault
  line : Nat
  column : Nat
  offset : Nat

def Problem.message (p : Problem) : Text :=
  if !p.fault.isMalformed then p.fault.message
  else .concat [p.fault.message, ": line ", Text.ofNat p.line, " column ", Text.ofNat p.column, " (char ",
    Text.ofNat p.offset, ")"]

/-- Lines and columns count from one; a column counts from the last line feed before the place. -/
def Stop.problem (whole : Text) (e : Stop) : Problem :=
  let before := whole.take (whole.length - e.rest.length)
  ⟨e.fault, before.count '\n' + 1, (before.reverse.takeWhile (· != '\n')).length + 1, before.length⟩

def document (s : Text) : Except Stop (Json × Text) := do
  if Text.startsWith s ['\uFEFF'] then .error ⟨.byteOrderMark, s⟩
  let (v, rest) ← value (s.length + 1) 0 (skipSpace s)
  if (skipSpace rest).isEmpty then return (v, []) else .error ⟨.extra, skipSpace rest⟩

def parse (s : Text) : Except Problem Json :=
  match document s with
  | .ok (v, _) => .ok v
  | .error e => .error (e.problem s)

end RuleReview.Json
