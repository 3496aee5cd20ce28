import RuleReview.Yaml.Moment

/-! # Tags

A tag says what a node is to be read as. For a plain scalar it is found from the text.
-/
namespace RuleReview.Yaml

inductive Tag where
  | null | bool | int | float | timestamp | binary | str | seq | map | set | pairs
  /-- The key `<<`, whose value is merged into the mapping. -/
  | merge
  /-- The scalar `=`. -/
  | default
  | unknown
  deriving DecidableEq, Repr

namespace Tag

def standard : Text := "tag:yaml.org,2002:"

def names : List (String × Tag) :=
  [("null", .null), ("bool", .bool), ("int", .int), ("float", .float), ("timestamp", .timestamp),
   ("binary", .binary), ("str", .str), ("seq", .seq), ("map", .map), ("set", .set), ("omap", .pairs),
   ("pairs", .pairs), ("merge", .merge), ("value", .default)]

def ofText (s : Text) : Tag :=
  ((s.after? standard).bind fun name => names.lookup (String.ofList name)).getD .unknown

def isOne (words : List String) (s : Text) : Bool := words.contains (String.ofList s)

def isNull (s : Text) : Bool := s.isEmpty || isOne ["~", "null", "Null", "NULL"] s

def trueWords : List String := ["yes", "Yes", "YES", "true", "True", "TRUE", "on", "On", "ON"]

def falseWords : List String := ["no", "No", "NO", "false", "False", "FALSE", "off", "Off", "OFF"]

def isBool (s : Text) : Bool := isOne trueWords s || isOne falseWords s

def unsigned : Text → Text
  | '-' :: s => s
  | '+' :: s => s
  | s => s

def isDigits (s : Text) : Bool := s.all fun c => c.isDigit || c = '_'

def isNumeral (s : Text) : Bool := s.head?.any Char.isDigit && isDigits s

def isSixtieth : Text → Bool
  | [c] => c.isDigit
  | [b, c] => '0' ≤ b && b ≤ '5' && c.isDigit
  | _ => false

def isInt (s : Text) : Bool :=
  match unsigned s with
  | '0' :: 'b' :: r => !r.isEmpty && r.all fun c => c = '0' || c = '1' || c = '_'
  | '0' :: 'x' :: r => !r.isEmpty && r.all fun c => (Text.hexValue? c).isSome || c = '_'
  | '0' :: r => r.all fun c => (Text.octalValue? c).isSome || c = '_'
  | r =>
    match r.splitOn ':' with
    | first :: sixtieths => isNumeral first && sixtieths.all isSixtieth
    | [] => false

def isExponent : Text → Bool
  | [] => true
  | e :: sign :: r => (e = 'e' || e = 'E') && (sign = '-' || sign = '+') && !r.isEmpty && r.all Char.isDigit
  | _ => false

def isFraction (s : Text) : Bool := isExponent (s.dropWhile fun c => c.isDigit || c = '_')

/-- A number with a point; an exponent needs its sign, and base sixty has no exponent. -/
def isFloat (s : Text) : Bool :=
  let r := unsigned s
  if isOne [".inf", ".Inf", ".INF"] r then true
  else if isOne [".nan", ".NaN", ".NAN"] s then true
  else match s with
    | '.' :: f => f.head?.any Char.isDigit && isFraction f
    | _ =>
      match r.dropWhile (· != '.') with
      | '.' :: f =>
        match (Text.upTo '.' r).splitOn ':' with
        | [whole] => isNumeral whole && isFraction f
        | whole :: sixtieths => isNumeral whole && sixtieths.all isSixtieth && isDigits f
        | [] => false
      | _ => false

def withoutBreak (s : Text) : Text := if s.getLast? = some '\n' then s.dropLast else s

def ofPlainText (s : Text) : Tag :=
  if isBool s then .bool
  else if isFloat s then .float
  else if isInt s then .int
  else if s = "<<".toList then .merge
  else if isNull s then .null
  else if MomentText.isPlain s then .timestamp
  else if s = ['='] then .default
  else if isOne ["!", "&", "*"] s then .unknown
  else .str

/-- The tag of a plain scalar. A line feed may follow what the tag is found from. -/
def ofPlain (g : Glyphs) : Tag := g.text?.elim .str fun s => if s = ['\n'] then .str else ofPlainText (withoutBreak s)

end Tag

end RuleReview.Yaml
