import RuleReview.Text.Quoted
import RuleReview.Text.Word

/-! # Arguments of a handler

A tag may name a handler, and give it arguments as a value that is written out: numbers, texts between quotes,
names of constants, and values in brackets. Here it is only told whether a text is such a value.
-/
namespace RuleReview.Markup

inductive Token where
  | name (s : Text)
  | number
  | text
  | mark (c : Char)
  deriving DecidableEq, Repr

/-- The rest after the quote that closes a text; an escaped quote closes none, and neither does a line end. -/
def afterQuote (q : Char) : Text → Option Text
  | [] => none
  | [c] => if c = q then some [] else none
  | c :: d :: s => if c = '\\' then afterQuote q s else if c = q then some (d :: s)
    else if c = '\n' then none else afterQuote q (d :: s)

def quotePrefixes : List Text := ["r", "u", "b", "br", "rb"]

def numeralFault? (s : Text) : Option Text :=
  let whole := s.takeWhile fun c => c.isDigit || c = '_'
  let rest := s.drop whole.length
  if rest.any fun c => !(c.isDigit || c = '.' || c = 'e' || c = 'E' || c = 'j' || c = 'J') then
    some "invalid decimal literal"
  else if rest.isEmpty && whole.head? = some '0' && whole.any (· ≠ '0') then
    some (.concat ["leading zeros in decimal integer literals are not permitted; ",
      "use an 0o prefix for octal integers"])
  else none

def tokens : Nat → List Char → Text → Except Text (List Token)
  | 0, _, _ => .error "invalid syntax"
  | _, c :: _, [] => .error (.concat ["'", [c], "' was never closed"])
  | _, [], [] => .ok []
  | fuel + 1, opened, c :: s =>
    if c = ' ' || c = '\t' || (c = '\n' && !opened.isEmpty) then tokens fuel opened s
    else if c = '\'' || c = '"' then
      match afterQuote c s with
      | some rest => (tokens fuel opened rest).map (.text :: ·)
      | none => .error "unterminated string literal (detected at line 1)"
    else if c = '(' || c = '\x7b' then (tokens fuel (c :: opened) s).map (.mark c :: ·)
    else if c = ')' || c = '\x7d' then
      match opened with
      | [] => .error (.concat ["unmatched '", [c], "'"])
      | o :: opened =>
        if (o = '(') = (c = ')') then (tokens fuel opened s).map (.mark c :: ·)
        else .error (.concat ["closing parenthesis '", [c], "' does not match opening parenthesis '", [o], "'"])
    else if c.isDigit || (c = '.' && s.head?.any Char.isDigit) then
      let numeral := c :: s.takeWhile fun d => Text.isWord d || d = '.'
      match numeralFault? numeral with
      | some fault => .error fault
      | none => (tokens fuel opened (s.drop (numeral.length - 1))).map (.number :: ·)
    else if Text.isNameStart c then
      let name := c :: s.takeWhile Text.isWord
      let rest := s.drop (name.length - 1)
      if quotePrefixes.contains (Text.lower name) && rest.head?.any (fun d => d = '\'' || d = '"') then
        tokens fuel opened rest
      else (tokens fuel opened rest).map (.name name :: ·)
    else (tokens fuel opened s).map (.mark c :: ·)

/-- What is wrong with a value that could be computed but is not written out. -/
def notWritten : Text := "malformed node or string on line 1"

def constants : List Text := ["None", "True", "False"]

mutual

def readValue : Nat → List Token → Except Text (List Token)
  | 0, _ => .error "invalid syntax"
  | fuel + 1, ts =>
    match ts with
    | .number :: rest => .ok rest
    | .text :: rest => .ok (rest.dropWhile (· = .text))
    | .name n :: rest => if constants.contains n then .ok rest else .error notWritten
    | .mark c :: rest =>
      if c = '+' || c = '-' then
        match rest with
        | .number :: rest => .ok rest
        | _ => .error "invalid syntax"
      else if c = '(' then readValues fuel ')' rest
      else if c = '\x7b' then readValues fuel '\x7d' rest
      else .error "invalid syntax"
    | [] => .error "invalid syntax"

def readValues : Nat → Char → List Token → Except Text (List Token)
  | 0, _, _ => .error "invalid syntax"
  | fuel + 1, close, ts =>
    if ts.head? = some (.mark close) then .ok ts.tail
    else
      match readValue fuel ts with
      | .error what => .error what
      | .ok (.mark c :: rest) =>
        if c = close then .ok rest
        else if c = ',' || (c = ':' && close = '\x7d') then readValues fuel close rest
        else .error "invalid syntax"
      | .ok _ => .error "invalid syntax. Perhaps you forgot a comma?"

end

def valueFault? (s : Text) : Option Text :=
  let fuel := 2 * s.length + 4
  match (tokens fuel [] s).bind (readValue fuel) with
  | .error what => some what
  | .ok [] => none
  | .ok (.mark ',' :: rest) =>
    match readValues fuel ')' (rest ++ [.mark ')']) with
    | .ok [] => none
    | .ok _ => some "invalid syntax"
    | .error what => some what
  | .ok _ => some "invalid syntax"

/-- The arguments in what a tag says of a handler: those after its name, which are none when it stands alone, or
all of it when it names no handler. -/
def handlerArguments (s : Text) : Text :=
  let rest := s.dropWhile fun c => Text.isWord c || c = '.'
  if rest.isEmpty then "()"
  else if rest.head? = some '(' && rest.getLast? = some ')' && !rest.contains '\n' then rest
  else s

end RuleReview.Markup
