import RuleReview.Environment
import RuleReview.FileTree.Basic
import RuleReview.Members
import RuleReview.Text.Case
import RuleReview.Text.Lines

/-! # Files of environment variables

Each line `NAME=value` sets a variable; `export` may stand before it and a comment after it. A value in quotes
may go over several lines and hold escapes. `${NAME}` in a value stands for a variable and `${NAME:-text}` for
the text when there is none. A line that is nothing of this is left out and reported by its number.
-/
namespace RuleReview.Environment

def isInlineBlank (c : Char) : Bool := Text.isBlank c && c != '\r' && c != '\n'

def skipInline (s : Text) : Text := s.dropWhile isInlineBlank

def isBreak (c : Char) : Bool := c == '\r' || c == '\n'

/-- The text up to the quote that closes it, and what follows. A character after a backslash closes nothing. -/
def untilQuote (q : Char) : Text → Option (Text × Text)
  | [] => none
  | [c] => if c = q then some ([], []) else none
  | c :: d :: s =>
    if c = q then some ([], d :: s)
    else if c = '\\' then (untilQuote q s).map fun (v, rest) => (c :: d :: v, rest)
    else (untilQuote q (d :: s)).map fun (v, rest) => (c :: v, rest)

def doubleEscape? : Char → Option Char
  | '\\' => some '\\'
  | '\'' => some '\''
  | '"' => some '"'
  | 'a' => some '\x07'
  | 'b' => some '\x08'
  | 'f' => some '\x0c'
  | 'n' => some '\n'
  | 'r' => some '\r'
  | 't' => some '\t'
  | 'v' => some '\x0b'
  | _ => none

def singleEscape? : Char → Option Char
  | '\\' => some '\\'
  | '\'' => some '\''
  | _ => none

def unescape (escape? : Char → Option Char) : Text → Text
  | [] => []
  | '\\' :: c :: s =>
    match escape? c with
    | some d => d :: unescape escape? s
    | none => '\\' :: unescape escape? (c :: s)
  | c :: s => c :: unescape escape? s

/-- A value without quotes ends before a comment, which follows a blank. -/
def beforeComment : Text → Text
  | [] => []
  | c :: s => if Text.isBlank c && (Text.trimStart s).head? == some '#' then [] else c :: beforeComment s

/-- The value after an equals sign, and what follows. Blanks before it count for a comment alone. -/
def value? (s : Text) : Option (Text × Text) :=
  match skipInline s with
  | '\'' :: s => (untilQuote '\'' s).map fun (v, rest) => (unescape singleEscape? v, rest)
  | '"' :: s => (untilQuote '"' s).map fun (v, rest) => (unescape doubleEscape? v, rest)
  | _ =>
    let raw := s.takeWhile (!isBreak ·)
    some (Text.trimEnd (skipInline (beforeComment raw)), s.drop raw.length)

def key? : Text → Option (Text × Text)
  | '\'' :: s =>
    let name := s.takeWhile (· != '\'')
    if name.isEmpty then none
    else match s.drop name.length with
      | _ :: rest => some (name, rest)
      | [] => none
  | s =>
    let name := s.takeWhile fun c => c != '=' && c != '#' && !Text.isBlank c
    if name.isEmpty then none else some (name, s.drop name.length)

def skipExport (s : Text) : Text :=
  match s.after? "export" with
  | some (c :: rest) => if isInlineBlank c then skipInline rest else s
  | _ => s

def lineEnd? (s : Text) : Option Text :=
  let s := skipInline s
  let s := if s.head? = some '#' then s.dropWhile (!isBreak ·) else s
  match s with
  | [] => some []
  | '\r' :: '\n' :: rest => some rest
  | c :: rest => if isBreak c then some rest else none

structure Binding where
  name : Text
  value : Option Text

/-- What a line starts with: nothing but a comment, or a variable. Where it is neither, the rest of the line
is what is skipped. -/
def statement (s : Text) : Except Text (Option Binding × Text) := do
  let finish (b : Option Binding) (rest : Text) : Except Text (Option Binding × Text) :=
    match lineEnd? rest with
    | some next => .ok (b, next)
    | none => .error rest
  let s := skipExport s
  if s.head? = some '#' then finish none s
  else match key? s with
    | none => .error s
    | some (name, rest) =>
      match skipInline rest with
      | '=' :: rest =>
        match value? rest with
        | none => .error (skipInline rest)
        | some (v, rest) => finish (some ⟨name, some v⟩) rest
      | rest => finish (some ⟨name, none⟩) rest

/-- A text's bindings in their order, and the numbers of the lines where a statement that is none starts. -/
structure Contents where
  bindings : List Binding := []
  refused : List Nat := []

def contentsFrom : Nat → Nat → Text → Contents
  | 0, _, _ => {}
  | fuel + 1, line, s =>
    match Text.trimStart s with
    | [] => {}
    | body =>
      let lineAfter (rest : Text) : Nat := line + (s.count '\n' - rest.count '\n')
      match statement body with
      | .ok (b, rest) =>
        let more := contentsFrom fuel (lineAfter rest) rest
        { more with bindings := b.toList ++ more.bindings }
      | .error rest =>
        let next := (rest.dropWhile (!isBreak ·)).drop 1
        let more := contentsFrom fuel (lineAfter next) next
        { more with refused := line :: more.refused }

def contents (s : Text) : Contents := contentsFrom (s.length + 1) 1 s

/-- A name after a dollar sign and a brace, the text to use without such a variable, and what follows. -/
def reference? (s : Text) : Option (Text × Text × Text) := do
  let rest ← s.after? "$\x7b"
  let name := rest.takeWhile fun c => c != '}' && c != ':'
  match rest.drop name.length with
  | '}' :: rest => some (name, [], rest)
  | ':' :: '-' :: rest =>
    let instead := rest.takeWhile (· != '}')
    match rest.drop instead.length with
    | _ :: rest => some (name, instead, rest)
    | [] => none
  | _ => none

def interpolate (value? : Text → Option Text) : Nat → Text → Text
  | 0, s => s
  | fuel + 1, s =>
    match s with
    | [] => []
    | c :: r =>
      match reference? s with
      | some (name, instead, rest) => (value? name).getD instead ++ interpolate value? fuel rest
      | none => c :: interpolate value? fuel r

/-- The values of bindings; a reference means a variable that is set already, else an earlier binding. A
binding without a value is known and empty. -/
def resolve (env : Environment) (bindings : List Binding) : List (Text × Option Text) :=
  bindings.foldl (fun known b =>
    let look (name : Text) : Option Text :=
      (env.lookup name).orElse fun _ => (known.lookup name).map (·.getD [])
    Members.put known b.name (b.value.map fun v => interpolate look (v.length + 1) v)) []

def check (name value : Text) : Except VariableProblem Unit :=
  if name.contains '\x00' || value.contains '\x00' then .error .zeroByte
  else if name.contains '=' then .error .badName
  else .ok ()

def extend (env : Environment) (bindings : List Binding) : Except VariableProblem Environment := do
  let added := (resolve env bindings).filterMap fun (name, v) =>
    if (env.lookup name).isSome then none else v.map (name, ·)
  added.forM fun (name, v) => check name v
  return env ++ added

def fileSwitch : Text := "PYTHON_DOTENV_DISABLED"

def affirmations : List Text := ["1", "true", "t", "yes", "y"]

/-- Whether no file is to be read. Letters count alike, the long s among them. -/
def ignoresFiles (env : Environment) : Bool :=
  (env.lookup fileSwitch).any fun v =>
    affirmations.contains (Text.lowercase (v.map fun c => if c = 'ſ' then 's' else c))

def unparsedLog (line : Nat) : Text :=
  .concat ["python-dotenv could not parse statement starting at line ", Text.ofNat line, "\n"]

/-- What the variables of a file add to an environment, and what is said about the lines that are refused. -/
def load (t : FileTree) (file : Path) (env : Environment) : Except Failure Environment × Text :=
  if env.ignoresFiles || (t.hasFile file).toOption != some true then (.ok env, [])
  else match t.readText file with
    | .error p => (.error (.noFile file.toText p), [])
    | .ok (.error bad) => (.error (.notText bad), [])
    | .ok (.ok s) =>
      let c := contents s
      ((env.extend c.bindings).mapError .badVariable, c.refused.flatMap unparsedLog)

end RuleReview.Environment
