import RuleReview.Failure
import RuleReview.Markup.Argument
import RuleReview.Markup.Style
import RuleReview.Text.Emoji

/-! # Markup

Text for a terminal with tags in brackets, such as `[bold]` and `[/bold]`, and names of symbols between
colons. A tag is a style, or names a handler after an at sign, and leaves no character behind, but a closing tag
needs an open one of the same style, told in any words. A backslash before a tag makes it text, and `escape` puts
it there. A bracket that opens no tag is text.
-/
namespace RuleReview.Markup

def beginsTag (c : Char) : Bool := ('a' ≤ c && c ≤ 'z') || c = '#' || c = '/' || c = '@'

/-- Whether the text after an opening bracket is a tag: it is closed with no other bracket before. -/
def opensTag : Text → Bool
  | [] => false
  | c :: s => beginsTag c && (s.dropWhile fun d => d != '[' && d != ']').head? == some ']'

def slashes (n : Nat) : Text := List.replicate n '\\'

/-- Escapes what would be a tag; `n` backslashes have been read just before. -/
def escapeFrom (n : Nat) : Text → Text
  | [] => slashes n
  | c :: s =>
    if c = '\\' then escapeFrom (n + 1) s
    else slashes (if c = '[' && opensTag s then 2 * n + 1 else n) ++ c :: escapeFrom 0 s

/-- The markup that shows a text as it is. A single backslash at the end is doubled, for a tag may follow. -/
def escape (s : Text) : Text :=
  let e := escapeFrom 0 s
  if e.endsWith "\\" && !e.endsWith "\\\\" then e ++ ['\\'] else e

/-- A piece of markup; a tag is known by what is between its brackets and by the place of the first. -/
inductive Piece where
  | text (s : Text)
  | tag (body : Text) (position : Nat)
  deriving DecidableEq, Repr

/-- What is being read: text, backwards with the backslashes at its end counted, or the inside of
brackets, backwards. -/
inductive Reading where
  | text (before : Text) (backslashes : Nat)
  | escaped (inside : Text)
  | tag (inside : Text) (position : Nat)

def pieceOf (s : Text) : List Piece := if s.isEmpty then [] else [.text s]

/-- The pieces of the markup from a position on. Before a tag two backslashes stand for one, and one that is
left over makes the tag text; before another bracket the last backslash is dropped. -/
def piecesFrom (position : Nat) : Reading → Text → List Piece
  | .text before n, [] => pieceOf (before.reverse ++ slashes n)
  | .text before n, c :: s =>
    if c = '\\' then piecesFrom (position + 1) (.text before (n + 1)) s
    else if c = '[' && opensTag s then
      pieceOf before.reverse ++ pieceOf (slashes (n / 2)) ++
        piecesFrom (position + 1) (if n % 2 = 1 then .escaped [] else .tag [] position) s
    else
      let kept := if c = '[' then n - 1 else n
      piecesFrom (position + 1) (.text (c :: slashes kept ++ before) 0) s
  | .escaped inside, [] => pieceOf ('[' :: inside.reverse)
  | .escaped inside, c :: s =>
    if c = ']' then .text ('[' :: inside.reverse ++ [']']) :: piecesFrom (position + 1) (.text [] 0) s
    else piecesFrom (position + 1) (.escaped (c :: inside)) s
  | .tag inside start, [] => [.tag inside.reverse start]
  | .tag inside start, c :: s =>
    if c = ']' then .tag inside.reverse start :: piecesFrom (position + 1) (.text [] 0) s
    else piecesFrom (position + 1) (.tag (c :: inside) start) s

def pieces (markup : Text) : List Piece := piecesFrom 0 (.text [] 0) markup

structure Tag where
  name : Text
  given : Option Text
  deriving DecidableEq, Repr

def Tag.ofBody (body : Text) : Tag :=
  let name := Text.upTo '=' body
  { name, given := (body.drop name.length).tail? }

def Tag.style (t : Tag) : Text := t.given.elim t.name fun g => .concat [t.name, " ", g]

def isControl (c : Char) : Bool := [7, 8, 11, 12, 13].contains c.toNat

def shownText (s : Text) : Text := (Text.replaceCodes s).filter (!isControl ·)

def checkHandler (t : Tag) : Except Failure Unit :=
  match t.given with
  | some given =>
    if t.name.head? = some '@' && !given.isEmpty then
      let argument := handlerArguments (Text.trim given)
      (valueFault? argument).elim (.ok ()) fun what => .error (.markup (.badArgument argument given what))
    else .ok ()
  | none => .ok ()

def take? (name : Text) : List Tag → Option (Tag × List Tag)
  | [] => none
  | t :: ts => if t.name = name then some (t, ts) else (take? name ts).map fun (found, rest) => (found, t :: rest)

def normalName (s : Text) : Except Failure Text := (Style.normal s).mapError .numeral

/-- The text of the pieces, given the tags that are open, the innermost first. -/
def renderPieces : List Tag → List Piece → Except Failure Text
  | _, [] => .ok []
  | stack, .text s :: ps => (renderPieces stack ps).map (shownText s ++ ·)
  | stack, .tag ('/' :: body) position :: ps => do
    let name := Text.trim (Text.upTo '=' body)
    if name.isEmpty then
      match stack with
      | [] => .error (.markup (.nothingOpen position))
      | t :: outer => do
        checkHandler t
        renderPieces outer ps
    else
      match take? (← normalName name) stack with
      | none => .error (.markup (.unmatched (.concat ["[/", body, "]"]) position))
      | some (t, outer) => do
        checkHandler t
        renderPieces outer ps
  | stack, .tag body _ :: ps => do
    let t := Tag.ofBody body
    renderPieces ({ t with name := ← normalName t.name } :: stack) ps

def checkStyle : Piece → Except Failure Unit
  | .text _ | .tag ('/' :: _) _ => .ok ()
  | .tag body _ =>
    match Style.read (Tag.ofBody body).style with
    | .error (.numeral p) => .error (.numeral p)
    | _ => .ok ()

def render (markup : Text) : Except Failure Text := do
  let ps := pieces markup
  let shown ← renderPieces [] ps
  ps.forM checkStyle
  return shown

end RuleReview.Markup
