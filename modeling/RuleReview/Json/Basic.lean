import RuleReview.Decimal.Binary64
import RuleReview.Text.Glyph

/-! # JSON values

An object keeps its members in the order in which their names first appear; a later member of the same
name replaces the value. Strings and names may hold broken characters; those that do have constructors of
their own, so that a string or a name that is a text is one by its type.
-/
namespace RuleReview

inductive Json where
  | null
  | bool (b : Bool)
  | int (n : Int)
  | float (x : Binary64)
  | str (s : Text)
  /-- A string with a broken character. -/
  | broken (s : Glyphs)
  | arr (items : List Json)
  | obj (members : List (Text × Json))
  /-- An object with a broken character in a name. -/
  | brokenObj (members : List (Glyphs × Json))
  deriving Inhabited

namespace Json

def ofGlyphs (g : Glyphs) : Json := g.text?.elim (.broken g) .str

def ofMembers (ms : List (Glyphs × Json)) : Json :=
  (ms.mapM fun m => (Glyphs.text? m.1).map (·, m.2)).elim (.brokenObj ms) .obj

def members? : Json → Option (List (Text × Json))
  | .obj members => some members
  | .brokenObj members => some (members.filterMap fun m => (Glyphs.text? m.1).map (·, m.2))
  | _ => none

def member? (name : Text) : Json → Option Json
  | .obj members => members.lookup name
  | _ => none

def ofOption (f : α → Json) : Option α → Json
  | none => .null
  | some a => f a

def texts (l : List Text) : Json := .arr (l.map .str)

def optText : Option Text → Json := ofOption .str

def nat (n : Nat) : Json := .int n

def record (members : List (String × Json)) : Json := .obj (members.map fun (k, v) => (k.toList, v))

end Json

end RuleReview
