import Mathlib.Logic.Function.Basic
import RuleReview.Proofs.Text.Utf8
import RuleReview.Text.Glyph

/-! # Texts as glyphs

A text of glyphs that is not broken is one text, and what is done to its glyphs is done to the text.
-/
namespace RuleReview.Glyphs
variable {g : Glyphs} {s : Text}

theorem text?_char_cons (c : Char) (g : Glyphs) : text? (.char c :: g) = (text? g).map (c :: ·) := by
  rw [text?, List.mapM_cons, Glyph.char?, ← text?]
  cases text? g <;> rfl

theorem text?_ofText (s : Text) : (ofText s).text? = some s := by
  induction s with
  | nil => rfl
  | cons c s ih =>
    rw [ofText, List.map_cons, text?_char_cons, ← ofText, ih]
    rfl

theorem text?_eq_some : g.text? = some s ↔ g = ofText s := by
  refine ⟨fun h => ?_, fun h => h ▸ text?_ofText s⟩
  induction g generalizing s with
  | nil => exact Option.some.inj h ▸ rfl
  | cons x g ih =>
    cases x with
    | half => cases h
    | char c =>
      rw [text?_char_cons] at h
      obtain ⟨t, ht, rfl⟩ := Option.map_eq_some_iff.mp h
      rw [ih ht]
      rfl

theorem ofText_injective : Function.Injective ofText := by
  intro s t h
  exact Option.some.inj ((text?_ofText s).symm.trans ((congrArg text? h).trans (text?_ofText t)))

theorem exists_of_lossy_eq_append {t : Text} (h : g.lossy = s ++ t) (hs : '\uFFFD' ∉ s) : ∃ r, g = ofText s ++ r := by
  induction s generalizing g with
  | nil => exact ⟨g, rfl⟩
  | cons c s ih =>
    obtain ⟨hc, hs⟩ := not_or.mp (hs ∘ List.mem_cons.mpr)
    cases g with
    | nil => cases h
    | cons x g =>
      obtain ⟨hx, hg⟩ := List.cons.inj h
      obtain ⟨r, rfl⟩ := ih hg hs
      cases x with
      | half => exact absurd hx hc
      | char d =>
        obtain rfl : d = c := hx
        exact ⟨r, rfl⟩

theorem dropWhile_ofText (p : Char → Bool) (q : Glyph → Bool) (h : ∀ c, q (.char c) = p c) (s : Text) :
    (ofText s).dropWhile q = ofText (s.dropWhile p) := by
  rw [ofText, List.dropWhile_map, ofText]
  exact congrArg (fun f => (s.dropWhile f).map Glyph.char) (funext h)

theorem trim_ofText (s : Text) : (ofText s).trim = ofText s.trim := by
  have hblank : ∀ c, isBlank (.char c) = Text.isBlank c := fun _ => rfl
  have hreverse : ∀ t : Text, (ofText t).reverse = ofText t.reverse := fun t => List.map_reverse.symm
  rw [trim, dropWhile_ofText Text.isBlank isBlank hblank, hreverse, dropWhile_ofText Text.isBlank isBlank hblank,
    hreverse]
  rfl

theorem upTo_ofText (c : Char) (s : Text) : (ofText s).takeWhile (· != .char c) = ofText (s.upTo c) := by
  have hmark : ((· != Glyph.char c) ∘ Glyph.char) = (· != c) := by
    funext d
    rw [Function.comp_apply, Bool.eq_iff_iff, bne_iff_ne, bne_iff_ne, ne_eq, ne_eq, Glyph.char.injEq]
  rw [ofText, List.takeWhile_map, hmark]
  rfl

theorem fileName?_ofText (s : Text) : (ofText s).fileName? = some s := by
  have hbytes : (ofText s).mapM fileBytes? = some (s.map fun c => Text.encode [c]) := by
    induction s with
    | nil => rfl
    | cons c s ih =>
      rw [ofText, List.map_cons, List.mapM_cons, ← ofText, ih]
      rfl
  rw [fileName?, hbytes, Option.bind_some, Text.decode?_eq_some, List.flatten_eq_flatMap, List.flatMap_map]
  simp [Text.encode]

end RuleReview.Glyphs
