import Mathlib.Data.List.Nodup
import RuleReview.Json.Reader
import RuleReview.Json.Writer
import RuleReview.Proofs.Success
import RuleReview.Proofs.Text.Glyph

/-! # The spellings of an object

An object of strings and lists of strings can be spelled in many ways: with blanks between its parts, and with each
glyph of a string as it is or escaped. All of them are read as the object, except that two halves that stand next to
each other and form a pair are read as the character. A spelling is told by what it leaves of a text that begins with it.
-/
namespace RuleReview.Json

/-- The glyphs with the halves that form pairs joined. -/
def joined (g : Glyphs) : Glyphs := glyphsOfUnits (g.map Glyph.point)

inductive Strings where
  | one (g : Glyphs)
  | many (gs : List Glyphs)

namespace Strings

def toJson : Strings → Json
  | .one g => .ofGlyphs g
  | .many gs => .arr (gs.map .ofGlyphs)

def joined : Strings → Strings
  | .one g => .one (Json.joined g)
  | .many gs => .many (gs.map Json.joined)

end Strings

/-- The first character of `s` that is no blank is `c`, and `r` is what follows it. -/
def Opens (c : Char) (s r : Text) : Prop := ∃ blanks, (∀ b ∈ blanks, isSpace b = true) ∧ s = blanks ++ c :: r

/-- `s` begins with a spelling of a glyph inside of a string, and leaves `r`. -/
inductive SpellsGlyph : Glyph → Text → Text → Prop
  | plain {c : Char} {r : Text} : c ≠ '"' → c ≠ '\\' → 0x20 ≤ c.toNat → SpellsGlyph (.char c) (c :: r) r
  | short {c k : Char} {r : Text} : simpleEscape? k = some c → SpellsGlyph (.char c) ('\\' :: k :: r) r
  | unit {x : Glyph} {x₁ x₂ x₃ x₄ : Char} {r : Text} : unitOf? x₁ x₂ x₃ x₄ = some x.point →
      SpellsGlyph x ('\\' :: 'u' :: x₁ :: x₂ :: x₃ :: x₄ :: r) r
  | pair {c x₁ x₂ x₃ x₄ y₁ y₂ y₃ y₄ : Char} {hi lo : Nat} {r : Text} : unitOf? x₁ x₂ x₃ x₄ = some hi →
      unitOf? y₁ y₂ y₃ y₄ = some lo → charOfPair? hi lo = some c →
      SpellsGlyph (.char c) ('\\' :: 'u' :: x₁ :: x₂ :: x₃ :: x₄ :: '\\' :: 'u' :: y₁ :: y₂ :: y₃ :: y₄ :: r) r

/-- The glyphs inside of a string, with the quote that closes it. -/
inductive SpellsGlyphs : Glyphs → Text → Text → Prop
  | nil {r : Text} : SpellsGlyphs [] ('"' :: r) r
  | cons {x : Glyph} {g : Glyphs} {s s' r : Text} : SpellsGlyph x s s' → SpellsGlyphs g s' r → SpellsGlyphs (x :: g) s r

/-- The items of a list, with the bracket that closes it. -/
inductive SpellsItems : List Glyphs → Text → Text → Prop
  | last {g : Glyphs} {s s₁ s₂ r : Text} : Opens '"' s s₁ → SpellsGlyphs g s₁ s₂ → Opens ']' s₂ r → SpellsItems [g] s r
  | cons {g : Glyphs} {s s₁ s₂ s₃ r : Text} {gs : List Glyphs} : Opens '"' s s₁ → SpellsGlyphs g s₁ s₂ →
      Opens ',' s₂ s₃ → SpellsItems gs s₃ r → SpellsItems (g :: gs) s r

inductive SpellsValue : Strings → Text → Text → Prop
  | one {g : Glyphs} {s s₁ r : Text} : Opens '"' s s₁ → SpellsGlyphs g s₁ r → SpellsValue (.one g) s r
  | none {s s₁ r : Text} : Opens '[' s s₁ → Opens ']' s₁ r → SpellsValue (.many []) s r
  | many {s s₁ r : Text} {gs : List Glyphs} : Opens '[' s s₁ → SpellsItems gs s₁ r → SpellsValue (.many gs) s r

/-- The members of an object, with the brace that closes it. -/
inductive SpellsMembers : List (Text × Strings) → Text → Text → Prop
  | last {k s s₁ s₂ s₃ s₄ r : Text} {v : Strings} : Opens '"' s s₁ → SpellsGlyphs (.ofText k) s₁ s₂ →
      Opens ':' s₂ s₃ → SpellsValue v s₃ s₄ → Opens '}' s₄ r → SpellsMembers [(k, v)] s r
  | cons {k s s₁ s₂ s₃ s₄ s₅ r : Text} {v : Strings} {ms : List (Text × Strings)} : Opens '"' s s₁ →
      SpellsGlyphs (.ofText k) s₁ s₂ → Opens ':' s₂ s₃ → SpellsValue v s₃ s₄ → Opens ',' s₄ s₅ →
      SpellsMembers ms s₅ r → SpellsMembers ((k, v) :: ms) s r

variable {c : Char} {x : Glyph} {g : Glyphs} {gs : List Glyphs} {k s s' r start : Text} {v : Strings}
  {ms : List (Text × Strings)} {fuel depth : Nat}

section Reading

theorem Opens.skipSpace (h : Opens c s r) (hc : isSpace c = false) : skipSpace s = c :: r := by
  obtain ⟨blanks, hblanks, rfl⟩ := h
  rw [Json.skipSpace, List.dropWhile_append_of_pos hblanks, List.dropWhile_cons_of_neg (by simp [hc])]

/-- `r` is a proper suffix of `s`. -/
def Leaves (s r : Text) : Prop := ∃ d, d :: r <:+ s

theorem Leaves.suffix (h : Leaves s r) : r <:+ s := by
  obtain ⟨d, h⟩ := h
  exact (List.suffix_cons d r).trans h

theorem Leaves.trans (h : Leaves s s') (h' : Leaves s' r) : Leaves s r := by
  obtain ⟨d, h'⟩ := h'
  exact ⟨d, h'.trans h.suffix⟩

theorem Leaves.length_lt (h : Leaves s r) : r.length < s.length := by
  obtain ⟨d, h⟩ := h
  exact h.length_le

theorem Opens.leaves (h : Opens c s r) : Leaves s r := by
  obtain ⟨blanks, -, rfl⟩ := h
  exact ⟨c, List.suffix_append blanks _⟩

theorem SpellsGlyph.leaves (h : SpellsGlyph x s r) : Leaves s r := by
  cases h with
  | @plain c => exact ⟨c, List.suffix_rfl⟩
  | @short _ k => exact ⟨k, List.suffix_cons _ _⟩
  | @unit _ x₁ x₂ x₃ x₄ => exact ⟨x₄, List.suffix_append ['\\', 'u', x₁, x₂, x₃] _⟩
  | @pair _ x₁ x₂ x₃ x₄ y₁ y₂ y₃ y₄ =>
    exact ⟨y₄, List.suffix_append ['\\', 'u', x₁, x₂, x₃, x₄, '\\', 'u', y₁, y₂, y₃] _⟩

theorem SpellsGlyphs.leaves (h : SpellsGlyphs g s r) : Leaves s r := by
  induction h with
  | nil => exact ⟨'"', List.suffix_rfl⟩
  | cons hc _ ih => exact hc.leaves.trans ih

theorem SpellsItems.leaves (h : SpellsItems gs s r) : Leaves s r := by
  induction h with
  | last ho ht hclose => exact ho.leaves.trans (ht.leaves.trans hclose.leaves)
  | cons ho ht hcomma _ ih => exact ho.leaves.trans (ht.leaves.trans (hcomma.leaves.trans ih))

theorem SpellsValue.leaves (h : SpellsValue v s r) : Leaves s r := by
  cases h with
  | one ho hg => exact ho.leaves.trans hg.leaves
  | none ho hclose => exact ho.leaves.trans hclose.leaves
  | many ho hgs => exact ho.leaves.trans hgs.leaves

theorem SpellsMembers.close_suffix (h : SpellsMembers ms s r) : '\x7d' :: r <:+ s := by
  induction h with
  | last ho hk hcolon hv hclose =>
    obtain ⟨blanks, -, rfl⟩ := hclose
    have hmember := ho.leaves.trans (hk.leaves.trans (hcolon.leaves.trans hv.leaves))
    exact (List.suffix_append blanks _).trans hmember.suffix
  | cons ho hk hcolon hv hcomma _ ih =>
    have hmember := ho.leaves.trans (hk.leaves.trans (hcolon.leaves.trans (hv.leaves.trans hcomma.leaves)))
    exact ih.trans hmember.suffix

theorem charOfPair?_toNat (c : Char) (u : Nat) : charOfPair? c.toNat u = none := by
  have hvalid : c.toNat < 0xd800 ∨ 0xdfff < c.toNat ∧ c.toNat < 0x110000 := c.valid
  rw [charOfPair?, if_neg]
  omega

theorem ofPoint_point (x : Glyph) : Glyph.ofPoint x.point = x := by
  cases x with
  | char c =>
    have hvalid : c.toNat < 0xd800 ∨ 0xdfff < c.toNat ∧ c.toNat < 0x110000 := c.valid
    rw [Glyph.point, Glyph.ofPoint, dif_neg (by omega), Char.ofNat_toNat]
  | half u => exact dif_pos u.property

theorem glyphsOfUnits_cons_toNat (c : Char) (us : List Nat) :
    glyphsOfUnits (c.toNat :: us) = .char c :: glyphsOfUnits us := by
  have hc : Glyph.ofPoint c.toNat = .char c := ofPoint_point (.char c)
  cases us with
  | nil => exact congrArg (fun x => [x]) hc
  | cons u us => rw [glyphsOfUnits, charOfPair?_toNat, hc]

theorem glyphsOfUnits_cons_cons {u w : Nat} (h : charOfPair? u w = none) (us : List Nat) :
    glyphsOfUnits (u :: w :: us) = .ofPoint u :: glyphsOfUnits (w :: us) := by rw [glyphsOfUnits, h]

theorem glyphsOfUnits_map_toNat (t : Text) : glyphsOfUnits (t.map Char.toNat) = .ofText t := by
  induction t with
  | nil => rfl
  | cons c t ih =>
    rw [List.map_cons, glyphsOfUnits_cons_toNat, ih]
    rfl

theorem joined_ofText (t : Text) : joined (.ofText t) = .ofText t := by
  rw [joined, Glyphs.ofText, List.map_map]
  exact glyphsOfUnits_map_toNat t

/-- No two halves next to each other form a pair. -/
def IsJoined (g : Glyphs) : Prop := g.IsChain fun x y => charOfPair? x.point y.point = none

theorem isJoined_ofText (t : Text) : IsJoined (.ofText t) := by
  induction t with
  | nil => exact .nil
  | cons c t ih =>
    cases t with
    | nil => exact .singleton _
    | cons d t => exact List.isChain_cons_cons.mpr ⟨charOfPair?_toNat c _, ih⟩

theorem IsJoined.joined_eq (h : IsJoined g) : joined g = g := by
  induction g with
  | nil => rfl
  | cons x g ih =>
    cases g with
    | nil => exact congrArg (fun x => [x]) (ofPoint_point x)
    | cons y g =>
      obtain ⟨hpair, h⟩ := List.isChain_cons_cons.mp h
      refine (glyphsOfUnits_cons_cons hpair _).trans ?_
      rw [ofPoint_point]
      exact congrArg (x :: ·) (ih h)

theorem range_of_charOfPair? {hi lo : Nat} (hc : charOfPair? hi lo = some c) : hi ≤ 0xdbff ∧ 0x10000 ≤ c.toNat := by
  rw [charOfPair?] at hc
  split at hc
  · rw [← Option.some.inj hc, Text.toNat_char_ofNat (by omega)]
    omega
  · cases hc

/-- Two lists of units are read alike, also behind another unit. -/
def Alike (us vs : List Nat) : Prop :=
  glyphsOfUnits us = glyphsOfUnits vs ∧ ∀ u, glyphsOfUnits (u :: us) = glyphsOfUnits (u :: vs)

theorem Alike.cons {us vs : List Nat} (h : Alike us vs) (w : Nat) : Alike (w :: us) (w :: vs) := by
  refine ⟨h.2 w, fun u => ?_⟩
  rw [glyphsOfUnits, glyphsOfUnits, h.1, h.2 w]

theorem Alike.pair {us vs : List Nat} {hi lo : Nat} (h : Alike us vs) (hc : charOfPair? hi lo = some c) :
    Alike (hi :: lo :: us) (c.toNat :: vs) := by
  have hread : glyphsOfUnits (hi :: lo :: us) = glyphsOfUnits (c.toNat :: vs) := by
    rw [glyphsOfUnits_cons_toNat, glyphsOfUnits, hc, h.1]
  refine ⟨hread, fun u => ?_⟩
  obtain ⟨hhi, hchar⟩ := range_of_charOfPair? hc
  have hfront : charOfPair? u hi = none := if_neg (by omega)
  have hwhole : charOfPair? u c.toNat = none := if_neg (by omega)
  rw [glyphsOfUnits_cons_cons hfront, glyphsOfUnits_cons_cons hwhole, hread]

theorem units_of_spellsGlyph (h : SpellsGlyph x s r) (hr : r ≠ []) :
    ∃ us, units start s = (units start r).map (fun (vs, rest) => (us ++ vs, rest)) ∧
      ∀ vs ws, Alike vs ws → Alike (us ++ vs) (x.point :: ws) := by
  have hfull (r : Text) (hr : r ≠ []) : r.isEmpty = false := by simpa using hr
  cases h with
  | @plain c _ hquote hback hprint =>
    refine ⟨[c.toNat], ?_, fun _ _ h => h.cons _⟩
    rw [units, if_neg (by omega)]
    · rfl
    all_goals simp_all
  | @short c k _ hk =>
    refine ⟨[c.toNat], ?_, fun _ _ h => h.cons _⟩
    have hne : k ≠ 'u' := by
      rintro rfl
      cases hk
    rw [units, if_neg hne, hk]
    · rfl
    all_goals simp_all
  | unit hu =>
    refine ⟨[x.point], ?_, fun _ _ h => h.cons _⟩
    rw [units, hu, hfull r hr]
    rfl
  | @pair _ _ _ _ _ _ _ _ _ hi lo _ hhi hlo hc =>
    refine ⟨[hi, lo], ?_, fun _ _ h => h.pair hc⟩
    rw [units, hhi, hfull _ (by simp), units, hlo, hfull r hr]
    cases units start r <;> rfl

theorem units_of_spellsGlyphs (h : SpellsGlyphs g s r) :
    ∃ us, units start s = .ok (us, r) ∧ Alike us (g.map Glyph.point) := by
  induction h with
  | nil => exact ⟨[], rfl, rfl, fun _ => rfl⟩
  | cons hx hg ih =>
    obtain ⟨us, hus, halike⟩ := ih
    have hne := List.ne_nil_of_length_pos (Nat.zero_lt_of_lt hg.leaves.length_lt)
    obtain ⟨vs, hvs, hglyph⟩ := units_of_spellsGlyph hx hne
    refine ⟨vs ++ us, ?_, hglyph us _ halike⟩
    rw [hvs, hus]
    rfl

theorem string_of_spellsGlyphs (h : SpellsGlyphs g s r) : string ('"' :: s) = .ok (joined g, r) := by
  obtain ⟨us, hus, halike⟩ : ∃ us, units ('"' :: s) s = .ok (us, r) ∧ Alike us (g.map Glyph.point) :=
    units_of_spellsGlyphs h
  rw [string, List.drop_one, List.tail_cons, hus]
  exact congrArg (fun g => Except.ok (g, r)) halike.1

theorem string_of_spellsText {t : Text} (h : SpellsGlyphs (.ofText t) s r) : string ('"' :: s) = .ok (.ofText t, r) :=
  (string_of_spellsGlyphs h).trans (by rw [joined_ofText])

theorem put_of_notMem {κ α : Type} [BEq κ] [LawfulBEq κ] {l : List (κ × α)} {k : κ} (hk : k ∉ l.map Prod.fst) (a : α) :
    Members.put l k a = l ++ [(k, a)] := by
  have hnone : l.any (·.1 == k) = false := by
    rw [List.any_eq_false]
    intro m hm he
    exact hk (List.mem_map.mpr ⟨m, hm, beq_iff_eq.mp he⟩)
  rw [Members.put, hnone]
  rfl

def glyphed (ms : List (Text × Json)) : List (Glyphs × Json) := ms.map fun m => (Glyphs.ofText m.1, m.2)

theorem ofMembers_glyphed (ms : List (Text × Json)) : ofMembers (glyphed ms) = .obj ms := by
  have htexts : (glyphed ms).mapM (fun m => (Glyphs.text? m.1).map (·, m.2)) = some ms := by
    induction ms with
    | nil => rfl
    | cons m ms ih =>
      rw [glyphed, List.map_cons, List.mapM_cons, Glyphs.text?_ofText]
      rw [glyphed] at ih
      rw [ih]
      rfl
  rw [ofMembers, htexts]
  rfl

theorem put_glyphed {before : List (Text × Json)} (hk : k ∉ before.map Prod.fst) (v : Json) :
    Members.put (glyphed before) (Glyphs.ofText k) v = glyphed (before ++ [(k, v)]) := by
  have hnew : Glyphs.ofText k ∉ (glyphed before).map Prod.fst := by
    intro hmem
    rw [glyphed, List.map_map] at hmem
    obtain ⟨m, hm, he⟩ := List.mem_map.mp hmem
    exact hk (List.mem_map.mpr ⟨m, hm, Glyphs.ofText_injective he⟩)
  rw [put_of_notMem hnew, glyphed, glyphed, List.map_append]
  rfl

theorem value_of_spellsGlyphs (h : SpellsGlyphs g s r) (hfuel : 0 < fuel) :
    value fuel depth ('"' :: s) = .ok (.ofGlyphs (joined g), r) := by
  obtain ⟨fuel, rfl⟩ := Nat.exists_eq_succ_of_ne_zero (Nat.ne_of_gt hfuel)
  rw [value, string_of_spellsGlyphs h]
  rfl

theorem items_of_spells (h : SpellsItems gs s r) (hfuel : s.length ≤ fuel) :
    items fuel depth (skipSpace s) = .ok (gs.map fun g => .ofGlyphs (joined g), r) := by
  induction h generalizing fuel with
  | last ho ht hclose =>
    have hs := ho.leaves.length_lt
    have ht' := ht.leaves.length_lt
    obtain ⟨fuel, rfl⟩ := Nat.exists_eq_succ_of_ne_zero (n := fuel) (by omega)
    rw [ho.skipSpace (by decide), items, value_of_spellsGlyphs ht (by omega)]
    simp only [bind, Except.bind, hclose.skipSpace (by decide : isSpace ']' = false)]
    rfl
  | cons ho ht hcomma hts ih =>
    have hs := ho.leaves.length_lt
    have ht' := ht.leaves.length_lt
    have hrest := hcomma.leaves.length_lt
    obtain ⟨fuel, rfl⟩ := Nat.exists_eq_succ_of_ne_zero (n := fuel) (by omega)
    rw [ho.skipSpace (by decide), items, value_of_spellsGlyphs ht (by omega)]
    have hitems := @ih fuel (by omega)
    simp only [bind, Except.bind, hcomma.skipSpace (by decide : isSpace ',' = false), hitems]
    rfl

theorem SpellsItems.opens (h : SpellsItems gs s r) : ∃ s₁, skipSpace s = '"' :: s₁ := by
  cases h with
  | last ho | cons ho => exact ⟨_, ho.skipSpace (by decide)⟩

theorem value_of_spells (h : SpellsValue v s r) (hfuel : s.length ≤ fuel) (hdepth : depth < nestingLimit) :
    value fuel depth (skipSpace s) = .ok (v.joined.toJson, r) := by
  have hlength := h.leaves.length_lt
  obtain ⟨fuel, rfl⟩ := Nat.exists_eq_succ_of_ne_zero (n := fuel) (by omega)
  cases h with
  | one ho hg =>
    rw [ho.skipSpace (by decide), value_of_spellsGlyphs hg (Nat.succ_pos fuel)]
    rfl
  | none ho hclose =>
    rw [ho.skipSpace (by decide), value, if_neg (by omega), hclose.skipSpace (by decide)]
    rfl
  | @many _ s₁ _ gs ho hgs =>
    have hs := ho.leaves.length_lt
    obtain ⟨s₂, hquote⟩ := hgs.opens
    have hitems : items fuel (depth + 1) (skipSpace s₁) = .ok (gs.map fun g => .ofGlyphs (joined g), r) :=
      items_of_spells hgs (by omega)
    rw [hquote] at hitems
    rw [ho.skipSpace (by decide), value, if_neg (by omega), hquote]
    change (items fuel (depth + 1) ('"' :: s₂) >>= fun read => pure (arr read.1, read.2)) = _
    rw [hitems]
    change Except.ok (arr (gs.map fun g => .ofGlyphs (joined g)), r) = _
    rw [Strings.joined, Strings.toJson, List.map_map]
    rfl

/-- The members as they are read. -/
def readAs (ms : List (Text × Strings)) : List (Text × Json) := ms.map fun m => (m.1, m.2.joined.toJson)

theorem notMem_of_nodup {before : List (Text × Strings)} (h : ((before ++ (k, v) :: ms).map Prod.fst).Nodup) :
    k ∉ before.map Prod.fst := by
  rw [List.map_append, List.map_cons, List.nodup_middle, List.nodup_cons] at h
  exact fun hk => h.1 (List.mem_append_left _ hk)

theorem put_readAs {before : List (Text × Strings)} (hk : k ∉ before.map Prod.fst) (v : Strings) :
    Members.put (glyphed (readAs before)) (Glyphs.ofText k) v.joined.toJson = glyphed (readAs (before ++ [(k, v)])) := by
  have hnames : (readAs before).map Prod.fst = before.map Prod.fst := by
    rw [readAs, List.map_map]
    rfl
  rw [put_glyphed (hnames ▸ hk), readAs, readAs, List.map_append]
  rfl

theorem members_of_spells (h : SpellsMembers ms s r) {before : List (Text × Strings)}
    (hnames : ((before ++ ms).map Prod.fst).Nodup) (hfuel : s.length ≤ fuel) (hdepth : depth < nestingLimit) :
    members fuel depth (glyphed (readAs before)) (skipSpace s) = .ok (glyphed (readAs (before ++ ms)), r) := by
  induction h generalizing fuel before with
  | @last k _ _ _ s₃ s₄ _ v ho hk hcolon hv hclose =>
    have hs := ho.leaves.length_lt
    have hk' := hk.leaves.length_lt
    have hc' := hcolon.leaves.length_lt
    have hnew : k ∉ before.map Prod.fst := notMem_of_nodup hnames
    obtain ⟨fuel, rfl⟩ := Nat.exists_eq_succ_of_ne_zero (n := fuel) (by omega)
    have hvalue : value fuel depth (skipSpace s₃) = .ok (v.joined.toJson, s₄) := value_of_spells hv (by omega) hdepth
    rw [ho.skipSpace (by decide), members, string_of_spellsText hk]
    simp only [bind, Except.bind, hcolon.skipSpace (by decide : isSpace ':' = false),
      hvalue, hclose.skipSpace (by decide : isSpace '\x7d' = false)]
    rw [put_readAs hnew]
    rfl
  | @cons k _ _ _ s₃ s₄ _ _ v ms ho hk hcolon hv hcomma hms ih =>
    have hs := ho.leaves.length_lt
    have hk' := hk.leaves.length_lt
    have hc' := hcolon.leaves.length_lt
    have hv' := hv.leaves.length_lt
    have hcomma' := hcomma.leaves.length_lt
    have hnew : k ∉ before.map Prod.fst := notMem_of_nodup hnames
    obtain ⟨fuel, rfl⟩ := Nat.exists_eq_succ_of_ne_zero (n := fuel) (by omega)
    have hvalue : value fuel depth (skipSpace s₃) = .ok (v.joined.toJson, s₄) := value_of_spells hv (by omega) hdepth
    rw [ho.skipSpace (by decide), members, string_of_spellsText hk]
    simp only [bind, Except.bind, hcolon.skipSpace (by decide : isSpace ':' = false),
      hvalue, hcomma.skipSpace (by decide : isSpace ',' = false)]
    have hlater := @ih fuel (before ++ [(k, v)]) (by rwa [List.append_assoc]) (by omega)
    rw [put_readAs hnew, hlater, List.append_assoc]
    rfl

theorem SpellsMembers.opens (h : SpellsMembers ms s r) : ∃ s₁, skipSpace s = '"' :: s₁ := by
  cases h with
  | last ho | cons ho => exact ⟨_, ho.skipSpace (by decide)⟩

theorem parse_of_spells (h : SpellsMembers ms s []) (hnames : (ms.map Prod.fst).Nodup) :
    parse ('\x7b' :: s) = .ok (.obj (readAs ms)) := by
  have hfirst : (([] ++ ms).map Prod.fst).Nodup := hnames
  have hmembers : members (s.length + 1) 1 (glyphed []) (skipSpace s) = .ok (glyphed (readAs ms), []) :=
    members_of_spells h hfirst (by omega) (by decide)
  obtain ⟨s₁, hquote⟩ := h.opens
  rw [hquote] at hmembers
  have hvalue : value (s.length + 2) 0 ('\x7b' :: s) = .ok (.obj (readAs ms), []) := by
    rw [value, if_neg (by decide), hquote]
    change (members (s.length + 1) 1 (glyphed []) ('"' :: s₁) >>= fun read => pure (ofMembers read.1, read.2)) = _
    rw [hmembers]
    exact congrArg (fun v => Except.ok (v, [])) (ofMembers_glyphed (readAs ms))
  have hdocument : document ('\x7b' :: s) = .ok (.obj (readAs ms), []) := by
    have hspace : skipSpace ('\x7b' :: s) = '\x7b' :: s := List.dropWhile_cons_of_neg (by decide)
    rw [document, hspace]
    simp only [Text.startsWith, List.length_cons, hvalue, bind, Except.bind]
    rfl
  rw [parse, hdocument]

end Reading

section Writing

variable {plain : Char → Bool} {n : Nat}

theorem hexValue?_digitChar (hn : n < 16) : Text.hexValue? n.digitChar = some n := by
  have hall : ∀ k < 16, Text.hexValue? (Nat.digitChar k) = some k := by decide
  exact hall n hn

theorem hex_four (hn : n < 0x10000) : Text.hex 4 n = [Nat.digitChar (n / 16 / 16 / 16),
    Nat.digitChar (n / 16 / 16 % 16), Nat.digitChar (n / 16 % 16), Nat.digitChar (n % 16)] := by
  have hlow (k : Nat) (hk : k < 16) : Nat.toDigits 16 k = [Nat.digitChar k] := Nat.toDigits_of_lt_base hk
  have hhigh (k : Nat) (hk : 16 ≤ k) : Nat.toDigits 16 k = Nat.toDigits 16 (k / 16) ++ [Nat.digitChar (k % 16)] :=
    Nat.toDigits_of_base_le (by decide) hk
  have hzero (k : Nat) (hk : k < 16) : k / 16 = 0 ∧ k % 16 = k := ⟨by omega, by omega⟩
  rw [Text.hex]
  rcases Nat.lt_or_ge n 16 with h₁ | h₁
  · rw [hlow n h₁, (hzero n h₁).1, (hzero n h₁).2]
    rfl
  rcases Nat.lt_or_ge (n / 16) 16 with h₂ | h₂
  · rw [hhigh n h₁, hlow _ h₂, (hzero _ h₂).1, (hzero _ h₂).2]
    rfl
  rcases Nat.lt_or_ge (n / 16 / 16) 16 with h₃ | h₃
  · rw [hhigh n h₁, hhigh _ h₂, hlow _ h₃, (hzero _ h₃).1, (hzero _ h₃).2]
    rfl
  · rw [hhigh n h₁, hhigh _ h₂, hhigh _ h₃, hlow (n / 16 / 16 / 16) (by omega)]
    rfl

theorem exists_hex_four (hn : n < 0x10000) :
    ∃ x₁ x₂ x₃ x₄, Text.hex 4 n = [x₁, x₂, x₃, x₄] ∧ unitOf? x₁ x₂ x₃ x₄ = some n := by
  refine ⟨_, _, _, _, hex_four hn, ?_⟩
  rw [unitOf?, hexValue?_digitChar (by omega), hexValue?_digitChar (by omega), hexValue?_digitChar (by omega),
    hexValue?_digitChar (by omega)]
  refine congrArg some ?_
  omega

theorem charOfPair?_surrogates (hc : 0x10000 ≤ c.toNat) :
    charOfPair? (surrogates c.toNat).1 (surrogates c.toNat).2 = some c := by
  have hvalid : c.toNat < 0xd800 ∨ 0xdfff < c.toNat ∧ c.toNat < 0x110000 := c.valid
  have hunits : surrogates c.toNat = (0xd800 + (c.toNat - 0x10000) / 0x400, 0xdc00 + (c.toNat - 0x10000) % 0x400) := rfl
  have hsum : 0x10000 + (0xd800 + (c.toNat - 0x10000) / 0x400 - 0xd800) * 0x400 +
      (0xdc00 + (c.toNat - 0x10000) % 0x400 - 0xdc00) = c.toNat := by omega
  rw [hunits, charOfPair?, if_pos (by omega), hsum, Char.ofNat_toNat]

theorem spellsGlyph_escaped (c : Char) (r : Text) : SpellsGlyph (.char c) (escaped c.toNat ++ r) r := by
  have hvalid : c.toNat < 0xd800 ∨ 0xdfff < c.toNat ∧ c.toNat < 0x110000 := c.valid
  rcases Nat.lt_or_ge c.toNat 0x10000 with hc | hc
  · obtain ⟨x₁, x₂, x₃, x₄, hhex, hu⟩ := exists_hex_four hc
    rw [escaped, if_pos hc, hhex]
    exact .unit hu
  · have hpair := charOfPair?_surrogates hc
    obtain ⟨x₁, x₂, x₃, x₄, hhi, hx⟩ := exists_hex_four (n := (surrogates c.toNat).1) (by rw [surrogates]; omega)
    obtain ⟨y₁, y₂, y₃, y₄, hlo, hy⟩ := exists_hex_four (n := (surrogates c.toNat).2) (by rw [surrogates]; omega)
    simp only [escaped, if_neg (Nat.not_lt.mpr hc), hhi, hlo]
    exact .pair hx hy hpair

theorem spellsGlyph_writeChar (c : Char) (r : Text) : SpellsGlyph (.char c) (writeChar plain c ++ r) r := by
  have hshort (k d : Char) (h : simpleEscape? k = some d) (hc : c = d) : SpellsGlyph (.char c) ('\\' :: k :: r) r :=
    hc ▸ .short h
  rw [writeChar]
  split
  · next hc => exact hshort '"' '"' rfl hc
  split
  · next hc => exact hshort '\\' '\\' rfl hc
  split
  · next hc => exact hshort 'n' '\n' rfl hc
  split
  · next hc => exact hshort 'r' '\r' rfl hc
  split
  · next hc => exact hshort 't' '\t' rfl hc
  split
  · next hc => exact hshort 'b' '\x08' rfl hc
  split
  · next hc => exact hshort 'f' '\x0c' rfl hc
  split
  · exact spellsGlyph_escaped c r
  · next hquote hback _ _ _ _ _ hplain =>
    have hprint : ¬c.toNat < 0x20 := fun hlt => hplain (by simp [hlt])
    exact .plain hquote hback (by omega)

theorem spellsGlyph_writeGlyph (x : Glyph) (r : Text) : SpellsGlyph x (writeGlyph plain x ++ r) r := by
  cases x with
  | char c => exact spellsGlyph_writeChar c r
  | half u =>
    have hu : u.val < 0x10000 := by
      have hrange := u.property
      omega
    obtain ⟨x₁, x₂, x₃, x₄, hhex, hpoint⟩ := exists_hex_four hu
    rw [writeGlyph, escaped, if_pos hu, hhex]
    exact .unit hpoint

theorem spellsGlyphs_write (plain : Char → Bool) (g : Glyphs) (r : Text) :
    SpellsGlyphs g (g.flatMap (writeGlyph plain) ++ '"' :: r) r := by
  induction g with
  | nil => exact .nil
  | cons x g ih =>
    rw [List.flatMap_cons, List.append_assoc]
    exact .cons (spellsGlyph_writeGlyph x _) ih

theorem writeGlyphs_ofText (plain : Char → Bool) (t : Text) : writeGlyphs plain (.ofText t) = writeText plain t := by
  rw [writeGlyphs, Glyphs.ofText, List.flatMap_map]
  rfl

theorem write_ofGlyphs (plain : Char → Bool) (g : Glyphs) : write plain (.ofGlyphs g) = writeGlyphs plain g := by
  rw [ofGlyphs]
  cases ht : g.text? with
  | none => rfl
  | some t =>
    rw [Glyphs.text?_eq_some.mp ht, writeGlyphs_ofText]
    rfl

theorem opens_self (c : Char) (r : Text) : Opens c (c :: r) r := ⟨[], by simp, rfl⟩

theorem isSpace_of_mem_space : ∀ b ∈ [' '], isSpace b = true := List.forall_mem_singleton.mpr rfl

theorem opens_space (c : Char) (r : Text) : Opens c (' ' :: c :: r) r := ⟨[' '], isSpace_of_mem_space, rfl⟩

theorem Opens.of_blanks {blanks : Text} (hblanks : ∀ b ∈ blanks, isSpace b = true) (h : Opens c s r) :
    Opens c (blanks ++ s) r := by
  obtain ⟨more, hmore, rfl⟩ := h
  exact ⟨blanks ++ more, List.forall_mem_append.mpr ⟨hblanks, hmore⟩, by rw [List.append_assoc]⟩

theorem opens_writeGlyphs (plain : Char → Bool) (g : Glyphs) (r : Text) :
    Opens '"' (writeGlyphs plain g ++ r) (g.flatMap (writeGlyph plain) ++ '"' :: r) := by
  rw [writeGlyphs, List.append_assoc, List.cons_append]
  exact opens_self _ _

theorem spellsItems_write (plain : Char → Bool) (g : Glyphs) (r : Text) (gs : List Glyphs) {blanks : Text}
    (hblanks : ∀ b ∈ blanks, isSpace b = true) :
    SpellsItems (g :: gs) (blanks ++ (writeItems plain ((g :: gs).map .ofGlyphs) ++ ']' :: r)) r := by
  induction gs generalizing g blanks with
  | nil =>
    have hwritten : writeItems plain ([g].map .ofGlyphs) = writeGlyphs plain g := write_ofGlyphs plain g
    rw [hwritten]
    exact .last ((opens_writeGlyphs plain g _).of_blanks hblanks) (spellsGlyphs_write plain g _) (opens_self _ _)
  | cons h gs ih =>
    have hwritten : writeItems plain ((g :: h :: gs).map .ofGlyphs) ++ ']' :: r =
        writeGlyphs plain g ++ ',' :: ([' '] ++ (writeItems plain ((h :: gs).map .ofGlyphs) ++ ']' :: r)) := by
      simp [writeItems, write_ofGlyphs]
    rw [hwritten]
    exact .cons ((opens_writeGlyphs plain g _).of_blanks hblanks) (spellsGlyphs_write plain g _) (opens_self _ _)
      (ih h isSpace_of_mem_space)

theorem spellsValue_write (plain : Char → Bool) (v : Strings) (r : Text) :
    SpellsValue v (' ' :: (write plain v.toJson ++ r)) r := by
  cases v with
  | one g =>
    rw [Strings.toJson, write_ofGlyphs]
    exact .one ((opens_writeGlyphs plain g r).of_blanks isSpace_of_mem_space) (spellsGlyphs_write plain g r)
  | many gs =>
    cases gs with
    | nil => exact .none (opens_space '[' _) (opens_self ']' r)
    | cons g gs =>
      have hwritten : write plain (Strings.many (g :: gs)).toJson ++ r =
          '[' :: (writeItems plain ((g :: gs).map .ofGlyphs) ++ ']' :: r) := by simp [Strings.toJson, write]
      rw [hwritten]
      exact .many (opens_space '[' _) (spellsItems_write plain g r gs (List.forall_mem_nil _))

/-- The members as they are written. -/
def writtenAs (ms : List (Text × Strings)) : List (Text × Json) := ms.map fun m => (m.1, m.2.toJson)

/-- What the writer makes of the members of an object is one of their spellings. -/
theorem spellsMembers_write (plain : Char → Bool) (m : Text × Strings) (ms : List (Text × Strings)) {blanks : Text}
    (hblanks : ∀ b ∈ blanks, isSpace b = true) (r : Text) :
    SpellsMembers (m :: ms) (blanks ++ (writeMembers plain (writtenAs (m :: ms)) ++ '\x7d' :: r)) r := by
  induction ms generalizing m blanks with
  | nil =>
    obtain ⟨k, v⟩ := m
    have hwritten : writeMembers plain (writtenAs [(k, v)]) ++ '\x7d' :: r =
        writeGlyphs plain (.ofText k) ++ ':' :: ' ' :: (write plain v.toJson ++ '\x7d' :: r) := by
      simp [writtenAs, writeMembers, writeGlyphs_ofText]
    rw [hwritten]
    exact .last ((opens_writeGlyphs plain _ _).of_blanks hblanks) (spellsGlyphs_write plain _ _) (opens_self ':' _)
      (spellsValue_write plain v _) (opens_self _ _)
  | cons n ms ih =>
    obtain ⟨k, v⟩ := m
    have hwritten : writeMembers plain (writtenAs ((k, v) :: n :: ms)) ++ '\x7d' :: r =
        writeGlyphs plain (.ofText k) ++ ':' :: ' ' :: (write plain v.toJson ++
          ',' :: ([' '] ++ (writeMembers plain (writtenAs (n :: ms)) ++ '\x7d' :: r))) := by
      simp [writtenAs, writeMembers, writeGlyphs_ofText]
    rw [hwritten]
    exact .cons ((opens_writeGlyphs plain _ _).of_blanks hblanks) (spellsGlyphs_write plain _ _) (opens_self ':' _)
      (spellsValue_write plain v _) (opens_self ',' _) (ih n isSpace_of_mem_space)

end Writing

end RuleReview.Json
