import RuleReview.Proofs.Expression.Pieces
import RuleReview.Proofs.Glob.Classes
import RuleReview.Proofs.Success

/-! # Globs and the expressions they spell

The expression that a pattern spells is read into what the tokens of the pattern stand for, or refused where there are
none, as long as each class is closed by its own bracket; and it matches the paths that the tokens accept. So the tokens
are no other meaning of a pattern than its expression.
-/
namespace RuleReview.Glob
open CharClass (holds_anyBut holds_only)
open Expression (anyBut Takes)

/-- The part of an expression that a token is read back as. -/
def Token.expression : Token → Expression
  | .directories => .times 0 (some 1) .most (.seq (.times 0 none .most (anyBut '\n')) (.oneOf (.only '/') .same))
  | .anything => .times 0 none .most (anyBut '\n')
  | .segment => .times 0 none .most (anyBut '/')
  | .one => anyBut '/'
  | .lit c => .oneOf (.only c) .same
  | .oneOf k => .oneOf k .same

/-- The parts of tokens in a row, up to the end of a path. -/
def chain (ts : List Token) : Expression := ts.foldr (fun t e => .seq t.expression e) (.finish false)

/-! ## Matching -/

theorem takes_stars (c : Char) : (Expression.times 0 none .most (anyBut c)).Takes fun u => c ∉ u :=
  (Expression.takes_star _).congr fun u => by
    simp only [holds_anyBut]
    exact ⟨fun h hc => h c hc rfl, fun h d hd hdc => h (hdc ▸ hd)⟩

theorem Token.takes_expression (t : Token) : t.expression.Takes t.Takes := by
  cases t with
  | directories =>
    refine ((takes_stars '\n').seq (Expression.takes_oneOf (.only '/'))).optional.congr fun u => ?_
    simp only [holds_only, Token.Takes, Matches]
    constructor
    · rintro (rfl | ⟨v, w, rfl, hv, c, rfl, rfl⟩)
      · exact ⟨.inl rfl, by simp⟩
      · exact ⟨.inr ⟨v, rfl⟩, by simp [hv]⟩
    · rintro ⟨rfl | ⟨v, rfl⟩, hbreak⟩
      · exact .inl rfl
      · exact .inr ⟨v, ['/'], rfl, fun hv => hbreak (.inl trivial) (List.mem_append_left _ hv), '/', rfl, rfl⟩
  | anything => exact (takes_stars '\n').congr fun u => by simp [Token.Takes, Matches]
  | segment => exact (takes_stars '/').congr fun u => by simp [Token.Takes, Matches]
  | one => exact (Expression.takes_oneOf _).congr fun u => by simp [Token.Takes, Matches, holds_anyBut]
  | lit c => exact (Expression.takes_oneOf _).congr fun u => by simp [Token.Takes, Matches, holds_only]
  | oneOf k => exact (Expression.takes_oneOf k).congr fun u => by simp [Token.Takes, Matches]

theorem run_chain (ts : List Token) (s : Expression.Spot) :
    (Expression.run (chain ts) s some).isSome = accepts ts s.after := by
  rw [Bool.eq_iff_iff]
  induction ts generalizing s with
  | nil => simp [chain, Expression.run, Expression.Spot.isFinish, accepts]
  | cons t ts ih =>
    rw [chain, List.foldr_cons, Expression.run, t.takes_expression s, accepts, List.any_eq_true]
    simp only [Token.mem_rests_iff]
    constructor
    · rintro ⟨u, ⟨r, hr⟩, hu, hrun⟩
      have hafter := (ih (s.over u)).mp hrun
      rw [Expression.Spot.over_after, ← hr, List.drop_left] at hafter
      exact ⟨r, ⟨u, hr.symm, hu⟩, hafter⟩
    · rintro ⟨r, ⟨u, hr, hu⟩, hafter⟩
      refine ⟨u, ⟨r, hr.symm⟩, hu, (ih (s.over u)).mpr ?_⟩
      rwa [Expression.Spot.over_after, hr, List.drop_left]

/-- The parts of tokens, from the start of a path, accept what the tokens accept. -/
theorem accepts_chain (ts : List Token) (path : Text) :
    (Expression.seq (.start false) (chain ts)).accepts path = accepts ts path := run_chain ts { after := path }

theorem looksFixed_chain (ts : List Token) : (Expression.seq (.start false) (chain ts)).looksFixed = true := by
  induction ts with
  | nil => rfl
  | cons t ts ih =>
    have hfixed : t.expression.looksFixed = true := by cases t <;> rfl
    simpa [chain, Expression.looksFixed, hfixed] using ih

/-! ## Reading -/

/-- A text does not start with a sign that says how a part before it is repeated. -/
def Continues (s : Text) : Prop := s.head? ≠ some '?' ∧ s.head? ≠ some '+'

theorem continues_cons {c : Char} (hmark : c ≠ '?') (hplus : c ≠ '+') (s : Text) : Continues (c :: s) :=
  ⟨fun h => hmark (Option.some.inj h), fun h => hplus (Option.some.inj h)⟩

theorem not_mem_signs {c : Char} (hc : special.contains c = false) : c ∉ Expression.signs ∧ c ≠ '\\' := by
  have hspecial : ∀ d ∈ '\\' :: Expression.signs, special.contains d = true := List.all_eq_true.mp (by decide +kernel)
  have hmem : c ∉ '\\' :: Expression.signs := fun h => Bool.false_ne_true (hc.symm.trans (hspecial c h))
  exact (not_or.mp (mt List.mem_cons.mpr hmem)).symm

theorem continues_spelled (part : Part) {s : Text} (hs : Continues s) : Continues (part.spelled ++ s) := by
  cases part with
  | brackets body =>
    by_cases hbang : ∃ rest, body = '!' :: rest
    · obtain ⟨rest, rfl⟩ := hbang
      exact continues_cons (by decide) (by decide) _
    · rw [spelled_of_ne (not_exists.mp hbang)]
      exact continues_cons (by decide) (by decide) _
  | token t =>
    cases t with
    | directories | anything | segment | one => exact continues_cons (by decide) (by decide) _
    | lit c =>
      change Continues (spellChar c ++ s)
      cases hc : special.contains c with
      | true =>
        rw [spellChar, if_pos hc]
        exact continues_cons (by decide) (by decide) _
      | false =>
        have hsigns := (not_mem_signs hc).1
        rw [spellChar, hc]
        exact continues_cons (by rintro rfl; exact hsigns (by decide)) (by rintro rfl; exact hsigns (by decide)) s
    | oneOf k => exact hs

/-- The expression of parts up to its end, without the anchor at its start. -/
def spelling (parts : List Part) : Text := parts.flatMap Part.spelled ++ ['$']

theorem spelling_cons (part : Part) (parts : List Part) : spelling (part :: parts) = part.spelled ++ spelling parts := by
  rw [spelling, List.flatMap_cons, List.append_assoc, spelling]

theorem continues_spelling (parts : List Part) : Continues (spelling parts) := by
  induction parts with
  | nil => exact continues_cons (by decide) (by decide) []
  | cons part parts ih => exact spelling_cons part parts ▸ continues_spelled part ih

section
open Expression

theorem all_pieces_spelled (part : Part) (p : Nat) : (piecesFrom p part.spelled).all (·.text != ['\\']) = true := by
  cases part with
  | brackets body => exact all_piecesFrom_brackets body p
  | token t =>
    cases t with
    | directories | anything | segment | one | oneOf k => rfl
    | lit c =>
      change (piecesFrom p (spellChar c)).all _ = true
      cases hc : special.contains c with
      | true =>
        rw [spellChar, if_pos hc]
        rfl
      | false =>
        rw [spellChar, hc]
        simpa [piecesFrom] using (not_mem_signs hc).2

theorem piecesFrom_spelling_cons (part : Part) (parts : List Part) (p : Nat) :
    piecesFrom p (spelling (part :: parts)) =
      piecesFrom p part.spelled ++ piecesFrom (p + part.spelled.length) (spelling parts) := by
  rw [spelling_cons, piecesFrom_append (all_pieces_spelled part p)]

theorem exists_spelled_brackets (body : Text) : ∃ s, (Part.brackets body).spelled = '[' :: s := by
  by_cases hbang : ∃ rest, body = '!' :: rest
  · obtain ⟨rest, rfl⟩ := hbang
    exact ⟨_, spelled_negated rest⟩
  · exact ⟨_, spelled_of_ne (not_exists.mp hbang)⟩

theorem length_piecesFrom_spelled {part : Part} (hpart : ∀ k, part ≠ .token (.oneOf k)) (p : Nat) :
    0 < (piecesFrom p part.spelled).length := by
  cases part with
  | brackets body =>
    obtain ⟨s, hs⟩ := exists_spelled_brackets body
    rw [hs, piecesFrom_cons (by decide)]
    exact Nat.succ_pos _
  | token t =>
    cases t with
    | directories | anything | segment | one => exact Nat.succ_pos _
    | lit c =>
      change 0 < (piecesFrom p (spellChar c)).length
      rw [spellChar]
      split <;> exact Nat.one_pos
    | oneOf k => exact absurd rfl (hpart k)

theorem length_lt_piecesFrom_spelling {parts : List Part} (hparts : ∀ part ∈ parts, ∀ k, part ≠ .token (.oneOf k))
    (p : Nat) : parts.length < (piecesFrom p (spelling parts)).length := by
  induction parts generalizing p with
  | nil => exact Nat.one_pos
  | cons part parts ih =>
    obtain ⟨hpart, hparts⟩ := List.forall_mem_cons.mp hparts
    have hfront := length_piecesFrom_spelled hpart p
    have hback := ih hparts (p + part.spelled.length)
    rw [piecesFrom_spelling_cons, List.length_append, List.length_cons]
    omega

variable {ps : List Piece}

theorem readItems_token {t : Token} (ht : t.IsPlain) (hmark : ps.head?.map (·.text) ≠ some ['?'])
    (hplus : ps.head?.map (·.text) ≠ some ['+']) (fuel p : Nat) (items : List Item) (r : Reading) :
    ∃ item fuel', item.expression = t.expression ∧ fuel ≤ fuel' ∧
      readItems (fuel + 10) {} items (r.onward (piecesFrom p (Part.token t).spelled ++ ps)) =
        readItems (fuel' + 8) {} (item :: items) (r.onward ps) := by
  cases t with
  | directories =>
    exact ⟨⟨Token.expression .directories, .repeated⟩, fuel, rfl, Nat.le_refl _,
      (readItems_toSlash (⟨['?'], p + 7⟩ :: ps)).trans (readItems_optional hmark hplus)⟩
  | anything =>
    exact ⟨⟨Token.expression .anything, .repeated⟩, fuel, rfl, Nat.le_refl _,
      (readItems_dot (⟨['*'], p + 1⟩ :: ps)).trans (readItems_star hmark hplus)⟩
  | segment =>
    exact ⟨⟨Token.expression .segment, .repeated⟩, fuel, rfl, Nat.le_refl _,
      (readItems_notSlash (⟨['*'], p + 4⟩ :: ps)).trans (readItems_star hmark hplus)⟩
  | one => exact ⟨⟨Token.expression .one, .other⟩, fuel + 1, rfl, Nat.le_succ _, readItems_notSlash ps⟩
  | lit c =>
    refine ⟨⟨Token.expression (.lit c), .other⟩, fuel + 1, rfl, Nat.le_succ _, ?_⟩
    change readItems (fuel + 10) {} items (r.onward (piecesFrom p (spellChar c) ++ ps)) = _
    cases hc : special.contains c with
    | true =>
      rw [spellChar, if_pos hc]
      exact readItems_escaped c
    | false =>
      rw [spellChar, hc]
      exact readItems_letter (not_mem_signs hc).1
  | oneOf k => exact absurd rfl (ht k)

theorem readItems_brackets {body : Text} (hbody : IsBody body) (hcaret : body ≠ ['^']) (fuel p : Nat) (items : List Item)
    (r : Reading) :
    (∃ k, (Part.brackets body).token? = some (.oneOf k) ∧
      readItems (fuel + 1) {} items (r.onward (piecesFrom p (Part.brackets body).spelled ++ ps)) =
        readItems fuel {} (⟨.oneOf k .same, .other⟩ :: items) (r.onward ps)) ∨
    (Part.brackets body).token? = none ∧
      ∃ e, readItems (fuel + 1) {} items (r.onward (piecesFrom p (Part.brackets body).spelled ++ ps)) = .error e := by
  obtain ⟨ps', hps, hclass⟩ := @readClass_spelled p r ps body hbody hcaret p
  rw [token?_brackets hcaret, hps]
  cases hk : classOfBody body with
  | some k =>
    rw [hk, Option.map_some, toOption_eq_some] at hclass
    exact .inl ⟨k, rfl, readItems_class hclass⟩
  | none =>
    cases hread : readClass p (r.onward ps') with
    | ok a => simp [hread, hk, Except.toOption] at hclass
    | error e => exact .inr ⟨rfl, e, readItems_class_error hread⟩

theorem readItems_part {part : Part} (hpart : part.IsSound) (hmark : ps.head?.map (·.text) ≠ some ['?'])
    (hplus : ps.head?.map (·.text) ≠ some ['+']) (fuel p : Nat) (items : List Item) (r : Reading) :
    (∃ t item fuel', part.token? = some t ∧ item.expression = t.expression ∧ fuel ≤ fuel' ∧
      readItems (fuel + 10) {} items (r.onward (piecesFrom p part.spelled ++ ps)) =
        readItems (fuel' + 8) {} (item :: items) (r.onward ps)) ∨
    part.token? = none ∧ ∃ e, readItems (fuel + 10) {} items (r.onward (piecesFrom p part.spelled ++ ps)) = .error e := by
  cases part with
  | token t =>
    obtain ⟨item, fuel', hitem, hle, hread⟩ := readItems_token hpart hmark hplus fuel p items r
    exact .inl ⟨t, item, fuel', rfl, hitem, hle, hread⟩
  | brackets body =>
    rcases readItems_brackets hpart.1 hpart.2 (fuel + 9) p items r with ⟨k, hk, hread⟩ | hfail
    · exact .inl ⟨.oneOf k, ⟨.oneOf k .same, .other⟩, fuel + 1, hk, rfl, Nat.le_succ _, hread⟩
    · exact .inr hfail

theorem tokens?_cons (part : Part) (parts : List Part) :
    tokens? (part :: parts) = part.token?.bind fun t => (tokens? parts).map (t :: ·) := by
  rw [tokens?, List.mapM_cons]
  cases part.token? <;> cases hts : tokens? parts <;> simp_all [tokens?]

theorem text_ne_bracket {c : Char} (p : Nat) : ∀ x ∈ piecesFrom p (spellChar c), x.text ≠ [']'] := by
  intro x hx
  rw [spellChar] at hx
  split at hx
  · obtain rfl := List.mem_singleton.mp hx
    exact fun h => nomatch h
  · next hspecial =>
    obtain rfl := List.mem_singleton.mp hx
    rintro ⟨⟩
    exact hspecial (by decide)

theorem text_ne_bracket_spelling {parts : List Part} (hparts : ∀ part ∈ parts, part.IsLetter) (p : Nat) :
    ∀ x ∈ piecesFrom p (spelling parts), x.text ≠ [']'] := by
  induction parts generalizing p with
  | nil =>
    intro x hx
    obtain rfl := List.mem_singleton.mp hx
    exact fun h => nomatch h
  | cons part parts ih =>
    obtain ⟨⟨c, rfl⟩, hrest⟩ := List.forall_mem_cons.mp hparts
    intro x hx
    rw [piecesFrom_spelling_cons] at hx
    rcases List.mem_append.mp hx with hx | hx
    · exact text_ne_bracket p x hx
    · exact ih hrest _ x hx

theorem readItems_caret {parts : List Part} (hparts : ∀ part ∈ parts, part.IsLetter) (fuel p : Nat) (items : List Item)
    (r : Reading) :
    ∃ e, readItems (fuel + 1) {} items (r.onward (piecesFrom p (spelling (.brackets ['^'] :: parts)))) = .error e := by
  have hpieces : piecesFrom p (spelling (.brackets ['^'] :: parts)) =
      ⟨['['], p⟩ :: ⟨['^'], p + 1⟩ :: ⟨[']'], p + 2⟩ :: piecesFrom (p + 3) (spelling parts) :=
    piecesFrom_spelling_cons _ parts p
  obtain ⟨e, he⟩ : ∃ e, readClassFrom p true [] _
      (r.onward (⟨[']'], p + 2⟩ :: piecesFrom (p + 3) (spelling parts))) = .error e :=
    readClassFrom_unclosed (fun _ _ => .inr rfl) (text_ne_bracket_spelling hparts _)
  rw [hpieces]
  exact ⟨e, readItems_class_error (readClass_negated.trans he)⟩

/-- Parts are read back as their tokens, backwards, and then the end, if all of them have tokens. -/
theorem readItems_spelling {parts : List Part} (hparts : AreSound parts) {fuel : Nat}
    (hfuel : 2 * parts.length + 10 ≤ fuel) (items : List Item) (r : Reading) (p : Nat) :
    (∃ ts, ∃ read : List Item, tokens? parts = some ts ∧ read.map (·.expression) = (ts.map Token.expression).reverse ∧
      readItems fuel {} items (r.onward (piecesFrom p (spelling parts))) =
        .ok (ofItems (⟨.finish false, .place⟩ :: (read ++ items)), r.onward [])) ∨
    tokens? parts = none ∧ ∃ e, readItems fuel {} items (r.onward (piecesFrom p (spelling parts))) = .error e := by
  induction hparts generalizing fuel items p with
  | nil =>
    obtain ⟨fuel, rfl⟩ := Nat.exists_eq_add_of_le hfuel
    refine .inl ⟨[], [], rfl, rfl, ?_⟩
    rw [Nat.add_comm]
    exact readItems_finish.trans readItems_end
  | @caret parts hparts =>
    obtain ⟨fuel, rfl⟩ := Nat.exists_eq_add_of_le' (Nat.le_trans (Nat.le_add_left 1 _) hfuel)
    exact .inr ⟨tokens?_cons _ _, readItems_caret hparts fuel p items r⟩
  | @cons part parts hpart _ ih =>
    obtain ⟨fuel, rfl⟩ := Nat.exists_eq_add_of_le' (Nat.le_trans (Nat.le_add_left 10 _) hfuel)
    have hcontinues := continues_spelling parts
    rw [piecesFrom_spelling_cons, tokens?_cons]
    rcases readItems_part hpart (head?_piecesFrom hcontinues.1 (p + part.spelled.length))
      (head?_piecesFrom hcontinues.2 _) fuel p items r with ⟨t, item, fuel', ht, hitem, hle, hread⟩ | ⟨ht, hfail⟩
    · have henough : 2 * parts.length + 10 ≤ fuel' + 8 := by
        rw [List.length_cons] at hfuel
        omega
      rw [ht, Option.bind_some, hread]
      rcases ih henough (item :: items) (p + part.spelled.length) with ⟨ts, read, hts, hmap, hrest⟩ | ⟨hts, hfail⟩
      · refine .inl ⟨t :: ts, read ++ [item], by rw [hts, Option.map_some], ?_, ?_⟩
        · rw [List.map_append, hmap, List.map_singleton, hitem, List.map_cons, List.reverse_cons]
        · rw [hrest, List.append_assoc, List.singleton_append]
      · exact .inr ⟨by rw [hts, Option.map_none], hfail⟩
    · exact .inr ⟨by rw [ht, Option.bind_none], hfail⟩

end

open Expression in
theorem ofItems_chain {ts : List Token} {read : List Item}
    (hread : read.map (·.expression) = (ts.map Token.expression).reverse) :
    ofItems (⟨.finish false, .place⟩ :: (read ++ [⟨.start false, .place⟩])) = .seq (.start false) (chain ts) := by
  have hfold : read.foldl (fun e i => .seq i.expression e) (finish false) = chain ts := by
    rw [← List.foldl_map (f := fun i : Item => i.expression) (g := fun e a => seq a e), hread, List.foldl_reverse,
      List.foldr_map, chain]
  rw [ofItems_append (by simp), hfold]

open Expression in
/-- What parts spell is read back as their tokens in a row, and not at all if one of them has none. -/
theorem read_expression {parts : List Part} (hparts : AreSound parts) :
    (Expression.read (expression parts)).toOption = (tokens? parts).map fun ts => .seq (.start false) (chain ts) := by
  have hspelled : expression parts = '^' :: spelling parts := rfl
  have hpieces : piecesFrom 0 ('^' :: spelling parts) = ⟨['^'], 0⟩ :: piecesFrom 1 (spelling parts) :=
    piecesFrom_cons (by decide) 0 _
  have hlength := length_lt_piecesFrom_spelling hparts.ne_oneOf 1
  have hfuel : 2 * parts.length + 10 ≤ 4 * (piecesFrom 1 (spelling parts)).length + 6 := by omega
  rw [hspelled]
  rcases readItems_spelling hparts hfuel [⟨.start false, .place⟩] { whole := '^' :: spelling parts, rest := [] } 1 with
    ⟨ts, read, hts, hread, hitems⟩ | ⟨hts, e, hfail⟩
  · rw [hts, Option.map_some, toOption_eq_some]
    refine read_of_readItems (looksFixed_chain ts) ?_
    rw [hpieces, List.length_cons, ← ofItems_chain hread]
    exact readItems_start.trans hitems
  · have hread : Expression.read ('^' :: spelling parts) = .error e := by
      refine read_of_readItems_error ?_
      rw [hpieces, List.length_cons]
      exact readItems_start.trans hfail
    rw [hts, hread]
    rfl

theorem isPlain_of_readsAs {s : Text} {ts : List Token} (h : ReadsAs s ts) : ∀ t ∈ ts, t.IsPlain := by
  induction h with
  | nil => simp
  | cons ht _ ih =>
    obtain ⟨p, hp, -⟩ := ht
    exact List.forall_mem_cons.mpr ⟨(by rintro k rfl; cases hp), ih⟩

/-- A pattern without classes is read into tokens in one way, matches the paths without line feeds that can be cut
into pieces for them, and so does the expression that it spells. -/
theorem matchesPath_iff_cuts {pattern path : Text} (hpattern : IsClassless pattern) (hpath : '\n' ∉ path) :
    ∃ ts, (∀ us, ReadsAs ((pattern.after? "./").getD pattern) us ↔ us = ts) ∧
      (∃ matched, matchesPath path pattern = .ok matched ∧ (matched = true ↔ Cuts ts path)) ∧
      ∃ e, Expression.read (expression (parts none ((pattern.after? "./").getD pattern))) = .ok e ∧
        (e.accepts path = true ↔ Cuts ts path) := by
  obtain ⟨ts, hreads, hparts, hcompile⟩ := compile_of_classless hpattern
  refine ⟨ts, fun us => ⟨fun hus => hus.unique hreads, fun hus => hus ▸ hreads⟩, ?_, ?_⟩
  · refine ⟨accepts ts path, ?_, accepts_iff_cuts hpath⟩
    rw [matchesPath, hcompile]
    rfl
  · refine ⟨.seq (.start false) (chain ts), ?_, ?_⟩
    · have hsound : ∀ part ∈ ts.map Part.token, part.IsSound := List.forall_mem_map.mpr (isPlain_of_readsAs hreads)
      rw [hparts, ← toOption_eq_some, read_expression (.of_forall hsound), tokens?_map_token, Option.map_some]
    · rw [accepts_chain, accepts_iff_cuts hpath]

/-- Of three stars the first two are a token, and a bracket that is not closed stands for itself. -/
theorem matchesPath_iff_cuts_stars :
    IsClassless "./a***/[b" ∧ '\n' ∉ "ax/y/z/[b".toList ∧ matchesPath "ax/y/z/[b" "./a***/[b" = .ok true ∧
      ReadsAs "a***/[b" [.lit 'a', .anything, .segment, .lit '/', .lit '[', .lit 'b'] ∧
      Cuts [.lit 'a', .anything, .segment, .lit '/', .lit '[', .lit 'b'] "ax/y/z/[b" := by
  have hpattern : IsClassless "./a***/[b" := .of_notMem (by decide)
  have hpath : '\n' ∉ "ax/y/z/[b".toList := by decide
  obtain ⟨ts, hreads, ⟨matched, hmatched, hcuts⟩, -⟩ := matchesPath_iff_cuts hpattern hpath
  have hreads' : ReadsAs ['a', '*', '*', '*', '/', '[', 'b']
      [.lit 'a', .anything, .segment, .lit '/', .lit '[', .lit 'b'] :=
    .cons (lit_leads _ (by decide) (by decide)) <| .cons (anything_leads (by simp)) <|
      .cons (segment_leads (by simp)) <| .cons (lit_leads _ (by decide) (by decide)) <|
      .cons (lit_leads _ (by decide) (by decide)) <| .cons (lit_leads _ (by decide) (by decide)) .nil
  have htrue : matchesPath "ax/y/z/[b" "./a***/[b" = .ok true := rfl
  obtain rfl := (hreads _).mp hreads'
  obtain rfl : matched = true := Except.ok.inj (hmatched.symm.trans htrue)
  exact ⟨hpattern, hpath, htrue, hreads', hcuts.mp rfl⟩

end RuleReview.Glob
