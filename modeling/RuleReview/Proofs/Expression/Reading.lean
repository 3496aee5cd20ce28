import RuleReview.Expression.Reader

/-! # Reading signs

What the reader does with the signs at the front of an expression: it passes them and keeps one item more. A sign
for repeating looks at the sign after it, which must not say how eagerly the part is taken.
-/
namespace RuleReview.Expression
variable {fuel p : Nat} {r : Reading} {items : List Item} {ps : List Piece}

abbrev Reading.onward (r : Reading) (ps : List Piece) : Reading := { r with rest := ps }

def anyBut (c : Char) : Expression := .oneOf ⟨true, [(c, c)]⟩ .same

/-! ## Pieces -/

theorem piecesFrom_cons {c : Char} (hc : c ≠ '\\') (p : Nat) (s : Text) :
    piecesFrom p (c :: s) = ⟨[c], p⟩ :: piecesFrom (p + 1) s := by
  cases s with
  | nil => rfl
  | cons d s => rw [piecesFrom, if_neg hc]

/-- A text whose last backslash stands before a character ends a piece, so the pieces of what follows are its own. -/
theorem piecesFrom_append {p : Nat} {a : Text} (ha : (piecesFrom p a).all (·.text != ['\\']) = true) (s : Text) :
    piecesFrom p (a ++ s) = piecesFrom p a ++ piecesFrom (p + a.length) s := by
  fun_induction piecesFrom p a with
  | case1 => rfl
  | case2 p c =>
    have hc : c ≠ '\\' := by simpa using ha
    rw [List.singleton_append, piecesFrom_cons hc, List.singleton_append, List.length_singleton]
  | case3 p d a ih =>
    have hend : p + 2 + a.length = p + ('\\' :: d :: a).length := by simp only [List.length_cons]; omega
    rw [List.cons_append, List.cons_append, piecesFrom, if_pos rfl, ih (by simpa using ha), hend, List.cons_append]
  | case4 p c d a hc ih =>
    have hend : p + 1 + (d :: a).length = p + (c :: d :: a).length := by simp only [List.length_cons]; omega
    have htail : (piecesFrom (p + 1) (d :: a)).all (·.text != ['\\']) = true := (Bool.and_eq_true_iff.mp ha).2
    rw [List.cons_append, piecesFrom_cons hc, ih htail, hend, List.cons_append]

theorem head?_piecesFrom {c : Char} {s : Text} (hs : s.head? ≠ some c) (p : Nat) :
    (piecesFrom p s).head?.map (·.text) ≠ some [c] := by
  fun_cases piecesFrom p s <;> simp_all

/-! ## Signs -/

theorem readItems_end : readItems (fuel + 1) {} items (r.onward []) = .ok (ofItems items, r.onward []) := rfl

theorem readItems_start : readItems (fuel + 1) {} items (r.onward (⟨['^'], p⟩ :: ps)) =
    readItems fuel {} (⟨.start false, .place⟩ :: items) (r.onward ps) := rfl

theorem readItems_finish : readItems (fuel + 1) {} items (r.onward (⟨['$'], p⟩ :: ps)) =
    readItems fuel {} (⟨.finish false, .place⟩ :: items) (r.onward ps) := rfl

theorem readItems_dot (ps : List Piece) : readItems (fuel + 1) {} items (r.onward (⟨['.'], p⟩ :: ps)) =
    readItems fuel {} (⟨anyBut '\n', .other⟩ :: items) (r.onward ps) := rfl

theorem readItems_escaped (c : Char) : readItems (fuel + 1) {} items (r.onward (⟨['\\', c], p⟩ :: ps)) =
    readItems fuel {} (⟨.oneOf (.only c) .same, .other⟩ :: items) (r.onward ps) := rfl

/-- The signs that stand for something else than themselves. -/
def signs : Text := ['|', ')', '[', '.', '^', '$', '(', '?', '*', '+', '\x7b']

theorem readItems_letter {c : Char} (hc : c ∉ signs) :
    readItems (fuel + 1) {} items (r.onward (⟨[c], p⟩ :: ps)) =
      readItems fuel {} (⟨.oneOf (.only c) .same, .other⟩ :: items) (r.onward ps) := by
  simp only [signs, List.mem_cons, List.not_mem_nil, or_false, not_or] at hc
  have hpure {α : Type} (a : α) (r : Reading) : (StateT.pure a : Read α) r = .ok (a, r) := rfl
  rw [readItems]
  simp only [bind, StateT.bind, here, peek, get, getThe, MonadStateOf.get, StateT.get, pure, hpure, Except.pure,
    Except.bind, List.head?_cons, Option.map_some, Option.getD_some]
  simp [hc, advance]
  rfl

theorem readItems_notSlash {p₁ p₂ p₃ : Nat} (ps : List Piece) :
    readItems (fuel + 1) {} items (r.onward (⟨['['], p⟩ :: ⟨['^'], p₁⟩ :: ⟨['/'], p₂⟩ :: ⟨[']'], p₃⟩ :: ps)) =
      readItems fuel {} (⟨anyBut '/', .other⟩ :: items) (r.onward ps) := rfl

/-- A part without a number that takes some directories; reading it takes nine calls. -/
theorem readItems_toSlash {p₁ p₂ p₃ p₄ p₅ p₆ : Nat} (ps : List Piece) :
    readItems (fuel + 10) {} items (r.onward (⟨['('], p⟩ :: ⟨['?'], p₁⟩ :: ⟨[':'], p₂⟩ :: ⟨['.'], p₃⟩ ::
      ⟨['*'], p₄⟩ :: ⟨['/'], p₅⟩ :: ⟨[')'], p₆⟩ :: ps)) =
      readItems (fuel + 9) {}
        (⟨.seq (.times 0 none .most (anyBut '\n')) (.oneOf (.only '/') .same), .other⟩ :: items) (r.onward ps) := by
  rfl

/-! ## Repeating -/

theorem skip_of_ne {c : Char} (h : r.rest.head?.map (·.text) ≠ some [c]) : skip c r = .ok (false, r) := by
  change (if r.rest.head?.map (·.text) = some [c] then _ else _ : Read Bool) r = _
  rw [if_neg h]
  rfl

theorem readGreed_of_ne (hmark : r.rest.head?.map (·.text) ≠ some ['?'])
    (hplus : r.rest.head?.map (·.text) ≠ some ['+']) : readGreed r = .ok (.most, r) := by
  have hnext : (do if ← skip '+' then return Greed.all else return Greed.most : Read Greed) r = .ok (.most, r) := by
    simp only [bind, StateT.bind, skip_of_ne hplus, Except.bind]
    rfl
  simp only [readGreed, bind, StateT.bind, skip_of_ne hmark, Except.bind]
  exact hnext

theorem repeatLast_of_ne {e : Expression} {bounds : Nat × Option Nat} (hmark : r.rest.head?.map (·.text) ≠ some ['?'])
    (hplus : r.rest.head?.map (·.text) ≠ some ['+']) : repeatLast p bounds (⟨e, .other⟩ :: items) r =
      .ok (⟨.times bounds.1 bounds.2 .most e, .repeated⟩ :: items, r) := by
  change (readGreed >>= fun greed => pure _) r = _
  simp only [bind, StateT.bind, readGreed_of_ne hmark hplus, Except.bind]
  rfl

theorem readItems_star {e : Expression} (hmark : ps.head?.map (·.text) ≠ some ['?'])
    (hplus : ps.head?.map (·.text) ≠ some ['+']) :
    readItems (fuel + 1) {} (⟨e, .other⟩ :: items) (r.onward (⟨['*'], p⟩ :: ps)) =
      readItems fuel {} (⟨.times 0 none .most e, .repeated⟩ :: items) (r.onward ps) := by
  change (repeatLast p (0, none) (⟨e, .other⟩ :: items) (r.onward ps)).bind _ = _
  rw [repeatLast_of_ne hmark hplus]
  rfl

theorem readItems_optional {e : Expression} (hmark : ps.head?.map (·.text) ≠ some ['?'])
    (hplus : ps.head?.map (·.text) ≠ some ['+']) :
    readItems (fuel + 1) {} (⟨e, .other⟩ :: items) (r.onward (⟨['?'], p⟩ :: ps)) =
      readItems fuel {} (⟨.times 0 (some 1) .most e, .repeated⟩ :: items) (r.onward ps) := by
  change (repeatLast p (0, some 1) (⟨e, .other⟩ :: items) (r.onward ps)).bind _ = _
  rw [repeatLast_of_ne hmark hplus]
  rfl

/-! ## Classes -/

section Classes
variable {start q q' : Nat} {negated : Bool} {members : List (Char × Char)} {low high : Text}

theorem readClassFrom_close (h : members ≠ []) :
    readClassFrom start negated members (fuel + 1) (r.onward (⟨[']'], p⟩ :: ps)) =
      .ok (⟨negated, members.reverse⟩, r.onward ps) := by
  have hempty : members.isEmpty = false := by simpa using h
  change (if [']'] = [']'] && !members.isEmpty then _ else _ : Read CharClass) _ = _
  rw [hempty]
  rfl

theorem readClassFrom_one (hlow : low ≠ [']'] ∨ members = []) (hdash : ps.head?.map (·.text) ≠ some ['-']) :
    readClassFrom start negated members (fuel + 1) (r.onward (⟨low, p⟩ :: ps)) =
      readClassFrom start negated ((meant low, meant low) :: members) fuel (r.onward ps) := by
  have hopen : ¬(low = [']'] && !members.isEmpty) = true := by simpa using hlow.resolve_left
  change (if low = [']'] && !members.isEmpty then _ else _ : Read CharClass) _ = _
  rw [if_neg hopen]
  change (skip '-' (r.onward ps)).bind _ = _
  rw [skip_of_ne hdash]
  rfl

theorem readClassFrom_dash (hlow : low ≠ [']'] ∨ members = []) (high : Text) :
    readClassFrom start negated members (fuel + 1) (r.onward (⟨low, p⟩ :: ⟨['-'], q⟩ :: ⟨high, q'⟩ :: ps)) =
      if high = [']'] then .ok (⟨negated, (('-', '-') :: (meant low, meant low) :: members).reverse⟩, r.onward ps)
      else if meant high < meant low then failAt p (.badRange low high) (r.onward ps)
      else readClassFrom start negated ((meant low, meant high) :: members) fuel (r.onward ps) := by
  have hopen : ¬(low = [']'] && !members.isEmpty) = true := by rcases hlow with h | h <;> simp [h]
  change (if low = [']'] && !members.isEmpty then _ else _ : Read CharClass) _ = _
  rw [if_neg hopen]
  change (if high = [']'] then _ else _ : Read CharClass) _ = _
  by_cases hhigh : high = [']']
  · rw [if_pos hhigh, if_pos hhigh]
    rfl
  · rw [if_neg hhigh, if_neg hhigh]
    by_cases hlt : meant high < meant low
    · rw [if_pos hlt, if_pos hlt]
      rfl
    · rw [if_neg hlt, if_neg hlt]
      rfl

theorem readClassFrom_unclosed (hlow : ∀ x ∈ ps.head?, x.text ≠ [']'] ∨ members = [])
    (hps : ∀ x ∈ ps.tail, x.text ≠ [']']) :
    ∃ e, readClassFrom start negated members fuel (r.onward ps) = .error e := by
  induction fuel generalizing members ps with
  | zero => exact ⟨_, rfl⟩
  | succ fuel ih =>
    match ps with
    | [] => exact ⟨_, rfl⟩
    | [⟨low, p⟩] =>
      rw [readClassFrom_one (hlow _ rfl) (by simp)]
      exact ih (by simp) (by simp)
    | ⟨low, p⟩ :: ⟨second, q⟩ :: rest =>
      obtain ⟨hsecond, hrest⟩ := List.forall_mem_cons.mp hps
      by_cases hdash : second = ['-']
      · subst hdash
        cases rest with
        | nil =>
          have hopen : ¬(low = [']'] && !members.isEmpty) = true := by simpa using (hlow _ rfl).resolve_left
          change ∃ e, (if low = [']'] && !members.isEmpty then _ else _ : Read CharClass) _ = .error e
          rw [if_neg hopen]
          exact ⟨_, rfl⟩
        | cons high rest =>
          obtain ⟨hhigh, hlater⟩ := List.forall_mem_cons.mp hrest
          rw [readClassFrom_dash (hlow _ rfl), if_neg hhigh]
          split
          · exact ⟨_, rfl⟩
          · exact ih (fun x hx => .inl (hlater x (List.mem_of_mem_head? hx)))
              fun x hx => hlater x (List.mem_of_mem_tail hx)
      · rw [readClassFrom_one (hlow _ rfl) (by simpa using hdash)]
        exact ih (fun x hx => .inl (by obtain rfl := Option.some.inj hx; exact hsecond)) hrest

theorem readClass_negated : readClass start (r.onward (⟨['^'], p⟩ :: ps)) =
    readClassFrom start true [] (ps.length + 1) (r.onward ps) := rfl

theorem readClass_of_ne (h : ps.head?.map (·.text) ≠ some ['^']) :
    readClass start (r.onward ps) = readClassFrom start false [] (ps.length + 1) (r.onward ps) := by
  change (skip '^' (r.onward ps)).bind _ = _
  rw [skip_of_ne h]
  rfl

theorem readItems_class {k : CharClass} {ps' : List Piece} (h : readClass p (r.onward ps) = .ok (k, r.onward ps')) :
    readItems (fuel + 1) {} items (r.onward (⟨['['], p⟩ :: ps)) =
      readItems fuel {} (⟨.oneOf k .same, .other⟩ :: items) (r.onward ps') := by
  change (readClass p (r.onward ps)).bind _ = _
  rw [h]
  rfl

theorem readItems_class_error {e : Problem} (h : readClass p (r.onward ps) = .error e) :
    readItems (fuel + 1) {} items (r.onward (⟨['['], p⟩ :: ps)) = .error e := by
  change (readClass p (r.onward ps)).bind _ = _
  rw [h]
  rfl

end Classes

/-! ## All of an expression -/

theorem ofItems_append {last : Item} (hlast : last.expression ≠ .nothing) (first : Item) (items : List Item) :
    ofItems (last :: (items ++ [first])) = .seq first.expression
      (items.foldl (fun e i => .seq i.expression e) last.expression) := by
  have step : ∀ {e : Expression}, e ≠ .nothing → (items ++ [first]).foldl
      (fun e i => if e = .nothing then i.expression else .seq i.expression e) e =
      .seq first.expression (items.foldl (fun e i => .seq i.expression e) e) := by
    induction items with
    | nil =>
      intro e he
      simp [he]
    | cons i items ih =>
      intro e he
      simpa [he] using ih (e := .seq i.expression e) (by simp)
  simpa [ofItems] using step hlast

/-- Items that are read to the end are the expression, if nothing loose is looked for behind. -/
theorem read_of_readItems {s : Text} {e : Expression} (hlooks : e.looksFixed = true)
    (h : readItems (4 * (piecesFrom 0 s).length + 3) {} [] { whole := s, rest := piecesFrom 0 s } =
      .ok (e, { whole := s, rest := [] })) : read s = .ok e := by
  have hbranches : readBranches (4 * (piecesFrom 0 s).length + 4) {} { whole := s, rest := piecesFrom 0 s } =
      .ok (e, { whole := s, rest := [] }) := by
    change (readItems (4 * (piecesFrom 0 s).length + 3) {} [] >>= _) { whole := s, rest := piecesFrom 0 s } = _
    simp only [bind, StateT.bind, h, Except.bind]
    rfl
  have hwhole : readWhole { whole := s, rest := piecesFrom 0 s } = .ok (e, { whole := s, rest := [] }) := by
    simp only [readWhole, bind, StateT.bind, get, getThe, MonadStateOf.get, StateT.get, pure, Except.pure, Except.bind,
      hbranches]
    change (if !e.looksFixed then _ else _ : Read Expression) _ = _
    rw [hlooks]
    rfl
  rw [read, StateT.run', hwhole]
  rfl

theorem read_of_readItems_error {s : Text} {e : Problem}
    (h : readItems (4 * (piecesFrom 0 s).length + 3) {} [] { whole := s, rest := piecesFrom 0 s } = .error e) :
    read s = .error e := by
  have hbranches : readBranches (4 * (piecesFrom 0 s).length + 4) {} { whole := s, rest := piecesFrom 0 s } = .error e := by
    change (readItems (4 * (piecesFrom 0 s).length + 3) {} [] >>= _) { whole := s, rest := piecesFrom 0 s } = _
    simp only [bind, StateT.bind, h, Except.bind]
  have hwhole : readWhole { whole := s, rest := piecesFrom 0 s } = .error e := by
    simp only [readWhole, bind, StateT.bind, get, getThe, MonadStateOf.get, StateT.get, pure, Except.pure, Except.bind,
      hbranches]
  rw [read, StateT.run', hwhole]
  rfl

end RuleReview.Expression
