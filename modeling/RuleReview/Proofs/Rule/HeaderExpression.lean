import RuleReview.Expression.Reader
import RuleReview.Proofs.Expression.Order
import RuleReview.Proofs.Text.Cut
import RuleReview.Proofs.Text.Lines
import RuleReview.Rule

/-! # Where the header of a rule ends

The header and the body of a rule are what an expression takes, which stands for a first line of three hyphens, as
little text as will do, and a fence: one more line of three hyphens, behind which are only spaces and tabs.
-/
namespace RuleReview.Rule
open Expression (Spot literally)
variable {a b s x : Text} {body : Option Text} {S E : List (Nat × Nat)} {e : Expression} {next : Expression.Next}

/-! ## The expression -/

/-- The header is the first numbered part and the body the second. A dot is any character here, line feeds too, so that
the text ends where none is ahead. -/
def headerPattern : Text := "^(?s:---\r?\n(.*?)\r?\n---[ \t]*(?:\r?\n(.*))?(?!.))"

def maybeReturn : Expression := .times 0 (some 1) .most (.oneOf (.only '\r') .same)

def anyText (greed : Greed) : Expression := .times 0 none greed (.oneOf .any .same)

def margin : CharClass := ⟨false, [(' ', ' '), ('\t', '\t')]⟩

def hyphens : Text := "---"

def bodyExpression : Expression := .seq maybeReturn (literally ['\n'] (.group 2 (anyText .most)))

def endExpression : Expression :=
  .seq (.times 0 (some 1) .most bodyExpression) (.look false false (.oneOf .any .same))

def fenceExpression : Expression :=
  .seq maybeReturn (literally ('\n' :: hyphens) (.seq (.times 0 none .most (.oneOf margin .same)) endExpression))

def headerExpression : Expression :=
  .seq (.start false) (literally hyphens (.seq maybeReturn (literally ['\n']
    (.seq (.group 1 (anyText .fewest)) fenceExpression))))

set_option maxRecDepth 4000 in
theorem read_headerPattern : Expression.read headerPattern = .ok headerExpression := by rfl

/-- The header and the body as the pattern takes them apart; without a line behind the fence there is no body. -/
def headerParts? (s : Text) : Option (Text × Option Text) :=
  match Expression.read headerPattern with
  | .error _ => none
  | .ok e => do
    let t ← Expression.run e { after := s } some
    return (← t.taken? 1, t.taken? 2)

/-! ## Matching -/

theorem holds_margin {c : Char} : margin.holds c = true ↔ c = ' ' ∨ c = '\t' := by
  have hlists : margin.lists c = true ↔ c ∈ [' ', '\t'] :=
    CharClass.lists_singles (s := [' ', '\t'])
  have hplain : margin.negated = false := rfl
  simp [CharClass.holds, hplain, hlists]

theorem run_maybeReturn (hb : '\r' ∉ b) : Expression.run (.seq maybeReturn e) (.between a b S E) next =
    Expression.run e (.between a b S E) next := by
  have hnone : (Spot.between a b S E).step? (CharClass.only '\r').holds = none := by
    refine Spot.step?_eq_none fun c hc => Bool.eq_false_iff.mpr fun hreturn => hb ?_
    exact CharClass.holds_only.mp hreturn ▸ List.mem_of_head? hc
  rw [Expression.run, maybeReturn, Expression.run_maybe, Expression.run_oneOf, hnone]
  rfl

/-- What is read behind a fence: nothing, or a line feed and the body. -/
def bodyBehind? : Text → Option (Option Text)
  | [] => some none
  | c :: b => if c = '\n' then some (some b) else none

/-- What stands behind a fence. -/
def behind : Option Text → Text
  | none => []
  | some b => '\n' :: b

theorem bodyBehind?_eq_some : bodyBehind? s = some body ↔ s = behind body := by
  cases body <;> fun_cases bodyBehind? s <;> simp_all [behind]

/-- The end of the text behind a fence, with marks around the body. -/
def endSpot (a : Text) (S E : List (Nat × Nat)) : Option Text → Spot
  | none => .between a [] S E
  | some b => .between (a ++ '\n' :: b) [] ((2, (a ++ ['\n']).length) :: S) ((2, (a ++ '\n' :: b).length) :: E)

theorem run_bodyExpression (hb : '\r' ∉ b) :
    Expression.run bodyExpression (.between a b S E) (fun t => if t.after = [] then some t else none) =
      if b = [] then none else (bodyBehind? b).map (endSpot a S E) := by
  rw [bodyExpression, run_maybeReturn hb]
  cases b with
  | nil => rfl
  | cons c b =>
    by_cases hc : c = '\n'
    · subst hc
      have hover := Spot.over_between (a ++ ['\n']) b [] ((2, (a ++ ['\n']).length) :: S) E
      rw [List.append_nil] at hover
      change Expression.run (literally ['\n'] _) (.between a (['\n'] ++ b) S E) _ = _
      rw [Expression.run_literally_append, Expression.run_group, anyText, Spot.opened_between,
        Expression.run_most_of_longest (u := b) ?_ (CharClass.takeWhile_any b), hover]
      · simp [bodyBehind?, endSpot]
      · rintro v ⟨r, rfl⟩ hne
        have hr : r ≠ [] := by
          rintro rfl
          exact hne (List.append_nil v).symm
        rw [Spot.over_between]
        exact if_neg hr
    · have hnot : ¬['\n'] <+: c :: b := fun h => hc (List.cons_prefix_cons.mp h).1.symm
      rw [Expression.run_literally_eq_none hnot]
      simp [bodyBehind?, hc]

theorem run_endExpression (hb : '\r' ∉ b) :
    Expression.run endExpression (.between a b S E) some = (bodyBehind? b).map (endSpot a S E) := by
  have hrun : Expression.run endExpression (.between a b S E) some =
      (Expression.run bodyExpression (.between a b S E) (fun t => if t.after = [] then some t else none)).or
        (if b = [] then some (.between a b S E) else none) := by
    rw [endExpression, Expression.run, Expression.run_maybe]
    simp only [Expression.run_end]
    rfl
  rw [hrun, run_bodyExpression hb]
  cases b with
  | nil => rfl
  | cons c b => simp

/-- Three hyphens with only spaces and tabs behind them. -/
def IsFence (line : Text) : Prop := ∃ rest, line = hyphens ++ rest ∧ ∀ c ∈ rest, c = ' ' ∨ c = '\t'

theorem run_margin (hb : '\r' ∉ b) :
    Expression.run (.seq (.times 0 none .most (.oneOf margin .same)) endExpression) (.between a b S E) some =
      (bodyBehind? (b.dropWhile margin.holds)).map (endSpot (a ++ b.takeWhile margin.holds) S E) := by
  have hparts : b = b.takeWhile margin.holds ++ b.dropWhile margin.holds := List.takeWhile_append_dropWhile.symm
  have hrest : '\r' ∉ b.dropWhile margin.holds := fun h => hb ((List.dropWhile_suffix _).subset h)
  have hover := Spot.over_between a (b.takeWhile margin.holds) (b.dropWhile margin.holds) S E
  rw [← hparts] at hover
  rw [Expression.run, Expression.run_most_of_longest ?_ rfl, Spot.after_between, hover, run_endExpression hrest]
  rintro v ⟨r, (hr : v ++ r = b.takeWhile margin.holds)⟩ hne
  cases r with
  | nil => exact absurd (List.append_nil v ▸ hr) hne
  | cons c r =>
    have hc : margin.holds c = true := List.mem_takeWhile_imp (hr ▸ List.mem_append_right v List.mem_cons_self)
    have hline : c ≠ '\n' := by
      rintro rfl
      cases hc
    have hmore : b = v ++ (c :: (r ++ b.dropWhile margin.holds)) := by
      rw [← List.cons_append, ← List.append_assoc, hr, ← hparts]
    rw [hmore] at hb ⊢
    rw [Spot.over_between, run_endExpression fun h => hb (List.mem_append_right v h), bodyBehind?, if_neg hline]
    rfl

theorem run_fenceExpression {fence : Text} (hfence : IsFence fence)
    (hb : '\r' ∉ '\n' :: (fence ++ behind body)) :
    Expression.run fenceExpression (.between a ('\n' :: (fence ++ behind body)) S E) some =
      some (endSpot (a ++ '\n' :: fence) S E body) := by
  obtain ⟨rest, rfl, hrest⟩ := hfence
  have hmargin : ∀ c ∈ rest, margin.holds c = true := fun c hc => holds_margin.mpr (hrest c hc)
  have hbehind : (behind body).takeWhile margin.holds = [] ∧ (behind body).dropWhile margin.holds = behind body := by
    cases body with
    | none => exact ⟨rfl, rfl⟩
    | some b => exact ⟨rfl, rfl⟩
  have htext : '\n' :: (hyphens ++ rest ++ behind body) = ('\n' :: hyphens) ++ (rest ++ behind body) := by simp
  rw [htext] at hb ⊢
  rw [fenceExpression, run_maybeReturn hb, Expression.run_literally_append,
    run_margin fun h => hb (List.mem_append_right _ h), List.takeWhile_append_of_pos hmargin,
    List.dropWhile_append_of_pos hmargin, hbehind.1, hbehind.2, bodyBehind?_eq_some.mpr rfl]
  simp

theorem run_fenceExpression_eq_none (hb : '\r' ∉ b)
    (h : ∀ fence body, IsFence fence → b ≠ '\n' :: (fence ++ behind body)) :
    Expression.run fenceExpression (.between a b S E) some = none := by
  rw [fenceExpression, run_maybeReturn hb]
  by_cases hfence : ('\n' :: hyphens) <+: b
  · obtain ⟨rest, rfl⟩ := hfence
    rw [Expression.run_literally_append, run_margin fun h => hb (List.mem_append_right _ h), Option.map_eq_none_iff,
      Option.eq_none_iff_forall_ne_some]
    intro body hbody
    have hrest : rest = rest.takeWhile margin.holds ++ behind body := by
      rw [← bodyBehind?_eq_some.mp hbody, List.takeWhile_append_dropWhile]
    refine h (hyphens ++ rest.takeWhile margin.holds) body ⟨_, rfl, fun c hc => ?_⟩ ?_
    · exact holds_margin.mp (List.mem_takeWhile_imp hc)
    · rw [List.append_assoc, ← hrest]
      rfl
  · exact Expression.run_literally_eq_none hfence

/-- The text is a header between two fences, and what stands behind the second of them. -/
def Divides (s h : Text) (body : Option Text) : Prop :=
  ∃ fence, IsFence fence ∧ s = hyphens ++ '\n' :: (h ++ '\n' :: (fence ++ behind body))

theorem taken?_endSpot (front h rest c : Text) (body : Option Text) (hc : c ++ behind body = front ++ h ++ rest) :
    (endSpot c [(1, front.length)] [(1, (front ++ h).length)] body).taken? 1 = some h ∧
      (endSpot c [(1, front.length)] [(1, (front ++ h).length)] body).taken? 2 = body := by
  cases body with
  | none => exact ⟨Spot.taken?_between rfl rfl hc, Spot.taken?_eq_none rfl⟩
  | some b =>
    have hbody : (c ++ '\n' :: b) ++ [] = (c ++ ['\n']) ++ b ++ [] := by simp
    refine ⟨Spot.taken?_between rfl rfl ((List.append_nil _).trans hc), Spot.taken?_between rfl ?_ hbody⟩
    simp

theorem headerParts?_eq (s : Text) : headerParts? s =
    (Expression.run headerExpression (.between [] s [] []) some).bind fun t =>
      (t.taken? 1).map fun h => (h, t.taken? 2) := by
  unfold headerParts?
  split
  · next p hp => cases read_headerPattern.symm.trans hp
  · next e he =>
    obtain rfl := Except.ok.inj (read_headerPattern.symm.trans he)
    refine congrArg (Option.bind _) (funext fun t => ?_)
    cases t.taken? 1 <;> rfl

theorem run_start (e : Expression) (s : Text) (next : Expression.Next) :
    Expression.run (.seq (.start false) e) (.between [] s [] []) next =
      Expression.run e (.between [] s [] []) next := rfl

theorem run_headerExpression (hs : '\r' ∉ hyphens ++ '\n' :: x) :
    Expression.run headerExpression (.between [] (hyphens ++ '\n' :: x) [] []) some =
      Expression.run (anyText .fewest) (.between (hyphens ++ ['\n']) x [(1, (hyphens ++ ['\n']).length)] [])
        fun t => Expression.run fenceExpression (t.closed 1) some := by
  have hline : '\r' ∉ ['\n'] ++ x := fun h => hs (List.mem_append_right _ h)
  rw [headerExpression, run_start, Expression.run_literally_append]
  change Expression.run (.seq maybeReturn _) (.between hyphens (['\n'] ++ x) [] []) some = _
  rw [run_maybeReturn hline, Expression.run_literally_append]
  rfl

theorem run_headerExpression_eq_none (hs : '\r' ∉ s) (h : ¬(hyphens ++ ['\n']) <+: s) :
    Expression.run headerExpression (.between [] s [] []) some = none := by
  rw [headerExpression, run_start]
  by_cases hopen : hyphens <+: s
  · obtain ⟨x, rfl⟩ := hopen
    have hline : ¬['\n'] <+: x := fun hx => h (Expression.append_prefix_iff.mpr ⟨List.prefix_append .., by simpa⟩)
    rw [Expression.run_literally_append, run_maybeReturn fun hr => hs (List.mem_append_right _ hr),
      Expression.run_literally_eq_none hline]
  · exact Expression.run_literally_eq_none hopen

theorem run_fence_behind (v r : Text) (n : Nat) :
    Expression.run fenceExpression (((Spot.between a (v ++ r) [(1, n)] []).over v).closed 1) some =
      Expression.run fenceExpression (.between (a ++ v) r [(1, n)] [(1, (a ++ v).length)]) some := by
  rw [Spot.over_between, Spot.closed_between]

theorem headerParts?_of_least (hs : '\r' ∉ s) (hx : Divides s x body)
    (hleast : ∀ v, v <+: x → v ≠ x → ∀ body, ¬Divides s v body) : headerParts? s = some (x, body) := by
  obtain ⟨fence, hfence, rfl⟩ := hx
  have hbehind : ∀ v r, x = v ++ r → '\r' ∉ r ++ '\n' :: (fence ++ behind body) := by
    rintro v r rfl h
    exact hs (by simp at h ⊢; tauto)
  have hfirst : Expression.run (anyText .fewest) (.between (hyphens ++ ['\n']) (x ++ '\n' :: (fence ++ behind body))
      [(1, (hyphens ++ ['\n']).length)] []) (fun t => Expression.run fenceExpression (t.closed 1) some) =
        some (endSpot (hyphens ++ ['\n'] ++ x ++ '\n' :: fence) [(1, (hyphens ++ ['\n']).length)]
          [(1, (hyphens ++ ['\n'] ++ x).length)] body) := by
    refine Expression.run_fewest_of_least (u := x) ?_ ?_ ?_
    · rintro v ⟨r, rfl⟩ hne
      rw [List.append_assoc, run_fence_behind]
      refine run_fenceExpression_eq_none (hbehind v r rfl) fun fence' body' hfence' hr => ?_
      refine hleast v (List.prefix_append v r) hne body' ⟨fence', hfence', ?_⟩
      rw [← hr, List.append_assoc]
    · rw [Spot.after_between, CharClass.takeWhile_any]
      exact List.prefix_append x _
    · rw [run_fence_behind]
      exact run_fenceExpression hfence (hbehind x [] (List.append_nil x).symm)
  have hparts := taken?_endSpot (hyphens ++ ['\n']) x ('\n' :: (fence ++ behind body))
    (hyphens ++ ['\n'] ++ x ++ '\n' :: fence) body (by simp)
  rw [headerParts?_eq, run_headerExpression hs, hfirst, Option.bind_some, hparts.1, hparts.2]
  rfl

theorem headerParts?_eq_none (hs : '\r' ∉ s) (h : ∀ x body, ¬Divides s x body) : headerParts? s = none := by
  rw [headerParts?_eq]
  by_cases hopen : (hyphens ++ ['\n']) <+: s
  · obtain ⟨x, rfl⟩ := hopen
    have hline : hyphens ++ ['\n'] ++ x = hyphens ++ '\n' :: x := by simp
    rw [hline] at hs h ⊢
    have hnone : Expression.run (anyText .fewest) (.between (hyphens ++ ['\n']) x
        [(1, (hyphens ++ ['\n']).length)] []) (fun t => Expression.run fenceExpression (t.closed 1) some) = none := by
      refine Expression.run_fewest_eq_none ?_
      rintro v ⟨r, rfl⟩
      rw [run_fence_behind]
      refine run_fenceExpression_eq_none (fun hr => hs (by simp [hr])) fun fence body hfence hr => ?_
      refine h v body ⟨fence, hfence, ?_⟩
      rw [hr]
    rw [run_headerExpression hs, hnone]
    rfl
  · rw [run_headerExpression_eq_none hs hopen]
    rfl

end RuleReview.Rule
