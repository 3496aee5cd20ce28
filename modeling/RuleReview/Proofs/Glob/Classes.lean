import RuleReview.Proofs.Expression.Reading
import RuleReview.Proofs.Glob.Cutting

/-! # Classes in patterns and the ones they spell

A class of a pattern is spelled with its backslashes doubled, and the reader of expressions finds the members in it that
the pattern gives it, or refuses it for a range that runs backwards. Only a class that holds nothing but the sign of
negation is not closed by its own bracket.
-/
namespace RuleReview.Glob
open Expression

def inner : Text → Text
  | '!' :: r => r
  | r => r

/-- A bracket closes a class only after its first member. -/
def IsClosed (members : Text) : Prop := members ≠ [] ∧ ']' ∉ members.tail

def IsBody (body : Text) : Prop := IsClosed (inner body)

def Token.IsPlain (t : Token) : Prop := ∀ k, t ≠ .oneOf k

/-- What stands in the parts of a pattern, if each class is closed by its own bracket. -/
def Part.IsSound : Part → Prop
  | .token t => t.IsPlain
  | .brackets body => IsBody body ∧ body ≠ ['^']

def Part.IsLetter (part : Part) : Prop := ∃ c, part = .token (.lit c)

/-- A class that its own bracket does not close is closed by none. -/
def LeavesOpen (ps : List Part) : Prop :=
  ∀ front rest, ps = front ++ .brackets ['^'] :: rest → ∀ part ∈ rest, part.IsLetter

inductive AreSound : List Part → Prop
  | nil : AreSound []
  | cons {part : Part} {ps : List Part} (hpart : part.IsSound) (hps : AreSound ps) : AreSound (part :: ps)
  | caret {ps : List Part} (hps : ∀ part ∈ ps, part.IsLetter) : AreSound (.brackets ['^'] :: ps)

section Parts
variable {body s : Text}

theorem inner_of_ne (h : ∀ r, body ≠ '!' :: r) : inner body = body := by
  rw [inner.eq_def]
  split
  · exact absurd rfl (h _)
  · rfl

theorem inner_eq_nil : inner body = [] ↔ body = [] ∨ body = ['!'] := by
  by_cases h : ∃ r, body = '!' :: r
  · obtain ⟨r, rfl⟩ := h
    simp [inner]
  · have hmark : body ≠ ['!'] := fun he => h ⟨[], he⟩
    simp [inner_of_ne (not_exists.mp h), hmark]

theorem inner_append (h : inner body ≠ []) (s : Text) : inner (body ++ s) = inner body ++ s := by
  cases body with
  | nil => exact absurd rfl h
  | cons c r =>
    by_cases hc : c = '!'
    · rw [hc]
      rfl
    · rw [inner_of_ne (by simp [hc]), inner_of_ne (by simp [hc])]

theorem closable_iff : closable body = true ↔ inner body ≠ [] := by
  rw [ne_eq, inner_eq_nil]
  simp [closable]

theorem bracket_notMem_append {c : Char} (h : ']' ∉ (inner body).tail) (hc : ¬(c = ']' ∧ closable body = true)) :
    ']' ∉ (inner (body ++ [c])).tail := by
  by_cases hne : inner body = []
  · have hshort : (inner (body ++ [c])).tail = [] := by
      rcases inner_eq_nil.mp hne with rfl | rfl
      · by_cases hmark : c = '!'
        · rw [hmark]
          rfl
        · rw [inner_of_ne (by simp [hmark])]
          rfl
      · rfl
    simp [hshort]
  · have hc' : c ≠ ']' := fun he => hc ⟨he, closable_iff.mpr hne⟩
    rw [inner_append hne, List.tail_append_of_ne_nil hne, List.mem_append, List.mem_singleton]
    exact not_or.mpr ⟨h, hc'.symm⟩

/-- Every class of a pattern ends at the first bracket that can close it; by induction on the reading, in which the body
of an open class grows. -/
theorem isBody_of_mem_parts {o : Option Text} (ho : ∀ b ∈ o, ']' ∉ (inner b.reverse).tail)
    (hbody : .brackets body ∈ parts o s) : IsBody body := by
  fun_induction parts o s with
  | case5 c r _ _ _ _ _ ih => exact ih (by simp [inner]) hbody
  | case7 b c r hclose ih =>
    rcases List.mem_cons.mp hbody with he | hbody
    · cases he
      exact ⟨closable_iff.mp hclose.2, ho b rfl⟩
    · exact ih (by simp) hbody
  | case8 b c r hopen ih =>
    refine ih ?_ hbody
    rintro _ ⟨⟩
    rw [List.reverse_cons]
    exact bracket_notMem_append (ho b rfl) hopen
  | case9 => cases hbody
  | _ => simp_all

theorem oneOf_notMem_parts {o : Option Text} {k : CharClass} : .token (.oneOf k) ∉ parts o s := by
  fun_induction parts o s <;> simp_all

theorem isSound_of_mem_parts {part : Part} (h : part ∈ parts none s) : part.IsSound ∨ part = .brackets ['^'] := by
  cases part with
  | token t =>
    refine .inl fun k hk => ?_
    subst hk
    exact oneOf_notMem_parts h
  | brackets body =>
    by_cases hcaret : body = ['^']
    · exact .inr (congrArg Part.brackets hcaret)
    · exact .inl ⟨isBody_of_mem_parts (by simp) h, hcaret⟩

theorem AreSound.of_forall {ps : List Part} (h : ∀ part ∈ ps, part.IsSound) : AreSound ps := by
  induction ps with
  | nil => exact .nil
  | cons part ps ih =>
    obtain ⟨hpart, hps⟩ := List.forall_mem_cons.mp h
    exact .cons hpart (ih hps)

theorem AreSound.ne_oneOf {ps : List Part} (h : AreSound ps) : ∀ part ∈ ps, ∀ k, part ≠ .token (.oneOf k) := by
  induction h with
  | nil => simp
  | cons hpart _ ih => exact List.forall_mem_cons.mpr ⟨(by rintro k rfl; exact hpart k rfl), ih⟩
  | caret hps =>
    refine List.forall_mem_cons.mpr ⟨nofun, fun part hpart => ?_⟩
    obtain ⟨c, rfl⟩ := hps part hpart
    nofun

theorem LeavesOpen.areSound {ps : List Part} (hopen : LeavesOpen ps)
    (h : ∀ part ∈ ps, part.IsSound ∨ part = .brackets ['^']) : AreSound ps := by
  induction ps with
  | nil => exact .nil
  | cons part ps ih =>
    obtain ⟨hpart | rfl, hps⟩ := List.forall_mem_cons.mp h
    · exact .cons hpart (ih (fun front rest hsplit => hopen (part :: front) rest (congrArg _ hsplit)) hps)
    · exact .caret (hopen [] ps rfl)

end Parts

section Reading
variable {start p fuel : Nat} {negated : Bool} {r : Reading} {ps : List Piece} {body : Text} {acc : List (Char × Char)}

/-- A character as it is written in a class. -/
def spellMember (c : Char) : Text := if c = '\\' then ['\\', '\\'] else [c]

theorem spellBody_cons (c : Char) (body : Text) : spellBody (c :: body) = spellMember c ++ spellBody body := rfl

theorem meant_spellMember (c : Char) : meant (spellMember c) = c := by
  rw [spellMember]
  split
  · next h => exact h.symm
  · rfl

theorem spellMember_eq {c d : Char} (hd : d ≠ '\\') : spellMember c = [d] ↔ c = d := by
  rw [spellMember]
  split
  · next h => simp [h, hd.symm]
  · simp

theorem exists_piecesFrom_spellMember (c : Char) (p : Nat) (s : Text) :
    ∃ q, piecesFrom p (spellMember c ++ s) = ⟨spellMember c, p⟩ :: piecesFrom q s := by
  rw [spellMember]
  split
  · exact ⟨p + 2, by simp [piecesFrom]⟩
  · next h => exact ⟨p + 1, piecesFrom_cons h p s⟩

/-- What is left of a class after some of its members, which may be none. -/
def Goes (acc : List (Char × Char)) (body : Text) : Prop := acc = [] ∧ IsClosed body ∨ acc ≠ [] ∧ ']' ∉ body

theorem Goes.low {a : Char} (h : Goes acc (a :: body)) : spellMember a ≠ [']'] ∨ acc = [] := by
  rcases h with ⟨hacc, -⟩ | ⟨-, hbracket⟩
  · exact .inr hacc
  · refine .inl fun he => hbracket ?_
    rw [(spellMember_eq (by decide)).mp he]
    exact List.mem_cons_self

theorem Goes.tail {a : Char} (h : Goes acc (a :: body)) : ']' ∉ body := by
  rcases h with ⟨-, -, hbracket⟩ | ⟨-, hbracket⟩
  · exact hbracket
  · exact fun hmem => hbracket (List.mem_cons_of_mem a hmem)

theorem goes_cons {x : Char × Char} (h : ']' ∉ body) : Goes (x :: acc) body := .inr ⟨List.cons_ne_nil x acc, h⟩

/-- The pieces of what is left of a class, and those behind it. -/
def piecesOf (p : Nat) (body : Text) (ps : List Piece) : List Piece := piecesFrom p (spellBody body ++ [']']) ++ ps

theorem exists_piecesOf_cons (c : Char) (body : Text) (p : Nat) (ps : List Piece) :
    ∃ q, piecesOf p (c :: body) ps = ⟨spellMember c, p⟩ :: piecesOf q body ps := by
  obtain ⟨q, hq⟩ := exists_piecesFrom_spellMember c p (spellBody body ++ [']'])
  exact ⟨q, by rw [piecesOf, spellBody_cons, List.append_assoc, hq, List.cons_append, piecesOf]⟩

theorem readClassFrom_range {a b : Char} (h : Goes acc (a :: '-' :: b :: body)) :
    ∃ q, readClassFrom start negated acc (fuel + 1) (r.onward (piecesOf p (a :: '-' :: b :: body) ps)) =
      if b < a then failAt p (.badRange (spellMember a) (spellMember b)) (r.onward (piecesOf q body ps))
      else readClassFrom start negated ((a, b) :: acc) fuel (r.onward (piecesOf q body ps)) := by
  obtain ⟨q₁, hlow⟩ := exists_piecesOf_cons a ('-' :: b :: body) p ps
  obtain ⟨q₂, hdash⟩ := exists_piecesOf_cons '-' (b :: body) q₁ ps
  obtain ⟨q₃, hhigh⟩ := exists_piecesOf_cons b body q₂ ps
  obtain ⟨hb, -⟩ := List.ne_and_not_mem_of_not_mem_cons (List.not_mem_of_not_mem_cons h.tail)
  have hclose : spellMember b ≠ [']'] := fun he => hb ((spellMember_eq (by decide)).mp he).symm
  refine ⟨q₃, ?_⟩
  rw [hlow, hdash, hhigh]
  refine (readClassFrom_dash h.low (spellMember b)).trans ?_
  rw [if_neg hclose, meant_spellMember, meant_spellMember]

theorem readClassFrom_lastDash {a : Char} (h : Goes acc [a, '-']) :
    readClassFrom start negated acc (fuel + 1) (r.onward (piecesOf p [a, '-'] ps)) =
      .ok (⟨negated, acc.reverse ++ [(a, a), ('-', '-')]⟩, r.onward ps) := by
  obtain ⟨q₁, hlow⟩ := exists_piecesOf_cons a ['-'] p ps
  obtain ⟨q₂, hdash⟩ := exists_piecesOf_cons '-' [] q₁ ps
  rw [hlow, hdash]
  refine (readClassFrom_dash h.low [']']).trans ?_
  rw [if_pos rfl, meant_spellMember]
  simp

theorem readClassFrom_member {a : Char} (h : Goes acc (a :: body)) (hdash : body.head? ≠ some '-') :
    ∃ q, readClassFrom start negated acc (fuel + 1) (r.onward (piecesOf p (a :: body) ps)) =
      readClassFrom start negated ((a, a) :: acc) fuel (r.onward (piecesOf q body ps)) := by
  obtain ⟨q, hlow⟩ := exists_piecesOf_cons a body p ps
  have hnext : (piecesOf q body ps).head?.map (·.text) ≠ some ['-'] := by
    cases body with
    | nil => simp [piecesOf, spellBody, piecesFrom]
    | cons c body =>
      obtain ⟨q', hnext⟩ := exists_piecesOf_cons c body q ps
      rw [hnext, List.head?_cons, Option.map_some, ne_eq, Option.some_inj, spellMember_eq (by decide)]
      exact fun he => hdash (congrArg some he)
  refine ⟨q, ?_⟩
  rw [hlow]
  refine (readClassFrom_one h.low hnext).trans ?_
  rw [meant_spellMember]

/-- The members of a class, after others if there are any, are read up to its bracket, unless a range runs backwards. -/
theorem readClassFrom_members (h : Goes acc body) (hfuel : body.length < fuel) :
    (readClassFrom start negated acc fuel (r.onward (piecesOf p body ps))).toOption =
      (members body).map fun ms => (⟨negated, acc.reverse ++ ms⟩, r.onward ps) := by
  induction fuel generalizing acc body p with
  | zero => exact absurd hfuel (Nat.not_lt_zero _)
  | succ fuel ih =>
    have hgo (x : Char × Char) {rest : Text} (q : Nat) (hrest : ']' ∉ rest) (hshort : rest.length < fuel) :
        (readClassFrom start negated (x :: acc) fuel (r.onward (piecesOf q rest ps))).toOption =
          ((members rest).map (x :: ·)).map fun ms => (⟨negated, acc.reverse ++ ms⟩, r.onward ps) := by
      rw [ih (goes_cons hrest) hshort, Option.map_map]
      simp [Function.comp_def]
    fun_cases members body with
    | case1 =>
      have hacc : acc ≠ [] := by
        rcases h with ⟨-, hne, -⟩ | ⟨hacc, -⟩
        · exact absurd rfl hne
        · exact hacc
      rw [Option.map_some, List.append_nil]
      exact congrArg _ (readClassFrom_close hacc)
    | case2 a b body hle =>
      obtain ⟨q, hstep⟩ := readClassFrom_range h
      rw [if_neg (Char.not_lt.mpr hle)] at hstep
      rw [hstep]
      exact hgo (a, b) q (List.not_mem_of_not_mem_cons (List.not_mem_of_not_mem_cons h.tail)) (by simp at hfuel; omega)
    | case3 a b body hlt =>
      obtain ⟨q, hstep⟩ := readClassFrom_range h
      rw [if_pos (Char.not_le.mp hlt)] at hstep
      rw [hstep]
      rfl
    | case4 a body hsingle =>
      by_cases hdash : body.head? = some '-'
      · obtain rfl : body = ['-'] := by
          match body with
          | '-' :: b :: rest => exact absurd rfl (hsingle b rest)
          | [c] => rw [Option.some.inj hdash]
        rw [readClassFrom_lastDash h]
        rfl
      · obtain ⟨q, hstep⟩ := readClassFrom_member h hdash
        rw [hstep]
        exact hgo (a, a) q h.tail (by simpa using hfuel)

theorem length_lt_piecesOf (p : Nat) (body : Text) (ps : List Piece) : body.length < (piecesOf p body ps).length + 1 := by
  induction body generalizing p with
  | nil => exact Nat.succ_pos _
  | cons c body ih =>
    obtain ⟨q, hq⟩ := exists_piecesOf_cons c body p ps
    have hrest := ih q
    rw [hq, List.length_cons, List.length_cons]
    omega

theorem readClass_true (h : Goes [] body) (q : Nat) :
    (readClass start (r.onward (⟨['^'], q⟩ :: piecesOf p body ps))).toOption =
      ((members body).map (⟨true, ·⟩)).map fun k => (k, r.onward ps) := by
  rw [readClass_negated, readClassFrom_members h (length_lt_piecesOf p body ps), Option.map_map]
  rfl

theorem readClass_false (h : Goes [] body) (hcaret : body.head? ≠ some '^') :
    (readClass start (r.onward (piecesOf p body ps))).toOption =
      ((members body).map (⟨false, ·⟩)).map fun k => (k, r.onward ps) := by
  have hnext : (piecesOf p body ps).head?.map (·.text) ≠ some ['^'] := by
    cases body with
    | nil => simp [piecesOf, spellBody, piecesFrom]
    | cons c body =>
      obtain ⟨q, hq⟩ := exists_piecesOf_cons c body p ps
      rw [hq, List.head?_cons, Option.map_some, ne_eq, Option.some_inj, spellMember_eq (by decide)]
      exact fun he => hcaret (congrArg some he)
  rw [readClass_of_ne hnext, readClassFrom_members h (length_lt_piecesOf p body ps), Option.map_map]
  rfl

theorem spelled_negated (rest : Text) : (Part.brackets ('!' :: rest)).spelled = '[' :: '^' :: spellBody rest ++ [']'] := rfl

theorem spelled_of_ne (h : ∀ rest, body ≠ '!' :: rest) : (Part.brackets body).spelled = '[' :: spellBody body ++ [']'] := by
  rw [Part.spelled.eq_def]
  split <;> simp_all

theorem readClass_spelled (h : IsBody body) (hcaret : body ≠ ['^']) (p : Nat) :
    ∃ ps', piecesFrom p (Part.brackets body).spelled ++ ps = ⟨['['], p⟩ :: ps' ∧
      (readClass start (r.onward ps')).toOption = (classOfBody body).map fun k => (k, r.onward ps) := by
  have hmark (rest : Text) : piecesFrom p ('[' :: '^' :: spellBody rest ++ [']']) ++ ps =
      ⟨['['], p⟩ :: ⟨['^'], p + 1⟩ :: piecesOf (p + 2) rest ps := by
    rw [List.cons_append, List.cons_append, piecesFrom_cons (by decide), piecesFrom_cons (by decide)]
    rfl
  by_cases hbang : ∃ rest, body = '!' :: rest
  · obtain ⟨rest, rfl⟩ := hbang
    have hgoes : Goes [] rest := .inl ⟨rfl, h⟩
    exact ⟨_, hmark rest, readClass_true hgoes _⟩
  have hspelled := spelled_of_ne (not_exists.mp hbang)
  by_cases hnot : ∃ rest, body = '^' :: rest
  · obtain ⟨rest, rfl⟩ := hnot
    have hrest : IsClosed rest := ⟨by simpa using hcaret, fun hmem => h.2 (List.mem_of_mem_tail hmem)⟩
    exact ⟨_, hmark rest, readClass_true (.inl ⟨rfl, hrest⟩) _⟩
  have hhead : body.head? ≠ some '^' := by
    intro hhead
    obtain ⟨rest, rfl⟩ := List.head?_eq_some_iff.mp hhead
    exact hnot ⟨rest, rfl⟩
  have hclass : classOfBody body = (members body).map (⟨false, ·⟩) := by
    rw [classOfBody.eq_def]
    split <;> simp_all
  rw [IsBody, inner_of_ne (not_exists.mp hbang)] at h
  refine ⟨piecesOf (p + 1) body ps, ?_, ?_⟩
  · rw [hspelled, List.cons_append, piecesFrom_cons (by decide)]
    rfl
  · rw [readClass_false (.inl ⟨rfl, h⟩) hhead, hclass]

theorem token?_brackets (hcaret : body ≠ ['^']) : (Part.brackets body).token? = (classOfBody body).map .oneOf := by
  rw [Part.token?.eq_def]
  split <;> simp_all

/-- No backslash of a class stands for itself, so that the pieces behind the class are their own. -/
theorem all_piecesFrom_brackets (body : Text) (p : Nat) :
    (piecesFrom p (Part.brackets body).spelled).all (·.text != ['\\']) = true := by
  have hmembers (rest : Text) (q : Nat) : (piecesOf q rest []).all (·.text != ['\\']) = true := by
    induction rest generalizing q with
    | nil => rfl
    | cons c rest ih =>
      have hc : spellMember c ≠ ['\\'] := by
        rw [spellMember]
        split <;> simp_all
      obtain ⟨q', hq⟩ := exists_piecesOf_cons c rest q []
      rw [hq, List.all_cons, ih q', Bool.and_true]
      exact bne_iff_ne.mpr hc
  have hfrom (rest : Text) (q : Nat) : (piecesFrom q (spellBody rest ++ [']'])).all (·.text != ['\\']) = true :=
    (List.append_nil (piecesFrom q _)) ▸ hmembers rest q
  by_cases hbang : ∃ rest, body = '!' :: rest
  · obtain ⟨rest, rfl⟩ := hbang
    rw [spelled_negated, List.cons_append, List.cons_append, piecesFrom_cons (by decide), piecesFrom_cons (by decide)]
    exact hfrom rest (p + 2)
  · rw [spelled_of_ne (not_exists.mp hbang), List.cons_append, piecesFrom_cons (by decide)]
    exact hfrom body (p + 1)

end Reading

end RuleReview.Glob
