import RuleReview.Proofs.Json.Scalars

/-! # Blanks between the parts of a value

A text that holds a value still holds it when other blanks stand where it has blanks outside of its strings: strings are
read up to their closing quote, numbers and words up to a blank or a mark, and a mark comes next in both texts or in none.
-/
namespace RuleReview.Json

/-- Where a character stands: between strings, in a string, or in a string behind a backslash. -/
inductive Place where
  | outside
  | within
  | escaped
  deriving DecidableEq

/-- The place behind a character, when the character may stand at its own. -/
def Place.next : Place → Char → Option Place
  | .outside, c => if c = '"' then some .within else if isOuter c then some .outside else none
  | .within, c =>
    if c = '"' then some .outside
    else if c = '\\' then some .escaped
    else if c.toNat < 0x20 then none
    else some .within
  | .escaped, c => if c.toNat < 0x20 then none else some .within

def run (p : Place) (s : Text) : Option Place := s.foldlM Place.next p

/-- All that opens closes, and nothing stands where it may not. -/
def Closes (s : Text) : Prop := run .outside s = some .outside

/-- Whether a text is at its end or goes on with a blank. -/
def HasGap (s : Text) : Prop := ∀ c ∈ s.head?, isSpace c = true

/-- Two texts that go on in the same way from a place, but for the blanks in the gaps outside of strings. -/
inductive Respaced : Place → Text → Text → Prop
  | nil : Respaced .outside [] []
  | gap {s s' : Text} (hs : HasGap s) (hs' : HasGap s') (h : Respaced .outside (skipSpace s) (skipSpace s')) :
      Respaced .outside s s'
  | char {p q : Place} {c : Char} {s s' : Text} (hq : p.next c = some q) (hc : p = .outside → isSpace c = false)
      (h : Respaced q s s') : Respaced p (c :: s) (c :: s')

variable {p q : Place} {s s' t t' x r rest start : Text} {c b b' : Char} {v : Json} {fuel depth : Nat}

section Places

theorem run_cons (p : Place) (c : Char) (s : Text) : run p (c :: s) = (p.next c).bind fun q => run q s := rfl

theorem run_append (p : Place) (s t : Text) : run p (s ++ t) = (run p s).bind fun q => run q t := List.foldlM_append

theorem next_outside (hc : isOuter c = true) : Place.next .outside c = some .outside := by
  rw [Place.next, if_neg (ne_of_isOuter hc).1, if_pos hc]

theorem run_outer (hx : ∀ c ∈ x, isOuter c = true) (s : Text) : run .outside (x ++ s) = run .outside s := by
  induction x with
  | nil => rfl
  | cons c x ih =>
    obtain ⟨hc, hx⟩ := List.forall_mem_cons.mp hx
    rw [List.cons_append, run_cons, next_outside hc, Option.bind_some, ih hx]

theorem run_skipSpace (s : Text) : run .outside (skipSpace s) = run .outside s := by
  obtain ⟨x, hx, hs⟩ := passes_skipSpace s
  rw [hs, run_outer hx, ← hs]

theorem next_hex {n : Nat} (h : Text.hexValue? c = some n) : Place.next .within c = some .within := by
  have hprint : 0x20 ≤ c.toNat := by
    have hlower (d : Char) (hd : 0x20 ≤ d.toNat) (hc : d ≤ c) : 0x20 ≤ c.toNat := Nat.le_trans hd hc
    unfold Text.hexValue? at h
    split at h
    · next hc => exact hlower '0' (by decide) hc.1
    split at h
    · next hc => exact hlower 'a' (by decide) hc.1
    split at h
    · next hc => exact hlower 'A' (by decide) hc.1
    · cases h
  have hquote : c ≠ '"' := by
    rintro rfl
    cases h
  have hback : c ≠ '\\' := by
    rintro rfl
    cases h
  rw [Place.next, if_neg hquote, if_neg hback, if_neg (Nat.not_lt.mpr hprint)]

theorem run_unit {x₁ x₂ x₃ x₄ : Char} {u : Nat} (h : unitOf? x₁ x₂ x₃ x₄ = some u) (r : Text) :
    run .within ('\\' :: 'u' :: x₁ :: x₂ :: x₃ :: x₄ :: r) = run .within r := by
  obtain ⟨n₁, h₁, h⟩ := Option.bind_eq_some_iff.mp h
  obtain ⟨n₂, h₂, h⟩ := Option.bind_eq_some_iff.mp h
  obtain ⟨n₃, h₃, h⟩ := Option.bind_eq_some_iff.mp h
  obtain ⟨n₄, h₄, -⟩ := Option.bind_eq_some_iff.mp h
  have hopen : run .within ('\\' :: 'u' :: x₁ :: x₂ :: x₃ :: x₄ :: r) = run .within (x₁ :: x₂ :: x₃ :: x₄ :: r) := rfl
  rw [hopen, run_cons, next_hex h₁, Option.bind_some, run_cons, next_hex h₂, Option.bind_some, run_cons, next_hex h₃,
    Option.bind_some, run_cons, next_hex h₄, Option.bind_some]

theorem next_escaped {k : Char} (h : simpleEscape? c = some k) : Place.next .escaped c = some .within := by
  have hmem : c ∈ ['"', '\\', '/', 'b', 'f', 'n', 'r', 't'] := by
    by_contra hc
    simp_all [simpleEscape?]
  have hall : (['"', '\\', '/', 'b', 'f', 'n', 'r', 't'].all fun d => 0x20 ≤ d.toNat) = true := by decide
  have hprint := List.all_eq_true.mp hall c hmem
  rw [Place.next, if_neg (by simpa using hprint)]

theorem Strung.run_eq {us : List Nat} (h : Strung s us rest) : run .within s = run .outside rest := by
  induction h with
  | close => rfl
  | unit hu _ ih => exact (run_unit hu _).trans ih
  | @short c k us s r hk _ ih =>
    have hstep : run .within ('\\' :: c :: s) = run .escaped (c :: s) := rfl
    rw [hstep, run_cons, next_escaped hk, Option.bind_some, ih]
  | plain hq hb hc _ ih => rw [run_cons, Place.next, if_neg hq, if_neg hb, if_neg hc, Option.bind_some, ih]

theorem run_break (p : Place) (s : Text) : run p ('\n' :: s) = if p = .outside then run .outside s else none := by
  cases p <;> rfl

theorem closes_append_iff (ht : t = [] ∨ ∃ r, t = '\n' :: r) : Closes (s ++ t) ↔ Closes s ∧ Closes t := by
  rw [Closes, Closes, Closes, run_append]
  constructor
  · intro h
    obtain ⟨q, hq, h⟩ := Option.bind_eq_some_iff.mp h
    rcases ht with rfl | ⟨r, rfl⟩
    · exact ⟨hq.trans h, rfl⟩
    · rw [run_break] at h
      split at h
      · next hout =>
        subst hout
        exact ⟨hq, h⟩
      · cases h
  · rintro ⟨hs, h⟩
    rw [hs, Option.bind_some, h]

theorem kept_not_closes : Kept (fun r => ¬Closes r) fun _ => True where
  char hc h hr := h (by rwa [Closes, run_cons, next_outside hc])
  string h hs := by
    obtain ⟨⟨us, r⟩, hunits, he⟩ := map_eq_ok.mp hs
    cases he
    refine ⟨fun hr => h ?_, fun _ _ => trivial⟩
    exact (strung_of_units hunits).run_eq.trans hr

theorem closes_of_parse (h : parse s = .ok v) : Closes s := by
  by_contra hs
  exact (kept_not_closes.parse h hs).1 rfl

end Places

section Relation

theorem HasGap.nil : HasGap [] := nofun

theorem HasGap.cons (hb : isSpace b = true) (s : Text) : HasGap (b :: s) := by
  rintro _ ⟨⟩
  exact hb

theorem skipSpace_cons (hb : isSpace b = true) (s : Text) : skipSpace (b :: s) = skipSpace s :=
  List.dropWhile_cons_of_pos hb

theorem skipSpace_of_not (hc : isSpace c = false) (s : Text) : skipSpace (c :: s) = c :: s :=
  List.dropWhile_cons_of_neg (by simp [hc])

theorem Respaced.skipSpace (h : Respaced .outside s s') : Respaced .outside (skipSpace s) (skipSpace s') := by
  cases h with
  | nil => exact .nil
  | gap _ _ h => exact h
  | char hq hc h =>
    rw [skipSpace_of_not (hc rfl), skipSpace_of_not (hc rfl)]
    exact .char hq hc h

theorem Respaced.hasGap (h : Respaced .outside s s') (hs : HasGap s) : HasGap s' := by
  cases h with
  | nil => exact .nil
  | gap _ hs' => exact hs'
  | char _ hc => cases (hc rfl).symm.trans (hs _ rfl)

theorem Respaced.eq_nil (h : Respaced .outside s s') (hs : Json.skipSpace s = []) : Json.skipSpace s' = [] := by
  have hskip := h.skipSpace
  rw [hs] at hskip
  have hgap := hskip.hasGap .nil
  have hhead := List.head?_dropWhile_not isSpace s'
  cases hs' : Json.skipSpace s' with
  | nil => rfl
  | cons c r =>
    rw [hs'] at hgap
    rw [Json.skipSpace] at hs'
    rw [hs'] at hhead
    simp [hgap c rfl] at hhead

theorem Respaced.blank (hb : isSpace b = true) (hb' : isSpace b' = true) (h : Respaced .outside s s') :
    Respaced .outside (b :: s) (b' :: s') := by
  refine .gap (.cons hb s) (.cons hb' s') ?_
  rw [skipSpace_cons hb, skipSpace_cons hb']
  exact h.skipSpace

theorem Respaced.same (hq : p.next c = some q) (h : Respaced q s s') : Respaced p (c :: s) (c :: s') := by
  by_cases hc : p = .outside ∧ isSpace c = true
  · obtain ⟨rfl, hc⟩ := hc
    obtain rfl : Place.outside = q := Option.some.inj ((next_outside (isOuter_of_isSpace hc)).symm.trans hq)
    exact h.blank hc hc
  · exact .char hq (fun hp => Bool.eq_false_iff.mpr fun hspace => hc ⟨hp, hspace⟩) h

theorem Respaced.more (hx : ∀ c ∈ x, isSpace c = true) (hs : HasGap s) (h : Respaced .outside s s') :
    Respaced .outside s (x ++ s') := by
  induction x with
  | nil => exact h
  | cons b x ih =>
    obtain ⟨hb, hx⟩ := List.forall_mem_cons.mp hx
    refine .gap hs (.cons hb _) ?_
    rw [List.cons_append, skipSpace_cons hb]
    exact (ih hx).skipSpace

theorem Respaced.symm (h : Respaced p s s') : Respaced p s' s := by
  induction h with
  | nil => exact .nil
  | gap hs hs' _ ih => exact .gap hs' hs ih
  | char hq hc _ ih => exact .char hq hc ih

theorem respaced_append (hx : ∀ c ∈ x, isSpace c = true) (hs : run p s = some .outside) : Respaced p (s ++ x) s := by
  induction s generalizing p with
  | nil =>
    obtain rfl : p = .outside := Option.some.inj hs
    have hblank := Respaced.nil.more hx .nil
    rw [List.append_nil] at hblank
    exact hblank.symm
  | cons c s ih =>
    obtain ⟨q, hq, hs⟩ := Option.bind_eq_some_iff.mp hs
    exact (ih hs).same hq

theorem Respaced.run_eq (h : Respaced p s s') : run p s' = some .outside := by
  induction h with
  | nil => rfl
  | gap _ _ _ ih => rwa [run_skipSpace] at ih
  | char hq _ _ ih => rwa [run_cons, hq]

theorem Respaced.of_cons (h : Respaced p (c :: s) s') (hc : p = .outside → isSpace c = false) :
    ∃ q t, p.next c = some q ∧ s' = c :: t ∧ Respaced q s t := by
  cases h with
  | gap hs => cases (hc rfl).symm.trans (hs c rfl)
  | char hq _ h => exact ⟨_, _, hq, rfl, h⟩

theorem Respaced.words (hx : ∀ c ∈ x, isWord c = true) (h : Respaced .outside t t') :
    Respaced .outside (x ++ t) (x ++ t') := by
  induction x with
  | nil => exact h
  | cons c x ih =>
    obtain ⟨hc, hx⟩ := List.forall_mem_cons.mp hx
    exact .char (next_outside (isOuter_of_isWord hc)) (fun _ => isSpace_of_isWord hc) (ih hx)

theorem HasGap.stops (h : HasGap s) : Stops s := fun c hc => by simp [isWord, h c hc]

theorem Respaced.split (h : Respaced .outside s s') : ∃ x t t', s = x ++ t ∧ s' = x ++ t' ∧ (∀ c ∈ x, isWord c = true) ∧
    Stops t ∧ Stops t' ∧ Respaced .outside t t' := by
  generalize hp : Place.outside = p at h
  induction h with
  | nil => exact ⟨[], [], [], rfl, rfl, by simp, nofun, nofun, .nil⟩
  | @gap s s' hs hs' h => exact ⟨[], s, s', rfl, rfl, by simp, hs.stops, hs'.stops, .gap hs hs' h⟩
  | @char p q c s s' hq hc h ih =>
    subst hp
    by_cases hword : isWord c = true
    · obtain rfl : Place.outside = q := Option.some.inj ((next_outside (isOuter_of_isWord hword)).symm.trans hq)
      obtain ⟨x, t, t', rfl, rfl, hx, hrest⟩ := ih rfl
      exact ⟨c :: x, t, t', rfl, rfl, List.forall_mem_cons.mpr ⟨hword, hx⟩, hrest⟩
    · have hstop (r : Text) : Stops (c :: r) := by
        rintro _ ⟨⟩
        exact Bool.eq_false_iff.mpr hword
      exact ⟨[], c :: s, c :: s', rfl, rfl, by simp, hstop s, hstop s', .char hq hc h⟩

end Relation

section Scalars

theorem Respaced.scalar (hs : Respaced .outside s s') (hv : scalar s = .ok (v, r)) :
    ∃ r', Json.scalar s' = .ok (v, r') ∧ Respaced .outside r r' ∧ r'.length ≤ s'.length := by
  obtain ⟨x, t, t', rfl, rfl, hx, ht, ht', hrest⟩ := hs.split
  rw [scalar_append ht] at hv
  cases hfound : Json.scalar x with
  | error e =>
    rw [hfound] at hv
    cases hv
  | ok found =>
    obtain ⟨w, y⟩ := found
    rw [hfound] at hv
    cases hv
    obtain ⟨z, -, rfl⟩ := passes_scalar hfound
    refine ⟨y ++ t', ?_, hrest.words (List.forall_mem_append.mp hx).2, by simp⟩
    rw [scalar_append ht', hfound]
    rfl

end Scalars

section Strings

theorem Respaced.of_hex {n : Nat} (h : Respaced .within (c :: s) s') (hc : Text.hexValue? c = some n) :
    ∃ t, s' = c :: t ∧ Respaced .within s t := by
  obtain ⟨q, t, hq, rfl, ht⟩ := h.of_cons nofun
  obtain rfl : Place.within = q := Option.some.inj ((next_hex hc).symm.trans hq)
  exact ⟨t, rfl, ht⟩

theorem Respaced.of_backslash (h : Respaced .within ('\\' :: c :: s) s') (hc : Place.next .escaped c = some .within) :
    ∃ t, s' = '\\' :: c :: t ∧ Respaced .within s t := by
  obtain ⟨q, u, hq, rfl, hu⟩ := h.of_cons nofun
  obtain rfl : Place.escaped = q := Option.some.inj hq
  obtain ⟨q, t, hq, rfl, ht⟩ := hu.of_cons nofun
  obtain rfl : Place.within = q := Option.some.inj (hc.symm.trans hq)
  exact ⟨t, rfl, ht⟩

theorem Respaced.of_unit {x₁ x₂ x₃ x₄ : Char} {u : Nat} (hu : unitOf? x₁ x₂ x₃ x₄ = some u)
    (h : Respaced .within ('\\' :: 'u' :: x₁ :: x₂ :: x₃ :: x₄ :: s) s') :
    ∃ t, s' = '\\' :: 'u' :: x₁ :: x₂ :: x₃ :: x₄ :: t ∧ Respaced .within s t := by
  obtain ⟨n₁, h₁, hu⟩ := Option.bind_eq_some_iff.mp hu
  obtain ⟨n₂, h₂, hu⟩ := Option.bind_eq_some_iff.mp hu
  obtain ⟨n₃, h₃, hu⟩ := Option.bind_eq_some_iff.mp hu
  obtain ⟨n₄, h₄, -⟩ := Option.bind_eq_some_iff.mp hu
  obtain ⟨_, rfl, hs₁⟩ := h.of_backslash (by decide)
  obtain ⟨_, rfl, hs₂⟩ := hs₁.of_hex h₁
  obtain ⟨_, rfl, hs₃⟩ := hs₂.of_hex h₂
  obtain ⟨_, rfl, hs₄⟩ := hs₃.of_hex h₃
  obtain ⟨t, rfl, ht⟩ := hs₄.of_hex h₄
  exact ⟨t, rfl, ht⟩

theorem Respaced.strung {us : List Nat} (hs : Respaced .within s s') (h : Strung s us r) :
    ∃ r', Strung s' us r' ∧ Respaced .outside r r' ∧ r'.length ≤ s'.length := by
  induction h generalizing s' with
  | close =>
    obtain ⟨q, t, hq, rfl, ht⟩ := hs.of_cons nofun
    obtain rfl : Place.outside = q := Option.some.inj hq
    exact ⟨t, .close, ht, Nat.le_succ _⟩
  | unit hu _ ih =>
    obtain ⟨t, rfl, ht⟩ := hs.of_unit hu
    obtain ⟨r', hstrung, hr, hlength⟩ := ih ht
    refine ⟨r', .unit hu hstrung, hr, ?_⟩
    simp only [List.length_cons]
    omega
  | short hk _ ih =>
    obtain ⟨t, rfl, ht⟩ := hs.of_backslash (next_escaped hk)
    obtain ⟨r', hstrung, hr, hlength⟩ := ih ht
    refine ⟨r', .short hk hstrung, hr, ?_⟩
    simp only [List.length_cons]
    omega
  | plain hq hb hc _ ih =>
    obtain ⟨p, t, hp, rfl, ht⟩ := hs.of_cons nofun
    rw [Place.next, if_neg hq, if_neg hb, if_neg hc] at hp
    cases hp
    obtain ⟨r', hstrung, hr, hlength⟩ := ih ht
    exact ⟨r', .plain hq hb hc hstrung, hr, Nat.le_succ_of_le hlength⟩

theorem Respaced.string {g : Glyphs} (hs : Respaced .outside ('"' :: s) s') (h : string ('"' :: s) = .ok (g, r)) :
    ∃ t r', s' = '"' :: t ∧ Json.string s' = .ok (g, r') ∧ Respaced .outside r r' ∧ r'.length ≤ s'.length := by
  obtain ⟨q, t, hq, rfl, ht⟩ := hs.of_cons fun _ => rfl
  obtain rfl : Place.within = q := Option.some.inj hq
  obtain ⟨⟨us, y⟩, hunits, he⟩ := map_eq_ok.mp h
  cases he
  obtain ⟨r', hstrung, hr, hlength⟩ := ht.strung (strung_of_units hunits)
  refine ⟨t, r', rfl, ?_, hr, Nat.le_succ_of_le hlength⟩
  rw [Json.string, List.drop_one, List.tail_cons, hstrung.units_eq]
  rfl

end Strings

section Values

variable {before gs : List (Glyphs × Json)} {vs : List Json}

theorem length_skipSpace_le (s : Text) : (skipSpace s).length ≤ s.length := (List.dropWhile_suffix _).length_le

theorem Respaced.of_word (hs : Respaced .outside (c :: s) s') (hc : isWord c = true) :
    ∃ t, s' = c :: t ∧ Respaced .outside s t := by
  obtain ⟨q, t, hq, rfl, ht⟩ := hs.of_cons fun _ => isSpace_of_isWord hc
  obtain rfl : Place.outside = q := Option.some.inj ((next_outside (isOuter_of_isWord hc)).symm.trans hq)
  exact ⟨t, rfl, ht⟩

theorem Respaced.mark (hs : Respaced .outside s s') (hc : isWord c = true) (h : Json.skipSpace s = c :: t) :
    ∃ t', Json.skipSpace s' = c :: t' ∧ Respaced .outside t t' ∧ t'.length < s'.length := by
  have hskip := hs.skipSpace
  rw [h] at hskip
  obtain ⟨t', ht, hrest⟩ := hskip.of_word hc
  have hlength := length_skipSpace_le s'
  rw [ht] at hlength
  exact ⟨t', ht, hrest, hlength⟩

/-- With enough fuel for what is read of it, the text is read as `a`, and what is left differs from `r` in blanks. -/
def Follows {α : Type} (read : Nat → Text → Except Stop (α × Text)) (s : Text) (a : α) (r : Text) : Prop :=
  ∃ r', Respaced .outside r r' ∧ r'.length ≤ s.length ∧ ∀ fuel, s.length < fuel + r'.length → read fuel s = .ok (a, r')

theorem Follows.intro {α : Type} {read : Nat → Text → Except Stop (α × Text)} {a : α} {r' : Text}
    (hr : Respaced .outside r r') (hlength : r'.length ≤ s.length)
    (h : ∀ n, s.length ≤ n + r'.length → read (n + 1) s = .ok (a, r')) : Follows read s a r := by
  refine ⟨r', hr, hlength, fun fuel hfuel => ?_⟩
  obtain ⟨n, rfl⟩ := Nat.exists_eq_succ_of_ne_zero (n := fuel) (by omega)
  exact h n (by omega)

/-- What the readers of values, of items and of members find with some fuel they find in respaced texts. -/
structure Simulates (fuel : Nat) : Prop where
  value {depth : Nat} {s s' r : Text} {v : Json} : value fuel depth s = .ok (v, r) → Respaced .outside s s' →
    Follows (fun fuel => value fuel depth) s' v r
  items {depth : Nat} {s s' r : Text} {vs : List Json} : items fuel depth s = .ok (vs, r) → Respaced .outside s s' →
    Follows (fun fuel => items fuel depth) s' vs r
  members {depth : Nat} {s s' r : Text} {before gs : List (Glyphs × Json)} :
    members fuel depth before s = .ok (gs, r) → Respaced .outside s s' →
      Follows (fun fuel => members fuel depth before) s' gs r

/-- What a container comes to behind its opening mark: nothing, or what its parts are read as. -/
def container (close : Char) (empty : Json) (parts : Text → Except Stop (Json × Text)) (s : Text) :
    Except Stop (Json × Text) :=
  match Json.skipSpace s with
  | c :: r => if c = close then .ok (empty, r) else parts (c :: r)
  | [] => parts []

def objectParts (fuel depth : Nat) (s : Text) : Except Stop (Json × Text) := do
  let (ms, rest) ← members fuel (depth + 1) [] s
  return (.ofMembers ms, rest)

def arrayParts (fuel depth : Nat) (s : Text) : Except Stop (Json × Text) := do
  let (vs, rest) ← items fuel (depth + 1) s
  return (.arr vs, rest)

theorem container_of_eq {close : Char} {empty : Json} {parts : Text → Except Stop (Json × Text)}
    (h : Json.skipSpace s = close :: r) : container close empty parts s = .ok (empty, r) := by
  rw [container, h]
  exact if_pos rfl

theorem container_of_ne {close : Char} {empty : Json} {parts : Text → Except Stop (Json × Text)}
    (h : ∀ r, Json.skipSpace s ≠ close :: r) : container close empty parts s = parts (Json.skipSpace s) := by
  rw [container]
  cases hs : Json.skipSpace s with
  | nil => rfl
  | cons c r =>
    have hc : c ≠ close := by
      rintro rfl
      exact h r hs
    exact if_neg hc

theorem value_object (fuel depth : Nat) (s : Text) : Json.value (fuel + 1) depth ('{' :: s) =
    if nestingLimit ≤ depth then .error ⟨.tooDeep .object, '{' :: s⟩
    else container '}' (.obj []) (objectParts fuel depth) s := by
  rw [Json.value]
  refine if_congr Iff.rfl rfl ?_
  split
  · next h => rw [container_of_eq h]
  · next h =>
    rw [container_of_ne h]
    rfl

theorem value_array (fuel depth : Nat) (s : Text) : Json.value (fuel + 1) depth ('[' :: s) =
    if nestingLimit ≤ depth then .error ⟨.tooDeep .array, '[' :: s⟩
    else container ']' (.arr []) (arrayParts fuel depth) s := by
  rw [Json.value]
  refine if_congr Iff.rfl rfl ?_
  split
  · next h => rw [container_of_eq h]
  · next h =>
    rw [container_of_ne h]
    rfl

theorem Follows.container {close : Char} {empty : Json} {parts read : Nat → Text → Except Stop (Json × Text)}
    (hclose : isWord close = true) (hs : Respaced .outside s s')
    (hread : ∀ n, read (n + 1) (c :: s') = container close empty (parts n) s')
    (hparts : ∀ {v r}, parts fuel (Json.skipSpace s) = .ok (v, r) → Follows parts (Json.skipSpace s') v r)
    (hv : Json.container close empty (parts fuel) s = .ok (v, r)) : Follows read (c :: s') v r := by
  by_cases hend : ∃ t, Json.skipSpace s = close :: t
  · obtain ⟨t, ht⟩ := hend
    rw [container_of_eq ht] at hv
    cases hv
    obtain ⟨r', ht', hr, hlength⟩ := hs.mark hclose ht
    refine .intro hr (Nat.le_succ_of_le (Nat.le_of_lt hlength)) fun n _ => ?_
    rw [hread, container_of_eq ht']
  · have hopen (t : Text) : Json.skipSpace s' ≠ close :: t := by
      intro ht
      obtain ⟨t', ht', -⟩ := hs.symm.mark hclose ht
      exact hend ⟨t', ht'⟩
    have hskip := length_skipSpace_le s'
    rw [container_of_ne (not_exists.mp hend)] at hv
    obtain ⟨r', hr, hlength, hfound⟩ := hparts hv
    refine .intro hr (Nat.le_succ_of_le (Nat.le_trans hlength hskip)) fun n hn => ?_
    rw [List.length_cons] at hn
    rw [hread, container_of_ne hopen, hfound n (by omega)]

theorem Simulates.object (h : Simulates fuel) (hs : Respaced .outside s s')
    (hv : Json.value (fuel + 1) depth ('{' :: s) = .ok (v, r)) :
    Follows (fun fuel => Json.value fuel depth) ('{' :: s') v r := by
  rw [value_object] at hv
  split at hv
  · cases hv
  next hdepth =>
  refine .container (by decide) hs (fun n => (value_object n depth s').trans (if_neg hdepth)) (fun hparts => ?_) hv
  obtain ⟨⟨gs, rest⟩, hmembers, he⟩ := bind_eq_ok.mp hparts
  cases he
  obtain ⟨r', hr, hlength, hread⟩ := h.members hmembers hs.skipSpace
  refine ⟨r', hr, hlength, fun n hn => ?_⟩
  exact bind_eq_ok.mpr ⟨(gs, r'), hread n hn, rfl⟩

theorem Simulates.array (h : Simulates fuel) (hs : Respaced .outside s s')
    (hv : Json.value (fuel + 1) depth ('[' :: s) = .ok (v, r)) :
    Follows (fun fuel => Json.value fuel depth) ('[' :: s') v r := by
  rw [value_array] at hv
  split at hv
  · cases hv
  next hdepth =>
  refine .container (by decide) hs (fun n => (value_array n depth s').trans (if_neg hdepth)) (fun hparts => ?_) hv
  obtain ⟨⟨vs, rest⟩, hitems, he⟩ := bind_eq_ok.mp hparts
  cases he
  obtain ⟨r', hr, hlength, hread⟩ := h.items hitems hs.skipSpace
  refine ⟨r', hr, hlength, fun n hn => ?_⟩
  exact bind_eq_ok.mpr ⟨(vs, r'), hread n hn, rfl⟩

theorem Simulates.value_succ (h : Simulates fuel) (hv : Json.value (fuel + 1) depth s = .ok (v, r))
    (hs : Respaced .outside s s') : Follows (fun fuel => Json.value fuel depth) s' v r := by
  by_cases hbrace : ∃ u, s = '{' :: u
  · obtain ⟨u, rfl⟩ := hbrace
    obtain ⟨t, rfl, ht⟩ := hs.of_word (by decide)
    exact h.object ht hv
  by_cases hbracket : ∃ u, s = '[' :: u
  · obtain ⟨u, rfl⟩ := hbracket
    obtain ⟨t, rfl, ht⟩ := hs.of_word (by decide)
    exact h.array ht hv
  unfold Json.value at hv
  split at hv
  · obtain ⟨⟨g, rest⟩, hstring, he⟩ := bind_eq_ok.mp hv
    cases he
    obtain ⟨t, r', rfl, hread, hr, hlength⟩ := hs.string hstring
    refine .intro hr hlength fun n _ => ?_
    rw [Json.value, hread]
    rfl
  · exact absurd ⟨_, rfl⟩ hbrace
  · exact absurd ⟨_, rfl⟩ hbracket
  · next hquote _ _ =>
    obtain ⟨r', hread, hr, hlength⟩ := hs.scalar hv
    refine .intro hr hlength fun n _ => ?_
    rw [Json.value]
    · exact hread
    · rintro u rfl
      obtain ⟨_, _, _, rfl, _⟩ := hs.symm.of_cons fun _ => rfl
      exact hquote _ rfl
    · rintro u rfl
      obtain ⟨t, rfl, -⟩ := hs.symm.of_word (by decide)
      exact hbrace ⟨t, rfl⟩
    · rintro u rfl
      obtain ⟨t, rfl, -⟩ := hs.symm.of_word (by decide)
      exact hbracket ⟨t, rfl⟩

theorem Simulates.items_succ (h : Simulates fuel) (hv : Json.items (fuel + 1) depth s = .ok (vs, r))
    (hs : Respaced .outside s s') : Follows (fun fuel => Json.items fuel depth) s' vs r := by
  rw [Json.items] at hv
  obtain ⟨⟨v, s₁⟩, hvalue, hrest⟩ := bind_eq_ok.mp hv
  obtain ⟨t, ht, hlength, hread⟩ := h.value hvalue hs
  dsimp only at hrest hread
  split at hrest
  · next hclose =>
    cases hrest
    obtain ⟨r', hclose', hr, hlength'⟩ := ht.mark (by decide) hclose
    refine .intro hr (by omega) fun n hn => ?_
    rw [Json.items, hread n (by omega)]
    simp only [bind, Except.bind, hclose']
    rfl
  · next s₂ hcomma =>
    obtain ⟨⟨vs, rest⟩, hitems, he⟩ := bind_eq_ok.mp hrest
    cases he
    obtain ⟨t₂, hcomma', ht₂, hlength₂⟩ := ht.mark (by decide) hcomma
    obtain ⟨r', hr, hlength', hread'⟩ := h.items hitems ht₂.skipSpace
    have hskip := length_skipSpace_le t₂
    refine .intro hr (by omega) fun n hn => ?_
    dsimp only at hread'
    rw [Json.items, hread n (by omega)]
    simp only [bind, Except.bind, hcomma']
    rw [hread' n (by omega)]
    rfl
  · cases hrest

theorem Simulates.members_succ (h : Simulates fuel) (hv : Json.members (fuel + 1) depth before s = .ok (gs, r))
    (hs : Respaced .outside s s') : Follows (fun fuel => Json.members fuel depth before) s' gs r := by
  unfold Json.members at hv
  split at hv
  · obtain ⟨⟨g, s₁⟩, hstring, hrest⟩ := bind_eq_ok.mp hv
    obtain ⟨u, t₁, rfl, hname, ht₁, hlength₁⟩ := hs.string hstring
    dsimp only at hrest
    split at hrest
    · next s₂ hcolon =>
      obtain ⟨t₂, hcolon', ht₂, hlength₂⟩ := ht₁.mark (by decide) hcolon
      obtain ⟨⟨v, s₃⟩, hvalue, hrest⟩ := bind_eq_ok.mp hrest
      obtain ⟨t₃, ht₃, hlength₃, hread⟩ := h.value hvalue ht₂.skipSpace
      have hskip₂ := length_skipSpace_le t₂
      dsimp only at hrest hread
      split at hrest
      · next hclose =>
        cases hrest
        obtain ⟨r', hclose', hr, hlength'⟩ := ht₃.mark (by decide) hclose
        refine .intro hr (by omega) fun n hn => ?_
        rw [Json.members, hname]
        simp only [bind, Except.bind, hcolon', hread n (by omega), hclose']
        rfl
      · next s₄ hcomma =>
        obtain ⟨t₄, hcomma', ht₄, hlength₄⟩ := ht₃.mark (by decide) hcomma
        obtain ⟨r', hr, hlength', hread'⟩ := h.members hrest ht₄.skipSpace
        have hskip₄ := length_skipSpace_le t₄
        refine .intro hr (by omega) fun n hn => ?_
        dsimp only at hread'
        rw [Json.members, hname]
        simp only [bind, Except.bind, hcolon', hread n (by omega), hcomma']
        exact hread' n (by omega)
      · cases hrest
    · cases hrest
  · cases hv

theorem simulates (fuel : Nat) : Simulates fuel := by
  induction fuel with
  | zero =>
    refine ⟨fun hv _ => ?_, fun hv _ => ?_, fun hv _ => ?_⟩
    · cases hv
    · cases hv
    · cases hv
  | succ fuel ih => exact ⟨ih.value_succ, ih.items_succ, ih.members_succ⟩

theorem parse_of_respaced (hs : Respaced .outside (skipSpace s) (skipSpace s')) (hv : parse s = .ok v) :
    parse s' = .ok v := by
  obtain ⟨-, r, hvalue, hend⟩ := parse_eq_ok.mp hv
  obtain ⟨r', hr, hlength, hread⟩ := (simulates _).value hvalue hs
  have hskip := length_skipSpace_le s'
  refine parse_eq_ok.mpr ⟨?_, r', hread _ (by omega), hr.eq_nil hend⟩
  have hclose := hs.run_eq
  rw [run_skipSpace] at hclose
  rintro u rfl
  cases hclose

theorem parse_of_padded (hx : x = [] ∨ x = ['\n']) (hv : parse ('\n' :: (s ++ x)) = .ok v) : parse s = .ok v := by
  have hbreak : x = [] ∨ ∃ r, x = '\n' :: r := hx.imp_right fun h => ⟨[], h⟩
  have hblank : ∀ c ∈ x, isSpace c = true := by
    rcases hx with rfl | rfl
    · simp
    · exact List.forall_mem_singleton.mpr rfl
  have hwhole : Closes ('\n' :: (s ++ x)) := closes_of_parse hv
  have hclose : Closes (s ++ x) := hwhole
  have hskip : Respaced .outside (skipSpace ('\n' :: (s ++ x))) (skipSpace s) :=
    (respaced_append hblank ((closes_append_iff hbreak).mp hclose).1).skipSpace
  exact parse_of_respaced hskip hv

end Values

end RuleReview.Json
