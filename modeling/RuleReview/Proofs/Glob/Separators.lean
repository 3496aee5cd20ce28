import RuleReview.Proofs.Glob.Spelling

/-! # Separators in patterns and paths

Without two stars in a row, only a slash that stands for itself and a class that holds the slash take a slash of a path.
So the slashes of a path that matches are those of the pattern outside of classes, and some more at most for the classes
that hold it: none of them, exactly when no class does.
-/
namespace RuleReview.Glob

def Part.written : Part → Text
  | .token .directories => "**/"
  | .token .anything => "**"
  | .token .segment => "*"
  | .token .one => "?"
  | .token (.lit c) => [c]
  | .token (.oneOf _) => []
  | .brackets body => '[' :: body ++ [']']

/-- The parts of a pattern, in which one leading `./` means nothing. -/
def partsOf (pattern : Text) : List Part := parts none ((pattern.after? "./").getD pattern)

/-- What of a part stands outside of classes. -/
def Part.bare : Part → Text
  | .brackets _ => []
  | part => part.written

/-- The slashes of a pattern outside of classes, but for the one of a leading `./`. -/
def separators (pattern : Text) : Nat := ((partsOf pattern).flatMap Part.bare).count '/'

/-- A class holds the slash. -/
def Part.holdsSlash : Part → Bool
  | .brackets body => (classOfBody body).any (·.holds '/')
  | _ => false

section Written
variable {s : Text}

/-- The text behind a closing bracket that it begins with. -/
def behindBracket : Text → Text
  | ']' :: r => r
  | r => r

theorem closes_iff : closes s = true ↔ ']' ∈ (inner s).tail := by
  have hinner : closes s = (behindBracket (inner s)).contains ']' := rfl
  rw [hinner, List.contains_iff_mem]
  cases inner s with
  | nil => exact Iff.rfl
  | cons c r =>
    by_cases hc : c = ']'
    · subst hc
      rfl
    · have hother : behindBracket (c :: r) = c :: r := by
        rw [behindBracket]
        exact fun r' he => hc (List.cons.inj he).1
      rw [hother, List.mem_cons, or_iff_right (Ne.symm hc), List.tail_cons]

/-- What parts are read from is the pattern, and what was read of a class that is open; by induction on the reading. -/
theorem flatMap_written_parts {o : Option Text}
    (ho : ∀ b ∈ o, ']' ∉ (inner b.reverse).tail ∧ ']' ∈ (inner (b.reverse ++ s)).tail) :
    (parts o s).flatMap Part.written = o.elim s fun b => '[' :: b.reverse ++ s := by
  fun_induction parts o s with
  | case5 c r _ _ _ _ hopens ih =>
    rw [ih (by simpa [inner] using closes_iff.mp hopens.2), hopens.1]
    rfl
  | case7 b c r hclose ih =>
    rw [List.flatMap_cons, ih (by simp), hclose.1]
    simp [Part.written]
  | case8 b c r hopen ih =>
    obtain ⟨hfront, hback⟩ := ho b rfl
    have hcons : (c :: b).reverse ++ r = b.reverse ++ c :: r := by simp
    rw [ih ?_, Option.elim_some, Option.elim_some, List.cons_append, hcons, List.cons_append]
    rintro _ ⟨⟩
    rw [hcons, List.reverse_cons]
    exact ⟨bracket_notMem_append hfront hopen, hback⟩
  | case9 o =>
    cases o with
    | none => rfl
    | some b => exact absurd (List.append_nil b.reverse ▸ (ho b rfl).2) (ho b rfl).1
  | case1 | case2 | case3 | case4 | case6 => simp_all [Part.written]

theorem written_parts (s : Text) : (parts none s).flatMap Part.written = s := flatMap_written_parts (o := none) (by simp)

/-- Only two stars in a row stand for a token that takes pieces of several segments. -/
theorem stars_notMem_parts {o : Option Text} {t : Token} (hs : ¬['*', '*'] <:+: s) (ht : t = .directories ∨ t = .anything) :
    .token t ∉ parts o s := by
  have htail {c : Char} {r : Text} (h : ¬['*', '*'] <:+: c :: r) : ¬['*', '*'] <:+: r :=
    fun hr => h (hr.trans (List.suffix_cons c r).isInfix)
  fun_induction parts o s with
  | case1 r => exact absurd ⟨[], '/' :: r, rfl⟩ hs
  | case2 r => exact absurd ⟨[], r, rfl⟩ hs
  | case5 c r _ _ _ _ _ ih => exact ih (htail hs)
  | case8 b c r _ ih => exact ih (htail hs)
  | case9 => simp
  | case3 r _ _ ih | case4 r ih | case6 c r _ _ _ _ _ ih | case7 b c r _ ih =>
    have hrest := ih (htail hs)
    rcases ht with rfl | rfl <;> simp [hrest]

end Written

section Counting
variable {ps : List Part} {ts : List Token} {pieces : List Text} {part : Part} {t : Token} {u : Text}

/-- A part that stands for one character or for characters of one segment. -/
def Part.IsLocal : Part → Prop
  | .token t => t ≠ .directories ∧ t ≠ .anything ∧ t.IsPlain
  | .brackets body => body ≠ ['^']

theorem count_of_takes (hpart : part.IsLocal) (ht : part.token? = some t) (hu : t.Takes u) :
    part.bare.count '/' ≤ u.count '/' ∧ u.count '/' ≤ part.bare.count '/' + if part.holdsSlash then 1 else 0 := by
  cases part with
  | brackets body =>
    rw [token?_brackets hpart] at ht
    obtain ⟨k, hk, rfl⟩ := Option.map_eq_some_iff.mp ht
    obtain ⟨⟨c, hc, rfl⟩, -⟩ := hu
    have hzero : (Part.brackets body).bare.count '/' = 0 := rfl
    rw [hzero, Part.holdsSlash, hk, Option.any_some]
    by_cases hslash : c = '/'
    · rw [← hslash, hc]
      simp
    · simp [hslash]
  | token t' =>
    obtain rfl : t' = t := Option.some.inj ht
    obtain ⟨hdirectories, hanything, hplain⟩ := hpart
    have hmost : (Part.token t').bare.count '/' + (if (Part.token t').holdsSlash then 1 else 0) =
        (Part.token t').bare.count '/' := rfl
    rw [hmost]
    cases t' with
    | directories => exact absurd rfl hdirectories
    | anything => exact absurd rfl hanything
    | oneOf k => exact absurd rfl (hplain k)
    | segment => simp [Part.bare, Part.written, List.count_eq_zero.mpr hu.1]
    | one =>
      obtain ⟨⟨c, hc, rfl⟩, -⟩ := hu
      simp [Part.bare, Part.written, hc]
    | lit c =>
      obtain ⟨rfl, -⟩ := hu
      exact ⟨Nat.le_refl _, Nat.le_refl _⟩

theorem tokens?_cons_eq_some : tokens? (part :: ps) = some ts ↔
    ∃ t ts', part.token? = some t ∧ tokens? ps = some ts' ∧ ts = t :: ts' := by
  rw [tokens?_cons, Option.bind_eq_some_iff]
  simp only [Option.map_eq_some_iff]
  grind

/-- The pieces that parts take have the slashes of the parts, and some more for the classes; by induction on the parts. -/
theorem count_flatten (hps : ∀ part ∈ ps, part.IsLocal) (hts : tokens? ps = some ts)
    (hpieces : List.Forall₂ Token.Takes ts pieces) :
    (ps.flatMap Part.bare).count '/' ≤ pieces.flatten.count '/' ∧
      pieces.flatten.count '/' ≤ (ps.flatMap Part.bare).count '/' + ps.countP Part.holdsSlash := by
  induction ps generalizing ts pieces with
  | nil =>
    cases hts
    cases hpieces
    simp
  | cons part ps ih =>
    obtain ⟨t, ts, ht, htail, rfl⟩ := tokens?_cons_eq_some.mp hts
    obtain ⟨u, us, hu, hus, rfl⟩ := List.forall₂_cons_left_iff.mp hpieces
    obtain ⟨hpart, hps⟩ := List.forall_mem_cons.mp hps
    obtain ⟨hleast, hmost⟩ := count_of_takes hpart ht hu
    obtain ⟨hleast', hmost'⟩ := ih hps htail hus
    rw [List.flatMap_cons, List.count_append, List.flatten_cons, List.count_append, List.countP_cons]
    omega

theorem bare_of_holdsSlash (h : part.holdsSlash = true) : part.bare.count '/' = 0 := by
  cases part with
  | brackets body => rfl
  | token t => cases h

theorem exists_class (hpart : part.IsLocal) (h : part.holdsSlash = true) :
    ∃ k, part.token? = some (.oneOf k) ∧ k.holds '/' = true := by
  cases part with
  | token t => cases h
  | brackets body =>
    obtain ⟨k, hk, hholds⟩ := (Option.any_eq_true _ _).mp h
    exact ⟨k, by rw [token?_brackets hpart, hk, Option.map_some], hholds⟩

/-- Where a class holds the slash, some pieces have more slashes than the parts. -/
theorem exists_more (hps : ∀ part ∈ ps, part.IsLocal) (hts : tokens? ps = some ts)
    (hpieces : List.Forall₂ Token.Takes ts pieces) (hpart : part ∈ ps) (hslash : part.holdsSlash = true) :
    ∃ others, List.Forall₂ Token.Takes ts others ∧ (ps.flatMap Part.bare).count '/' < others.flatten.count '/' := by
  induction ps generalizing ts pieces with
  | nil => cases hpart
  | cons first ps ih =>
    obtain ⟨t, ts, ht, htail, rfl⟩ := tokens?_cons_eq_some.mp hts
    obtain ⟨u, us, hu, hus, rfl⟩ := List.forall₂_cons_left_iff.mp hpieces
    obtain ⟨hfirst, hrest⟩ := List.forall_mem_cons.mp hps
    rcases List.mem_cons.mp hpart with rfl | hpart
    · obtain ⟨k, hk, hholds⟩ := exists_class hfirst hslash
      obtain rfl : .oneOf k = t := Option.some.inj (hk.symm.trans ht)
      have hleast := (count_flatten hrest htail hus).1
      refine ⟨['/'] :: us, .cons ⟨⟨'/', hholds, rfl⟩, by simp⟩ hus, ?_⟩
      rw [List.flatMap_cons, List.count_append, List.flatten_cons, List.count_append, bare_of_holdsSlash hslash,
        List.count_singleton_self]
      omega
    · obtain ⟨others, hothers, hmore⟩ := ih hrest htail hus hpart
      have hleast := (count_of_takes hfirst ht hu).1
      refine ⟨u :: others, .cons hu hothers, ?_⟩
      rw [List.flatMap_cons, List.count_append, List.flatten_cons, List.count_append]
      omega

end Counting

section Matching
variable {pattern : Text}

theorem isLocal_of_mem (hstars : ¬['*', '*'] <:+: pattern) (hcaret : .brackets ['^'] ∉ partsOf pattern) :
    ∀ part ∈ partsOf pattern, part.IsLocal := by
  intro part hpart
  have hstripped : ¬['*', '*'] <:+: (pattern.after? "./").getD pattern := by
    cases hs : pattern.after? "./" with
    | none => exact hstars
    | some s => exact fun h => hstars (Text.after?_eq_some.mp hs ▸ h.trans (List.suffix_append _ s).isInfix)
  cases part with
  | brackets body =>
    rintro rfl
    exact hcaret hpart
  | token t =>
    refine ⟨?_, ?_, ?_⟩
    · rintro rfl
      exact stars_notMem_parts hstripped (.inl rfl) hpart
    · rintro rfl
      exact stars_notMem_parts hstripped (.inr rfl) hpart
    · rintro k rfl
      exact oneOf_notMem_parts hpart

/-- A pattern of which no class is closed by the bracket of a later part is compiled to tokens or not at all. -/
theorem compile_toOption (hopen : LeavesOpen (partsOf pattern)) :
    (compile pattern).toOption = (tokens? (partsOf pattern)).map .tokens := by
  have hread : (Expression.read (expression (partsOf pattern))).toOption =
      (tokens? (partsOf pattern)).map fun ts => .seq (.start false) (chain ts) :=
    read_expression (hopen.areSound fun _ hpart => isSound_of_mem_parts hpart)
  cases hts : tokens? (partsOf pattern) with
  | some ts =>
    have hcompile : compile pattern = .ok (.tokens ts) := by
      rw [partsOf] at hts
      rw [compile, hts]
    rw [hcompile]
    rfl
  | none =>
    have hcompile : compile pattern =
        ((Expression.read (expression (partsOf pattern))).map .expression).mapError .pattern := by
      rw [partsOf] at hts
      rw [compile, hts]
      rfl
    cases hexpression : Expression.read (expression (partsOf pattern)) with
    | ok e =>
      rw [hexpression, hts] at hread
      cases hread
    | error e =>
      rw [hcompile, hexpression]
      rfl

theorem matchesPath_iff {path : Text} (hopen : LeavesOpen (partsOf pattern)) :
    matchesPath path pattern = .ok true ↔ ∃ ts, tokens? (partsOf pattern) = some ts ∧ accepts ts path = true := by
  have hcompile := compile_toOption hopen
  rw [matchesPath, map_eq_ok]
  constructor
  · rintro ⟨m, hm, haccepts⟩
    rw [hm] at hcompile
    obtain ⟨ts, hts, rfl⟩ := Option.map_eq_some_iff.mp hcompile.symm
    exact ⟨ts, hts, haccepts⟩
  · rintro ⟨ts, hts, haccepts⟩
    rw [hts, Option.map_some, toOption_eq_some] at hcompile
    exact ⟨.tokens ts, hcompile, haccepts⟩

theorem caret_notMem_of_tokens? {ps : List Part} (h : tokens? ps = some ts) : .brackets ['^'] ∉ ps := by
  induction ps generalizing ts with
  | nil => exact List.not_mem_nil
  | cons part ps ih =>
    obtain ⟨t, ts', hpart, hps, -⟩ := tokens?_cons_eq_some.mp h
    rw [List.mem_cons, not_or]
    refine ⟨?_, ih hps⟩
    rintro rfl
    cases hpart

/-- A path that matches has the slashes of the pattern outside of classes and some more for the classes that hold the slash.
Every path has those of the pattern only, exactly when no class holds it or nothing matches. A class that its own bracket
does not close may stand in the pattern, if no later one closes it. -/
theorem count_separators (hstars : ¬['*', '*'] <:+: pattern) (hopen : LeavesOpen (partsOf pattern)) :
    (partsOf pattern).flatMap Part.written = (pattern.after? "./").getD pattern ∧
    (∀ path, matchesPath path pattern = .ok true → separators pattern ≤ path.count '/' ∧
      path.count '/' ≤ separators pattern + (partsOf pattern).countP Part.holdsSlash) ∧
    ((∀ path, matchesPath path pattern = .ok true → path.count '/' = separators pattern) ↔
      (∀ part ∈ partsOf pattern, part.holdsSlash = false) ∨ ∀ path, matchesPath path pattern ≠ .ok true) := by
  have hlocal {ts : List Token} (hts : tokens? (partsOf pattern) = some ts) : ∀ part ∈ partsOf pattern, part.IsLocal :=
    isLocal_of_mem hstars (caret_notMem_of_tokens? hts)
  have hbounds : ∀ path, matchesPath path pattern = .ok true → separators pattern ≤ path.count '/' ∧
      path.count '/' ≤ separators pattern + (partsOf pattern).countP Part.holdsSlash := by
    intro path hpath
    obtain ⟨ts, hts, haccepts⟩ := (matchesPath_iff hopen).mp hpath
    obtain ⟨pieces, rest, hpieces, rfl, hrest⟩ := accepts_iff.mp haccepts
    have hzero : rest.count '/' = 0 := by rcases hrest with rfl | rfl <;> rfl
    rw [List.count_append, hzero, Nat.add_zero]
    exact count_flatten (hlocal hts) hts hpieces
  refine ⟨written_parts _, hbounds, ?_, ?_⟩
  · intro hequal
    by_contra hboth
    simp only [not_or, not_forall, not_not, Bool.not_eq_false] at hboth
    obtain ⟨⟨part, hpart, hslash⟩, path, hpath⟩ := hboth
    obtain ⟨ts, hts, haccepts⟩ := (matchesPath_iff hopen).mp hpath
    obtain ⟨pieces, -, hpieces, -⟩ := accepts_iff.mp haccepts
    obtain ⟨others, hothers, hmore⟩ := exists_more (hlocal hts) hts hpieces hpart hslash
    have hother : accepts ts others.flatten = true :=
      accepts_iff.mpr ⟨others, [], hothers, (List.append_nil _).symm, .inl rfl⟩
    have hcount := hequal _ ((matchesPath_iff hopen).mpr ⟨ts, hts, hother⟩)
    rw [separators] at hcount
    omega
  · rintro (hnone | hnever) path hpath
    · have hcount : (partsOf pattern).countP Part.holdsSlash = 0 :=
        List.countP_eq_zero.mpr fun part hpart => by simp [hnone part hpart]
      obtain ⟨hleast, hmost⟩ := hbounds path hpath
      omega
    · exact absurd hpath (hnever path)

theorem leavesOpen_of_notMem {ps : List Part} (h : .brackets ['^'] ∉ ps) : LeavesOpen ps := by
  rintro front rest rfl
  exact absurd (List.mem_append_right front List.mem_cons_self) h

theorem count_separators_letters :
    ¬['*', '*'] <:+: "./src/*/[a-c]?[!/].py".toList ∧ LeavesOpen (partsOf "./src/*/[a-c]?[!/].py") ∧
      matchesPath "src/x/bz1.py" "./src/*/[a-c]?[!/].py" = .ok true ∧
      (∀ path, matchesPath path "./src/*/[a-c]?[!/].py" = .ok true → path.count '/' = 2) := by
  have hstars : ¬['*', '*'] <:+: "./src/*/[a-c]?[!/].py".toList := by decide
  have hopen : LeavesOpen (partsOf "./src/*/[a-c]?[!/].py") := leavesOpen_of_notMem (by decide)
  have hnone : ∀ part ∈ partsOf "./src/*/[a-c]?[!/].py", part.holdsSlash = false := by decide
  exact ⟨hstars, hopen, rfl, (count_separators hstars hopen).2.2.mpr (.inl hnone)⟩

/-- A class of all characters but one takes the slash. -/
theorem matchesPath_slash : matchesPath "a/c" "a[!b]c" = .ok true ∧ separators "a[!b]c" = 0 ∧ "a/c".toList.count '/' = 1 :=
  ⟨rfl, rfl, rfl⟩

/-- The bracket of a later part may close a class and leave what it was to hold outside, be it what takes any slashes; and
a slash of the pattern may come to stand within. -/
theorem count_unbounded :
    (∀ n, matchesPath ('a' :: (List.replicate n '/' ++ [']'])) "[^][].*]" = .ok true) ∧ separators "[^][].*]" = 0 ∧
      matchesPath "a" "[^]/*" = .ok true ∧ separators "[^]/*" = 1 := by
  let ts : List Token := [.oneOf ⟨true, [(']', ']'), ('[', '[')]⟩, .anything, .lit ']']
  have hcompile : compile "[^][].*]" = .ok (.expression (.seq (.start false) (chain ts))) := by rfl
  refine ⟨fun n => ?_, rfl, rfl, rfl⟩
  have hline : '\n' ∉ List.replicate n '/' := fun h => nomatch List.eq_of_mem_replicate h
  have hpieces : List.Forall₂ Token.Takes ts [['a'], List.replicate n '/', [']']] :=
    .cons ⟨⟨'a', rfl, rfl⟩, by simp⟩ (.cons ⟨trivial, fun _ => hline⟩ (.cons ⟨rfl, by simp⟩ .nil))
  have haccepts : accepts ts ('a' :: (List.replicate n '/' ++ [']'])) = true :=
    accepts_iff.mpr ⟨_, [], hpieces, by simp, .inl rfl⟩
  rw [matchesPath, hcompile]
  exact congrArg Except.ok ((accepts_chain ts _).trans haccepts)

end Matching

end RuleReview.Glob
