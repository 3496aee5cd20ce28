import Mathlib.Tactic.IntervalCases
import RuleReview.Diff.Path
import RuleReview.Proofs.Diff.Added
import RuleReview.Proofs.Success
import RuleReview.Proofs.Text.Utf8

/-! # Names as git quotes them

A name with a control character, a double quote or a backslash is written between quotes and with escapes, which are
read as the name again. Nothing in a written name is taken for its end: it holds no control character, and a quote in it
stands behind a backslash.
-/
namespace RuleReview.Diff
variable {c d : Char} {n : Nat} {s t r : Text} {ascii : Bool}

section Writing

/-- The letter that stands for a character behind a backslash. -/
def escapeLetter? (c : Char) : Option Char :=
  match c.toNat with
  | 7 => some 'a'
  | 8 => some 'b'
  | 9 => some 't'
  | 10 => some 'n'
  | 11 => some 'v'
  | 12 => some 'f'
  | 13 => some 'r'
  | _ => if c = '"' ∨ c = '\\' then some c else none

/-- A byte as three octal digits behind a backslash. -/
def octalEscape (b : UInt8) : Text :=
  ['\\', Nat.digitChar (b.toNat / 64), Nat.digitChar (b.toNat / 8 % 8), Nat.digitChar (b.toNat % 8)]

def isControl (c : Char) : Bool := c.toNat < 32 || c.toNat = 127

/-- A character in a quoted name; `ascii` asks for a name in ASCII alone. -/
def quoteChar (ascii : Bool) (c : Char) : Text :=
  match escapeLetter? c with
  | some l => ['\\', l]
  | none => if isControl c || (ascii && 128 ≤ c.toNat) then (Text.encode [c]).flatMap octalEscape else [c]

def quoteText (ascii : Bool) (s : Text) : Text := s.flatMap (quoteChar ascii)

def needsQuotes (s : Text) : Bool := s.any fun c => isControl c || c = '"' || c = '\\'

/-- A name as it is written, between quotes where it needs them. -/
def gitName (s : Text) : Text := if needsQuotes s then '"' :: (quoteText false s ++ ['"']) else s

/-- A name on a line of its own side; a tab behind it says that a blank in it does not end it. -/
def fileName (s : Text) : Text := gitName s ++ if !needsQuotes s && s.contains ' ' then ['\t'] else []

end Writing

section Unquoting

theorem octalValue?_digitChar (h : n < 8) : Text.octalValue? (Nat.digitChar n) = some n := by
  interval_cases n <;> rfl

theorem octalByte?_octalEscape (h : n < 256) :
    octalByte? (Nat.digitChar (n / 64)) (Nat.digitChar (n / 8 % 8)) (Nat.digitChar (n % 8)) = some n := by
  have hdigits : (n / 64 * 8 + n / 8 % 8) * 8 + n % 8 = n := by omega
  rw [octalByte?, octalValue?_digitChar (by omega), octalValue?_digitChar (by omega), octalValue?_digitChar (by omega)]
  exact congrArg some hdigits

theorem unquoteBytes_octalEscape (b : UInt8) (r : Text) :
    unquoteBytes (octalEscape b ++ r) = (unquoteBytes r).map (b :: ·) := by
  have hb : b.toNat < 256 := b.toNat_lt
  have hbyte : UInt8.ofNat b.toNat = b := UInt8.ofNat_toNat
  change unquoteBytes ('\\' :: Nat.digitChar (b.toNat / 64) :: Nat.digitChar (b.toNat / 8 % 8) ::
    Nat.digitChar (b.toNat % 8) :: r) = _
  rw [unquoteBytes, octalByte?_octalEscape hb]
  dsimp only
  rw [if_pos hb, hbyte]

theorem unquoteBytes_letter (hc : Text.octalValue? c = none) (r : Text) :
    unquoteBytes ('\\' :: c :: r) = (unquoteBytes r).map (escapeBytes c ++ ·) := by
  rcases r with _ | ⟨d, _ | ⟨e, r⟩⟩
  · rfl
  · rfl
  · have hbyte : octalByte? c d e = none := by rw [octalByte?, hc]; rfl
    rw [unquoteBytes, hbyte]

theorem unquoteBytes_plain (hc : c ≠ '\\') (r : Text) :
    unquoteBytes (c :: r) = (unquoteBytes r).map (Text.encode [c] ++ ·) := by
  rw [unquoteBytes]
  · exact fun _ _ _ _ hback _ => hc hback
  · exact fun _ _ hback _ => hc hback

theorem escapeLetter?_eq_some (h : escapeLetter? c = some d) :
    escapeBytes d = Text.encode [c] ∧ Text.octalValue? d = none ∧ isControl d = false := by
  have hc : Char.ofNat c.toNat = c := Char.ofNat_toNat c
  rw [escapeLetter?] at h
  split at h
  case h_8 =>
    split at h
    · next hself =>
      cases h
      rcases hself with rfl | rfl <;> decide
    · cases h
  all_goals
    next hn =>
    rw [hn] at hc
    cases h
    rw [← hc]
    decide

theorem escapeLetter?_eq_none (h : escapeLetter? c = none) : c ≠ '"' ∧ c ≠ '\\' := by
  constructor
  · rintro rfl
    cases h
  · rintro rfl
    cases h

theorem unquoteBytes_octalEscapes (bs : List UInt8) (r : Text) :
    unquoteBytes (bs.flatMap octalEscape ++ r) = (unquoteBytes r).map (bs ++ ·) := by
  induction bs with
  | nil => cases h : unquoteBytes r <;> simp [h, Except.map]
  | cons b bs ih =>
    rw [List.flatMap_cons, List.append_assoc, unquoteBytes_octalEscape, ih]
    cases unquoteBytes r <;> rfl

theorem unquoteBytes_quoteChar (ascii : Bool) (c : Char) (r : Text) :
    unquoteBytes (quoteChar ascii c ++ r) = (unquoteBytes r).map (Text.encode [c] ++ ·) := by
  rw [quoteChar]
  split
  · next l hl =>
    obtain ⟨hbytes, hletter, -⟩ := escapeLetter?_eq_some hl
    rw [← hbytes]
    exact unquoteBytes_letter hletter r
  · next hnone =>
    split
    · exact unquoteBytes_octalEscapes _ r
    · exact unquoteBytes_plain (escapeLetter?_eq_none hnone).2 r

theorem unquoteBytes_quoteText (ascii : Bool) (s : Text) : unquoteBytes (quoteText ascii s) = .ok (Text.encode s) := by
  induction s with
  | nil => rfl
  | cons c s ih =>
    have hbytes : Text.encode ([c] ++ s) = Text.encode [c] ++ Text.encode s := List.flatMap_append
    rw [quoteText, List.flatMap_cons, unquoteBytes_quoteChar, ← quoteText, ih]
    exact congrArg Except.ok hbytes.symm

theorem unquote_quoteText (ascii : Bool) (s : Text) : unquote (quoteText ascii s) = .ok s := by
  rw [unquote, unquoteBytes_quoteText]
  exact congrArg Except.ok (Text.decodeLossy_encode s)

end Unquoting

section Bounds

theorem isControl_of_mem_octalEscape {b : UInt8} (hd : d ∈ octalEscape b) : isControl d = false := by
  have hdigit : ∀ n < 8, isControl (Nat.digitChar n) = false := by decide
  have hb := b.toNat_lt
  simp only [octalEscape, List.mem_cons, List.not_mem_nil, or_false] at hd
  rcases hd with rfl | rfl | rfl | rfl
  · rfl
  · exact hdigit _ (by omega)
  · exact hdigit _ (by omega)
  · exact hdigit _ (by omega)

theorem isControl_of_mem_quoteChar (hd : d ∈ quoteChar ascii c) : isControl d = false := by
  rw [quoteChar] at hd
  split at hd
  · next l hl =>
    simp only [List.mem_cons, List.not_mem_nil, or_false] at hd
    rcases hd with rfl | rfl
    · rfl
    · exact (escapeLetter?_eq_some hl).2.2
  · split at hd
    · obtain ⟨b, -, hd⟩ := List.mem_flatMap.mp hd
      exact isControl_of_mem_octalEscape hd
    · next hplain =>
      rw [List.mem_singleton.mp hd]
      rw [Bool.or_eq_true, not_or, Bool.not_eq_true] at hplain
      exact hplain.1

theorem isControl_of_mem_gitName (hd : d ∈ gitName s) : isControl d = false := by
  rw [gitName] at hd
  split at hd
  · simp only [List.mem_cons, List.mem_append, List.not_mem_nil, or_false] at hd
    rcases hd with rfl | hd | rfl
    · rfl
    · obtain ⟨c, -, hd⟩ := List.mem_flatMap.mp hd
      exact isControl_of_mem_quoteChar hd
    · rfl
  · next hplain =>
    rw [needsQuotes, List.any_eq_true, not_exists] at hplain
    have hd' := hplain d
    simp only [not_and, Bool.or_eq_true, not_or, Bool.not_eq_true] at hd'
    exact (hd' hd).1.1

theorem newline_notMem_gitName (s : Text) : '\n' ∉ gitName s := fun h => by cases isControl_of_mem_gitName h

theorem tab_notMem_gitName (s : Text) : '\t' ∉ gitName s := fun h => by cases isControl_of_mem_gitName h

theorem quotedName?_plain (hquote : c ≠ '"') (hback : c ≠ '\\') (r : Text) :
    quotedName? (c :: r) = (quotedName? r).map fun x => (c :: x.1, x.2) := by
  rw [quotedName?]
  · rintro rfl
    exact hquote rfl
  · rintro _ _ rfl
    exact fun _ => hback rfl
  · rintro rfl
    exact fun _ => hback rfl

theorem quotedName?_escape (c : Char) (r : Text) :
    quotedName? ('\\' :: c :: r) = (quotedName? r).map fun x => ('\\' :: c :: x.1, x.2) := by
  rw [quotedName?]

theorem quotedName?_octalEscape (b : UInt8) (r : Text) :
    quotedName? (octalEscape b ++ r) = (quotedName? r).map fun x => (octalEscape b ++ x.1, x.2) := by
  have hdigit : ∀ n < 8, Nat.digitChar n ≠ '"' ∧ Nat.digitChar n ≠ '\\' := by decide
  have hsecond := hdigit (b.toNat / 8 % 8) (by omega)
  have hthird := hdigit (b.toNat % 8) (by omega)
  change quotedName? ('\\' :: _ :: Nat.digitChar (b.toNat / 8 % 8) :: Nat.digitChar (b.toNat % 8) :: r) = _
  rw [quotedName?_escape, quotedName?_plain hsecond.1 hsecond.2, quotedName?_plain hthird.1 hthird.2, Option.map_map,
    Option.map_map]
  rfl

theorem quotedName?_quoteChar (ascii : Bool) (c : Char) (r : Text) :
    quotedName? (quoteChar ascii c ++ r) = (quotedName? r).map fun x => (quoteChar ascii c ++ x.1, x.2) := by
  rw [quoteChar]
  split
  · next l hl => exact quotedName?_escape l r
  · next hnone =>
    split
    · induction Text.encode [c] with
      | nil => cases h : quotedName? r <;> simp [h]
      | cons b bs ih =>
        rw [List.flatMap_cons, List.append_assoc, quotedName?_octalEscape, ih, Option.map_map]
        refine congrArg (Option.map · _) (funext fun x => ?_)
        exact congrArg (·, x.2) (List.append_assoc ..).symm
    · obtain ⟨hquote, hback⟩ := escapeLetter?_eq_none hnone
      exact quotedName?_plain hquote hback r

theorem quotedName?_quoteText (ascii : Bool) (s r : Text) :
    quotedName? (quoteText ascii s ++ '"' :: r) = some (quoteText ascii s, r) := by
  induction s with
  | nil => rfl
  | cons c s ih =>
    rw [quoteText, List.flatMap_cons, List.append_assoc, quotedName?_quoteChar, ← quoteText, ih]
    rfl

end Bounds

section Names

/-- The names of a line that opens a section. -/
def namePair (left right : Text) : Text := gitName left ++ ' ' :: gitName right

theorem gitName_quoted (h : needsQuotes s = true) : gitName s = '"' :: (quoteText false s ++ ['"']) := if_pos h

theorem gitName_plain (h : needsQuotes s = false) : gitName s = s := if_neg (Bool.eq_false_iff.mp h)

theorem quote_notMem (h : needsQuotes s = false) : '"' ∉ s := by
  intro hmem
  rw [needsQuotes, List.any_eq_false] at h
  exact h _ hmem rfl

theorem quotedPair?_quoted (hl : needsQuotes s = true) (hr : needsQuotes t = true) :
    quotedPair? (namePair s t) = some (quoteText false s, quoteText false t) := by
  have hnames : namePair s t =
      '"' :: (quoteText false s ++ '"' :: (' ' :: '"' :: (quoteText false t ++ '"' :: []))) := by
    rw [namePair, gitName_quoted hl, gitName_quoted hr, List.cons_append, List.append_assoc]
    rfl
  rw [hnames, quotedPair?, quotedName?_quoteText]
  simp only [quotedName?_quoteText]

theorem quotedPair?_plain (hs : s.head? = some 'a') (ht : t.head? = some 'b')
    (h : (needsQuotes s && needsQuotes t) = false) : quotedPair? (namePair s t) = none := by
  obtain ⟨s', rfl⟩ := List.head?_eq_some_iff.mp hs
  obtain ⟨t', rfl⟩ := List.head?_eq_some_iff.mp ht
  cases hl : needsQuotes ('a' :: s') with
  | false =>
    rw [namePair, gitName_plain hl]
    rfl
  | true =>
    have hr : needsQuotes ('b' :: t') = false := by rwa [hl, Bool.true_and] at h
    have hnames : namePair ('a' :: s') ('b' :: t') =
        '"' :: (quoteText false ('a' :: s') ++ '"' :: (' ' :: 'b' :: t')) := by
      rw [namePair, gitName_quoted hl, gitName_plain hr, List.cons_append, List.append_assoc]
      rfl
    rw [hnames, quotedPair?, quotedName?_quoteText]
    rfl

theorem unquoteIfQuoted_gitName (s : Text) : unquoteIfQuoted (gitName s) = .ok s := by
  cases h : needsQuotes s with
  | true =>
    have hbody : quotedBody? ('"' :: (quoteText false s ++ ['"'])) = some (quoteText false s) := by
      rw [quotedBody?, List.getLast?_concat, if_pos rfl, List.dropLast_concat]
    rw [gitName_quoted h, unquoteIfQuoted, hbody]
    exact unquote_quoteText false s
  | false =>
    have hbody : quotedBody? s = none := by
      rw [quotedBody?.eq_def]
      split
      · exact absurd (List.mem_cons_self ..) (quote_notMem h)
      · rfl
    rw [gitName_plain h, unquoteIfQuoted, hbody]

theorem dropReturns_gitName (s : Text) : dropReturns (gitName s) = gitName s :=
  Text.dropReturns_eq_self fun h => by cases isControl_of_mem_gitName (List.mem_of_getLast? h)

theorem upTo_fileName (s : Text) : (fileName s).upTo '\t' = gitName s := by
  have htab : ∀ c ∈ gitName s, (c != '\t') = true := fun c hc => bne_iff_ne.mpr fun h => tab_notMem_gitName s (h ▸ hc)
  rw [Text.upTo, fileName, List.takeWhile_append_of_pos htab]
  split
  · exact List.append_nil _
  · exact List.append_nil _

theorem markedPath_fileName (s : Text) : markedPath (fileName s) = .ok (pathOfName s) := by
  rw [markedPath, upTo_fileName, dropReturns_gitName, unquoteIfQuoted_gitName]
  rfl

theorem barePath_gitName (s : Text) : barePath (gitName s) = .ok (nonempty s) := by
  rw [barePath, dropReturns_gitName, unquoteIfQuoted_gitName]
  rfl

end Names

end RuleReview.Diff
