import Mathlib.Logic.Function.Iterate
import RuleReview.Git.Remote
import RuleReview.Proofs.Text.Cut
import RuleReview.Proofs.Text.Trimmed

/-! # Remote addresses with a user

Of an address with a user before its host, the host and the path are shown. A user is cut off up to its `@`, once for the
schemes of the web and twice for those of git, and only when no slash stands before the `@`. So the user vanishes exactly
when it is made of as many names as are cut off, or fewer; otherwise the end of it is shown in front of the host, and of
a password with an `@` or a slash in it the end is shown as well.
-/
namespace RuleReview.Remote
variable {a m s t user host path : Text} {n : ℕ}

/-- The schemes of addresses with a host. -/
inductive Scheme where
  | https
  | http
  | ssh
  | git
  deriving DecidableEq, Repr

namespace Scheme

def text : Scheme → Text
  | .https => "https://"
  | .http => "http://"
  | .ssh => "ssh://"
  | .git => "git://"

def shown : Scheme → Text
  | .http => "http://"
  | .https | .ssh | .git => "https://"

def cuts : Scheme → ℕ
  | .https | .http => 1
  | .ssh | .git => 2

/-- The address of a path at a host, with a user. -/
def address (scheme : Scheme) (user host path : Text) : Text :=
  scheme.text ++ (user ++ '@' :: (host ++ '/' :: path))

end Scheme

structure IsHost (host : Text) : Prop where
  ne_nil : host ≠ []
  characters : ∀ c ∈ host, isHostChar c = true

/-- A text that is cut off together with an `@` behind it. -/
structure IsUser (a : Text) : Prop where
  ne_nil : a ≠ []
  noSign : '@' ∉ a
  noSlash : '/' ∉ a

/-- A name and its `@` are cut off the front, if there is one. -/
inductive Sheds : Text → Text → Prop
  | name {a s : Text} : IsUser a → Sheds (a ++ '@' :: s) s
  | slash {a s : Text} : '@' ∉ a → '/' ∉ a → Sheds (a ++ '/' :: s) (a ++ '/' :: s)
  | sign {s : Text} : Sheds ('@' :: s) ('@' :: s)
  | free {s : Text} : '@' ∉ s → '/' ∉ s → Sheds s s

/-- Names are cut off so many times. -/
def ShedsTimes : ℕ → Text → Text → Prop
  | 0, s, t => s = t
  | n + 1, s, t => ∃ m, Sheds s m ∧ ShedsTimes n m t

/-- Names, each with an `@` behind it. -/
def signed (names : List Text) : Text := names.flatMap (· ++ ['@'])

/-- The user is made of names that are all cut off when that is done `n` times. -/
def IsHidden (n : ℕ) (user : Text) : Prop :=
  ∃ names, names.length ≤ n ∧ (∀ a ∈ names, IsUser a) ∧ user ++ ['@'] = signed names

/-- The end of a path is left out, which may be `.git` and slashes before it. -/
def Tidies (path tidy : Text) : Prop :=
  ∃ slashes suffix, path = tidy ++ (slashes ++ suffix) ∧ (∀ c ∈ slashes, c = '/') ∧ ¬"/".toList <:+ tidy ∧
    (suffix = ".git".toList ∨ suffix = [] ∧ ¬".git".toList <:+ path)

def cutUser (s : Text) : Text := (afterUser? s).getD s

section Cuts

theorem exists_sheds (s : Text) : ∃ t, Sheds s t := by
  have hsplit := List.takeWhile_append_dropWhile (p := fun c => c != '@' && c != '/') (l := s)
  have hfree : ∀ c ∈ s.takeWhile (fun c => c != '@' && c != '/'), c ≠ '@' ∧ c ≠ '/' := fun c hc => by
    simpa using List.mem_takeWhile_imp hc
  have hsign : '@' ∉ s.takeWhile (fun c => c != '@' && c != '/') := fun h => (hfree _ h).1 rfl
  have hslash : '/' ∉ s.takeWhile (fun c => c != '@' && c != '/') := fun h => (hfree _ h).2 rfl
  have hhead := List.head?_dropWhile_not (fun c => c != '@' && c != '/') s
  generalize s.takeWhile (fun c => c != '@' && c != '/') = a at hsplit hsign hslash
  generalize s.dropWhile (fun c => c != '@' && c != '/') = b at hsplit hhead
  subst hsplit
  cases b with
  | nil => exact ⟨_, by simpa using Sheds.free hsign hslash⟩
  | cons c b =>
    obtain rfl | rfl : c = '@' ∨ c = '/' := by
      by_contra hc
      simp_all
    · cases a with
      | nil => exact ⟨_, .sign⟩
      | cons d a => exact ⟨b, .name ⟨List.cons_ne_nil d a, hsign, hslash⟩⟩
    · exact ⟨_, .slash hsign hslash⟩

theorem isKept_of_notMem (hsign : '@' ∉ a) (hslash : '/' ∉ a) : ∀ d ∈ a, (d != '@' && d != '/') = true := by
  intro d hd
  have hd₁ : d ≠ '@' := fun h => hsign (h ▸ hd)
  have hd₂ : d ≠ '/' := fun h => hslash (h ▸ hd)
  simp [hd₁, hd₂]

theorem afterUser?_append {c : Char} (hsign : '@' ∉ a) (hslash : '/' ∉ a) (hc : c = '@' ∨ c = '/') (s : Text) :
    afterUser? (a ++ c :: s) = if a ≠ [] ∧ c = '@' then some s else none := by
  have hkept := isKept_of_notMem hsign hslash
  have hstop : (c != '@' && c != '/') = false := by rcases hc with rfl | rfl <;> rfl
  simp only [afterUser?]
  rw [List.takeWhile_append_of_pos hkept, List.dropWhile_append_of_pos hkept,
    List.takeWhile_cons_of_neg (by simp [hstop]), List.dropWhile_cons_of_neg (by simp [hstop]), List.append_nil]
  rcases hc with rfl | rfl <;> cases a <;> simp

theorem afterUser?_of_free (hsign : '@' ∉ s) (hslash : '/' ∉ s) : afterUser? s = none := by
  have hkept := isKept_of_notMem hsign hslash
  simp only [afterUser?]
  rw [List.dropWhile_eq_nil_iff.mpr hkept]
  split
  · next h => cases h
  · rfl

theorem Sheds.cutUser_eq (h : Sheds s t) : cutUser s = t := by
  cases h with
  | name ha => rw [cutUser, afterUser?_append ha.noSign ha.noSlash (.inl rfl), if_pos ⟨ha.ne_nil, rfl⟩]; rfl
  | slash hsign hslash => rw [cutUser, afterUser?_append hsign hslash (.inr rfl), if_neg (by simp)]; rfl
  | @sign s =>
    have hnone : afterUser? ([] ++ '@' :: s) = none := by
      rw [afterUser?_append List.not_mem_nil List.not_mem_nil (.inl rfl), if_neg (by simp)]
    rw [cutUser, ← List.nil_append ('@' :: s), hnone]
    rfl
  | free hsign hslash => rw [cutUser, afterUser?_of_free hsign hslash]; rfl

theorem sheds_cutUser (s : Text) : Sheds s (cutUser s) := by
  obtain ⟨t, h⟩ := exists_sheds s
  rwa [h.cutUser_eq]

/-- What is cut off stands before the first `@` or slash, so that anything may follow that. -/
theorem Sheds.append (h : Sheds s t) (hs : '@' ∈ s) (r : Text) : Sheds (s ++ r) (t ++ r) := by
  cases h with
  | name ha => simpa using Sheds.name ha
  | slash hsign hslash => simpa using Sheds.slash hsign hslash
  | sign => exact .sign
  | free hsign => exact absurd hs hsign

theorem Sheds.eq_or_exists (h : Sheds s t) : s = t ∨ ∃ a, IsUser a ∧ s = a ++ '@' :: t := by
  cases h with
  | name ha => exact .inr ⟨_, ha, rfl⟩
  | slash | sign | free => exact .inl rfl

theorem Sheds.isSuffix (h : Sheds s t) : t <:+ s := by
  rcases h.eq_or_exists with rfl | ⟨a, -, rfl⟩
  · exact List.suffix_rfl
  · exact (List.suffix_cons '@' t).trans (List.suffix_append a _)

theorem shedsTimes_iff : ShedsTimes n s t ↔ cutUser^[n] s = t := by
  induction n generalizing s with
  | zero => rfl
  | succ n ih =>
    simp only [ShedsTimes, ih, Function.iterate_succ_apply]
    constructor
    · rintro ⟨m, hm, rfl⟩
      rw [hm.cutUser_eq]
    · exact fun h => ⟨cutUser s, sheds_cutUser s, h⟩

theorem shedsTimes_nil_iff : ShedsTimes n s [] ↔
    ∃ names, names.length ≤ n ∧ (∀ a ∈ names, IsUser a) ∧ s = signed names := by
  induction n generalizing s with
  | zero => simp [ShedsTimes, signed]
  | succ n ih =>
    simp only [ShedsTimes, ih]
    constructor
    · rintro ⟨m, hm, names, hlength, hnames, rfl⟩
      rcases hm.eq_or_exists with rfl | ⟨a, ha, rfl⟩
      · exact ⟨names, Nat.le_succ_of_le hlength, hnames, rfl⟩
      · exact ⟨a :: names, Nat.succ_le_succ hlength, List.forall_mem_cons.mpr ⟨ha, hnames⟩, by simp [signed]⟩
    · rintro ⟨names, hlength, hnames, rfl⟩
      cases names with
      | nil => exact ⟨[], .free List.not_mem_nil List.not_mem_nil, [], Nat.zero_le n, by simp, rfl⟩
      | cons a names =>
        obtain ⟨ha, hnames⟩ := List.forall_mem_cons.mp hnames
        refine ⟨signed names, ?_, names, Nat.le_of_succ_le_succ hlength, hnames, rfl⟩
        simpa [signed] using Sheds.name (s := signed names) ha

end Cuts

section Ends

theorem IsHost.noSlash (h : IsHost host) : '/' ∉ host := fun hc => by
  have hchar := h.characters '/' hc
  revert hchar
  decide +kernel

theorem IsHost.noSign (h : IsHost host) : '@' ∉ host := fun hc => by
  have hchar := h.characters '@' hc
  revert hchar
  decide +kernel

theorem cutUser_append_host (hhost : IsHost host) (hs : s <:+ user ++ ['@']) (path : Text) :
    cutUser (s ++ (host ++ '/' :: path)) = cutUser s ++ (host ++ '/' :: path) := by
  rcases List.suffix_concat_iff.mp hs with rfl | ⟨r, rfl, -⟩
  · rw [(Sheds.free List.not_mem_nil List.not_mem_nil).cutUser_eq, List.nil_append,
      (Sheds.slash hhost.noSign hhost.noSlash).cutUser_eq]
  · exact ((sheds_cutUser _).append (List.mem_append_right r List.mem_cons_self) _).cutUser_eq

theorem cutUser_iterate_append_host (hhost : IsHost host) (hs : s <:+ user ++ ['@']) (path : Text) :
    cutUser^[n] (s ++ (host ++ '/' :: path)) = cutUser^[n] s ++ (host ++ '/' :: path) := by
  induction n generalizing s with
  | zero => rfl
  | succ n ih =>
    rw [Function.iterate_succ_apply, cutUser_append_host hhost hs, ih ((sheds_cutUser s).isSuffix.trans hs),
      ← Function.iterate_succ_apply]

theorem tidies_dropTrailing (path : Text) : Tidies path (Text.dropTrailing (· == '/') (dropSuffix ".git" path)) := by
  obtain ⟨slashes, hpath, hslashes, hlast⟩ := Text.exists_dropTrailing (· == '/') (dropSuffix ".git" path)
  have hend : ¬"/".toList <:+ Text.dropTrailing (· == '/') (dropSuffix ".git" path) := by
    rintro ⟨r, hr⟩
    have hslash := hlast '/' (by rw [← hr]; exact List.getLast?_concat)
    cases hslash
  by_cases hgit : ".git".toList <:+ path
  · obtain ⟨r, rfl⟩ := hgit
    have hdrop : dropSuffix ".git" (r ++ ".git".toList) = r := by
      rw [dropSuffix, if_pos (by simp [Text.endsWith])]
      simp
    rw [hdrop] at hpath hend ⊢
    refine ⟨slashes, ".git".toList, ?_, fun c hc => by simpa using hslashes c hc, hend, .inl rfl⟩
    rw [← List.append_assoc, ← hpath]
  · have hdrop : dropSuffix ".git" path = path := by
      rw [dropSuffix, if_neg (by simpa [Text.endsWith] using hgit)]
    rw [hdrop] at hpath hend ⊢
    refine ⟨slashes, [], ?_, fun c hc => by simpa using hslashes c hc, hend, .inr ⟨rfl, hgit⟩⟩
    rw [List.append_nil, ← hpath]

theorem dropSuffix_append (a path : Text) :
    dropSuffix ".git" (a ++ '/' :: path) = a ++ dropSuffix ".git" ('/' :: path) := by
  have hsuffix : ".git".toList <:+ a ++ '/' :: path ↔ ".git".toList <:+ '/' :: path := by
    refine ⟨fun h => ?_, fun h => h.trans (List.suffix_append a _)⟩
    refine (List.suffix_or_suffix_of_suffix h (List.suffix_append a _)).resolve_right fun hslash => ?_
    have hmem := hslash.subset List.mem_cons_self
    revert hmem
    decide
  simp only [dropSuffix, Text.endsWith, List.isSuffixOf_iff_suffix, hsuffix]
  by_cases hgit : ".git".toList <:+ '/' :: path
  · rw [if_pos hgit, if_pos hgit]
    have hlength := hgit.length_le
    rw [List.length_append, Nat.add_sub_assoc hlength, List.take_length_add_append]
  · rw [if_neg hgit, if_neg hgit]

theorem tidied_append (hhost : IsHost host) (a path : Text) :
    Text.dropTrailing (· == '/') (dropSuffix ".git" (a ++ (host ++ '/' :: path))) =
      a ++ (host ++ Text.dropTrailing (· == '/') (dropSuffix ".git" ('/' :: path))) := by
  rw [← List.append_assoc, dropSuffix_append]
  have hslash : (host.getLast hhost.ne_nil == '/') = false :=
    beq_eq_false_iff_ne.mpr fun hc => hhost.noSlash (hc ▸ List.getLast_mem hhost.ne_nil)
  have hassoc (b : Text) : a ++ host ++ b = (a ++ host.dropLast) ++ host.getLast hhost.ne_nil :: b := by
    conv => lhs; rw [← List.dropLast_append_getLast hhost.ne_nil]
    simp
  rw [hassoc, Text.dropTrailing_append_cons (p := (· == '/')) hslash, ← hassoc, List.append_assoc]

end Ends

section Addresses

theorem trim_address (scheme : Scheme) (user host path : Text) :
    (scheme.address user host path).trim = scheme.address user host path.trimEnd := by
  have hstart : (scheme.address user host path).trimStart = scheme.address user host path := by
    cases scheme <;> rfl
  have hpath (p : Text) : scheme.address user host p = (scheme.text ++ (user ++ '@' :: host)) ++ '/' :: p := by
    simp [Scheme.address]
  rw [Text.trim, hstart, hpath, hpath, Text.trimEnd, Text.dropTrailing_append_cons (by decide), Text.trimEnd]

theorem ofShort_address (scheme : Scheme) (user host path : Text) :
    ofShort (scheme.address user host path) = scheme.address user host path := by
  have hscheme : "://".toList <:+: scheme.text := by cases scheme <;> decide
  have hholds : Text.holds "://" (scheme.address user host path) = true :=
    Text.holds_iff.mpr (hscheme.trans (List.prefix_append _ _).isInfix)
  rw [ofShort]
  split
  · rw [if_pos hholds]
  · rfl

theorem withoutUser_address (scheme : Scheme) (user host path : Text) :
    withoutUser (ofGitScheme (scheme.address user host path)) =
      scheme.shown ++ cutUser^[scheme.cuts] (user ++ '@' :: (host ++ '/' :: path)) := by
  have hcut (r : Text) : withoutUser (secure ++ r) = secure ++ cutUser r := by
    rw [withoutUser, Text.after?_append]
    rfl
  cases scheme with
  | https => exact hcut _
  | http => rfl
  | ssh => exact hcut _
  | git => exact hcut _

end Addresses

/-- Of an address with a user the host and the path are shown, tidied at its end, and between the scheme and the host
what is left of the user when a name is cut off as often as the scheme has it: nothing exactly when the user is made of
so many names or fewer. -/
theorem normalize_address (scheme : Scheme) (user path : Text) (hhost : IsHost host) : ∃ left tidy,
    normalize (scheme.address user host path) = some (scheme.shown ++ (left ++ (host ++ tidy))) ∧
      ShedsTimes scheme.cuts (user ++ ['@']) left ∧ (left = [] ↔ IsHidden scheme.cuts user) ∧
      Tidies ('/' :: path.trimEnd) tidy := by
  refine ⟨cutUser^[scheme.cuts] (user ++ ['@']), _, ?_, shedsTimes_iff.mpr rfl, ?_, tidies_dropTrailing _⟩
  · have huser : user ++ '@' :: (host ++ '/' :: path.trimEnd) = (user ++ ['@']) ++ (host ++ '/' :: path.trimEnd) := by
      simp
    have hne : (scheme.address user host path).isEmpty = false := by cases scheme <;> rfl
    rw [normalize, hne, trim_address, ofShort_address, withoutUser_address, huser,
      cutUser_iterate_append_host hhost List.suffix_rfl, ← List.append_assoc, tidied_append hhost]
    simp
  · rw [IsHidden, ← shedsTimes_nil_iff, shedsTimes_iff]

theorem isHost_github : IsHost "github.com" := by
  have hall : "github.com".toList.all isHostChar = true := by decide +kernel
  exact ⟨by decide, List.all_eq_true.mp hall⟩

theorem normalize_address_signedPassword : IsHost "github.com" ∧ ∃ left tidy,
    normalize (Scheme.https.address "me:p@ss" "github.com" "acme/app.git") =
        some (Scheme.https.shown ++ (left ++ ("github.com".toList ++ tidy))) ∧
      ShedsTimes Scheme.https.cuts ("me:p@ss".toList ++ ['@']) left ∧
      (left = [] ↔ IsHidden Scheme.https.cuts "me:p@ss") ∧ Tidies ('/' :: Text.trimEnd "acme/app.git") tidy :=
  ⟨isHost_github, normalize_address .https "me:p@ss" "acme/app.git" isHost_github⟩

/-- The end of a password with an `@` in it is shown. -/
theorem normalize_signedPassword : normalize (Scheme.https.address "me:p@ss" "github.com" "acme/app.git") =
    some "https://ss@github.com/acme/app" := by decide +kernel

end RuleReview.Remote
