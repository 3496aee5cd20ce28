import RuleReview.Proofs.Git.Addresses
import RuleReview.Proofs.Git.Refs
import RuleReview.Proofs.Text.Lines

/-! # One name for a repository

Where a repository is can be written short, with a scheme of git or of the web, and with a user and a token; and `.git`
and a slash may stand behind its path. All of these addresses are shown as the one name of the repository, but for those
with a slash behind `.git`: the slash hides the `.git`, which is looked for first, so that it stays.
-/
namespace RuleReview.Remote
variable {host path last : Text} {segments : List Text} {spelling : Spelling} {c : Char}

/-- The ways in which the place of a repository is written. -/
inductive Spelling where
  | short
  | ssh
  | git
  | https
  | signed (user token : Text)

namespace Spelling

def address (host path : Text) : Spelling → Text
  | .short => "git@".toList ++ (host ++ ':' :: path)
  | .ssh => Scheme.ssh.address "git" host path
  | .git => Scheme.git.text ++ (host ++ '/' :: path)
  | .https => secure ++ (host ++ '/' :: path)
  | .signed user token => Scheme.https.address (user ++ ':' :: token) host path

/-- A user and a token are made of word characters. -/
def IsSound : Spelling → Prop
  | .signed user token => ∀ c ∈ user ++ token, Text.isWord c = true
  | _ => True

end Spelling

/-- The names between the slashes of the path of a repository. -/
structure IsRepository (segments : List Text) : Prop where
  ne_nil : segments ≠ []
  segment_ne_nil : ∀ s ∈ segments, s ≠ []
  characters : ∀ s ∈ segments, ∀ c ∈ s, isHostChar c = true
  unsuffixed : ∀ last, segments.getLast? = some last → ¬".git".toList <:+ last

/-- What may stand behind the path of a repository. -/
structure Ending where
  suffixed : Bool
  slashed : Bool

namespace Ending

def text (e : Ending) : Text := (if e.suffixed then ".git".toList else []) ++ if e.slashed then ['/'] else []

/-- What is shown of it. -/
def kept (e : Ending) : Text := if e.suffixed && e.slashed then ".git".toList else []

end Ending

/-- The name that all addresses of a repository are to be shown as. -/
def repositoryName (host : Text) (segments : List Text) : Text := secure ++ (host ++ '/' :: Text.joinWith "/" segments)

section Written

theorem isBlank_of_isHostChar (h : isHostChar c = true) : Text.isBlank c = false := by
  simp only [isHostChar, Bool.or_eq_true, decide_eq_true_eq] at h
  obtain (hword | rfl) | rfl := h
  · exact Text.isBlank_of_isWord hword
  · decide
  · decide

/-- What separates the parts of an address, or of a text, is no character of a host. -/
theorem isHostChar_separator (h : c ∈ "@:/\n".toList) : isHostChar c = false := by
  have hall : "@:/\n".toList.all (!isHostChar ·) = true := by decide +kernel
  simpa using List.all_eq_true.mp hall c h

theorem ne_of_isHostChar {d : Char} (hd : d ∈ "@:/\n".toList) (h : isHostChar c = true) : c ≠ d := by
  rintro rfl
  rw [isHostChar_separator hd] at h
  cases h

theorem git_characters : ∀ c ∈ ['g', 'i', 't'], isHostChar c = true := by
  have hall : ['g', 'i', 't'].all isHostChar = true := by decide
  exact List.all_eq_true.mp hall

theorem slash_path (h : IsRepository segments) :
    '/' :: Text.joinWith "/" segments = segments.flatMap ('/' :: ·) := (Text.flatMap_separated '/' h.ne_nil).symm

theorem IsRepository.path_characters (h : IsRepository segments) :
    ∀ c ∈ Text.joinWith "/" segments, isHostChar c = true ∨ c = '/' := by
  intro c hc
  have hmem : c ∈ segments.flatMap ('/' :: ·) := slash_path h ▸ List.mem_cons_of_mem '/' hc
  obtain ⟨s, hs, hcs⟩ := List.mem_flatMap.mp hmem
  rcases List.mem_cons.mp hcs with rfl | hcs
  · exact .inr rfl
  · exact .inl (h.characters s hs c hcs)

theorem IsRepository.ended_characters (h : IsRepository segments) (e : Ending) :
    ∀ c ∈ Text.joinWith "/" segments ++ e.text, isHostChar c = true ∨ c = '/' := by
  have hdot : isHostChar '.' = true := by simp [isHostChar]
  have hsuffix : ∀ c ∈ ".git".toList, isHostChar c = true ∨ c = '/' :=
    List.forall_mem_cons.mpr ⟨.inl hdot, fun c hc => .inl (git_characters c hc)⟩
  refine List.forall_mem_append.mpr ⟨h.path_characters, ?_⟩
  rcases e with ⟨_ | _, _ | _⟩ <;> simp_all [Ending.text]

theorem IsRepository.head_path (h : IsRepository segments) : ∃ c r, Text.joinWith "/" segments = c :: r ∧ c ≠ '/' := by
  obtain ⟨s, rest, rfl⟩ := List.exists_cons_of_ne_nil h.ne_nil
  obtain ⟨c, r, rfl⟩ := List.exists_cons_of_ne_nil (h.segment_ne_nil s List.mem_cons_self)
  have hc : isHostChar c = true := h.characters _ List.mem_cons_self c List.mem_cons_self
  refine ⟨c, r ++ rest.flatMap ('/' :: ·), ?_, ne_of_isHostChar (by decide) hc⟩
  have hpath := slash_path h
  simpa using hpath

theorem gitSuffix_append_iff (a s : Text) : ".git".toList <:+ a ++ '/' :: s ↔ ".git".toList <:+ s := by
  constructor
  · intro h
    rcases List.suffix_or_suffix_of_suffix h (List.suffix_append a ('/' :: s)) with hs | hslash
    · exact (List.suffix_cons_iff.mp hs).resolve_left (by simp)
    · have hmem : '/' ∈ ".git".toList := hslash.subset List.mem_cons_self
      exact absurd hmem (by decide)
  · intro h
    exact h.trans ((List.suffix_cons '/' s).trans (List.suffix_append a _))

theorem IsRepository.path_end (h : IsRepository segments) : ∃ b d, '/' :: Text.joinWith "/" segments = b ++ [d] ∧
    isHostChar d = true ∧ ¬".git".toList <:+ b ++ [d] := by
  obtain ⟨init, last, rfl⟩ := (List.eq_nil_or_concat segments).resolve_left h.ne_nil
  simp only [List.concat_eq_append] at h ⊢
  have hlast : last ∈ init ++ [last] := List.mem_append_right init List.mem_cons_self
  obtain ⟨l, d, rfl⟩ := (List.eq_nil_or_concat last).resolve_left (h.segment_ne_nil last hlast)
  have hpath : '/' :: Text.joinWith "/" (init ++ [l ++ [d]]) = init.flatMap ('/' :: ·) ++ '/' :: (l ++ [d]) := by
    simpa using slash_path h
  refine ⟨init.flatMap ('/' :: ·) ++ '/' :: l, d, by simpa using hpath, ?_, ?_⟩
  · exact h.characters _ hlast d (by simp)
  · have hsuffix := h.unsuffixed (l ++ [d]) (by simp)
    rw [List.append_assoc, List.cons_append, gitSuffix_append_iff]
    exact hsuffix

end Written

section Shown

theorem dropSuffix_append_self (p s : Text) : dropSuffix p (s ++ p) = s := by
  have hends : Text.endsWith (s ++ p) p = true := by simp [Text.endsWith]
  rw [dropSuffix, if_pos hends]
  simp

theorem dropSuffix_of_not {p s : Text} (h : ¬p <:+ s) : dropSuffix p s = s := by
  rw [dropSuffix, if_neg]
  simpa [Text.endsWith] using h

theorem tidied_ending (h : IsRepository segments) (e : Ending) :
    Text.dropTrailing (· == '/') (dropSuffix ".git" ('/' :: (Text.joinWith "/" segments ++ e.text))) =
      '/' :: (Text.joinWith "/" segments ++ e.kept) := by
  obtain ⟨b, d, hpath, hd, hsuffix⟩ := h.path_end
  have hslash : (d == '/') = false := beq_eq_false_iff_ne.mpr (ne_of_isHostChar (by decide) hd)
  have hdrop (r : Text) : Text.dropTrailing (· == '/') (b ++ d :: r) = b ++ d :: Text.dropTrailing (· == '/') r :=
    Text.dropTrailing_append_cons (p := (· == '/')) hslash b r
  rw [← List.cons_append, ← List.cons_append, hpath]
  rcases e with ⟨_ | _, _ | _⟩
  · simp only [Ending.text, Ending.kept, Bool.false_eq_true, if_false, Bool.false_and, List.append_nil]
    rw [dropSuffix_of_not hsuffix]
    exact hdrop []
  · simp only [Ending.text, Ending.kept, Bool.false_eq_true, if_false, if_true, Bool.false_and, List.nil_append,
      List.append_nil]
    rw [dropSuffix_of_not (Text.not_suffix_concat (by decide) (by decide)), List.append_assoc]
    exact hdrop ['/']
  · simp only [Ending.text, Ending.kept, Bool.false_eq_true, if_true, if_false, Bool.and_false, List.append_nil]
    rw [dropSuffix_append_self]
    exact hdrop []
  · simp only [Ending.text, Ending.kept, if_true, Bool.and_self]
    rw [← List.append_assoc, dropSuffix_of_not (Text.not_suffix_concat (by decide) (by decide)), List.append_assoc,
      List.append_assoc, List.append_assoc]
    exact hdrop (".git".toList ++ ['/'])

theorem isUser_signed {user token : Text} (h : (Spelling.signed user token).IsSound) :
    IsUser (user ++ ':' :: token) := by
  have hnot {d : Char} (hd : d ∈ "@:/\n".toList) : d ∉ user ++ token := by
    intro hmem
    have hhost : isHostChar d = true := by simp [isHostChar, h d hmem]
    exact ne_of_isHostChar hd hhost rfl
  have hsign := hnot (d := '@') (by decide)
  have hslash := hnot (d := '/') (by decide)
  exact ⟨by simp, by simpa using hsign, by simpa using hslash⟩

theorem cutUser_host (hhost : IsHost host) (path : Text) : cutUser (host ++ '/' :: path) = host ++ '/' :: path :=
  (Sheds.slash hhost.noSign hhost.noSlash).cutUser_eq

theorem cutUser_user {user : Text} (h : IsUser user) (s : Text) : cutUser (user ++ '@' :: s) = s :=
  (Sheds.name h).cutUser_eq

theorem withoutUser_secure (s : Text) : withoutUser (secure ++ s) = secure ++ cutUser s := by
  rw [withoutUser, Text.after?_append]
  rfl

theorem ofShort_scheme (scheme : Scheme) (s : Text) : ofShort (scheme.text ++ s) = scheme.text ++ s := by
  have hscheme : "://".toList <:+: scheme.text := by cases scheme <;> decide
  have hholds : Text.holds "://" (scheme.text ++ s) = true :=
    Text.holds_iff.mpr (hscheme.trans (List.prefix_append _ _).isInfix)
  unfold ofShort
  split
  · rw [if_pos hholds]
  · rfl

theorem hostAndPath?_short (hhost : IsHost host) {d : Char} {r : Text} (hd : d ≠ '/') (hr : '\n' ∉ r) :
    hostAndPath? ("git@".toList ++ (host ++ ':' :: d :: r)) = some (host, d :: r) := by
  have hat : isHostChar '@' = false := isHostChar_separator (by decide)
  have hcolon : isHostChar ':' = false := isHostChar_separator (by decide)
  have hfront (s : Text) : "git@".toList ++ s = ['g', 'i', 't'] ++ '@' :: s := rfl
  rw [hostAndPath?, hfront, List.takeWhile_append_of_pos git_characters,
    List.dropWhile_append_of_pos git_characters,
    List.takeWhile_cons_of_neg (by simp [hat]), List.dropWhile_cons_of_neg (by simp [hat])]
  simp only [List.append_nil]
  rw [List.takeWhile_append_of_pos hhost.characters, List.dropWhile_append_of_pos hhost.characters,
    List.takeWhile_cons_of_neg (by simp [hcolon]), List.dropWhile_cons_of_neg (by simp [hcolon]), List.append_nil]
  obtain ⟨c, cs, rfl⟩ := List.exists_cons_of_ne_nil hhost.ne_nil
  have hpath : (decide (d = '/') || r.contains '\n') = false := by simp [hd, hr]
  simp only [hpath, Bool.false_eq_true, if_false]

theorem holds_short (hhost : IsHost host) {d : Char} {r : Text} (hd : d ≠ '/') (hr : ':' ∉ d :: r) :
    Text.holds "://" ("git@".toList ++ (host ++ ':' :: d :: r)) = false := by
  rw [← Bool.not_eq_true, Text.holds_iff]
  rintro ⟨a, b, hab⟩
  have hfront : ':' ∉ "git@".toList ++ host := by
    intro hmem
    rcases List.mem_append.mp hmem with hgit | hhostmem
    · exact absurd hgit (by decide)
    · exact ne_of_isHostChar (by decide) (hhost.characters _ hhostmem) rfl
  have hsplit : ("git@".toList ++ host) ++ ':' :: d :: r = a ++ ':' :: ('/' :: '/' :: b) := by
    rw [List.append_assoc, ← hab]
    simp
  obtain ⟨-, -, hrest⟩ := (List.append_cons_inj_of_notMem hfront hr).mp hsplit
  exact hd (List.cons.inj hrest).1

theorem ofShort_short (hhost : IsHost host) {d : Char} {r : Text} (hd : d ≠ '/') (hcolon : ':' ∉ d :: r)
    (hline : '\n' ∉ r) :
    ofShort (Spelling.short.address host (d :: r)) = secure ++ (host ++ '/' :: d :: r) := by
  rw [Spelling.address, ofShort, hostAndPath?_short hhost hd hline]
  simp only [holds_short hhost hd hcolon, Bool.false_eq_true, if_false]
  simp [Text.concat]

/-- What stands around the host is taken off or replaced by the scheme of the web. -/
theorem withoutUser_spelling (hhost : IsHost host) (hsound : spelling.IsSound) {d : Char} {r : Text} (hd : d ≠ '/')
    (hcolon : ':' ∉ d :: r) (hline : '\n' ∉ r) :
    withoutUser (ofGitScheme (ofShort (spelling.address host (d :: r)))) = secure ++ (host ++ '/' :: d :: r) := by
  cases spelling with
  | short =>
    rw [ofShort_short hhost hd hcolon hline]
    exact (withoutUser_secure _).trans (congrArg _ (cutUser_host hhost _))
  | ssh =>
    have huser : IsUser "git" := ⟨by decide, by decide, by decide⟩
    rw [Spelling.address, ofShort_address, withoutUser_address]
    change secure ++ cutUser (cutUser _) = _
    rw [cutUser_user huser, cutUser_host hhost]
  | git =>
    rw [Spelling.address, ofShort_scheme]
    change withoutUser (secure ++ cutUser (host ++ '/' :: d :: r)) = _
    rw [cutUser_host hhost, withoutUser_secure, cutUser_host hhost]
  | https =>
    rw [Spelling.address]
    have hshort : ofShort (secure ++ (host ++ '/' :: d :: r)) = _ := ofShort_scheme .https _
    rw [hshort]
    change withoutUser (secure ++ _) = _
    rw [withoutUser_secure, cutUser_host hhost]
  | signed user token =>
    rw [Spelling.address, ofShort_address, withoutUser_address]
    change secure ++ cutUser _ = _
    rw [cutUser_user (isUser_signed hsound)]

theorem isBlank_scheme (scheme : Scheme) : ∀ c ∈ scheme.text, Text.isBlank c = false := by
  have hall : scheme.text.all (!Text.isBlank ·) = true := by cases scheme <;> decide
  simpa using hall

theorem isBlank_address (hhost : IsHost host) (hsound : spelling.IsSound)
    (hpath : ∀ c ∈ path, Text.isBlank c = false) : ∀ c ∈ spelling.address host path, Text.isBlank c = false := by
  have hnames : ∀ c ∈ host, Text.isBlank c = false := fun c hc => isBlank_of_isHostChar (hhost.characters c hc)
  have hgit : ∀ c ∈ "git".toList, Text.isBlank c = false := fun c hc => isBlank_of_isHostChar (git_characters c hc)
  cases spelling with
  | signed user token =>
    have huser : ∀ c ∈ user ++ token, Text.isBlank c = false := fun c hc => Text.isBlank_of_isWord (hsound c hc)
    simp only [Spelling.address, Scheme.address, List.forall_mem_append, List.forall_mem_cons] at huser ⊢
    exact ⟨isBlank_scheme .https, ⟨huser.1, by decide, huser.2⟩, by decide, hnames, by decide, hpath⟩
  | ssh =>
    simp only [Spelling.address, Scheme.address, List.forall_mem_append, List.forall_mem_cons]
    exact ⟨isBlank_scheme .ssh, hgit, by decide, hnames, by decide, hpath⟩
  | short =>
    simp only [Spelling.address, List.forall_mem_append, List.forall_mem_cons]
    have hsigned : ∀ c ∈ "git@".toList, Text.isBlank c = false :=
      List.forall_mem_append.mpr ⟨hgit, List.forall_mem_singleton.mpr (by decide)⟩
    exact ⟨hsigned, hnames, by decide, hpath⟩
  | git =>
    simp only [Spelling.address, List.forall_mem_append, List.forall_mem_cons]
    exact ⟨isBlank_scheme .git, hnames, by decide, hpath⟩
  | https =>
    simp only [Spelling.address, List.forall_mem_append, List.forall_mem_cons]
    exact ⟨isBlank_scheme .https, hnames, by decide, hpath⟩

theorem isEmpty_address (spelling : Spelling) (host path : Text) : (spelling.address host path).isEmpty = false := by
  cases spelling <;> rfl

theorem normalize_address_ended (hhost : IsHost host) (hpath : IsRepository segments) (hsound : spelling.IsSound)
    (e : Ending) : normalize (spelling.address host (Text.joinWith "/" segments ++ e.text)) =
      some (repositoryName host segments ++ e.kept) := by
  have hchars := hpath.ended_characters e
  have hblank : ∀ c ∈ spelling.address host (Text.joinWith "/" segments ++ e.text), Text.isBlank c = false := by
    refine isBlank_address hhost hsound fun c hc => ?_
    rcases hchars c hc with hname | rfl
    · exact isBlank_of_isHostChar hname
    · decide
  have hnot {d : Char} (hd : d ∈ "@:/\n".toList) (hslash : d ≠ '/') :
      d ∉ Text.joinWith "/" segments ++ e.text := by
    intro hmem
    rcases hchars d hmem with hname | hc
    · exact ne_of_isHostChar hd hname rfl
    · exact hslash hc
  have hcolon := hnot (d := ':') (by decide) (by decide)
  have hline := hnot (d := '\n') (by decide) (by decide)
  have htidy := tidied_ending hpath e
  have hname : repositoryName host segments ++ e.kept =
      secure ++ (host ++ '/' :: (Text.joinWith "/" segments ++ e.kept)) := by simp [repositoryName]
  obtain ⟨d, r, hfront, hd⟩ := hpath.head_path
  rw [hname]
  rw [hfront, List.cons_append] at hblank hcolon hline htidy ⊢
  rw [normalize, isEmpty_address, Text.trim_of_notBlank hblank,
    withoutUser_spelling hhost hsound hd hcolon (fun h => hline (List.mem_cons_of_mem d h))]
  simp only [Bool.false_eq_true, if_false]
  rw [tidied_append hhost, htidy, List.cons_append]

end Shown

/-- Every address of a repository is shown as its name, but one with a slash behind `.git`: of this the `.git` is left. -/
theorem normalize_spelling (hhost : IsHost host) (hpath : IsRepository segments) (hsound : spelling.IsSound)
    (e : Ending) : normalize (spelling.address host (Text.joinWith "/" segments ++ e.text)) =
        some (repositoryName host segments ++ e.kept) ∧
      (normalize (spelling.address host (Text.joinWith "/" segments ++ e.text)) = some (repositoryName host segments) ↔
        ¬(e.suffixed = true ∧ e.slashed = true)) := by
  have hshown := normalize_address_ended hhost hpath hsound e
  refine ⟨hshown, ?_⟩
  rw [hshown, Option.some.injEq, List.append_right_eq_self]
  rcases e with ⟨_ | _, _ | _⟩ <;> simp [Ending.kept]

theorem isRepository_app : IsRepository ["acme".toList, "app".toList] := by
  have hchars : ["acme".toList, "app".toList].all (·.all isHostChar) = true := by decide
  refine ⟨by decide, by decide, fun s hs c hc => ?_, by decide⟩
  exact List.all_eq_true.mp (List.all_eq_true.mp hchars s hs) c hc

theorem normalize_spelling_signed : IsHost "github.com" ∧ IsRepository ["acme".toList, "app".toList] ∧
    (Spelling.signed "user" "token").IsSound ∧
    normalize ((Spelling.signed "user" "token").address "github.com"
      (Text.joinWith "/" ["acme".toList, "app".toList] ++ Ending.text ⟨true, false⟩)) =
        some (repositoryName "github.com" ["acme".toList, "app".toList]) := by
  have hwords : ("user".toList ++ "token".toList).all Text.isWord = true := by decide
  have hsound : (Spelling.signed "user" "token").IsSound := List.all_eq_true.mp hwords
  exact ⟨isHost_github, isRepository_app, hsound,
    (normalize_spelling isHost_github isRepository_app hsound ⟨true, false⟩).2.mpr (by decide)⟩

/-- A slash behind `.git` gives the repository a second name. -/
theorem normalize_slashedSuffix :
    normalize (Spelling.short.address "github.com"
        (Text.joinWith "/" ["acme".toList, "app".toList] ++ Ending.text ⟨true, true⟩)) =
      some "https://github.com/acme/app.git" ∧
    normalize (Spelling.short.address "github.com"
        (Text.joinWith "/" ["acme".toList, "app".toList] ++ Ending.text ⟨true, true⟩)) ≠
      some (repositoryName "github.com" ["acme".toList, "app".toList]) := by decide +kernel

end RuleReview.Remote
