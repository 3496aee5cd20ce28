import RuleReview.Proofs.Git.Commits
import RuleReview.Proofs.Text.Boundaries

/-! # The parent that a commit object names

A commit object is a header of lines, an empty line, and a message. Its first parent stands in the second line of the
header, where nothing before it can be taken for a parent and nothing behind it is looked at. But that a commit has no
parent is told by the rest of the header, and this is read as lines that any boundary ends: where the name of an author,
or any other text of the header, has `parent ` behind a boundary, what follows is taken for a parent. The message is
never read.
-/
namespace RuleReview

namespace Text
variable {c : Char} {s : Text}

theorem isBlank_of_hexValue? (hc : (hexValue? c).isSome = true) : isBlank c = false := by
  have hrange : 0x30 ≤ c.toNat ∧ c.toNat ≤ 0x66 := by
    rw [hexValue?] at hc
    split at hc
    · next h =>
      have hlo : 0x30 ≤ c.toNat := h.1
      have hhi : c.toNat ≤ 0x39 := h.2
      omega
    split at hc
    · next h =>
      have hlo : 0x61 ≤ c.toNat := h.1
      have hhi : c.toNat ≤ 0x66 := h.2
      omega
    split at hc
    · next h =>
      have hlo : 0x41 ≤ c.toNat := h.1
      have hhi : c.toNat ≤ 0x46 := h.2
      omega
    cases hc
  rw [isBlank, ← Bool.not_eq_true, List.contains_iff_mem]
  intro hblank
  have hout := (by decide : ∀ n ∈ blankPoints, n < 0x30 ∨ 0x66 < n) c.toNat hblank
  omega

theorem words_of_free (hne : s ≠ []) (hs : ∀ c ∈ s, isBlank c = false) : words s = [s] := by
  induction s with
  | nil => exact absurd rfl hne
  | cons c s ih =>
    obtain ⟨hc, hs⟩ := List.forall_mem_cons.mp hs
    cases s with
    | nil => rw [words, if_neg (by simp [hc])]
    | cons d s =>
      have hd := hs d List.mem_cons_self
      rw [words, if_neg (by simp [hc])]
      simp only [hd, ih (List.cons_ne_nil d s) hs, Bool.false_eq_true, if_false]

end Text

/-- What is told about a commit. The further lines are other headers and the lines that go on with them. -/
structure CommitObject where
  tree : Text
  parents : List Text
  author : Text
  committer : Text
  further : List Text
  message : Text

namespace CommitObject
variable {o : CommitObject} {x k l : Text}

def parentMark : Text := "parent "

def laterLines (o : CommitObject) : List Text :=
  ("author ".toList ++ o.author) :: ("committer ".toList ++ o.committer) :: o.further

def headerLines (o : CommitObject) : List Text :=
  ("tree ".toList ++ o.tree) :: (o.parents.map (parentMark ++ ·) ++ o.laterLines)

def text (o : CommitObject) : Text := o.headerLines.flatMap (· ++ ['\n']) ++ '\n' :: o.message

def IsId (x : Text) : Prop := x ≠ [] ∧ ∀ c ∈ x, (Text.hexValue? c).isSome = true

/-- A line that neither ends the header nor tells a parent. -/
def IsQuiet (l : Text) : Prop := l ≠ [] ∧ ¬parentMark <+: l

/-- Names and values hold anything that ends no line. -/
structure IsWellFormed (o : CommitObject) : Prop where
  tree : IsId o.tree
  parents : ∀ p ∈ o.parents, IsId p
  author : '\n' ∉ o.author
  committer : '\n' ∉ o.committer
  further : ∀ l ∈ o.further, IsQuiet l ∧ '\n' ∉ l

/-- The first of the lines that is not quiet, and it begins like a parent. -/
def FirstMarked (ls : List Text) (l : Text) : Prop :=
  ∃ before after, ls = before ++ l :: after ∧ parentMark <+: l ∧ ∀ k ∈ before, IsQuiet k

/-- Of the pieces that the later lines are cut into at other boundaries than line feeds, the first that is not quiet
begins like a parent. -/
def Strays (o : CommitObject) (l : Text) : Prop := FirstMarked (o.laterLines.flatMap Text.cutLines) l

def parentIn (l : Text) : Except Failure Text :=
  match Text.words (l.drop parentMark.length) with
  | [] => .error .outOfRange
  | parent :: _ => .ok parent

instance (x : Text) : Decidable (IsId x) :=
  decidable_of_iff (x ≠ [] ∧ (x.all fun c => (Text.hexValue? c).isSome) = true) (by rw [List.all_eq_true, IsId])

instance (l : Text) : Decidable (IsQuiet l) := inferInstanceAs (Decidable (_ ∧ _))

instance (o : CommitObject) : Decidable o.IsWellFormed :=
  decidable_of_iff (IsId o.tree ∧ (∀ p ∈ o.parents, IsId p) ∧ '\n' ∉ o.author ∧ '\n' ∉ o.committer ∧
      ∀ l ∈ o.further, IsQuiet l ∧ '\n' ∉ l)
    ⟨fun h => ⟨h.1, h.2.1, h.2.2.1, h.2.2.2.1, h.2.2.2.2⟩, fun h => ⟨h.1, h.2, h.3, h.4, h.5⟩⟩

theorem IsId.isBlank_eq_false (hx : IsId x) : ∀ c ∈ x, Text.isBlank c = false := fun c hc =>
  Text.isBlank_of_hexValue? (hx.2 c hc)

theorem IsId.notMem (hx : IsId x) : '\n' ∉ x := fun hmem => by cases hx.isBlank_eq_false _ hmem

theorem isQuiet_append (hk : k.head?.any (· ≠ 'p') = true) (x : Text) : IsQuiet (k ++ x) := by
  cases k with
  | nil => cases hk
  | cons c k =>
    refine ⟨List.cons_ne_nil c _, fun hmark => ?_⟩
    obtain ⟨r, hr⟩ := hmark
    have hc : 'p' = c := Option.some.inj (congrArg List.head? hr)
    subst hc
    cases hk

theorem IsWellFormed.isQuiet_of_mem (ho : o.IsWellFormed) : ∀ l ∈ o.laterLines, IsQuiet l :=
  List.forall_mem_cons.mpr ⟨isQuiet_append (by decide) _, List.forall_mem_cons.mpr ⟨isQuiet_append (by decide) _,
    fun l hl => (ho.further l hl).1⟩⟩

theorem IsWellFormed.notMem_headerLines (ho : o.IsWellFormed) : ∀ l ∈ o.headerLines, '\n' ∉ l := by
  have hparents : ∀ l ∈ o.parents.map (parentMark ++ ·), '\n' ∉ l :=
    List.forall_mem_map.mpr fun p hp => List.not_mem_append (by decide) (ho.parents p hp).notMem
  have hlater : ∀ l ∈ o.laterLines, '\n' ∉ l := by
    refine List.forall_mem_cons.mpr ⟨List.not_mem_append (by decide) ho.author, ?_⟩
    exact List.forall_mem_cons.mpr ⟨List.not_mem_append (by decide) ho.committer, fun l hl => (ho.further l hl).2⟩
  exact List.forall_mem_cons.mpr
    ⟨List.not_mem_append (by decide) ho.tree.notMem, List.forall_mem_append.mpr ⟨hparents, hlater⟩⟩

theorem IsWellFormed.not_strays (ho : o.IsWellFormed)
    (hfree : ∀ l ∈ o.laterLines, ∀ c ∈ l, Text.isBoundary c = false) (l : Text) : ¬o.Strays l := by
  rintro ⟨before, after, hcut, hmark, -⟩
  have hmem : l ∈ o.laterLines.flatMap Text.cutLines := by simp [hcut]
  obtain ⟨k, hk, hl⟩ := List.mem_flatMap.mp hmem
  rw [Text.cutLines_of_free (hfree k hk), List.mem_singleton] at hl
  subst hl
  exact (ho.isQuiet_of_mem l hk).2 hmark

theorem IsId.cutLines_append (hx : IsId x) (hk : k.any Text.isBoundary = false) :
    Text.cutLines (k ++ x) = [k ++ x] :=
  Text.cutLines_of_free fun c hc => (List.mem_append.mp hc).elim
    (fun hc => Bool.eq_false_iff.mpr (List.any_eq_false.mp hk c hc))
    fun hc => Text.isBoundary_of_isBlank (hx.isBlank_eq_false c hc)

theorem IsId.parentIn_eq (hx : IsId x) : parentIn (parentMark ++ x) = .ok x := by
  rw [parentIn, List.drop_left, Text.words_of_free hx.1 hx.isBlank_eq_false]

theorem IsWellFormed.boundedLines_text (ho : o.IsWellFormed) : (Text.normalizeBreaks o.text).boundedLines =
    o.headerLines.flatMap Text.cutLines ++ [] :: (Text.normalizeBreaks o.message).boundedLines := by
  have hempty : (Text.normalizeBreaks ('\n' :: o.message)).boundedLines =
      [] :: (Text.normalizeBreaks o.message).boundedLines := Text.boundedLines_line List.not_mem_nil o.message
  rw [text, Text.boundedLines_header ho.notMem_headerLines, hempty]

end CommitObject

namespace History
open CommitObject Session
variable {o : CommitObject} {l : Text} {ls ks : List Text} {f : Fetching} {git : Git} {t : Trace} {sha : Text}
  {out err : List UInt8}

theorem firstParent_append (hls : ∀ l ∈ ls, IsQuiet l) : firstParent (ls ++ ks) = firstParent ks := by
  induction ls with
  | nil => rfl
  | cons l ls ih =>
    obtain ⟨⟨hne, hmark⟩, hls⟩ := List.forall_mem_cons.mp hls
    rw [List.cons_append, firstParent, if_neg (by simpa using hne), if_neg, ih hls]
    rw [Text.startsWith, List.isPrefixOf_iff_prefix]
    exact hmark

theorem firstParent_append_nil (ls ks : List Text) : firstParent (ls ++ [] :: ks) = firstParent ls := by
  induction ls with
  | nil => rfl
  | cons l ls ih => rw [List.cons_append, firstParent, firstParent, ih]

theorem firstParent_marked (hl : parentMark <+: l) (ls : List Text) : firstParent (l :: ls) = (parentIn l).map some := by
  obtain ⟨r, rfl⟩ := hl
  have hne : ¬(parentMark ++ r).isEmpty = true := Bool.false_ne_true
  have hstarts : (parentMark ++ r).startsWith "parent " = true :=
    List.isPrefixOf_iff_prefix.mpr (List.prefix_append parentMark r)
  have hwords : Text.words (parentMark ++ r) = "parent".toList :: Text.words r := rfl
  rw [firstParent, if_neg hne, if_pos hstarts, hwords, parentIn, List.drop_left]
  cases Text.words r <;> rfl

theorem firstParent_of_firstMarked (h : FirstMarked ls l) : firstParent ls = (parentIn l).map some := by
  obtain ⟨before, after, rfl, hl, hbefore⟩ := h
  rw [firstParent_append hbefore, firstParent_marked hl]

theorem firstParent_eq_none (h : ∀ l, ¬FirstMarked ls l) : firstParent ls = .ok none := by
  induction ls with
  | nil => rfl
  | cons l ls ih =>
    by_cases hne : l = []
    · subst hne
      rfl
    by_cases hmark : parentMark <+: l
    · exact absurd ⟨[], ls, rfl, hmark, by simp⟩ (h l)
    rw [← List.singleton_append, firstParent_append (List.forall_mem_singleton.mpr ⟨hne, hmark⟩)]
    refine ih fun k hk => ?_
    obtain ⟨before, after, rfl, hk, hbefore⟩ := hk
    exact h k ⟨l :: before, after, rfl, hk, List.forall_mem_cons.mpr ⟨⟨hne, hmark⟩, hbefore⟩⟩

/-- Of a commit with parents only the first is read. Otherwise the lines behind the tree are looked through. -/
theorem firstParent_text (ho : o.IsWellFormed) : firstParent (Text.normalizeBreaks o.text).boundedLines =
    match o.parents with
    | p :: _ => .ok (some p)
    | [] => firstParent (o.laterLines.flatMap Text.cutLines) := by
  have htree : ∀ l ∈ ["tree ".toList ++ o.tree], IsQuiet l :=
    List.forall_mem_singleton.mpr (isQuiet_append (by decide) o.tree)
  rw [ho.boundedLines_text, firstParent_append_nil, headerLines, List.flatMap_cons,
    ho.tree.cutLines_append (by decide), firstParent_append htree, List.flatMap_append]
  cases hps : o.parents with
  | nil => rfl
  | cons p ps =>
    have hp : IsId p := ho.parents p (hps ▸ List.mem_cons_self)
    rw [List.map_cons, List.flatMap_cons, hp.cutLines_append (by decide)]
    simp only [List.cons_append, firstParent_marked (List.prefix_append _ _), hp.parentIn_eq]
    rfl

/-- A commit that is there is printed, and its first parent is read off what is printed. -/
theorem resume_parentOf (hpresent : git.Succeeds t.calls (probe sha))
    (hprint : git (t.calls ++ [probe sha]) (object sha) = .exited 0 out err) :
    (parentOf f sha).resume git t =
      ((firstParent (decodeOutput out).boundedLines).bind fun found => found.elim (.error (.rootCommit sha)) .ok,
        { t with calls := t.calls ++ [probe sha] ++ [object sha] }) := by
  obtain ⟨out₀, err₀, hpresent⟩ := hpresent
  have hfound : (ensureCommit f sha).resume git t = (.ok (), { t with calls := t.calls ++ [probe sha] }) := by
    rw [ensureCommit, resume_bind, hasCommit, resume_bind, resume_ask, ← probe, hpresent]
    rfl
  have hprinted (t' : Trace) (ht' : t'.calls = t.calls ++ [probe sha]) : (Session.output (object sha)).resume git t' =
      (.ok (decodeOutput out), { t' with calls := t'.calls ++ [object sha] }) := by
    rw [Session.output, resume_bind, Session.run, resume_bind, resume_ask, ht', hprint]
    rfl
  rw [parentOf, resume_bind, hfound]
  dsimp only
  rw [resume_bind, ← object, hprinted _ rfl]
  dsimp only
  rw [resume_bind]
  rcases firstParent (decodeOutput out).boundedLines with e | _ | p <;> rfl

/-- The first parent is returned whatever else a commit tells. Without parents a commit is reported as a root when no
piece of its header strays, and otherwise what the first such piece names is returned. -/
theorem parentOf_object {r : Except Failure Text} (ho : o.IsWellFormed) (hpresent : git.Succeeds t.calls (probe sha))
    (hprint : git (t.calls ++ [probe sha]) (object sha) = .exited 0 (Text.encode o.text) err)
    (hr : ((parentOf f sha).resume git t).1 = r) :
    (∀ p ps, o.parents = p :: ps → r = .ok p) ∧
      (r = .error (.rootCommit sha) ↔ o.parents = [] ∧ ∀ l, ¬o.Strays l) ∧
      (∀ l, o.parents = [] → o.Strays l → r = parentIn l) ∧
      ((∀ l ∈ o.laterLines, ∀ c ∈ l, Text.isBoundary c = false) →
        (r = .error (.rootCommit sha) ↔ o.parents = [])) := by
  rw [resume_parentOf hpresent hprint, decodeOutput_encode, firstParent_text ho] at hr
  have hparent (p : Text) (ps : List Text) (hps : o.parents = p :: ps) : r = .ok p := by
    rw [← hr, hps]
    rfl
  have hstray (l : Text) (hps : o.parents = []) (hl : o.Strays l) : r = parentIn l := by
    rw [← hr, hps]
    dsimp only
    rw [firstParent_of_firstMarked hl]
    cases parentIn l <;> rfl
  have hquiet (hps : o.parents = []) (hnone : ∀ l, ¬o.Strays l) : r = .error (.rootCommit sha) := by
    rw [← hr, hps]
    dsimp only
    rw [firstParent_eq_none hnone]
    rfl
  have hroot : r = .error (.rootCommit sha) ↔ o.parents = [] ∧ ∀ l, ¬o.Strays l := by
    refine ⟨fun hroot => ?_, fun h => hquiet h.1 h.2⟩
    cases hps : o.parents with
    | cons p ps => cases hroot.symm.trans (hparent p ps hps)
    | nil =>
      refine ⟨rfl, fun l hl => ?_⟩
      have hnamed := hroot.symm.trans (hstray l hps hl)
      rw [parentIn] at hnamed
      split at hnamed <;> cases hnamed
  exact ⟨hparent, hroot, hstray, fun hfree => hroot.trans (and_iff_left (ho.not_strays hfree))⟩

def singleGit (o : CommitObject) : Git := fun _ c =>
  .exited 0 (if c = object "abcd" then Text.encode o.text else []) []

/-- A merge with other parents in its names, in a header that goes on, and in its message. -/
def crowdedMerge : CommitObject where
  tree := "4b825dc6"
  parents := ["aaaa", "bbbb"]
  author := "A\x0cparent cccc <a@b.c> 0 +0000"
  committer := "\x0b\x0b <a@b.c> 0 +0000"
  further := ["mergetag object bbbb", " parent dddd"]
  message := "m\n\nparent eeee\n"

theorem parentOf_object_crowdedMerge : crowdedMerge.IsWellFormed ∧ (singleGit crowdedMerge).Succeeds [] (probe "abcd") ∧
    singleGit crowdedMerge ([] ++ [probe "abcd"]) (object "abcd") = .exited 0 (Text.encode crowdedMerge.text) [] ∧
    ((parentOf {} "abcd").start (singleGit crowdedMerge)).1 = .ok "aaaa" := by
  have hform : crowdedMerge.IsWellFormed := by decide
  have hpresent : (singleGit crowdedMerge).Succeeds [] (probe "abcd") := ⟨_, _, rfl⟩
  have hprint : singleGit crowdedMerge ([] ++ [probe "abcd"]) (object "abcd") =
      .exited 0 (Text.encode crowdedMerge.text) [] := by rw [singleGit, if_pos rfl]
  exact ⟨hform, hpresent, hprint, (parentOf_object hform hpresent hprint rfl).1 "aaaa" ["bbbb"] rfl⟩

/-- A commit without parents, with one in the name of its author. -/
def strayedRoot : CommitObject where
  tree := "4b825dc6"
  parents := []
  author := "A\x0cparent bbbb <a@b.c> 0 +0000"
  committer := "A <a@b.c> 0 +0000"
  further := []
  message := "m\n"

/-- What is behind a form feed in a name is returned as a parent. -/
theorem parentOf_strayedRoot : strayedRoot.IsWellFormed ∧ strayedRoot.parents = [] ∧
    ((parentOf {} "abcd").start (singleGit strayedRoot)).1 = .ok "bbbb" := by
  have hform : strayedRoot.IsWellFormed := by decide
  have hprint : singleGit strayedRoot ([] ++ [probe "abcd"]) (object "abcd") =
      .exited 0 (Text.encode strayedRoot.text) [] := by rw [singleGit, if_pos rfl]
  refine ⟨hform, rfl, ?_⟩
  rw [Session.start, resume_parentOf ⟨_, _, rfl⟩ hprint, decodeOutput_encode, firstParent_text hform]
  rfl

end History

end RuleReview
