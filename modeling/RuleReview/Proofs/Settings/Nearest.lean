import RuleReview.Proofs.FileTree.RealPlace
import RuleReview.Proofs.Settings.Loading

/-! # The nearest settings file

Settings are looked for in a directory and in those above it, up to the last one that may be looked into, both with
their links resolved. The nearest file is taken and the directories above it are left alone. One thing only ends the
search early: a settings file, or what it links to, whose path is too long to be looked at.
-/
namespace RuleReview.Settings
variable {t t' : FileTree} {start stop : Path} {last first place p q : List Text} {levels : ℕ} {e : Failure}

def fileAt (place : List Text) : Path := .ofPlace (place ++ [fileName])

/-- A directory is looked into when the nearer ones hold no settings file. -/
structure IsConsulted (t : FileTree) (last start place : List Text) : Prop where
  within : last <+: place
  above : place <+: start
  bare : ∀ p, place <+: p → p <+: start → p ≠ place → t.hasFile (fileAt p) = .ok false

/-- What is answered at a directory where the search ends. -/
def answer (t : FileTree) (place : List Text) : Except Failure (Option Path) :=
  ((t.hasFile (fileAt place)).mapError (.noFile (fileAt place).toText)).map fun _ => some (fileAt place)

theorem answer_eq_ok (hp : t.hasFile (fileAt place) ≠ .ok false) {o : Option Path} :
    answer t place = .ok o ↔ t.hasFile (fileAt place) = .ok true ∧ o = some (fileAt place) := by
  simp only [answer, map_eq_ok, mapError_eq_ok]
  constructor
  · rintro ⟨b, hb, rfl⟩
    cases b with
    | true => exact ⟨hb, rfl⟩
    | false => exact absurd hb hp
  · rintro ⟨hb, rfl⟩
    exact ⟨true, hb, rfl⟩

theorem answer_eq_error : answer t place = .error e ↔
    t.hasFile (fileAt place) = .error .nameTooLong ∧ e = .noFile (fileAt place).toText .nameTooLong := by
  simp only [answer, map_eq_error, mapError_eq_error]
  constructor
  · rintro ⟨problem, hproblem, rfl⟩
    obtain ⟨-, rfl⟩ := Entry.hasFile_eq_error.mp hproblem
    exact ⟨hproblem, rfl⟩
  · rintro ⟨hlong, rfl⟩
    exact ⟨_, hlong, rfl⟩

section Levels

theorem prefix_dropLast_or_eq (h : p <+: place) : p <+: place.dropLast ∨ p = place := by
  rcases List.eq_nil_or_concat' place with rfl | ⟨front, n, rfl⟩
  · exact .inl h
  · rw [List.dropLast_concat]
    exact (List.prefix_concat_iff.mp h).symm

theorem IsConsulted.self (h : last <+: place) : IsConsulted t last place place where
  within := h
  above := List.prefix_rfl
  bare _ hp hp' hne := absurd (hp'.eq_of_length_le hp.length_le) hne

theorem IsConsulted.step (hbare : t.hasFile (fileAt place) = .ok false) (h : IsConsulted t last place.dropLast q) :
    IsConsulted t last place q where
  within := h.within
  above := h.above.trans (List.dropLast_prefix place)
  bare p hqp hp hne := by
    rcases prefix_dropLast_or_eq hp with hp | rfl
    · exact h.bare p hqp hp hne
    · exact hbare

theorem IsConsulted.unique (hp : IsConsulted t last place p) (hpfile : t.hasFile (fileAt p) ≠ .ok false)
    (hq : IsConsulted t last place q) (hqfile : t.hasFile (fileAt q) ≠ .ok false) : p = q := by
  by_contra hne
  rcases List.prefix_or_prefix_of_prefix hp.above hq.above with hpq | hqp
  · exact hqfile (hp.bare q hpq hq.above (Ne.symm hne))
  · exact hpfile (hq.bare p hqp hp.above hne)

/-- Above any other directory than the last one there is one more, and the last one is still to come. -/
theorem prefix_dropLast (hin : last <+: place) (hlast : last ≠ place) : last <+: place.dropLast ∧ place ≠ [] := by
  refine ⟨(prefix_dropLast_or_eq hin).resolve_right hlast, ?_⟩
  rintro rfl
  exact hlast (List.prefix_nil.mp hin)

theorem findAbove_bare (hbare : t.hasFile (fileAt place) = .ok false) (hlast : last ≠ place) (hroot : place ≠ []) :
    findAbove t (some (.ofPlace last)) (levels + 1) (.ofPlace place) =
      findAbove t (some (.ofPlace last)) levels (.ofPlace place.dropLast) :=
  findAbove_above hbare (by simpa [Path.ofPlace] using hlast) hroot

theorem findAbove_last (hbare : t.hasFile (fileAt last) = .ok false) :
    findAbove t (some (.ofPlace last)) (levels + 1) (.ofPlace last) = .ok none := by
  change t.hasFile ((Path.ofPlace last).child fileName) = _ at hbare
  rw [findAbove, hbare]
  exact if_pos (.inl rfl)

theorem findAbove_answer (hfile : t.hasFile (fileAt place) ≠ .ok false) :
    findAbove t (some (.ofPlace last)) (levels + 1) (.ofPlace place) = answer t place := by
  rw [findAbove, answer]
  change ((t.hasFile (fileAt place)).mapError _ >>= _) = _
  cases h : t.hasFile (fileAt place) with
  | error problem => rfl
  | ok b =>
    cases b with
    | true => rfl
    | false => exact absurd h hfile

end Levels

/-- The search ends at the first directory that has something to answer, or it has passed all of them. The induction is
on the levels, of which there are enough to come to the last directory. -/
theorem findAbove_cases (hin : last <+: place) (hlevels : place.length < levels) :
    (∃ p, IsConsulted t last place p ∧ t.hasFile (fileAt p) ≠ .ok false ∧
      findAbove t (some (.ofPlace last)) levels (.ofPlace place) = answer t p) ∨
    (∀ p, last <+: p → p <+: place → t.hasFile (fileAt p) = .ok false) ∧
      findAbove t (some (.ofPlace last)) levels (.ofPlace place) = .ok none := by
  induction levels generalizing place with
  | zero => omega
  | succ levels ih =>
    by_cases hbare : t.hasFile (fileAt place) = .ok false
    swap
    · exact .inl ⟨place, .self hin, hbare, findAbove_answer hbare⟩
    by_cases hlast : last = place
    · subst hlast
      refine .inr ⟨fun p hp hp' => ?_, findAbove_last hbare⟩
      rw [hp'.eq_of_length_le hp.length_le]
      exact hbare
    obtain ⟨hup, hroot⟩ := prefix_dropLast hin hlast
    have hfewer : place.dropLast.length < levels := by
      have := List.length_pos_iff.mpr hroot
      rw [List.length_dropLast]
      omega
    rw [findAbove_bare hbare hlast hroot]
    rcases ih hup hfewer with ⟨p, hp, hfile, hanswer⟩ | ⟨hall, hnone⟩
    · exact .inl ⟨p, hp.step hbare, hfile, hanswer⟩
    · refine .inr ⟨fun p hp hp' => ?_, hnone⟩
      rcases prefix_dropLast_or_eq hp' with hp' | rfl
      · exact hall p hp hp'
      · exact hbare

/-- Only the settings files of the directories up to the last one tell how the search ends. -/
theorem findAbove_congr (hin : last <+: place)
    (h : ∀ p, last <+: p → p <+: place → t'.hasFile (fileAt p) = t.hasFile (fileAt p)) :
    findAbove t' (some (.ofPlace last)) levels (.ofPlace place) =
      findAbove t (some (.ofPlace last)) levels (.ofPlace place) := by
  induction levels generalizing place with
  | zero => rfl
  | succ levels ih =>
    have hhere : t'.hasFile (fileAt place) = t.hasFile (fileAt place) := h place hin List.prefix_rfl
    by_cases hbare : t.hasFile (fileAt place) = .ok false
    swap
    · rw [findAbove_answer hbare, findAbove_answer (hhere ▸ hbare), answer, answer, hhere]
    by_cases hlast : last = place
    · subst hlast
      rw [findAbove_last hbare, findAbove_last (hhere.trans hbare)]
    obtain ⟨hup, hroot⟩ := prefix_dropLast hin hlast
    rw [findAbove_bare hbare hlast hroot, findAbove_bare (hhere.trans hbare) hlast hroot]
    exact ih hup fun p hp hp' => h p hp (hp'.trans (List.dropLast_prefix place))

theorem findFile_eq_findAbove (hstart : t.resolve start = .ok (.ofPlace first))
    (hstop : t.resolve stop = .ok (.ofPlace last)) :
    findFile t start (some stop) = findAbove t (some (.ofPlace last)) (first.length + 1) (.ofPlace first) := by
  rw [findFile_of_resolve hstart]
  change (t.resolve stop).map some >>= _ = _
  rw [hstop]
  rfl

/-- For a directory and another one that it is in, or that it is itself, when both are resolved: the settings file that
is found is the one of the nearest directory that holds one, none is found exactly when none of the directories holds
one, and looking fails exactly when it comes to a file with too long a path first. Nothing above is looked at. -/
theorem findFile_nearest (hstart : t.resolve start = .ok (.ofPlace first))
    (hstop : t.resolve stop = .ok (.ofPlace last)) (hin : last <+: first) :
    (∀ f, findFile t start (some stop) = .ok (some f) ↔
      ∃ place, IsConsulted t last first place ∧ t.hasFile (fileAt place) = .ok true ∧ f = fileAt place) ∧
    (findFile t start (some stop) = .ok none ↔
      ∀ place, last <+: place → place <+: first → t.hasFile (fileAt place) = .ok false) ∧
    (∀ e, findFile t start (some stop) = .error e ↔
      ∃ place, IsConsulted t last first place ∧ t.hasFile (fileAt place) = .error .nameTooLong ∧
        e = .noFile (fileAt place).toText .nameTooLong) ∧
    ∀ t' : FileTree, t'.resolve start = .ok (.ofPlace first) → t'.resolve stop = .ok (.ofPlace last) →
      (∀ place, last <+: place → place <+: first → t'.hasFile (fileAt place) = t.hasFile (fileAt place)) →
      findFile t' start (some stop) = findFile t start (some stop) := by
  rw [findFile_eq_findAbove hstart hstop]
  refine ⟨fun f => ?found, ?none, fun e => ?failed, fun t' hstart' hstop' h => ?above⟩
  case above =>
    rw [findFile_eq_findAbove hstart' hstop']
    exact findAbove_congr hin h
  all_goals rcases findAbove_cases (t := t) hin (Nat.lt_succ_self _) with ⟨p, hp, hfile, hend⟩ | ⟨hall, hend⟩
  all_goals rw [hend]
  case found.inl =>
    rw [answer_eq_ok hfile]
    constructor
    · rintro ⟨htrue, hf⟩
      exact ⟨p, hp, htrue, Option.some.inj hf⟩
    · rintro ⟨q, hq, htrue, rfl⟩
      obtain rfl := hp.unique hfile hq (by simp [htrue])
      exact ⟨htrue, rfl⟩
  case found.inr =>
    refine ⟨nofun, ?_⟩
    rintro ⟨q, hq, htrue, -⟩
    rw [hall q hq.within hq.above] at htrue
    cases htrue
  case none.inl =>
    rw [answer_eq_ok hfile]
    exact ⟨nofun, fun hall => absurd (hall p hp.within hp.above) hfile⟩
  case none.inr => exact ⟨fun _ => hall, fun _ => rfl⟩
  case failed.inl =>
    rw [answer_eq_error]
    constructor
    · rintro ⟨hlong, he⟩
      exact ⟨p, hp, hlong, he⟩
    · rintro ⟨q, hq, hlong, rfl⟩
      obtain rfl := hp.unique hfile hq (by simp [hlong])
      exact ⟨hlong, rfl⟩
  case failed.inr =>
    refine ⟨nofun, ?_⟩
    rintro ⟨q, hq, hlong, -⟩
    rw [hall q hq.within hq.above] at hlong
    cases hlong

/-- A settings file at the top and one below it, and a link to a directory further below. -/
def nestedFolders : FileTree :=
  .dir [(fileName, .file []), ("d", .link "r/a/b"),
    ("r", .dir [(fileName, .file []), ("a", .dir [(fileName, .dir []), ("b", .dir [])])])]

theorem findFile_nearest_nestedFolders : nestedFolders.resolve (.ofText "/d") = .ok (.ofPlace ["r", "a", "b"]) ∧
    nestedFolders.resolve (.ofText "/d/../..") = .ok (.ofPlace ["r"]) ∧
    findFile nestedFolders (.ofText "/d") (some (.ofText "/d/../..")) = .ok (some (fileAt ["r"])) := by
  have hshort : nestedFolders.HasShortLinks := Entry.hasShortLinks (by decide +kernel)
  have hstart : nestedFolders.resolve (.ofText "/d") = .ok (.ofPlace ["r", "a", "b"]) :=
    Entry.resolve_of_locate hshort (by decide +kernel) rfl (Path.isNamed_ofText _)
  have hstop : nestedFolders.resolve (.ofText "/d/../..") = .ok (.ofPlace ["r"]) :=
    Entry.resolve_of_locate hshort (by decide +kernel) rfl (Path.isNamed_ofText _)
  have hin : (["r"] : List Text) <+: ["r", "a", "b"] := ⟨["a", "b"], rfl⟩
  have hbare : ∀ p ∈ List.inits (["r", "a", "b"] : List Text), (["r"] : List Text) <+: p → p ≠ ["r"] →
      nestedFolders.hasFile (fileAt p) = .ok false := by decide +kernel
  refine ⟨hstart, hstop, ((findFile_nearest hstart hstop hin).1 _).mpr ⟨["r"], ⟨List.prefix_rfl, hin, ?_⟩, ?_, rfl⟩⟩
  · exact fun p hp hp' hne => hbare p ((List.mem_inits _ _).mpr hp') hp hne
  · decide +kernel

/-- A settings file that is a link to a name no directory can hold. -/
def longTarget : FileTree := .dir [(fileName, .link (List.replicate 300 'x'))]

/-- No directory up to the last one holds a settings file there, and yet it is not said that there is none. -/
theorem findFile_longTarget : longTarget.resolve (.ofText "/") = .ok (.ofPlace []) ∧
    (∀ place, place <+: [] → ∀ bs, longTarget.find true (fileAt place) ≠ .ok (.file bs)) ∧
    findFile longTarget (.ofText "/") (some (.ofText "/")) ≠ .ok none := by
  have hroot : longTarget.resolve (.ofText "/") = .ok (.ofPlace []) :=
    Entry.resolve_of_locate (Entry.hasShortLinks (by decide +kernel)) (by decide +kernel) rfl (Path.isNamed_ofText _)
  have hfile : longTarget.hasFile (fileAt []) = .error .nameTooLong := by decide +kernel
  have hbusy : longTarget.hasFile (fileAt []) ≠ .ok false := by simp [hfile]
  refine ⟨hroot, fun place hplace bs => ?_, ?_⟩
  · obtain rfl := List.prefix_nil.mp hplace
    rw [(Entry.hasFile_eq_error.mp hfile).1]
    nofun
  · have hanswer : findFile longTarget (.ofText "/") (some (.ofText "/")) = answer longTarget [] := by
      rw [findFile_eq_findAbove hroot hroot]
      exact findAbove_answer hbusy
    rw [hanswer, answer_eq_error.mpr ⟨hfile, rfl⟩]
    nofun

end RuleReview.Settings
