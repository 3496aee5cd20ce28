import RuleReview.Change.Files
import RuleReview.Proofs.Success
import RuleReview.Proofs.Text.Lines

/-! # The names of a path

A name is not empty and holds no slash. Paths that are read have such names only, and so has whatever a path is
made into: its normal form, its place without links, and the way to it from another path. An entry is therefore
never shown under a path that starts with a slash.
-/
namespace RuleReview

/-- Every one of them can stand between two slashes of a path. -/
def AllNames (names : List Text) : Prop := ∀ n ∈ names, n ≠ [] ∧ '/' ∉ n

instance (names : List Text) : Decidable (AllNames names) :=
  inferInstanceAs (Decidable (∀ n ∈ names, n ≠ [] ∧ '/' ∉ n))

theorem AllNames.append {as bs : List Text} (ha : AllNames as) (hb : AllNames bs) : AllNames (as ++ bs) :=
  fun n hn => (List.mem_append.mp hn).elim (ha n) (hb n)

theorem AllNames.mono {as bs : List Text} (hb : AllNames bs) (h : as ⊆ bs) : AllNames as := fun n hn => hb n (h hn)

theorem AllNames.of_isPrefixOf? {names base rest : List Text} (h : AllNames names)
    (hrest : base.isPrefixOf? names = some rest) : AllNames rest :=
  h.mono (List.IsSuffix.subset ⟨base, List.append_eq_of_isPrefixOf?_eq_some hrest⟩)

namespace Path

def WellNamed (p : Path) : Prop := AllNames p.names

/-- Paths as they are told in words. -/
abbrev Named := {p : Path // p.WellNamed}

theorem wellNamed_ofText (s : Text) : (ofText s).WellNamed := by
  intro n hn
  obtain ⟨hs, hnamed⟩ := List.mem_filter.mp hn
  refine ⟨?_, Text.notMem_splitOn hs⟩
  rintro rfl
  simp [isNamed] at hnamed

def Named.ofText (s : Text) : Named := ⟨Path.ofText s, wellNamed_ofText s⟩

theorem WellNamed.join {p q : Path} (hp : p.WellNamed) (hq : q.WellNamed) : (p.join q).WellNamed := by
  rw [Path.join]
  split
  · exact hq
  · exact hp.append hq

theorem normalNames_subset (names : List Text) : normalNames names ⊆ names := by
  let step (done : List Text) (n : Text) := if n = "..".toList then done.dropLast else done ++ [n]
  have hstep : ∀ done : List Text, done ⊆ names → ∀ n ∈ names, step done n ⊆ names := by
    intro done hdone n hn
    by_cases hup : n = "..".toList
    · rw [show step done n = done.dropLast from if_pos hup]
      exact List.Subset.trans (List.dropLast_subset done) hdone
    · rw [show step done n = done ++ [n] from if_neg hup]
      exact List.append_subset.mpr ⟨hdone, List.cons_subset.mpr ⟨hn, List.nil_subset names⟩⟩
  exact List.foldlRecOn names step (motive := (· ⊆ names)) (List.nil_subset names) hstep

theorem WellNamed.normal {p : Path} (hp : p.WellNamed) : p.normal.WellNamed := hp.mono (normalNames_subset p.names)

theorem WellNamed.parent {p : Path} (hp : p.WellNamed) : p.parent.WellNamed :=
  hp.mono (List.dropLast_subset p.names)

theorem allNames_route (base : List Text) {names : List Text} (h : AllNames names) : AllNames (route base names) := by
  refine AllNames.append (fun n hn => ?_) (h.mono (List.drop_subset _ names))
  rw [List.eq_of_mem_replicate hn]
  exact ⟨by decide, by decide⟩

theorem head?_namesText {names : List Text} (h : AllNames names) : (namesText names).head? ≠ some '/' := by
  match names with
  | [] => decide
  | n :: ns =>
    obtain ⟨hne, hslash⟩ := h n List.mem_cons_self
    obtain ⟨c, cs, rfl⟩ := List.exists_cons_of_ne_nil hne
    have hc : c ≠ '/' := fun hc => hslash (hc ▸ List.mem_cons_self)
    have hhead : (namesText ((c :: cs) :: ns)).head? = some c := by
      cases ns <;> simp [namesText, Text.joinWith, List.intercalate_cons_cons]
    rw [hhead]
    simpa using hc

theorem WellNamed.child {p : Path} {n : Text} (hp : p.WellNamed) (hn : n ≠ [] ∧ '/' ∉ n) : (p.child n).WellNamed :=
  hp.append (List.forall_mem_singleton.mpr hn)

theorem WellNamed.above {p : Path} (hp : p.WellNamed) : p.above.WellNamed := by
  have hup : (p.child ['.', '.']).WellNamed := hp.child ⟨by decide, by decide⟩
  rw [Path.above]
  split
  · split
    · exact hp
    · exact hup
  · next n _ =>
    split
    · next hn => exact hn ▸ hup
    · exact hp.parent

theorem wellNamed_root : root.WellNamed := List.forall_mem_nil _

theorem WellNamed.orRoot {p : Path} (hp : p.WellNamed) (b : Bool) : (if b then root else p).WellNamed := by
  cases b with
  | true => exact wellNamed_root
  | false => exact hp

theorem WellNamed.whole {p : Path} (hp : p.WellNamed) : p.whole.WellNamed := (wellNamed_root.join hp).normal

end Path

namespace Real

/-- The real paths that are known have names only. -/
def AllNamed (seen : List (Path × Option Path)) : Prop := ∀ e ∈ seen, ∀ p, e.2 = some p → p.WellNamed

variable {seen : List (Path × Option Path)} {link p : Path} {parts rest : List Text} {n : Text}

theorem AllNamed.opened (h : AllNamed seen) (link : Path) : AllNamed ((link, none) :: seen) := by
  intro e he p hp
  rcases List.mem_cons.mp he with rfl | he
  · cases hp
  · exact h e he p hp

theorem AllNamed.known (h : AllNamed seen) (hp : p.WellNamed) (link : Path) : AllNamed ((link, some p) :: seen) := by
  intro e he q hq
  rcases List.mem_cons.mp he with rfl | he
  · cases hq
    exact hp
  · exact h e he q hq

theorem AllNamed.lookup (h : AllNamed seen) (hl : seen.lookup link = some (some p)) : p.WellNamed := by
  obtain ⟨l₁, l₂, hsplit, -⟩ := List.lookup_eq_some_iff.mp hl
  exact h (link, some p) (hsplit ▸ List.mem_append_right l₁ List.mem_cons_self) p rfl

theorem wellNamed_unresolved (hp : p.WellNamed) (parts : List Text) : (unresolved p parts seen).path.WellNamed :=
  hp.join (Path.wellNamed_ofText _)

theorem named_of_dropWhile (hparts : ∀ m ∈ parts, '/' ∉ m) (h : parts.dropWhile (!Path.isNamed ·) = n :: rest) :
    (n ≠ [] ∧ '/' ∉ n) ∧ ∀ m ∈ rest, '/' ∉ m := by
  have hsub : n :: rest ⊆ parts := h ▸ (List.dropWhile_sublist _).subset
  have hnamed : Path.isNamed n = true := by
    have := List.head_dropWhile_not (!Path.isNamed ·) (l := parts) (by simp [h])
    simpa [h] using this
  refine ⟨⟨?_, hparts n (hsub List.mem_cons_self)⟩, fun m hm => hparts m (hsub (List.mem_cons_of_mem n hm))⟩
  rintro rfl
  cases hnamed

/-- Following parts of a text from a path leads to names, as the targets of links are read from texts. -/
theorem wellNamed_follow (t : FileTree) (fuel : Nat) (seen : List (Path × Option Path)) (p : Path) (parts : List Text)
    (hseen : AllNamed seen) (hp : p.WellNamed) (hparts : ∀ n ∈ parts, '/' ∉ n) :
    (follow t fuel seen p parts).path.WellNamed ∧ AllNamed (follow t fuel seen p parts).seen := by
  fun_induction follow t fuel seen p parts with
  | case1 seen p parts => exact ⟨wellNamed_unresolved hp parts, hseen⟩
  | case2 => exact ⟨hp, hseen⟩
  | case3 fuel seen p parts rest hdrop ih => exact ih hseen hp.above (named_of_dropWhile hparts hdrop).2
  | case4 fuel seen p parts n rest hdrop hup target hlink q hq ih =>
    exact ih hseen (hseen.lookup hq) (named_of_dropWhile hparts hdrop).2
  | case5 fuel seen p parts n rest hdrop hup target hlink hopen =>
    exact ⟨wellNamed_unresolved (hp.child (named_of_dropWhile hparts hdrop).1) rest, hseen⟩
  | case6 fuel seen p parts n rest hdrop hup target hlink hnew start r hloop ih =>
    obtain ⟨hr, hrseen⟩ := ih (hseen.opened _) (hp.orRoot _) fun n hn => Text.notMem_splitOn hn
    exact ⟨wellNamed_unresolved hr rest, hrseen⟩
  | case7 fuel seen p parts n rest hdrop hup target hlink hnew start r hloop ihtarget ih =>
    obtain ⟨hr, hrseen⟩ := ihtarget (hseen.opened _) (hp.orRoot _) fun n hn => Text.notMem_splitOn hn
    exact ih (hrseen.known hr _) hr (named_of_dropWhile hparts hdrop).2
  | case8 fuel seen p parts n rest hdrop hup hlink ih =>
    obtain ⟨hn, hrest⟩ := named_of_dropWhile hparts hdrop
    exact ih hseen (hp.child hn) hrest

end Real

theorem Entry.allNames_realPlace (t : FileTree) {p : Path} (hp : p.WellNamed) : AllNames (t.realPlace p) := by
  have hstart : (⟨if p.absolute then .top else .here, []⟩ : Path).WellNamed := List.forall_mem_nil _
  have hnone : Real.AllNamed [] := List.forall_mem_nil _
  exact (Real.wellNamed_follow t _ [] _ p.names hnone hstart fun n hn => (hp n hn).2).1.whole

namespace Change

/-- An entry is shown under names of a path: its own, those of its place without links, or those of the way to it. -/
theorem shownPath_eq_ok {t : FileTree} {root p : Path} {shown : Text} (hp : p.WellNamed)
    (h : shownPath t root p = .ok shown) : ∃ names, AllNames names ∧ shown = Path.namesText names := by
  have hwhole : AllNames p.whole.names := hp.whole
  have hreal : AllNames (t.realPlace p.whole.parent ++ p.whole.names.getLast?.toList) :=
    (t.allNames_realPlace hp.whole.parent).append
      (hwhole.mono fun n hn => List.mem_of_getLast? (Option.mem_toList.mp hn))
  simp only [shownPath] at h
  split at h
  · next rest hrest =>
    rw [Path.from?] at hrest
    split at hrest
    · exact ⟨rest, hwhole.of_isPrefixOf? hrest, (pure_eq_ok.mp h).symm⟩
    · cases hrest
  · obtain ⟨_, -, h⟩ := bind_eq_ok.mp h
    split at h
    · next rest hrest => exact ⟨rest, hreal.of_isPrefixOf? hrest, (pure_eq_ok.mp h).symm⟩
    · exact ⟨_, Path.allNames_route _ hwhole, (pure_eq_ok.mp h).symm⟩

theorem head?_shownPath {t : FileTree} {root p : Path} {shown : Text} (hp : p.WellNamed)
    (h : shownPath t root p = .ok shown) : shown.head? ≠ some '/' := by
  obtain ⟨names, hnames, rfl⟩ := shownPath_eq_ok hp h
  exact Path.head?_namesText hnames

end Change

end RuleReview
