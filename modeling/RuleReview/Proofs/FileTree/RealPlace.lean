import Mathlib.Data.List.Perm.Subperm
import Mathlib.Data.List.TakeWhile
import RuleReview.Proofs.FileTree.Leads
import RuleReview.Proofs.FileTree.Relative
import RuleReview.Proofs.FileTree.Walk

/-! # The real place of what is found

A path that leads to an entry has its real place there: every link on the way is resolved to where it leads, if its own
path is short enough to be looked at, and the steps that are counted for a tree are enough. Two facts carry this. A link
that is being opened is not met again on the way of its target, since it would have to open itself as one of fewer
links. And the links that are open at one time are different ones of the tree, so that the names of their targets are
counted.
-/
namespace RuleReview
open Entry

namespace Entry

mutual

/-- The links of an entry, each with its target and the names that lead to it. -/
def links : Entry → List (List Text × Text)
  | .link target => [([], target)]
  | .file _ => []
  | .dir es => linksIn es

def linksIn : List (Text × Entry) → List (List Text × Text)
  | [] => []
  | (n, e) :: es => (links e).map (fun l => (n :: l.1, l.2)) ++ linksIn es

end

/-- How many names the targets of links have, each of them one more for the link. -/
def openedSize : List (List Text × Text) → ℕ
  | [] => 0
  | l :: ls => (Path.ofText l.2).names.length + 1 + openedSize ls

variable {t e x : Entry} {es : List (Text × Entry)} {place names p q : List Text} {n target : Text} {k : ℕ}
  {ls ms : List (List Text × Text)}

theorem openedSize_append (ls ms : List (List Text × Text)) : openedSize (ls ++ ms) = openedSize ls + openedSize ms := by
  induction ls with
  | nil => exact (Nat.zero_add _).symm
  | cons l ls ih =>
    rw [List.cons_append, openedSize, openedSize, ih]
    omega

theorem openedSize_perm (h : ls.Perm ms) : openedSize ls = openedSize ms := by
  induction h with
  | nil => rfl
  | cons l _ ih => rw [openedSize, openedSize, ih]
  | swap l m ls =>
    simp only [openedSize]
    omega
  | trans _ _ ih ih' => exact ih.trans ih'

theorem openedSize_le (h : ls.Sublist ms) : openedSize ls ≤ openedSize ms := by
  induction h with
  | slnil => exact le_rfl
  | cons m _ ih =>
    rw [openedSize]
    omega
  | cons_cons m _ ih =>
    rw [openedSize, openedSize]
    omega

theorem openedSize_below (n : Text) (ls : List (List Text × Text)) :
    openedSize (ls.map fun l => (n :: l.1, l.2)) = openedSize ls := by
  induction ls with
  | nil => rfl
  | cons l ls ih => rw [List.map_cons, openedSize, openedSize, ih]

theorem openedSize_links (e : Entry) : openedSize e.links = e.linkSize := by
  induction e using Entry.induction with
  | file bytes => rfl
  | link target => rfl
  | dir es ih =>
    rw [links, linkSize]
    induction es with
    | nil => rfl
    | cons y es ihes =>
      obtain ⟨n, y⟩ := y
      obtain ⟨hy, hes⟩ := List.forall_mem_cons.mp ih
      rw [linksIn, linkSizes, openedSize_append, openedSize_below, ihes hes, hy]

theorem mem_linksIn (hx : (n, x) ∈ es) {l : List Text × Text} (hl : l ∈ x.links) : (n :: l.1, l.2) ∈ linksIn es := by
  induction es with
  | nil => cases hx
  | cons y es ih =>
    obtain ⟨m, y⟩ := y
    rw [linksIn, List.mem_append]
    rcases List.mem_cons.mp hx with h | h
    · cases h
      exact .inl (List.mem_map_of_mem hl)
    · exact .inr (ih h)

theorem mem_links_of_at? (h : e.at? p = some (.link target)) : (p, target) ∈ e.links := by
  induction p generalizing e with
  | nil =>
    cases h
    exact List.mem_singleton_self _
  | cons n p ih =>
    cases e with
    | dir es =>
      rw [at?_dir_cons, Option.bind_eq_some_iff] at h
      obtain ⟨x, hx, hp⟩ := h
      obtain ⟨l₁, l₂, hsplit, -⟩ := List.lookup_eq_some_iff.mp hx
      have hmem : (n, x) ∈ es := hsplit ▸ List.mem_append_right l₁ List.mem_cons_self
      exact mem_linksIn hmem (ih hp)
    | _ => cases h

theorem openedSize_le_linkSize {os : List (List Text × Text)} (hnodup : os.Nodup)
    (hos : ∀ o ∈ os, t.at? o.1 = some (.link o.2)) : openedSize os ≤ t.linkSize := by
  have hsub : os ⊆ t.links := fun o ho => mem_links_of_at? (hos o ho)
  obtain ⟨l, hperm, hl⟩ := List.subperm_of_subset hnodup hsub
  rw [← openedSize_links, ← openedSize_perm hperm]
  exact openedSize_le hl

/-- Every link stands where a path is short enough to be looked at. -/
def HasShortLinks (t : FileTree) : Prop :=
  ∀ q target, t.at? q = some (.link target) → IsFollowed (Path.ofPlace q).toText

theorem hasShortLinks (h : ∀ l ∈ t.links, IsFollowed (Path.ofPlace l.1).toText) : t.HasShortLinks :=
  fun _ _ hx => h _ (mem_links_of_at? hx)

theorem find_ofPlace (hnames : ∀ n ∈ q, IsEntryName n) (hx : t.at? q = some x)
    (hshort : IsFollowed (Path.ofPlace q).toText) : t.find false (.ofPlace q) = .ok x :=
  find_eq_ok_iff.mpr ⟨q, locate_eq_ok.mpr ⟨hshort, 0, by decide, leads_below hnames hx⟩, hx⟩

theorem at?_of_find_ofPlace (hnames : ∀ n ∈ q, IsEntryName n) (hx : t.at? q = some x) {y : Entry}
    (hy : t.find false (.ofPlace q) = .ok y) : x = y := by
  obtain ⟨q', hq', hat⟩ := find_eq_ok_iff.mp hy
  obtain ⟨k, hk⟩ := leadsTo_of_locate hq'
  obtain ⟨rfl, -⟩ := hk.unique (leads_below hnames hx)
  exact Option.some.inj (hx.symm.trans hat)

end Entry

namespace Real

/-- Names without those that are single dots, which are dropped when a path is read. -/
def undotted (names : List Text) : List Text := names.filter (· != ['.'])

/-- A link leads somewhere when its target does, which is followed from where the link stands. -/
def LinkLeads (t : FileTree) (l q : List Text) (k : ℕ) : Prop :=
  ∃ target, t.at? l = some (.link target) ∧ Leads t true (linkStart l.dropLast target) (Path.stepsOf target) q k

/-- What was noted of links says where they lead. -/
def IsRight (t : FileTree) (seen : List (Path × Option Path)) : Prop :=
  ∀ l p, seen.lookup (.ofPlace l) = some (some p) → ∃ q k, p = .ofPlace q ∧ LinkLeads t l q k

/-- Links that are being opened: different ones of the tree, on whose ways not fewer links are opened. -/
structure AreOpen (t : FileTree) (k : ℕ) (os : List (List Text × Text)) : Prop where
  nodup : os.Nodup
  link : ∀ o ∈ os, t.at? o.1 = some (.link o.2)
  costs : ∀ o ∈ os, ∃ q l, LinkLeads t o.1 q l ∧ k ≤ l

variable {t : FileTree} {seen : List (Path × Option Path)} {os : List (List Text × Text)}
  {place names parts rest p q q' l m : List Text} {n target : Text} {k k' fuel : ℕ} {o o' : Option Path}

theorem undotted_cons (hn : n ≠ ['.']) : undotted (n :: names) = n :: undotted names :=
  List.filter_cons_of_pos (by simpa using hn)

theorem undotted_stepsOf (target : Text) : undotted (Path.stepsOf target) = (Path.ofText target).names := by
  have hnamed : undotted ((target.splitOn '/').filter Path.isNamed) = (target.splitOn '/').filter Path.isNamed := by
    refine List.filter_eq_self.mpr fun n hn => ?_
    have := (List.mem_filter.mp hn).2
    rw [Path.isNamed, Bool.and_eq_true] at this
    exact this.2
  rw [Path.stepsOf, undotted, List.filter_append]
  change undotted ((target.splitOn '/').filter Path.isNamed) ++ _ = _
  rw [hnamed]
  split_ifs
  · exact List.append_nil _
  · exact List.append_nil _

theorem LinkLeads.unique (h : LinkLeads t l q k) (h' : LinkLeads t l q' k') : q = q' ∧ k = k' := by
  obtain ⟨target, htarget, h⟩ := h
  obtain ⟨target', htarget', h'⟩ := h'
  obtain rfl : target = target' := Entry.link.inj (Option.some.inj (htarget.symm.trans htarget'))
  exact h.unique h'

theorem AreOpen.mono (h : AreOpen t k' os) (hk : k ≤ k') : AreOpen t k os where
  nodup := h.nodup
  link := h.link
  costs o ho := by
    obtain ⟨q, l, hl, hle⟩ := h.costs o ho
    exact ⟨q, l, hl, hk.trans hle⟩

theorem AreOpen.opened (h : AreOpen t k' os) (hk : k < k') (hx : t.at? l = some (.link target))
    (hl : LinkLeads t l q k) : AreOpen t k ((l, target) :: os) where
  nodup := by
    refine List.nodup_cons.mpr ⟨fun hmem => ?_, h.nodup⟩
    obtain ⟨q', k'', hl', hle⟩ := h.costs _ hmem
    have := (hl.unique hl').2
    omega
  link o ho := by
    rcases List.mem_cons.mp ho with rfl | ho
    · exact hx
    · exact h.link o ho
  costs o ho := by
    rcases List.mem_cons.mp ho with rfl | ho
    · exact ⟨q, k, hl, le_rfl⟩
    · exact (h.mono hk.le).costs o ho

/-- Open links never count for more than the tree does, so that there is a step left. -/
theorem AreOpen.exists_fuel (h : AreOpen t k os) {m : ℕ} (hfuel : m + t.linkSize < fuel + openedSize os) :
    ∃ f, fuel = f + 1 := by
  have hsum := openedSize_le_linkSize h.nodup h.link
  exact ⟨fuel - 1, by omega⟩

theorem AreOpen.exists_fuel_cons (h : AreOpen t k os) (hn : n ≠ ['.'])
    (hfuel : (undotted (n :: names)).length + t.linkSize < fuel + openedSize os) :
    ∃ f, fuel = f + 1 ∧ (undotted names).length + t.linkSize < f + openedSize os := by
  obtain ⟨f, rfl⟩ := h.exists_fuel hfuel
  rw [undotted_cons hn, List.length_cons] at hfuel
  exact ⟨f, rfl, by omega⟩

theorem lookup_noted {a b : Path} :
    ((a, o) :: seen).lookup b = some o' ↔ b = a ∧ o = o' ∨ b ≠ a ∧ seen.lookup b = some o' := by
  by_cases h : b = a
  · simp [h]
  · simp [List.lookup_cons, beq_eq_false_iff_ne.mpr h, h]

theorem ofPlace_inj : Path.ofPlace l = Path.ofPlace m ↔ l = m := by simp [Path.ofPlace]

theorem IsRight.known (h : IsRight t seen) (hl : LinkLeads t l p k) :
    IsRight t ((.ofPlace l, some (.ofPlace p)) :: seen) := by
  intro m q hm
  rcases lookup_noted.mp hm with ⟨hml, hp⟩ | ⟨-, hm⟩
  · cases hp
    exact ⟨p, k, rfl, ofPlace_inj.mp hml ▸ hl⟩
  · exact h m q hm

theorem IsRight.opened (h : IsRight t seen) (a : Path) : IsRight t ((a, none) :: seen) := by
  intro m q hm
  rcases lookup_noted.mp hm with ⟨-, hp⟩ | ⟨-, hm⟩
  · cases hp
  · exact h m q hm

/-- The links that are noted without a real path are among the open ones. -/
def OpenAmong (seen : List (Path × Option Path)) (os : List (List Text × Text)) : Prop :=
  ∀ l, seen.lookup (.ofPlace l) = some none → ∃ target, (l, target) ∈ os

theorem OpenAmong.opened (h : OpenAmong seen os) (l : List Text) (target : Text) :
    OpenAmong ((.ofPlace l, none) :: seen) ((l, target) :: os) := by
  intro m hm
  rcases lookup_noted.mp hm with ⟨hml, -⟩ | ⟨-, hm⟩
  · exact ⟨target, ofPlace_inj.mp hml ▸ List.mem_cons_self⟩
  · obtain ⟨target', hmem⟩ := h m hm
    exact ⟨target', List.mem_cons_of_mem _ hmem⟩

theorem lookup_closed {seen' : List (Path × Option Path)} {a b p : Path}
    (h : ∀ m, seen'.lookup m = some none → ((a, none) :: seen).lookup m = some none)
    (hm : ((a, some p) :: seen').lookup b = some none) : seen.lookup b = some none := by
  rcases lookup_noted.mp hm with ⟨-, hp⟩ | ⟨hne, hm⟩
  · cases hp
  · exact ((lookup_noted.mp (h b hm)).resolve_left fun hl => hne hl.1).2

section Steps

theorem above_ofPlace (hplace : ∀ n ∈ place, IsEntryName n) : (Path.ofPlace place).above = .ofPlace place.dropLast := by
  rcases List.eq_nil_or_concat' place with rfl | ⟨front, n, rfl⟩
  · rfl
  · have hn : n ≠ ['.', '.'] := (hplace n (by simp)).ne_dots
    rw [Path.above, show (Path.ofPlace (front ++ [n])).names.getLast? = some n from List.getLast?_concat]
    exact if_neg hn

theorem exists_dropWhile (h : parts.filter Path.isNamed = n :: names) :
    ∃ rest, parts.dropWhile (!Path.isNamed ·) = n :: rest ∧ rest.filter Path.isNamed = names := by
  obtain ⟨before, rest, rfl, hbefore, hn, rfl⟩ := List.filter_eq_cons_iff.mp h
  refine ⟨rest, ?_, rfl⟩
  rw [List.dropWhile_append_of_pos fun m hm => by simpa using hbefore m hm]
  exact List.dropWhile_cons_of_neg (by simpa using hn)

theorem dropWhile_eq_nil (h : parts.filter Path.isNamed = []) : parts.dropWhile (!Path.isNamed ·) = [] := by
  rw [List.dropWhile_eq_nil_iff]
  intro n hn
  simpa using List.filter_eq_nil_iff.mp h n hn

theorem follow_end (h : parts.filter Path.isNamed = []) (a : Path) :
    follow t (fuel + 1) seen a parts = ⟨a, false, seen⟩ := by
  rw [follow, dropWhile_eq_nil h]

theorem follow_up (hplace : ∀ n ∈ place, IsEntryName n) (h : parts.dropWhile (!Path.isNamed ·) = ['.', '.'] :: rest) :
    follow t (fuel + 1) seen (.ofPlace place) parts = follow t fuel seen (.ofPlace place.dropLast) rest := by
  rw [follow, h, ← above_ofPlace hplace]
  exact if_pos rfl

theorem follow_down {x : Entry} (hplace : ∀ m ∈ place ++ [n], IsEntryName m)
    (h : parts.dropWhile (!Path.isNamed ·) = n :: rest) (hx : t.at? (place ++ [n]) = some x)
    (hlink : ∀ target, x ≠ .link target) :
    follow t (fuel + 1) seen (.ofPlace place) parts = follow t fuel seen (.ofPlace (place ++ [n])) rest := by
  have hn : n ≠ ['.', '.'] := (hplace n (by simp)).ne_dots
  rw [follow, h]
  simp only [if_neg hn]
  split
  · next target htarget => exact absurd (at?_of_find_ofPlace hplace hx htarget) (hlink target)
  · rfl

variable (hplace : ∀ m ∈ place ++ [n], IsEntryName m) (h : parts.dropWhile (!Path.isNamed ·) = n :: rest)
  (hfind : t.find false (.ofPlace (place ++ [n])) = .ok (.link target))
include hplace h hfind

theorem follow_known (hknown : seen.lookup (.ofPlace (place ++ [n])) = some (some (.ofPlace p))) :
    follow t (fuel + 1) seen (.ofPlace place) parts = follow t fuel seen (.ofPlace p) rest := by
  have hn : n ≠ ['.', '.'] := (hplace n (by simp)).ne_dots
  change t.find false ((Path.ofPlace place).child n) = _ at hfind
  change seen.lookup ((Path.ofPlace place).child n) = _ at hknown
  rw [follow, h]
  simp only [if_neg hn, hfind, hknown]

theorem follow_new {seen' : List (Path × Option Path)} (hnew : seen.lookup (.ofPlace (place ++ [n])) = none)
    (htarget : follow t fuel ((.ofPlace (place ++ [n]), none) :: seen) (.ofPlace (linkStart place target))
      (target.splitOn '/') = ⟨.ofPlace p, false, seen'⟩) :
    follow t (fuel + 1) seen (.ofPlace place) parts =
      follow t fuel ((.ofPlace (place ++ [n]), some (.ofPlace p)) :: seen') (.ofPlace p) rest := by
  have hn : n ≠ ['.', '.'] := (hplace n (by simp)).ne_dots
  have hstart : (if target.startsWith "/" then .root else .ofPlace place) = Path.ofPlace (linkStart place target) := by
    rw [linkStart]
    split <;> rfl
  change t.find false ((Path.ofPlace place).child n) = _ at hfind
  change seen.lookup ((Path.ofPlace place).child n) = _ at hnew
  change follow t fuel (((Path.ofPlace place).child n, none) :: seen) _ _ = _ at htarget
  rw [← hstart] at htarget
  rw [follow, h]
  simp only [if_neg hn, hfind, hnew, htarget, Bool.false_eq_true, if_false]
  rfl

end Steps

theorem isEntryName_linkStart (hplace : ∀ n ∈ place, IsEntryName n) (target : Text) :
    ∀ n ∈ linkStart place target, IsEntryName n := by
  rw [linkStart]
  split_ifs
  · exact List.forall_mem_nil _
  · exact hplace

/-- Names that lead to a place are followed there. The steps that are left pay for the names and for the links of the
tree that are not open. -/
theorem follow_eq_of_leads (ht : t.HasShortLinks) (h : Leads t true place names q k)
    (hplace : ∀ n ∈ place, IsEntryName n) (hparts : parts.filter Path.isNamed = undotted names) (hseen : IsRight t seen)
    (hos : AreOpen t k os) (hopen : OpenAmong seen os)
    (hfuel : (undotted names).length + t.linkSize < fuel + openedSize os) :
    ∃ seen', follow t fuel seen (.ofPlace place) parts = ⟨.ofPlace q, false, seen'⟩ ∧ IsRight t seen' ∧
      ∀ a, seen'.lookup a = some none → seen.lookup a = some none := by
  generalize htrue : true = asked at h
  induction h generalizing seen os fuel parts with
  | here =>
    obtain ⟨fuel, rfl⟩ := hos.exists_fuel hfuel
    exact ⟨seen, follow_end hparts _, hseen, fun _ => id⟩
  | same hdir _ ih => exact ih hplace hparts hseen hos hopen hfuel htrue
  | up hdir _ ih =>
    obtain ⟨fuel, rfl, hrest⟩ := hos.exists_fuel_cons (by decide) hfuel
    rw [undotted_cons (by decide)] at hparts
    obtain ⟨rest, hdrop, hnamed⟩ := exists_dropWhile hparts
    rw [follow_up hplace hdrop]
    exact ih (fun n hn => hplace n (List.mem_of_mem_dropLast hn)) hnamed hseen hos hopen hrest htrue
  | down hn hx hlink _ ih =>
    obtain ⟨fuel, rfl, hrest⟩ := hos.exists_fuel_cons hn.ne_dot hfuel
    rw [undotted_cons hn.ne_dot] at hparts
    obtain ⟨rest, hdrop, hnamed⟩ := exists_dropWhile hparts
    have hbelow := List.forall_mem_append.mpr ⟨hplace, List.forall_mem_singleton.mpr hn⟩
    rw [follow_down hbelow hdrop hx hlink]
    exact ih hbelow hnamed hseen hos hopen hrest htrue
  | stay => cases htrue
  | @through asked place names p q n target k l hn hx _ htarget _ ihtarget ih =>
    obtain ⟨fuel, rfl, hrest⟩ := hos.exists_fuel_cons hn.ne_dot hfuel
    rw [undotted_cons hn.ne_dot] at hparts
    obtain ⟨rest, hdrop, hnamed⟩ := exists_dropWhile hparts
    have hbelow := List.forall_mem_append.mpr ⟨hplace, List.forall_mem_singleton.mpr hn⟩
    have hfind : t.find false (.ofPlace (place ++ [n])) = .ok (.link target) := find_ofPlace hbelow hx (ht _ _ hx)
    have hstart := isEntryName_linkStart hplace target
    have hend : ∀ m ∈ p, IsEntryName m := htarget.isEntryName hstart
    have hlink : LinkLeads t (place ++ [n]) p k := by
      refine ⟨target, hx, ?_⟩
      rw [List.dropLast_concat]
      exact htarget
    cases hnoted : seen.lookup (.ofPlace (place ++ [n])) with
    | some noted =>
      cases noted with
      | some p' =>
        obtain ⟨q', k', rfl, hlink'⟩ := hseen _ _ hnoted
        obtain ⟨rfl, -⟩ := hlink.unique hlink'
        rw [follow_known hbelow hdrop hfind hnoted]
        exact ih hend hnamed hseen (hos.mono (by omega)) hopen hrest htrue
      | none =>
        obtain ⟨target', hmem⟩ := hopen _ hnoted
        obtain ⟨q', l', hlink', hle⟩ := hos.costs _ hmem
        have := (hlink.unique hlink').2
        omega
    | none =>
      have hos' : AreOpen t k ((place ++ [n], target) :: os) := hos.opened (by omega) hx hlink
      have hfuel' : (undotted (Path.stepsOf target)).length + t.linkSize <
          fuel + openedSize ((place ++ [n], target) :: os) := by
        rw [openedSize, undotted_stepsOf, ← Nat.add_assoc, ← Nat.add_assoc]
        dsimp only
        omega
      obtain ⟨seen', hfollow, hright, hkept⟩ :=
        ihtarget hstart (undotted_stepsOf target).symm (hseen.opened _) hos' (hopen.opened _ target) hfuel' rfl
      rw [follow_new hbelow hdrop hfind hnoted hfollow]
      have hopen' : OpenAmong ((.ofPlace (place ++ [n]), some (.ofPlace p)) :: seen') os := fun m hm =>
        hopen m (lookup_closed hkept hm)
      obtain ⟨seen'', hfollow', hright', hkept'⟩ :=
        ih hend hnamed (hright.known hlink) (hos.mono (by omega)) hopen' hrest htrue
      exact ⟨seen'', hfollow', hright', fun a ha => lookup_closed hkept (hkept' a ha)⟩

end Real

theorem Path.isNamed_ofText (s : Text) : ∀ n ∈ (ofText s).names, isNamed n = true := fun _ hn => (List.mem_filter.mp hn).2

namespace Entry
variable {t : FileTree} {a : Path} {q : List Text}

/-- The real path of a path that leads somewhere is where it leads, if its links are short enough to be looked at. -/
theorem realPath_eq (ht : t.HasShortLinks) (h : t.LeadsTo true a q) (habs : a.absolute = true)
    (hnamed : ∀ n ∈ a.names, Path.isNamed n = true) : t.realPath a = .ofPlace q := by
  obtain ⟨k, hk⟩ := h
  have hright : Real.IsRight t [] := fun _ _ h => by cases h
  have hnone : Real.AreOpen t k [] := ⟨List.nodup_nil, List.forall_mem_nil _, List.forall_mem_nil _⟩
  have hparts : a.names.filter Path.isNamed = Real.undotted a.names := by
    refine List.filter_congr fun n hn => ?_
    have := hnamed n hn
    rw [Path.isNamed, Bool.and_eq_true] at this
    rw [hnamed n hn, this.2]
  have hfuel : (Real.undotted a.names).length + t.linkSize < t.realSteps a + 0 := by
    have : (Real.undotted a.names).length ≤ a.names.length := List.length_filter_le _ _
    rw [realSteps, pathLimit]
    omega
  obtain ⟨seen, hfollow, -⟩ :=
    Real.follow_eq_of_leads ht hk (List.forall_mem_nil _) hparts hright hnone (fun _ h => by cases h) hfuel
  have hdots : ['.', '.'] ∉ q := fun hq => (hk.isEntryName (List.forall_mem_nil _) _ hq).ne_dots rfl
  have hreal : t.real a = ⟨.ofPlace q, false, seen⟩ := by
    rw [real, habs]
    exact hfollow
  rw [realPath, hreal]
  exact congrArg Path.ofPlace (Path.normalNames_eq_self hdots)

/-- Where a path leads with its links followed is what is left of it when they are replaced. -/
def IsResolved (t : FileTree) (a : Path) : Prop := ∀ q, t.LeadsTo true a q → t.realPlace a = q

theorem isResolved (ht : t.HasShortLinks) (habs : a.absolute = true) (hnamed : ∀ n ∈ a.names, Path.isNamed n = true) :
    t.IsResolved a := by
  intro q hq
  rw [realPlace, realPath_eq ht hq habs hnamed]
  rfl

theorem Leads.real {names : List Text} {k : ℕ} (h : Leads t true [] names q k) : Leads t true [] q q 0 := by
  obtain ⟨x, hx⟩ := h.exists_entry ⟨t, rfl⟩
  have hbelow : Leads t false [] q q 0 := leads_below (h.isEntryName (List.forall_mem_nil _)) hx
  cases q with
  | nil => exact .here
  | cons n q =>
    cases t with
    | dir es =>
      refine hbelow.opened (h.not_link fun target htop => ?_)
      cases htop
    | _ => cases hx

theorem Stride.entry_failed (t : FileTree) (e : FileProblem) : (Stride.failed e).entry t = .error e := rfl

theorem Stride.entry_reached {x : Entry} (hx : t.at? q = some x) : (Stride.reached q).entry t = .ok x := by
  simp only [Stride.entry, Stride.place, bind, Except.bind, hx]
  rfl

theorem resolve_of_locate (ht : t.HasShortLinks) (h : t.locate true a = .ok q) (habs : a.absolute = true)
    (hnamed : ∀ n ∈ a.names, Path.isNamed n = true) : t.resolve a = .ok (.ofPlace q) := by
  obtain ⟨hshort, k, -, hk⟩ := locate_eq_ok.mp h
  obtain ⟨x, hx⟩ := hk.exists_entry ⟨t, rfl⟩
  have hfind : t.find true (.ofPlace q) ≠ .error .tooManyLinks := by
    rw [find, strideOf]
    split_ifs
    · simp [Stride.entry_failed]
    · simp [Stride.entry_failed]
    · rw [show (Path.ofPlace q).names = q from rfl, hk.real.strideFrom_eq, if_pos (by decide), Stride.entry_reached hx]
      simp
  have hzero : ¬a.toText.contains '\x00' = true := by simpa using hshort.1
  rw [resolve, if_neg hzero]
  simp only [realPath_eq ht ⟨k, hk⟩ habs hnamed]

end Entry

end RuleReview
