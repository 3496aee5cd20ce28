import Mathlib.Data.List.Perm.Basic
import RuleReview.Proofs.Distinct
import RuleReview.Proofs.FileTree.Removal

/-! # What is found below a folder

A walk finds every entry that is no directory, is in no directory with an excluded name, and is no link to a directory
under such a name. It finds each of them once, in an order that is told by the names alone.
-/
namespace RuleReview

namespace Path

theorem below_child (p : Path) (n : Text) (ns : List Text) : (p.child n).below ns = p.below (n :: ns) := by
  simp [below, child]

theorem below_injective (p : Path) : Function.Injective p.below := by
  intro as bs h
  exact List.append_cancel_left (congrArg names h)

end Path

namespace Entry

/-- What holds of files and links, and of a directory when it does of all its entries, holds of every entry. -/
theorem induction {P : Entry → Prop} (file : ∀ bytes, P (.file bytes)) (link : ∀ target, P (.link target))
    (dir : ∀ es, (∀ x ∈ es, P x.2) → P (.dir es)) (e : Entry) : P e := by
  match e with
  | .file bytes => exact file bytes
  | .link target => exact link target
  | .dir es => exact dir es fun x _ => induction file link dir x.2
termination_by sizeOf e
decreasing_by
  have hmem := List.sizeOf_lt_of_mem ‹x ∈ es›
  have hpair : sizeOf x = 1 + sizeOf x.1 + sizeOf x.2 := rfl
  simp only [Entry.dir.sizeOf_spec]
  omega

/-- No directory holds two entries under one name. -/
def IsSound (e : Entry) : Prop := ∀ place es, e.at? place = some (.dir es) → (es.map Prod.fst).Nodup

/-- Entries as they are found on a disk. -/
abbrev Sound := {e : Entry // e.IsSound}

/-- Names from a folder come before other ones when they differ first in a name that comes before the other one, or
are those of an entry beside the directory that the others lead into. -/
inductive Precedes : List Text → List Text → Prop
  | own {a b : Text} : a.Before b → Precedes [a] [b]
  | ownFirst {a b c : Text} {bs : List Text} : Precedes [a] (b :: c :: bs)
  | folder {a b c d : Text} {as bs : List Text} : a.Before b → Precedes (a :: c :: as) (b :: d :: bs)
  | inside {a : Text} {as bs : List Text} : Precedes as bs → Precedes (a :: as) (a :: bs)

/-- The directory under names is entered. -/
structure IsEntered (excluded : List Text) (e : Entry) (names : List Text) : Prop where
  ne_nil : names ≠ []
  directory : ∃ es, e.at? names = some (.dir es)
  kept : ∀ n ∈ names, n ∉ excluded

/-- The entry under a name in a folder below the one at a path is listed. -/
structure IsListed (t : FileTree) (excluded : List Text) (p : Path) (e : Entry) (folders : List Text) (n : Text) : Prop where
  kept : ∀ k ∈ folders, k ∉ excluded
  entry : ∃ x, e.at? (folders ++ [n]) = some x ∧ x.isDirectory = false ∧
    ¬(n ∈ excluded ∧ (∃ target, x = .link target) ∧ t.hasDirectory (p.below (folders ++ [n])) = .ok true)

variable {t : FileTree} {excluded names folders place : List Text} {p : Path} {e x : Entry} {n : Text}
  {es : List (Text × Entry)} {l : List (Text × Listed)}

section Sound

theorem IsSound.at? (h : e.IsSound) (hx : e.at? place = some x) : x.IsSound := by
  intro names es hes
  refine h (place ++ names) es ?_
  rw [at?_append, hx, Option.bind_some, hes]

theorem IsSound.nodup (h : (dir es).IsSound) : (es.map Prod.fst).Nodup := h [] es rfl

theorem IsSound.lookup_iff (h : (dir es).IsSound) : es.lookup n = some x ↔ (n, x) ∈ es := by
  constructor
  · intro hx
    obtain ⟨l₁, l₂, hsplit, -⟩ := List.lookup_eq_some_iff.mp hx
    exact hsplit ▸ List.mem_append_right l₁ List.mem_cons_self
  · exact lookup_of_mem h.nodup

theorem IsSound.of_mem (h : (dir es).IsSound) (hx : (n, x) ∈ es) : x.IsSound := by
  have hchild : (dir es).at? [n] = some x := by
    rw [at?_dir_cons, h.lookup_iff.mpr hx]
    rfl
  exact h.at? hchild

@[simp] theorem isSound_file (bytes : List UInt8) : (file bytes).IsSound := by
  intro place es h
  cases place <;> simp [Entry.at?] at h

@[simp] theorem isSound_link (target : Text) : (link target).IsSound := by
  intro place es h
  cases place <;> simp [Entry.at?] at h

@[simp] theorem isSound_dir : (dir es).IsSound ↔ (es.map Prod.fst).Nodup ∧ ∀ x ∈ es, x.2.IsSound := by
  constructor
  · exact fun h => ⟨h.nodup, fun _ hx => h.of_mem hx⟩
  · rintro ⟨hn, h⟩ place sub hsub
    cases place with
    | nil =>
      cases hsub
      exact hn
    | cons n ns =>
      rw [at?_dir_cons] at hsub
      obtain ⟨x, hx, hsub⟩ := Option.bind_eq_some_iff.mp hsub
      obtain ⟨l₁, l₂, hsplit, -⟩ := List.lookup_eq_some_iff.mp hx
      exact h (n, x) (hsplit ▸ List.mem_append_right l₁ List.mem_cons_self) ns sub hsub

end Sound

section Order

theorem Precedes.ne {as bs : List Text} (h : Precedes as bs) : as ≠ bs := by
  induction h with
  | own h => simpa using h.2
  | ownFirst => simp
  | folder h => exact fun he => h.2 (List.cons.inj he).1
  | inside _ ih => exact fun he => ih (List.cons.inj he).2

theorem Precedes.asymm {as bs : List Text} (h : Precedes as bs) : ¬Precedes bs as := by
  intro h'
  induction h with
  | own h =>
    cases h' with
    | own h' => exact h.2 (Text.le_antisymm h.1 h'.1)
    | inside h' => cases h'
  | ownFirst => cases h' with | inside h' => cases h'
  | folder h =>
    cases h' with
    | folder h' => exact h.2 (Text.le_antisymm h.1 h'.1)
    | inside h' => exact h.2 rfl
  | inside h ih =>
    cases h' with
    | own h' => exact h'.2 rfl
    | ownFirst => cases h
    | folder h' => exact h'.2 rfl
    | inside h' => exact ih h'

theorem pairwise_precedes {α : Type} {own : List Text} {within : List (Text × α)} (inside : α → List (List Text))
    (hown : own.Pairwise Text.Before) (hwithin : within.Pairwise fun a b => a.1.Before b.1)
    (hin : ∀ x ∈ within, (inside x.2).Pairwise Precedes ∧ [] ∉ inside x.2) :
    (own.map ([·]) ++ within.flatMap fun x => (inside x.2).map (x.1 :: ·)).Pairwise Precedes := by
  have ne_nil {x : Text × α} (hx : x ∈ within) {as : List Text} (has : as ∈ inside x.2) : as ≠ [] :=
    fun h => (hin x hx).2 (h ▸ has)
  rw [List.pairwise_append]
  refine ⟨?_, ?_, ?_⟩
  · exact List.pairwise_map.mpr (hown.imp .own)
  · rw [List.pairwise_flatMap]
    refine ⟨fun x hx => List.pairwise_map.mpr ((hin x hx).1.imp .inside), ?_⟩
    refine hwithin.imp_of_mem fun {a b} ha hb hab => ?_
    rintro _ hleft _ hright
    obtain ⟨as, has, rfl⟩ := List.mem_map.mp hleft
    obtain ⟨bs, hbs, rfl⟩ := List.mem_map.mp hright
    obtain ⟨c, as, rfl⟩ := List.exists_cons_of_ne_nil (ne_nil ha has)
    obtain ⟨d, bs, rfl⟩ := List.exists_cons_of_ne_nil (ne_nil hb hbs)
    exact .folder hab
  · rintro _ hleft _ hright
    obtain ⟨a, -, rfl⟩ := List.mem_map.mp hleft
    obtain ⟨x, hx, hright⟩ := List.mem_flatMap.mp hright
    obtain ⟨bs, hbs, rfl⟩ := List.mem_map.mp hright
    obtain ⟨c, bs, rfl⟩ := List.exists_cons_of_ne_nil (ne_nil hx hbs)
    exact .ownFirst

end Order

section Arranged

theorem own?_eq_some {x : Listed} {m : Text} : x.own? n = some m ↔ x = .own ∧ n = m := by
  cases x <;> simp [Listed.own?]

theorem within?_eq_some {x : Listed} {m : Text} {f : Findings} :
    x.within? n = some (m, f) ↔ x = .within f ∧ n = m := by
  cases x <;> simp [Listed.within?, and_comm]

theorem mem_own {m : Text} : m ∈ sortTexts (l.filterMap fun (n, x) => x.own? n) ↔ (m, .own) ∈ l := by
  rw [sortTexts, List.mem_mergeSort, List.mem_filterMap]
  constructor
  · rintro ⟨⟨n, x⟩, hx, hm⟩
    obtain ⟨rfl, rfl⟩ := own?_eq_some.mp hm
    exact hx
  · exact fun hm => ⟨(m, .own), hm, rfl⟩

theorem mem_within {m : Text} {f : Findings} :
    (m, f) ∈ (l.filterMap fun (n, x) => x.within? n).mergeSort (fun a b => a.1.le b.1) ↔ (m, .within f) ∈ l := by
  rw [List.mem_mergeSort, List.mem_filterMap]
  constructor
  · rintro ⟨⟨n, x⟩, hx, hm⟩
    obtain ⟨rfl, rfl⟩ := within?_eq_some.mp hm
    exact hx
  · exact fun hm => ⟨(m, .within f), hm, rfl⟩

theorem mem_entries_arrange : names ∈ (arrange l).entries ↔
    (∃ n, (n, .own) ∈ l ∧ names = [n]) ∨ ∃ n f, (n, .within f) ∈ l ∧ ∃ ns ∈ f.entries, names = n :: ns := by
  simp only [arrange, List.mem_append, List.mem_map, List.mem_flatMap, Prod.exists, mem_own, mem_within, eq_comm]

theorem mem_folders_arrange : names ∈ (arrange l).folders ↔
    (∃ n f, (n, .within f) ∈ l ∧ names = [n]) ∨ ∃ n f, (n, .within f) ∈ l ∧ ∃ ns ∈ f.folders, names = n :: ns := by
  simp only [arrange, List.mem_append, List.mem_map, List.mem_flatMap, Prod.exists, mem_within, eq_comm]

/-- When what is kept of an entry has its label, the labels that are kept stand in order among those that were there. -/
theorem sublist_filterMap {α β γ : Type} {g : α → Option β} {label : β → γ} {key : α → γ}
    (h : ∀ a b, g a = some b → label b = key a) (as : List α) : ((as.filterMap g).map label).Sublist (as.map key) := by
  induction as with
  | nil => exact .slnil
  | cons a as ih =>
    cases hg : g a with
    | none =>
      rw [List.filterMap_cons_none hg]
      exact ih.cons _
    | some b =>
      rw [List.filterMap_cons_some hg, List.map_cons, h a b hg]
      exact ih.cons_cons _

theorem before_own (h : (l.map Prod.fst).Nodup) :
    (sortTexts (l.filterMap fun (n, x) => x.own? n)).Pairwise Text.Before := by
  have hsub : ((l.filterMap fun (n, x) => x.own? n).map id).Sublist (l.map Prod.fst) :=
    sublist_filterMap (fun x m hm => (own?_eq_some.mp hm).2.symm) l
  rw [List.map_id] at hsub
  have hne : (sortTexts (l.filterMap fun (n, x) => x.own? n)).Nodup :=
    (List.mergeSort_perm _ _).nodup_iff.mpr (h.sublist hsub)
  exact (pairwise_sortTexts _).and hne

theorem before_within (h : (l.map Prod.fst).Nodup) :
    ((l.filterMap fun (n, x) => x.within? n).mergeSort fun a b => a.1.le b.1).Pairwise fun a b => a.1.Before b.1 := by
  have hsub : ((l.filterMap fun (n, x) => x.within? n).map Prod.fst).Sublist (l.map Prod.fst) :=
    sublist_filterMap (fun x m hm => (within?_eq_some.mp hm).2.symm) l
  have htrans (a b c : Text × Findings) (hab : a.1.le b.1 = true) (hbc : b.1.le c.1 = true) : a.1.le c.1 = true :=
    Text.le_trans hab hbc
  have htotal (a b : Text × Findings) : (a.1.le b.1 || b.1.le a.1) = true := Text.le_total a.1 b.1
  have hle := List.pairwise_mergeSort htrans htotal (l.filterMap fun (n, x) => x.within? n)
  have hperm := (List.mergeSort_perm (l.filterMap fun (n, x) => x.within? n) fun a b => a.1.le b.1).map Prod.fst
  have hne := hperm.nodup_iff.mpr (h.sublist hsub)
  exact hle.and (List.pairwise_map.mp hne)

theorem pairwise_entries_arrange (h : (l.map Prod.fst).Nodup)
    (hin : ∀ n f, (n, .within f) ∈ l → f.entries.Pairwise Precedes ∧ [] ∉ f.entries) :
    (arrange l).entries.Pairwise Precedes :=
  pairwise_precedes Findings.entries (before_own h) (before_within h) fun x hx => hin x.1 x.2 (mem_within.mp hx)

theorem pairwise_folders_arrange (h : (l.map Prod.fst).Nodup)
    (hin : ∀ n f, (n, .within f) ∈ l → f.folders.Pairwise Precedes ∧ [] ∉ f.folders) :
    (arrange l).folders.Pairwise Precedes := by
  have hblocks := pairwise_precedes Findings.folders (List.pairwise_map.mpr (before_within h)) (before_within h)
    fun x hx => hin x.1 x.2 (mem_within.mp hx)
  rwa [List.map_map] at hblocks

end Arranged

/-- What becomes of an entry under a name in the directory at a path. -/
def listed (t : FileTree) (excluded : List Text) (p : Path) (n : Text) : Entry → Listed
  | .file _ => .own
  | .link _ => if (t.hasDirectory (p.child n)).toOption = some true && excluded.contains n then .skipped else .own
  | .dir es => if excluded.contains n then .skipped else .within (walk t excluded (p.child n) (.dir es))

theorem listing_eq_map (t : FileTree) (excluded : List Text) (p : Path) (es : List (Text × Entry)) :
    listing t excluded p es = es.map fun x => (x.1, listed t excluded p x.1 x.2) := by
  induction es with
  | nil => rfl
  | cons x es ih =>
    obtain ⟨n, e⟩ := x
    rw [List.map_cons, ← ih]
    cases e <;> rfl

theorem walk_dir (t : FileTree) (excluded : List Text) (p : Path) (es : List (Text × Entry)) :
    walk t excluded p (.dir es) = arrange (es.map fun x => (x.1, listed t excluded p x.1 x.2)) := by
  rw [walk, listing_eq_map]


section Walk

theorem listed_eq_own : listed t excluded p n x = .own ↔ x.isDirectory = false ∧
    ¬(n ∈ excluded ∧ (∃ target, x = .link target) ∧ t.hasDirectory (p.child n) = .ok true) := by
  cases x with
  | file bytes => simp [listed, isDirectory]
  | link target => simp [listed, isDirectory, toOption_eq_some, imp_not_comm]
  | dir es => by_cases hn : n ∈ excluded <;> simp [listed, isDirectory, hn]

theorem listed_eq_within {f : Findings} : listed t excluded p n x = .within f ↔
    x.isDirectory = true ∧ n ∉ excluded ∧ walk t excluded (p.child n) x = f := by
  cases x with
  | file bytes => simp [listed, isDirectory]
  | link target =>
    rw [listed]
    split_ifs <;> simp [isDirectory]
  | dir es => by_cases hn : n ∈ excluded <;> simp [listed, isDirectory, hn]

theorem mem_listing (h : (dir es).IsSound) {y : Listed} :
    (n, y) ∈ es.map (fun x => (x.1, listed t excluded p x.1 x.2)) ↔
      ∃ x, es.lookup n = some x ∧ listed t excluded p n x = y := by
  rw [List.mem_map]
  constructor
  · rintro ⟨⟨m, x⟩, hx, he⟩
    cases he
    exact ⟨x, h.lookup_iff.mpr hx, rfl⟩
  · rintro ⟨x, hx, rfl⟩
    exact ⟨(n, x), h.lookup_iff.mp hx, rfl⟩

theorem at?_singleton (es : List (Text × Entry)) (n : Text) : (dir es).at? [n] = es.lookup n := by
  rw [at?_dir_cons]
  exact Option.bind_fun_some _

theorem at?_cons (e : Entry) (n : Text) (ns : List Text) : e.at? (n :: ns) = (e.at? [n]).bind (Entry.at? · ns) :=
  at?_append e [n] ns

theorem isDirectory_of_at? (h : e.at? names = some x) (hne : names ≠ []) : e.isDirectory = true := by
  cases names with
  | nil => exact absurd rfl hne
  | cons n names => cases e <;> first | rfl | cases h

theorem nil_notMem_entries (t : FileTree) (excluded : List Text) (p : Path) (e : Entry) :
    [] ∉ (walk t excluded p e).entries := by
  cases e with
  | dir es => simp [walk_dir, mem_entries_arrange]
  | _ => simp [walk]

theorem nil_notMem_folders (t : FileTree) (excluded : List Text) (p : Path) (e : Entry) :
    [] ∉ (walk t excluded p e).folders := by
  cases e with
  | dir es => simp [walk_dir, mem_folders_arrange]
  | _ => simp [walk]

/-- An entry that is found stands in the folder itself or is found in a directory of it. -/
theorem cons_mem_entries_walk (h : e.IsSound) : n :: names ∈ (walk t excluded p e).entries ↔
    ∃ x, e.at? [n] = some x ∧ (names = [] ∧ listed t excluded p n x = .own ∨
      x.isDirectory = true ∧ n ∉ excluded ∧ names ∈ (walk t excluded (p.child n) x).entries) := by
  cases e with
  | dir es =>
    rw [walk_dir, mem_entries_arrange, at?_singleton]
    simp only [mem_listing h, listed_eq_within, List.cons.injEq]
    constructor
    · rintro (⟨_, ⟨x, hx, hown⟩, rfl, rfl⟩ | ⟨_, _, ⟨x, hx, hdir, hn, rfl⟩, _, hns, rfl, rfl⟩)
      · exact ⟨x, hx, .inl ⟨rfl, hown⟩⟩
      · exact ⟨x, hx, .inr ⟨hdir, hn, hns⟩⟩
    · rintro ⟨x, hx, ⟨rfl, hown⟩ | ⟨hdir, hn, hns⟩⟩
      · exact .inl ⟨n, ⟨x, hx, hown⟩, rfl, rfl⟩
      · exact .inr ⟨n, _, ⟨x, hx, hdir, hn, rfl⟩, names, hns, rfl, rfl⟩
  | _ => simp [walk, Entry.at?]

theorem cons_mem_folders_walk (h : e.IsSound) : n :: names ∈ (walk t excluded p e).folders ↔
    ∃ x, e.at? [n] = some x ∧ x.isDirectory = true ∧ n ∉ excluded ∧
      (names = [] ∨ names ∈ (walk t excluded (p.child n) x).folders) := by
  cases e with
  | dir es =>
    rw [walk_dir, mem_folders_arrange, at?_singleton]
    simp only [mem_listing h, listed_eq_within, List.cons.injEq]
    constructor
    · rintro (⟨_, _, ⟨x, hx, hdir, hn, -⟩, rfl, rfl⟩ | ⟨_, _, ⟨x, hx, hdir, hn, rfl⟩, _, hns, rfl, rfl⟩)
      · exact ⟨x, hx, hdir, hn, .inl rfl⟩
      · exact ⟨x, hx, hdir, hn, .inr hns⟩
    · rintro ⟨x, hx, hdir, hn, rfl | hns⟩
      · exact .inl ⟨n, _, ⟨x, hx, hdir, hn, rfl⟩, rfl, rfl⟩
      · exact .inr ⟨n, _, ⟨x, hx, hdir, hn, rfl⟩, names, hns, rfl, rfl⟩
  | _ => simp [walk, Entry.at?]

theorem isListed_nil : IsListed t excluded p e [] n ↔ ∃ x, e.at? [n] = some x ∧ listed t excluded p n x = .own := by
  simp only [listed_eq_own]
  exact ⟨fun h => h.entry, fun h => ⟨by simp, h⟩⟩

theorem isListed_cons {k : Text} : IsListed t excluded p e (k :: folders) n ↔
    ∃ x, e.at? [k] = some x ∧ x.isDirectory = true ∧ k ∉ excluded ∧ IsListed t excluded (p.child k) x folders n := by
  constructor
  · rintro ⟨hkept, x, hx, hleaf⟩
    rw [List.cons_append, at?_cons] at hx
    obtain ⟨sub, hsub, hx⟩ := Option.bind_eq_some_iff.mp hx
    obtain ⟨hk, hkept⟩ := List.forall_mem_cons.mp hkept
    exact ⟨sub, hsub, isDirectory_of_at? hx (by simp), hk, hkept, x, hx, by rwa [Path.below_child]⟩
  · rintro ⟨sub, hsub, -, hk, hkept, x, hx, hleaf⟩
    refine ⟨List.forall_mem_cons.mpr ⟨hk, hkept⟩, x, ?_, by rwa [Path.below_child] at hleaf⟩
    rw [List.cons_append, at?_cons, hsub, Option.bind_some, hx]

/-- The entries that are found are the ones that are listed; by induction on the folders that lead to an entry. -/
theorem concat_mem_entries_walk (h : e.IsSound) :
    folders ++ [n] ∈ (walk t excluded p e).entries ↔ IsListed t excluded p e folders n := by
  induction folders generalizing p e with
  | nil =>
    rw [List.nil_append, cons_mem_entries_walk h, isListed_nil]
    have hnil (x : Entry) := nil_notMem_entries t excluded (p.child n) x
    simp [hnil]
  | cons k folders ih =>
    rw [List.cons_append, cons_mem_entries_walk h, isListed_cons]
    refine exists_congr fun x => and_congr_right fun hx => ?_
    rw [ih (h.at? hx)]
    simp

theorem mem_entries_walk (h : e.IsSound) : names ∈ (walk t excluded p e).entries ↔
    ∃ folders n, names = folders ++ [n] ∧ IsListed t excluded p e folders n := by
  constructor
  · intro hnames
    rcases List.eq_nil_or_concat names with rfl | ⟨folders, n, rfl⟩
    · exact absurd hnames (nil_notMem_entries t excluded p e)
    · rw [List.concat_eq_append] at hnames ⊢
      exact ⟨folders, n, rfl, (concat_mem_entries_walk h).mp hnames⟩
  · rintro ⟨folders, n, rfl, hlisted⟩
    exact (concat_mem_entries_walk h).mpr hlisted

theorem mem_folders_walk (h : e.IsSound) :
    names ∈ (walk t excluded p e).folders ↔ IsEntered excluded e names := by
  induction names generalizing p e with
  | nil => exact iff_of_false (nil_notMem_folders t excluded p e) fun h => h.ne_nil rfl
  | cons n names ih =>
    rw [cons_mem_folders_walk h]
    constructor
    · rintro ⟨x, hx, hdir, hn, rfl | hnames⟩
      · cases x <;> cases hdir
        exact ⟨by simp, ⟨_, hx⟩, by simpa using hn⟩
      · obtain ⟨-, ⟨es, hes⟩, hkept⟩ := (ih (h.at? hx)).mp hnames
        refine ⟨by simp, ⟨es, ?_⟩, List.forall_mem_cons.mpr ⟨hn, hkept⟩⟩
        rw [at?_cons, hx, Option.bind_some, hes]
    · rintro ⟨-, ⟨es, hes⟩, hkept⟩
      obtain ⟨hn, hkept⟩ := List.forall_mem_cons.mp hkept
      rw [at?_cons] at hes
      obtain ⟨x, hx, hes⟩ := Option.bind_eq_some_iff.mp hes
      cases names with
      | nil =>
        cases hes
        exact ⟨_, hx, rfl, hn, .inl rfl⟩
      | cons m names =>
        have hin : IsEntered excluded x (m :: names) := ⟨by simp, ⟨es, hes⟩, hkept⟩
        exact ⟨x, hx, isDirectory_of_at? hes (by simp), hn, .inr ((ih (h.at? hx)).mpr hin)⟩

theorem nodup_listing (h : (dir es).IsSound) :
    ((es.map fun x => (x.1, listed t excluded p x.1 x.2)).map Prod.fst).Nodup := by
  rw [List.map_map]
  exact h.nodup

theorem pairwise_entries_walk (h : e.IsSound) : (walk t excluded p e).entries.Pairwise Precedes := by
  induction e using Entry.induction generalizing p with
  | dir es ih =>
    rw [walk_dir]
    refine pairwise_entries_arrange (nodup_listing h) fun n f hf => ?_
    obtain ⟨x, hx, hf⟩ := (mem_listing h).mp hf
    obtain ⟨-, -, rfl⟩ := listed_eq_within.mp hf
    have hmem := h.lookup_iff.mp hx
    exact ⟨ih (n, x) hmem (h.of_mem hmem), nil_notMem_entries t excluded _ x⟩
  | _ => simp [walk]

theorem pairwise_folders_walk (h : e.IsSound) : (walk t excluded p e).folders.Pairwise Precedes := by
  induction e using Entry.induction generalizing p with
  | dir es ih =>
    rw [walk_dir]
    refine pairwise_folders_arrange (nodup_listing h) fun n f hf => ?_
    obtain ⟨x, hx, hf⟩ := (mem_listing h).mp hf
    obtain ⟨-, -, rfl⟩ := listed_eq_within.mp hf
    have hmem := h.lookup_iff.mp hx
    exact ⟨ih (n, x) hmem (h.of_mem hmem), nil_notMem_folders t excluded _ x⟩
  | _ => simp [walk]

theorem eq_of_pairwise_precedes {as bs : List (List Text)} (ha : as.Pairwise Precedes) (hb : bs.Pairwise Precedes)
    (h : ∀ names, names ∈ as ↔ names ∈ bs) : as = bs := by
  have hperm : as.Perm bs := (List.perm_ext_iff_of_nodup (ha.imp Precedes.ne) (hb.imp Precedes.ne)).mpr h
  exact hperm.eq_of_pairwise (fun _ _ _ _ hab hba => absurd hba hab.asymm) ha hb

end Walk

end Entry

end RuleReview
