import RuleReview.Proofs.Change.AddedFiles
import RuleReview.Proofs.FileTree.Straight

/-! # A file is found where it is shown

The path that a file is shown under leads from the root to that very file, if it makes no difference for the paths of
the file and of the root that names are taken back for two dots. Each section then holds what is found at its path, and
a file is left out only for one before it that is the same.
-/
namespace RuleReview.Change
open Entry

/-- What git would record for an entry: a content and a mode. For a directory there is nothing. -/
def record? : Entry → Option (Option Text × Text)
  | .link target => some (some target, Diff.linkMode)
  | .file bytes => some (contentOfBytes bytes, Diff.regularMode)
  | .dir _ => none

/-- No limit stops a path from being followed. -/
structure IsInReach (t : FileTree) (p : Path) : Prop where
  short : IsFollowed p.toText
  links : t.locate false p ≠ .error .tooManyLinks

/-- A file is shown under a path that leads from the root to the place of the file, and what is found there is shown. -/
structure IsShownAs (t : FileTree) (root p : Path) (shown : Text) (content : Option Text × Text) : Prop where
  path : shownPath t root p = .ok shown
  place : ∃ q, t.locate false p = .ok q ∧ t.LeadsTo false (root.join (.ofText shown)) q
  found : IsInReach t (root.join (.ofText shown)) →
    ∃ x, t.find false (root.join (.ofText shown)) = .ok x ∧ record? x = some content

variable {t : FileTree} {root p : Path} {raw shown : Text} {x : Entry} {q r names rest : List Text} {c : Option Text × Text}
  {es : List (Text × Entry)} {follow : Bool}

section Recorded

theorem found?_eq_some : t.found? follow p = .ok (some x) ↔ t.find follow p = .ok x := by
  rw [found?]
  split <;> simp_all

theorem recorded_of_locate (h : t.locate false p = .ok q) (hx : t.at? q = some x) (hc : record? x = some c) :
    recorded t p = .ok c := by
  have hfound : t.found? false p = .ok (some x) := found?_eq_some.mpr (find_eq_ok_iff.mpr ⟨q, h, hx⟩)
  rw [recorded, linkTarget?, hfound]
  cases x with
  | link target =>
    cases hc
    rfl
  | file bytes =>
    cases hc
    obtain ⟨hshort, k, hlinks, hk⟩ := locate_eq_ok.mp h
    have hopened : t.locate true p = .ok q := locate_eq_ok.mpr ⟨hshort, k, hlinks, hk.opened (by simp [hx])⟩
    have hread : t.readBytes p = .ok bytes := by
      rw [readBytes, find_eq_ok_iff.mpr ⟨q, hopened, hx⟩]
      rfl
    change (t.readBytes p >>= _) = _
    rw [hread]
    rfl
  | dir es => cases hc

theorem exists_of_find_file {bytes : List UInt8} (h : t.find true p = .ok (.file bytes)) :
    ∃ q x c, t.locate false p = .ok q ∧ t.at? q = some x ∧ record? x = some c := by
  obtain ⟨q, hq, hx⟩ := find_eq_ok_iff.mp h
  obtain ⟨hshort, k, hlinks, hk⟩ := locate_eq_ok.mp hq
  obtain ⟨q', k', hk', hle, hend⟩ := hk.unopened
  have hlocate : t.locate false p = .ok q' := locate_eq_ok.mpr ⟨hshort, k', by omega, hk'⟩
  rcases hend with rfl | ⟨target, htarget⟩
  · exact ⟨q', _, _, hlocate, hx, rfl⟩
  · exact ⟨q', _, _, hlocate, htarget, rfl⟩

theorem exists_of_collectFile (h : collectFile t root raw = .ok p) :
    p = root.join (.ofText raw) ∧ ∃ q x c, t.locate false p = .ok q ∧ t.at? q = some x ∧ record? x = some c := by
  unfold collectFile at h
  obtain ⟨o, ho, h⟩ := bind_eq_ok.mp h
  split at h
  · next target =>
    cases pure_eq_ok.mp h
    obtain ⟨q, hq, hx⟩ := find_eq_ok_iff.mp (found?_eq_some.mp (mapError_eq_ok.mp ho))
    exact ⟨rfl, q, _, _, hq, hx, rfl⟩
  · obtain ⟨o', ho', h⟩ := bind_eq_ok.mp h
    split at h
    · cases h
    · next bytes =>
      cases pure_eq_ok.mp h
      exact ⟨rfl, exists_of_find_file (found?_eq_some.mp (mapError_eq_ok.mp ho'))⟩
    · cases h

end Recorded

section Ways

variable {place : List Text}

theorem join_ofText_namesText (h : AllNames names) (hdot : ['.'] ∉ names) :
    root.join (.ofText (Path.namesText names)) = root.below names := by
  rw [Path.ofText_namesText h hdot]
  rfl

theorem leadsTo_whole : t.LeadsTo follow p.whole q ↔ t.LeadsTo follow p.normal q := by
  rw [LeadsTo, LeadsTo, Path.names_whole]
  rfl

/-- From a root whose two dots may be taken by name, a path is reached by as many of them as there are names of the root
to be taken back, and by the names that are left. -/
theorem leadsTo_below_ups {m : ℕ} (hup : t.IsStraight (root.below (List.replicate m ['.', '.'])))
    (hp : t.LeadsTo false p.whole q)
    (hnames : root.whole.names.take (root.whole.names.length - m) ++ rest = p.whole.names) :
    t.LeadsTo false (root.below (List.replicate m ['.', '.'] ++ rest)) q := by
  have hnormal : ((root.below (List.replicate m ['.', '.'])).normal.below rest).names = p.whole.names := by
    rw [← hnames, Path.names_whole]
    exact congrArg (· ++ rest) (Path.normalNames_ups root.names m)
  have hbelow : t.LeadsTo false ((root.below (List.replicate m ['.', '.'])).normal.below rest) q := by
    rw [LeadsTo, hnormal]
    exact hp
  rw [LeadsTo, Path.below, ← List.append_assoc]
  exact hup.below hbelow

/-- A place is the one of the directory it is in, and the name that leads there last. -/
theorem leads_concat {n : Text} {k : ℕ} (hn : n ≠ ['.']) (hdots : n ≠ ['.', '.']) (h : Leads t false place [n] q k) :
    q = place ++ [n] := by
  cases h with
  | same => exact absurd rfl hn
  | up => exact absurd rfl hdots
  | down _ _ _ h =>
    cases h
    rfl
  | stay => rfl
  | through _ _ hlast => cases hlast rfl

theorem realPlace_parent (hreal : t.IsResolved p.whole.parent) (hp : t.LeadsTo false p.whole q)
    (hdot : ['.'] ∉ p.whole.names) (hne : p.whole.names ≠ []) :
    t.realPlace p.whole.parent ++ p.whole.names.getLast?.toList = q := by
  obtain ⟨k, hk⟩ := hp
  obtain ⟨front, n, hnames⟩ := (List.eq_nil_or_concat' p.whole.names).resolve_left hne
  have hn : n ∈ p.whole.names := by simp [hnames]
  have hdots : n ≠ ['.', '.'] := by
    rw [Path.names_whole] at hn
    exact ne_of_mem_of_not_mem hn (Path.dots_notMem_normalNames p.names)
  rw [hnames] at hk
  obtain ⟨d, k₁, k₂, hd, hlast, -⟩ := hk.split nofun
  have hplace : t.realPlace p.whole.parent = d := by
    refine hreal d ⟨k₁, ?_⟩
    rw [Path.parent, hnames, List.dropLast_concat]
    exact hd
  rw [hplace, hnames, List.getLast?_concat, leads_concat (ne_of_mem_of_not_mem hn hdot) hdots hlast]
  rfl

end Ways

section Shown

/-- Above a path, too, two dots may be taken by name. -/
def HasStraightUps (t : FileTree) (p : Path) : Prop :=
  ∀ m ≤ p.whole.names.length, t.IsStraight (p.below (List.replicate m ['.', '.']))

/-- A directory from which paths are seen. -/
structure IsBase (t : FileTree) (root : Path) (r : List Text) : Prop where
  place : t.locate true root = .ok r
  dir : ∃ es, t.at? r = some (.dir es)
  named : root.WellNamed
  undotted : ['.'] ∉ root.names
  straight : t.IsStraight root

/-- A path leads to a file, or to a link that is one itself, and two dots may be taken by name in it. -/
structure IsFile (t : FileTree) (p : Path) (q : List Text) : Prop where
  place : t.locate false p = .ok q
  leaf : ∀ es, t.at? q ≠ some (.dir es)
  named : p.WellNamed
  undotted : ['.'] ∉ p.names
  straight : t.IsStraight p

theorem IsBase.ups_zero (h : IsBase t root r) : t.IsStraight (root.below (List.replicate 0 ['.', '.'])) := by
  rw [List.replicate_zero, Path.below, List.append_nil]
  exact h.straight

theorem IsBase.realPlace_eq (h : IsBase t root r) (hreal : t.IsResolved root.whole) : t.realPlace root.whole = r :=
  hreal r (leadsTo_whole.mpr ((h.straight true r).mpr (leadsTo_of_locate h.place)))

theorem IsFile.leadsTo_whole (h : IsFile t p q) : t.LeadsTo false p.whole q :=
  Change.leadsTo_whole.mpr ((h.straight false q).mpr (leadsTo_of_locate h.place))

theorem IsFile.dot_notMem_whole (h : IsFile t p q) : ['.'] ∉ p.whole.names := by
  rw [Path.names_whole]
  exact fun hdot => h.undotted (Path.normalNames_subset _ hdot)

theorem IsFile.exists_leaf (h : IsFile t p q) : ∃ x, t.at? q = some x := by
  obtain ⟨k, hk⟩ := leadsTo_of_locate h.place
  exact hk.exists_entry ⟨t, rfl⟩

theorem IsFile.isEntryName (h : IsFile t p q) : ∀ n ∈ q, IsEntryName n := by
  obtain ⟨k, hk⟩ := leadsTo_of_locate h.place
  exact hk.isEntryName (List.forall_mem_nil _)

theorem IsFile.whole_ne_nil (h : IsFile t p q) (hroot : IsBase t root r) : p.whole.names ≠ [] := by
  intro hnil
  obtain ⟨k, hk⟩ := h.leadsTo_whole
  rw [hnil] at hk
  cases hk
  obtain ⟨es, hes⟩ := hroot.dir
  cases t with
  | dir es => exact h.leaf es rfl
  | _ => cases r <;> cases hes

theorem IsFile.realPlace_eq (h : IsFile t p q) (hroot : IsBase t root r) (hreal : t.IsResolved p.whole.parent) :
    t.realPlace p.whole.parent ++ p.whole.names.getLast?.toList = q :=
  realPlace_parent hreal h.leadsTo_whole h.dot_notMem_whole (h.whole_ne_nil hroot)

theorem IsFile.allNames (h : IsFile t p q) (hroot : IsBase t root r) (hreal : t.IsResolved p.whole.parent) :
    AllNames q := by
  rw [← h.realPlace_eq hroot hreal]
  refine (t.allNames_realPlace h.named.whole.parent).append (AllNames.mono h.named.whole ?_)
  exact fun n hn => List.mem_of_getLast? (Option.mem_toList.mp hn)

theorem zero_notMem_whole {follow : Bool} (h : t.locate follow p = .ok q) : '\x00' ∉ p.whole.toText := by
  obtain ⟨hshort, -⟩ := locate_eq_ok.mp h
  rw [Path.mem_toText (by decide) (by decide), Path.names_whole]
  rintro ⟨n, hn, hzero⟩
  exact hshort.1 ((Path.mem_toText (by decide) (by decide)).mpr ⟨n, Path.normalNames_subset p.names hn, hzero⟩)

theorem zero_notMem_parent (h : '\x00' ∉ p.toText) : '\x00' ∉ p.parent.toText := by
  rw [Path.mem_toText (by decide) (by decide)] at h ⊢
  rintro ⟨n, hn, hzero⟩
  exact h ⟨n, List.mem_of_mem_dropLast hn, hzero⟩

theorem shownPath_of_from?_eq_some (hfrom : root.whole.from? p.whole = some rest) :
    shownPath t root p = .ok (Path.namesText rest) := by
  rw [shownPath]
  simp only [hfrom]
  rfl

/-- Both the root and the directory of a file are resolved to where they lead. -/
structure AreResolved (t : FileTree) (root p : Path) : Prop where
  root : t.IsResolved root.whole
  folder : t.IsResolved p.whole.parent

theorem shownPath_of_from?_eq_none (hfrom : root.whole.from? p.whole = none) (hroot : IsBase t root r)
    (hp : IsFile t p q) (hreal : AreResolved t root p) :
    shownPath t root p = .ok (Path.namesText ((r.isPrefixOf? q).getD (Path.route root.whole.names p.whole.names))) := by
  have hbase := zero_notMem_whole hroot.place
  have hparent := zero_notMem_parent (zero_notMem_whole hp.place)
  rw [shownPath]
  simp only [hfrom, List.forIn_cons, List.forIn_nil, List.contains_eq_mem, hbase, hparent, decide_false,
    Bool.false_eq_true, if_false, pure_bind, hroot.realPlace_eq hreal.root, hp.realPlace_eq hroot hreal.folder]
  cases r.isPrefixOf? q <;> rfl

theorem leadsTo_within (hroot : IsBase t root r) (hp : IsFile t p q) (hfrom : root.whole.from? p.whole = some rest) :
    t.LeadsTo false (root.join (.ofText (Path.namesText rest))) q := by
  have hfront : root.whole.names ++ rest = p.whole.names := by
    rw [Path.from?] at hfrom
    split at hfrom
    · exact List.append_eq_of_isPrefixOf?_eq_some hfrom
    · cases hfrom
  have hrest : rest ⊆ p.whole.names := hfront ▸ List.subset_append_right _ _
  rw [join_ofText_namesText (AllNames.mono hp.named.whole hrest) fun h => hp.dot_notMem_whole (hrest h)]
  exact leadsTo_below_ups hroot.ups_zero hp.leadsTo_whole (by simpa using hfront)

theorem leadsTo_real (hroot : IsBase t root r) (hp : IsFile t p q) (hreal : t.IsResolved p.whole.parent)
    (hq : r ++ rest = q) : t.LeadsTo false (root.join (.ofText (Path.namesText rest))) q := by
  have hsub : rest ⊆ q := hq ▸ List.subset_append_right r rest
  rw [join_ofText_namesText ((hp.allNames hroot hreal).mono hsub) fun h => (hp.isEntryName _ (hsub h)).ne_dot rfl]
  obtain ⟨k, hk⟩ := leadsTo_of_locate hroot.place
  obtain ⟨x, hx⟩ := hp.exists_leaf
  have hrest : ∀ n ∈ rest, IsEntryName n := fun n hn => hp.isEntryName n (hsub hn)
  subst hq
  have hne : rest = [] → false = true := by
    rintro rfl
    obtain ⟨es, hes⟩ := hroot.dir
    exact absurd (by rwa [List.append_nil]) (hp.leaf es)
  exact ⟨k + 0, hk.append (leads_below hrest hx) hne⟩

/-- The way by way of what is above the root leads to the file, if two dots may be taken by name there. -/
theorem leadsTo_route (hroot : IsBase t root r) (hp : IsFile t p q)
    (hups : ['.', '.'] ∈ (Path.ofText (Path.namesText (Path.route root.whole.names p.whole.names))).names →
      HasStraightUps t root) :
    t.LeadsTo false (root.join (.ofText (Path.namesText (Path.route root.whole.names p.whole.names)))) q := by
  have hnames : AllNames (Path.route root.whole.names p.whole.names) := Path.allNames_route _ hp.named.whole
  have hdot : ['.'] ∉ Path.route root.whole.names p.whole.names := by
    rw [Path.route, List.mem_append]
    rintro (h | h)
    · cases List.eq_of_mem_replicate h
    · exact hp.dot_notMem_whole (List.mem_of_mem_drop h)
  rw [Path.ofText_namesText hnames hdot] at hups
  rw [join_ofText_namesText hnames hdot]
  have hup : t.IsStraight (root.below (List.replicate (root.whole.names.length -
      Path.commonLength root.whole.names p.whole.names) ['.', '.'])) := by
    rw [Path.route] at hups
    cases hm : root.whole.names.length - Path.commonLength root.whole.names p.whole.names with
    | zero => exact hroot.ups_zero
    | succ m =>
      rw [hm] at hups
      exact hups (List.mem_append_left _ (List.mem_replicate.mpr ⟨Nat.succ_ne_zero m, rfl⟩)) _ (by omega)
  refine leadsTo_below_ups hup hp.leadsTo_whole ?_
  rw [Nat.sub_sub_self (Path.commonLength_le _ _), Path.take_commonLength, List.take_append_drop]

theorem exists_shownPath (hroot : IsBase t root r) (hp : IsFile t p q)
    (hreal : root.whole.from? p.whole = none → AreResolved t root p)
    (hups : ∀ shown, shownPath t root p = .ok shown → ['.', '.'] ∈ (Path.ofText shown).names → HasStraightUps t root) :
    ∃ shown, shownPath t root p = .ok shown ∧ t.LeadsTo false (root.join (.ofText shown)) q := by
  cases hfrom : root.whole.from? p.whole with
  | some rest => exact ⟨_, shownPath_of_from?_eq_some hfrom, leadsTo_within hroot hp hfrom⟩
  | none =>
    have hresolved := hreal hfrom
    have hshown := shownPath_of_from?_eq_none hfrom hroot hp hresolved
    cases hfront : r.isPrefixOf? q with
    | some rest =>
      rw [hfront] at hshown
      exact ⟨_, hshown, leadsTo_real hroot hp hresolved.folder (List.append_eq_of_isPrefixOf?_eq_some hfront)⟩
    | none =>
      rw [hfront] at hshown
      exact ⟨_, hshown, leadsTo_route hroot hp (hups _ hshown)⟩

end Shown

theorem IsShownAs.of_record (hpath : shownPath t root p = .ok shown) (hp : t.locate false p = .ok q)
    (hx : t.at? q = some x) (hc : record? x = some c) (hq : t.LeadsTo false (root.join (.ofText shown)) q) :
    IsShownAs t root p shown c where
  path := hpath
  place := ⟨q, hp, hq⟩
  found hreach := ⟨x, find_eq_ok_iff.mpr ⟨q, hq.locate hreach.short hreach.links, hx⟩, hc⟩

theorem IsShownAs.same {p' : Path} {c' : Option Text × Text} (h : IsShownAs t root p shown c)
    (h' : IsShownAs t root p' shown c') : t.locate false p = t.locate false p' := by
  obtain ⟨q, hq, hleads⟩ := h.place
  obtain ⟨q', hq', hleads'⟩ := h'.place
  rw [hq, hq', hleads.unique hleads']

theorem dot_notMem_ofText (s : Text) : ['.'] ∉ (Path.ofText s).names := fun h => by cases Path.isNamed_ofText s _ h

theorem dot_notMem_join (hroot : ['.'] ∉ root.names) (raw : Text) : ['.'] ∉ (root.join (.ofText raw)).names := by
  rw [Path.join]
  split_ifs
  · exact dot_notMem_ofText raw
  · rw [List.mem_append]
    exact not_or.mpr ⟨hroot, dot_notMem_ofText raw⟩

/-- A file that is accepted is shown under a path where it is found, if names may be taken back in its path. -/
theorem exists_isShownAs (hroot : IsBase t root r) (h : collectFile t root raw = .ok p) (hp : t.IsStraight p)
    (hreal : root.whole.from? p.whole = none → AreResolved t root p)
    (hups : ∀ shown, shownPath t root p = .ok shown → ['.', '.'] ∈ (Path.ofText shown).names → HasStraightUps t root) :
    ∃ shown c, IsShownAs t root p shown c ∧ recorded t p = .ok c := by
  obtain ⟨rfl, q, x, c, hq, hx, hc⟩ := exists_of_collectFile h
  have hfile : IsFile t (root.join (.ofText raw)) q :=
    { place := hq
      leaf := fun es hes => by
        rw [hx] at hes
        cases hes
        cases hc
      named := hroot.named.join (Path.wellNamed_ofText raw)
      undotted := dot_notMem_join hroot.undotted raw
      straight := hp }
  obtain ⟨shown, hpath, hleads⟩ := exists_shownPath hroot hfile hreal hups
  exact ⟨shown, c, .of_record hpath hq hx hc hleads, recorded_of_locate hq hx hc⟩

/-- Files that are accepted are each shown under a path that leads from the root to the file, with what is found there,
provided that two dots, where there are any in the path of a file, in the one of the root or in the one that is shown,
may be taken by name, and that a file which is not seen from the root by its names alone has its links, and those of
the root, resolved. A file is left out only when one before it is the same. -/
theorem ofFiles_shows {s : Text} {raws : List Text} {files : List Path} (hroot : t.find true (.ofText s) = .ok (.dir es))
    (hfiles : raws.mapM (collectFile t (.ofText s)) = .ok files)
    (hstraight : ['.', '.'] ∈ (Path.ofText s).names → t.IsStraight (.ofText s))
    (hpaths : ∀ p ∈ files, ['.', '.'] ∈ p.names → t.IsStraight p)
    (hreal : ∀ p ∈ files, (Path.ofText s).whole.from? p.whole = none → AreResolved t (.ofText s) p)
    (hups : ∀ p ∈ files, ∀ shown, shownPath t (.ofText s) p = .ok shown → ['.', '.'] ∈ (Path.ofText shown).names →
      HasStraightUps t (.ofText s)) :
    ∃ (shown : Path → Text) (content : Path → Option Text × Text),
      (∀ p ∈ files, IsShownAs t (.ofText s) p (shown p) (content p)) ∧
      ofFiles t (.ofText s) files = .ok
        ((firsts shown [] files).flatMap fun p => Diff.addedSection (shown p) (content p).1 (content p).2,
          (files.map shown).eraseDups) ∧
      ∀ before p after, files = before ++ p :: after → shown p ∈ before.map shown →
        ∃ q ∈ before, t.locate false q = t.locate false p := by
  obtain ⟨r, hr, hes⟩ := find_eq_ok_iff.mp hroot
  have hbase : IsBase t (.ofText s) r :=
    ⟨hr, ⟨es, hes⟩, Path.wellNamed_ofText s, dot_notMem_ofText s, isStraight_of_dots hstraight⟩
  let shown (p : Path) : Text := (shownPath t (.ofText s) p).toOption.getD []
  let content (p : Path) : Option Text × Text := (recorded t p).toOption.getD (none, [])
  have hall : ∀ p ∈ files, IsShownAs t (.ofText s) p (shown p) (content p) ∧ recorded t p = .ok (content p) := by
    intro p hp
    obtain ⟨raw, -, hraw⟩ := (exists_of_forall₂ (mapM_eq_ok.mp hfiles)).2 p hp
    obtain ⟨path, c, hshown, hc⟩ := exists_isShownAs hbase hraw (isStraight_of_dots (hpaths p hp)) (hreal p hp) (hups p hp)
    rw [show shown p = path by simp only [shown, hshown.path]; rfl, show content p = c by simp only [content, hc]; rfl]
    exact ⟨hshown, hc⟩
  have hfirsts : (firsts shown [] files).map shown = (files.map shown).eraseDups := by simp [map_firsts]
  refine ⟨shown, content, fun p hp => (hall p hp).1, ?_, ?_⟩
  · rw [ofFiles, addedFiles_eq_ok [] (fun p hp => (hall p hp).1.path) (fun p hp => (hall p hp).2), ← hfirsts]
    simp only [Except.map, List.flatMap_map, List.map_map]
    rfl
  · intro before p after hsplit hp
    obtain ⟨q, hq, hsame⟩ := List.mem_map.mp hp
    have hqfiles : q ∈ files := hsplit ▸ List.mem_append_left _ hq
    have hpfiles : p ∈ files := hsplit ▸ List.mem_append_right _ List.mem_cons_self
    have hqp := (hall q hqfiles).1
    rw [hsame] at hqp
    exact ⟨q, hq, hqp.same (hall p hpfiles).1⟩

/-- A root that is a link, and files in it, beside it, and behind a link in it. -/
def linkedRoot : FileTree :=
  .dir [("w", .link "r"), ("x", .file [0]),
    ("r", .dir [("a", .file (Text.encode "a\n")), ("l", .link "a"), ("sub", .dir [("b", .file [])]), ("m", .link "sub")])]

def linkedItems : List Text := ["a", "sub/../l", "/r/sub/b", "/x", "m/b", "l"]

def linkedFiles : List Path := linkedItems.map fun raw => (Path.ofText "/w").join (.ofText raw)

theorem isStraight_linkedRoot {p : Path} (hfound : ∀ follow, (linkedRoot.locate follow p).toOption.isSome = true)
    (hnormal : ∀ follow, linkedRoot.locate follow p.normal = linkedRoot.locate follow p) : linkedRoot.IsStraight p :=
  isStraight_of_locate (fun follow => ⟨_, eq_ok_of_isSome (hfound follow) []⟩) hnormal

theorem ofFiles_shows_linkedRoot : linkedItems.mapM (collectFile linkedRoot (.ofText "/w")) = .ok linkedFiles ∧
    ∃ (shown : Path → Text) (content : Path → Option Text × Text),
      (∀ p ∈ linkedFiles, IsShownAs linkedRoot (.ofText "/w") p (shown p) (content p)) ∧
      linkedFiles.map shown = ["a", "l", "sub/b", "../x", "m/b", "l"] := by
  have hroot : linkedRoot.locate true (.ofText "/w") = .ok ["r"] := by decide +kernel
  have hfiles : linkedItems.mapM (collectFile linkedRoot (.ofText "/w")) = .ok linkedFiles :=
    toOption_eq_some.mp (by decide +kernel)
  have hfound : ∀ p ∈ linkedFiles, ∀ follow, (linkedRoot.locate follow p).toOption.isSome = true := by decide +kernel
  have hnormal : ∀ p ∈ linkedFiles, ∀ follow, linkedRoot.locate follow p.normal = linkedRoot.locate follow p := by
    decide +kernel
  have habove : ∀ m ≤ (Path.ofText "/w").whole.names.length, ∀ follow,
      (linkedRoot.locate follow ((Path.ofText "/w").below (List.replicate m ['.', '.']))).toOption.isSome = true ∧
      linkedRoot.locate follow ((Path.ofText "/w").below (List.replicate m ['.', '.'])).normal =
        linkedRoot.locate follow ((Path.ofText "/w").below (List.replicate m ['.', '.'])) := by decide +kernel
  have hups : HasStraightUps linkedRoot (.ofText "/w") := fun m hm =>
    isStraight_linkedRoot (fun follow => (habove m hm follow).1) fun follow => (habove m hm follow).2
  have hshort : linkedRoot.HasShortLinks := hasShortLinks (by decide +kernel)
  have hnamed : ∀ p ∈ linkedFiles, p.whole.parent.absolute = true ∧
      ∀ n ∈ p.whole.parent.names, Path.isNamed n = true := by decide +kernel
  have hreal : ∀ p ∈ linkedFiles, AreResolved linkedRoot (.ofText "/w") p := fun p hp =>
    ⟨isResolved hshort (by decide +kernel) (by decide +kernel), isResolved hshort (hnamed p hp).1 (hnamed p hp).2⟩
  obtain ⟨shown, content, hshown, -, -⟩ := ofFiles_shows (find_eq_ok_iff.mpr ⟨["r"], hroot, rfl⟩) hfiles
    (fun _ => hups 0 (Nat.zero_le _)) (fun p hp _ => isStraight_linkedRoot (hfound p hp) (hnormal p hp))
    (fun p hp _ => hreal p hp) fun _ _ _ _ _ => hups
  refine ⟨hfiles, shown, content, hshown, ?_⟩
  have hpaths : linkedFiles.map shown =
      linkedFiles.map fun p => (shownPath linkedRoot (.ofText "/w") p).toOption.getD [] := by
    refine List.map_congr_left fun p hp => ?_
    rw [(hshown p hp).path]
    rfl
  rw [hpaths]
  decide +kernel

/-- Two files of one name, and a link to a directory beside the one of them. -/
def forkedFolders : FileTree :=
  .dir [("x", .file (Text.encode "right\n")), ("d", .link "other/sub"),
    ("other", .dir [("x", .file (Text.encode "wrong\n")), ("sub", .dir [])])]

/-- Two dots that are taken by name behind the link show the one file under the path of the other one, and leave it out
where the other one is named before. -/
theorem ofFiles_forkedFolders :
    (["x", "d/../x"] : List Text).mapM (collectFile forkedFolders .root) =
      .ok [.ofText "/x", .ofText "/d/../x"] ∧
    forkedFolders.locate false (.ofText "/d/../x") ≠ forkedFolders.locate false (.ofText "/x") ∧
    ofFiles forkedFolders .root [.ofText "/x", .ofText "/d/../x"] = ofFiles forkedFolders .root [.ofText "/x"] ∧
    ∃ text x c, ofFiles forkedFolders .root [.ofText "/d/../x"] = .ok (text, ["x"]) ∧
      forkedFolders.find false (Path.root.join (.ofText "x")) = .ok x ∧ record? x = some c ∧
      text ≠ Diff.addedSection "x" c.1 c.2 := by
  have hfiles : (["x", "d/../x"] : List Text).mapM (collectFile forkedFolders .root) =
      .ok [.ofText "/x", .ofText "/d/../x"] := toOption_eq_some.mp (by decide +kernel)
  have hplace : forkedFolders.locate false (Path.root.join (.ofText "x")) = .ok ["x"] := by decide +kernel
  have hx : ofFiles forkedFolders .root [.ofText "/x"] =
      .ok (Diff.addedSection "x" (some "right\n".toList) Diff.regularMode, ["x"]) :=
    toOption_eq_some.mp (by decide +kernel)
  have hboth : ofFiles forkedFolders .root [.ofText "/x", .ofText "/d/../x"] =
      .ok (Diff.addedSection "x" (some "right\n".toList) Diff.regularMode, ["x"]) :=
    toOption_eq_some.mp (by decide +kernel)
  have hdots : ofFiles forkedFolders .root [.ofText "/d/../x"] =
      .ok (Diff.addedSection "x" (some "wrong\n".toList) Diff.regularMode, ["x"]) :=
    toOption_eq_some.mp (by decide +kernel)
  refine ⟨hfiles, by decide +kernel, hboth.trans hx.symm, _, _, _, hdots,
    find_eq_ok_iff.mpr ⟨["x"], hplace, rfl⟩, rfl, by decide +kernel⟩

end RuleReview.Change
