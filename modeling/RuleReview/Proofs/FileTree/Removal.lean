import RuleReview.Proofs.FileTree.Strides
import RuleReview.Proofs.Text.Order

/-! # A tree without one of its entries

When an entry is removed, a path leads where it led before, unless it needs the entry: then it ends at the gap. What is
found elsewhere is what was there before, but for what directories hold.
-/
namespace RuleReview.Entry

def erase : Entry → List Text → Entry
  | .dir es, n :: ns =>
    .dir (if ns.isEmpty then es.filter (·.1 != n) else es.map fun x => if x.1 == n then (x.1, erase x.2 ns) else x)
  | e, _ => e

/-- The tree without what a path names, which is a link itself if it is one. -/
def remove (t : FileTree) (p : Path) : FileTree :=
  match t.locate false p with
  | .ok place => t.erase place
  | .error _ => t

/-- A path needs what another one names when following it ends at the gap that this leaves. -/
def Needs (t : FileTree) (p q : Path) : Prop :=
  ∃ place rest, t.locate false p = .ok place ∧ strideOf (t.remove p) true q.toText q.names = .missing place rest

/-- An entry without what it holds as a directory. -/
def face : Entry → Entry
  | .dir _ => .dir []
  | e => e

variable {t : FileTree} {gap place p names ns rest : List Text} {n : Text} {es : List (Text × Entry)} {e e' : Entry}

theorem at?_dir_cons (es : List (Text × Entry)) (n : Text) (ns : List Text) :
    (dir es).at? (n :: ns) = (es.lookup n).bind (at? · ns) := rfl

theorem at?_append (e : Entry) (p ns : List Text) : e.at? (p ++ ns) = (e.at? p).bind (at? · ns) := by
  induction p generalizing e with
  | nil => rfl
  | cons n p ih =>
    cases e with
    | dir es =>
      rw [List.cons_append, at?_dir_cons, at?_dir_cons, Option.bind_assoc]
      exact congrArg _ (funext ih)
    | _ => rfl

theorem at?_child (h : t.at? p = some (.dir es)) (n : Text) : t.at? (p ++ [n]) = es.lookup n := by
  rw [at?_append, h, Option.bind_some, at?_dir_cons]
  exact Option.bind_fun_some (es.lookup n)

theorem lookup_cons_eq (es : List (Text × Entry)) (m k : Text) (e : Entry) :
    ((k, e) :: es).lookup m = if m = k then some e else es.lookup m := by
  rw [List.lookup_cons]
  by_cases hm : m = k
  · simp [hm]
  · rw [beq_eq_false_iff_ne.mpr hm, if_neg hm]

theorem lookup_filter_ne (es : List (Text × Entry)) (m n : Text) :
    (es.filter (·.1 != n)).lookup m = if m = n then none else es.lookup m := by
  induction es with
  | nil => simp
  | cons x es ih =>
    obtain ⟨k, x⟩ := x
    by_cases hn : k = n
    · subst hn
      rw [List.filter_cons_of_neg (by simp), ih, lookup_cons_eq]
      split_ifs <;> rfl
    · rw [List.filter_cons_of_pos (by simpa using hn), lookup_cons_eq, lookup_cons_eq, ih]
      split_ifs with hm hmn
      · exact absurd (hm.symm.trans hmn) hn
      · rfl
      · rfl
      · rfl

theorem lookup_map_at (es : List (Text × Entry)) (m n : Text) (f : Entry → Entry) :
    (es.map fun x => if x.1 == n then (x.1, f x.2) else x).lookup m =
      if m = n then (es.lookup m).map f else es.lookup m := by
  induction es with
  | nil => simp
  | cons x es ih =>
    obtain ⟨k, x⟩ := x
    by_cases hn : k = n
    · subst hn
      rw [List.map_cons, if_pos (beq_self_eq_true k), lookup_cons_eq, lookup_cons_eq, ih]
      split_ifs <;> rfl
    · rw [List.map_cons, if_neg (by simpa using hn), lookup_cons_eq, lookup_cons_eq, ih]
      split_ifs with hm hmn
      · exact absurd (hm.symm.trans hmn) hn
      · rfl
      · rfl
      · rfl

theorem at?_erase_cons (es : List (Text × Entry)) (n m : Text) (ns p : List Text) :
    ((dir es).erase (n :: ns)).at? (m :: p) =
      if m = n then (if ns.isEmpty then none else (es.lookup m).bind fun e => (e.erase ns).at? p)
      else (dir es).at? (m :: p) := by
  rw [erase, at?_dir_cons, at?_dir_cons]
  split_ifs with hlast hmn hmn
  · rw [lookup_filter_ne, if_pos hmn]
    rfl
  · rw [lookup_filter_ne, if_neg hmn]
  · rw [lookup_map_at es m n (erase · ns), if_pos hmn, Option.bind_map]
    rfl
  · rw [lookup_map_at es m n (erase · ns), if_neg hmn]

theorem at?_erase_below (hgap : gap ≠ []) (h : gap <+: p) : (t.erase gap).at? p = none := by
  induction gap generalizing t p with
  | nil => exact absurd rfl hgap
  | cons n gap ih =>
    obtain ⟨rest, rfl⟩ := h
    cases t with
    | dir es =>
      rw [List.cons_append, at?_erase_cons, if_pos rfl]
      split_ifs with hlast
      · rfl
      · exact Option.bind_eq_none_iff.mpr fun e _ => ih (by simpa using hlast) (List.prefix_append gap rest)
    | _ => rfl

theorem at?_erase_elsewhere (h : ¬gap <+: p) : ((t.erase gap).at? p).map face = (t.at? p).map face := by
  induction gap generalizing t p with
  | nil => exact absurd List.nil_prefix h
  | cons n gap ih =>
    cases t with
    | dir es =>
      cases p with
      | nil => rfl
      | cons m p =>
        rw [at?_erase_cons]
        split_ifs with hmn hlast
        · rw [List.isEmpty_iff.mp hlast, hmn] at h
          exact absurd (List.cons_prefix_cons.mpr ⟨rfl, List.nil_prefix⟩) h
        · have hp : ¬gap <+: p := fun hp => h (hmn ▸ List.cons_prefix_cons.mpr ⟨rfl, hp⟩)
          rw [at?_dir_cons, Option.map_bind, Option.map_bind]
          exact Option.bind_congr fun e _ => ih hp
        · rfl
    | _ => rfl

theorem map_face_cases {o o' : Option Entry} (h : o'.map face = o.map face) :
    (∃ es es', o = some (.dir es) ∧ o' = some (.dir es')) ∨ o' = o ∧ ∀ es, o ≠ some (.dir es) := by
  cases o with
  | none => exact .inr ⟨Option.map_eq_none_iff.mp h, nofun⟩
  | some e =>
    obtain ⟨e', rfl, he⟩ := Option.map_eq_some_iff.mp h
    cases e <;> cases e' <;> simp_all [face]

/-- A walk has not come to the gap. -/
def Stride.Avoids (gap : List Text) : Stride → Prop
  | .reached p | .link p _ _ => ¬gap <+: p
  | _ => True

/-- Without an entry names lead where they led before, unless they end at the gap. -/
theorem stride_erase (hgap : gap ≠ []) (h : ¬gap <+: place) (names : List Text) :
    stride (t.erase gap) true place names = stride t true place names ∧ (stride t true place names).Avoids gap ∨
      ∃ rest, stride (t.erase gap) true place names = .missing gap rest := by
  induction names generalizing place with
  | nil => exact .inl ⟨rfl, h⟩
  | cons n names ih =>
    rw [stride, stride]
    rcases map_face_cases (at?_erase_elsewhere (t := t) h) with ⟨es, es', hes, hes'⟩ | ⟨hsame, hdir⟩
    · have hup : ¬gap <+: place.dropLast := fun hp => h (hp.trans (List.dropLast_prefix place))
      simp only [hes, hes', Bool.not_true, Bool.and_false, Bool.false_eq_true, if_false]
      split_ifs
      · exact ih h
      · exact ih hup
      · exact .inl ⟨rfl, trivial⟩
      · by_cases hhere : gap <+: place ++ [n]
        · have hnone : es'.lookup n = none := (at?_child hes' n).symm.trans (at?_erase_below hgap hhere)
          rw [hnone, ← (List.prefix_concat_iff.mp hhere).resolve_right h]
          exact .inr ⟨names, rfl⟩
        · have hface := at?_erase_elsewhere (t := t) hhere
          rw [at?_child hes, at?_child hes'] at hface
          rcases map_face_cases hface with ⟨ds, ds', hds, hds'⟩ | ⟨hsame, -⟩
          · rw [hds, hds']
            exact ih hhere
          · rw [hsame]
            split
            · exact .inl ⟨rfl, trivial⟩
            · exact .inl ⟨rfl, h⟩
            · exact ih hhere
    · rw [hsame]
      split
      · next es hes => exact absurd hes (hdir es)
      · exact .inl ⟨rfl, trivial⟩

theorem strideFrom_erase (hgap : gap ≠ []) (links : Nat) (h : ¬gap <+: place) (names : List Text) :
    strideFrom (t.erase gap) true links place names = strideFrom t true links place names ∧
        (strideFrom t true links place names).Avoids gap ∨
      ∃ rest, strideFrom (t.erase gap) true links place names = .missing gap rest := by
  induction links generalizing place names with
  | zero => exact .inl ⟨rfl, trivial⟩
  | succ links ih =>
    rw [strideFrom, strideFrom]
    rcases stride_erase (t := t) hgap h names with ⟨hsame, havoid⟩ | ⟨rest, hmissing⟩
    · rw [hsame]
      split
      · next p target rest hlink =>
        rw [hlink] at havoid
        refine ih ?_ _
        split
        · exact fun hp => hgap (List.prefix_nil.mp hp)
        · exact havoid
      · exact .inl ⟨rfl, havoid⟩
    · rw [hmissing]
      exact .inr ⟨rest, rfl⟩

theorem strideOf_erase (hgap : gap ≠ []) (s : Text) (names : List Text) :
    strideOf (t.erase gap) true s names = strideOf t true s names ∧ (strideOf t true s names).Avoids gap ∨
      ∃ rest, strideOf (t.erase gap) true s names = .missing gap rest := by
  rw [strideOf, strideOf]
  split_ifs
  · exact .inl ⟨rfl, trivial⟩
  · exact .inl ⟨rfl, trivial⟩
  · exact strideFrom_erase hgap maxLinks (fun hp => hgap (List.prefix_nil.mp hp)) names

section
variable {a q : Path}

theorem find_congr_of_reached {t' : FileTree}
    (hsame : strideOf t' true q.toText q.names = strideOf t true q.toText q.names)
    (hface : ∀ p, strideOf t true q.toText q.names = .reached p → (t'.at? p).map face = (t.at? p).map face) :
    (t'.find true q).map face = (t.find true q).map face := by
  rw [find, find, hsame]
  cases hstride : strideOf t true q.toText q.names with
  | reached p =>
    have hp := hface p hstride
    change (Stride.entry t' (.reached p)).map face = (Stride.entry t (.reached p)).map face
    rcases map_face_cases hp with ⟨es, es', hes, hes'⟩ | ⟨heq, -⟩
    · simp only [Stride.entry, Stride.place, bind, Except.bind, hes, hes']
      rfl
    · simp only [Stride.entry, Stride.place, bind, Except.bind, heq]
  | _ => rfl

theorem find_remove_of_not_needs (h : ¬Needs t a q) :
    ((t.remove a).find true q).map face = (t.find true q).map face := by
  cases hplace : t.locate false a with
  | error e => rw [remove, hplace]
  | ok gap =>
    have hremove : t.remove a = t.erase gap := by rw [remove, hplace]
    rw [hremove]
    by_cases hgap : gap = []
    · subst hgap
      cases t <;> rfl
    · rcases strideOf_erase (t := t) hgap q.toText q.names with ⟨hsame, havoid⟩ | ⟨rest, hmissing⟩
      · refine find_congr_of_reached hsame fun p hp => at?_erase_elsewhere ?_
        rwa [hp] at havoid
      · exact absurd ⟨gap, rest, hplace, hremove ▸ hmissing⟩ h

theorem Needs.find_remove (h : Needs t a q) : (t.remove a).find true q = .error .absent := by
  obtain ⟨gap, rest, -, hmissing⟩ := h
  rw [find, hmissing]
  rfl

theorem find_face_cases {t' : FileTree} (h : (t'.find true q).map face = (t.find true q).map face) :
    (∃ es es', t.find true q = .ok (.dir es) ∧ t'.find true q = .ok (.dir es')) ∨ t'.find true q = t.find true q := by
  cases ht : t.find true q with
  | error e =>
    rw [ht] at h
    exact .inr (map_eq_error.mp h)
  | ok entry =>
    rw [ht] at h
    obtain ⟨entry', hentry', he⟩ := map_eq_ok.mp h
    cases entry <;> cases entry' <;> simp_all [face]

theorem hasFile_remove_of_not_needs (h : ¬Needs t a q) : (t.remove a).hasFile q = t.hasFile q := by
  change (found? _ true q).map _ = (found? t true q).map _
  rw [found?, found?]
  rcases find_face_cases (find_remove_of_not_needs h) with ⟨es, es', hes, hes'⟩ | heq
  · rw [hes, hes']
    rfl
  · rw [heq]

theorem Needs.hasFile_remove (h : Needs t a q) : (t.remove a).hasFile q = .ok false := by
  change (found? _ true q).map _ = _
  rw [found?, h.find_remove]
  rfl

theorem Needs.hasDirectory_remove (h : Needs t a q) : (t.remove a).hasDirectory q = .ok false := by
  change (found? _ true q).map _ = _
  rw [found?, h.find_remove]
  rfl

theorem readText_remove_of_not_needs (h : ¬Needs t a q) : (t.remove a).readText q = t.readText q := by
  rw [readText, readText, readBytes, readBytes]
  rcases find_face_cases (find_remove_of_not_needs h) with ⟨es, es', hes, hes'⟩ | heq
  · rw [hes, hes']
    rfl
  · rw [heq]

end

/-! ### Removing a file of a folder -/

section
variable {folder a : Path} {d : List Text}

theorem at?_erase_parent (h : t.at? p = some (.dir es)) (n : Text) :
    (t.erase (p ++ [n])).at? p = some (.dir (es.filter (·.1 != n))) := by
  induction p generalizing t with
  | nil =>
    cases h
    rfl
  | cons m p ih =>
    cases t with
    | dir ds =>
      obtain ⟨x, hx, hes⟩ := Option.bind_eq_some_iff.mp h
      rw [List.cons_append, at?_erase_cons, if_pos rfl, if_neg (by simp), hx]
      exact ih hes
    | _ => cases h

theorem locate_child (hdot : n ≠ ['.']) (hdots : n ≠ ['.', '.'])
    (hd : strideOf t true folder.toText folder.names = .reached d) (hf : t.hasFile (folder.child n) = .ok true) :
    t.locate false (folder.child n) = .ok (d ++ [n]) := by
  obtain ⟨bs, hbs⟩ := hasFile_eq_true.mp hf
  obtain ⟨q, hq, -⟩ := find_eq_ok.mp hbs
  have hfollowed : IsFollowed (folder.child n).toText := isFollowed_of_ne_failed (by rw [hq]; nofun)
  have hnames : (folder.child n).names = folder.names ++ [n] := rfl
  rw [strideOf_of_isFollowed (isFollowed_of_ne_failed (by rw [hd]; nofun))] at hd
  rw [strideOf_of_isFollowed hfollowed, hnames] at hq
  obtain ⟨k, hk⟩ := strideFrom_append_of_reached true (List.cons_ne_nil n []) maxLinks hd
  obtain ⟨k', hk'⟩ := strideFrom_append_of_reached false (List.cons_ne_nil n []) maxLinks hd
  have hlast : stride t false d [n] = .reached (d ++ [n]) := by
    rw [hk, strideFrom] at hq
    refine stride_last hdot hdots (fun p rest hmissing => ?_) fun e hfailed => ?_
    · rw [hmissing] at hq
      cases hq
    · rw [hfailed] at hq
      cases hq
  rw [locate, strideOf_of_isFollowed hfollowed, hnames, hk', strideFrom, hlast]
  rfl

theorem Needs.child (h : Needs t a folder) (hf : t.hasFile (folder.child n) = .ok true) :
    Needs t a (folder.child n) := by
  obtain ⟨gap, rest, hgap, hmissing⟩ := h
  obtain ⟨bs, hbs⟩ := hasFile_eq_true.mp hf
  obtain ⟨q, hq, -⟩ := find_eq_ok.mp hbs
  rw [strideOf_of_isFollowed (isFollowed_of_ne_failed (by rw [hmissing]; nofun))] at hmissing
  refine ⟨gap, rest ++ [n], hgap, ?_⟩
  rw [strideOf_of_isFollowed (isFollowed_of_ne_failed (t := t) (by rw [hq]; nofun))]
  exact strideFrom_append_of_missing (List.cons_ne_nil n []) maxLinks hmissing

theorem find_remove_child (hdot : n ≠ ['.']) (hdots : n ≠ ['.', '.']) (hfolder : t.find true folder = .ok (.dir es))
    (hf : t.hasFile (folder.child n) = .ok true) (hneeds : ¬Needs t (folder.child n) folder) :
    (t.remove (folder.child n)).find true folder = .ok (.dir (es.filter (·.1 != n))) := by
  obtain ⟨d, hd, hes⟩ := find_eq_ok.mp hfolder
  have hlocate := locate_child hdot hdots hd hf
  have hremove : t.remove (folder.child n) = t.erase (d ++ [n]) := by rw [remove, hlocate]
  rw [hremove, find_eq_ok]
  refine ⟨d, ?_, at?_erase_parent hes n⟩
  rcases strideOf_erase (t := t) (List.concat_ne_nil n d) folder.toText folder.names with
    ⟨hsame, -⟩ | ⟨rest, hmissing⟩
  · rw [hsame, hd]
  · exact absurd ⟨d ++ [n], rest, hlocate, hremove ▸ hmissing⟩ hneeds

theorem childNames_of_find (h : t.find true folder = .ok (.dir es)) :
    t.childNames folder = sortTexts (es.map (·.1)) := by
  rw [childNames, h]

theorem exists_find_of_mem_childNames (h : n ∈ t.childNames folder) : ∃ es, t.find true folder = .ok (.dir es) := by
  rw [childNames] at h
  split at h
  · next es hes => exact ⟨es, hes⟩
  · cases h

theorem pairwise_childNames (t : FileTree) (folder : Path) :
    (t.childNames folder).Pairwise fun a b => Text.le a b = true := by
  rw [childNames]
  split
  · exact pairwise_sortTexts _
  · exact List.Pairwise.nil

theorem childNames_remove (hdot : n ≠ ['.']) (hdots : n ≠ ['.', '.']) (hn : n ∈ t.childNames folder)
    (hf : t.hasFile (folder.child n) = .ok true) (hneeds : ¬Needs t (folder.child n) folder) :
    (t.remove (folder.child n)).childNames folder = (t.childNames folder).filter (· != n) := by
  obtain ⟨es, hes⟩ := exists_find_of_mem_childNames hn
  rw [childNames_of_find (find_remove_child hdot hdots hes hf hneeds), childNames_of_find hes, ← sortTexts_filter,
    List.filter_map]
  rfl

end

end RuleReview.Entry
