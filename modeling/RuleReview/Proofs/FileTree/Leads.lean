import RuleReview.Proofs.FileTree.Removal

/-! # Where names lead

Names lead from a place to a place, one after the other: a name leads to the entry of a directory, two dots lead up, and
a link leads to where its target leads. How many links are opened on the way tells whether a path can be followed to the
place, as only so many are opened. A place that is reached is real: its names are those of entries, each in the
directory before it, so that they lead there by themselves.
-/
namespace RuleReview.Entry

/-- A name that an entry can stand under. -/
structure IsEntryName (n : Text) : Prop where
  ne_dot : n ≠ ['.']
  ne_dots : n ≠ ['.', '.']
  notLong : isTooLong n = false

/-- From where the target of a link in a directory is followed. -/
def linkStart (place : List Text) (target : Text) : List Text := if target.startsWith "/" then [] else place

/-- Names lead from one place to another, and so many links are opened on the way. A link that is the last name is
opened on demand. -/
inductive Leads (t : FileTree) : Bool → List Text → List Text → List Text → ℕ → Prop
  | here {follow : Bool} {place : List Text} : Leads t follow place [] place 0
  | same {follow : Bool} {place rest q : List Text} {es : List (Text × Entry)} {k : ℕ} :
      t.at? place = some (.dir es) → Leads t follow place rest q k → Leads t follow place (['.'] :: rest) q k
  | up {follow : Bool} {place rest q : List Text} {es : List (Text × Entry)} {k : ℕ} :
      t.at? place = some (.dir es) → Leads t follow place.dropLast rest q k →
      Leads t follow place (['.', '.'] :: rest) q k
  | down {follow : Bool} {place rest q : List Text} {n : Text} {x : Entry} {k : ℕ} :
      IsEntryName n → t.at? (place ++ [n]) = some x → (∀ target, x ≠ .link target) →
      Leads t follow (place ++ [n]) rest q k → Leads t follow place (n :: rest) q k
  | stay {place : List Text} {n target : Text} :
      IsEntryName n → t.at? (place ++ [n]) = some (.link target) → Leads t false place [n] (place ++ [n]) 0
  | through {follow : Bool} {place rest p q : List Text} {n target : Text} {k l : ℕ} :
      IsEntryName n → t.at? (place ++ [n]) = some (.link target) → (rest = [] → follow = true) →
      Leads t true (linkStart place target) (Path.stepsOf target) p k → Leads t follow p rest q l →
      Leads t follow place (n :: rest) q (k + l + 1)

variable {t : FileTree} {follow asked : Bool} {place names p q q' as bs rest : List Text} {n target : Text}
  {k k' l links : ℕ} {x : Entry}

theorem exists_dir_of_at?_concat (h : t.at? (place ++ [n]) = some x) :
    ∃ es, t.at? place = some (.dir es) ∧ es.lookup n = some x := by
  have hbelow := h
  rw [at?_append, Option.bind_eq_some_iff] at hbelow
  obtain ⟨e, he, hx⟩ := hbelow
  cases e with
  | dir es => exact ⟨es, he, (at?_child he n).symm.trans h⟩
  | _ => cases hx

section Parts

theorem Leads.append (has : Leads t true place as p k) (hbs : Leads t follow p bs q l)
    (hlast : bs = [] → follow = true) : Leads t follow place (as ++ bs) q (k + l) := by
  generalize htrue : true = opened at has
  induction has with
  | here =>
    rw [Nat.zero_add]
    exact hbs
  | same hdir _ ih => exact .same hdir (ih hbs htrue)
  | up hdir _ ih => exact .up hdir (ih hbs htrue)
  | down hn hx hlink _ ih => exact .down hn hx hlink (ih hbs htrue)
  | stay => cases htrue
  | @through _ _ rest _ _ _ _ k k' hn hx _ htarget _ _ ih =>
    have hrest : rest ++ bs = [] → follow = true := fun h => hlast (List.append_eq_nil_iff.mp h).2
    rw [show k + k' + 1 + l = k + (k' + l) + 1 by omega]
    exact .through hn hx hrest htarget (ih hbs htrue)

theorem Leads.split (h : Leads t follow place (as ++ bs) q k) (hlast : bs = [] → follow = true) :
    ∃ p k₁ k₂, Leads t true place as p k₁ ∧ Leads t follow p bs q k₂ ∧ k = k₁ + k₂ := by
  induction as generalizing place k with
  | nil => exact ⟨place, 0, k, .here, h, (Nat.zero_add k).symm⟩
  | cons n as ih =>
    generalize hnames : n :: as ++ bs = names at h
    cases h with
    | here => cases hnames
    | same hdir h =>
      obtain ⟨rfl, rfl⟩ := List.cons.inj hnames
      obtain ⟨p, k₁, k₂, hp, hq, hk⟩ := ih h
      exact ⟨p, k₁, k₂, .same hdir hp, hq, hk⟩
    | up hdir h =>
      obtain ⟨rfl, rfl⟩ := List.cons.inj hnames
      obtain ⟨p, k₁, k₂, hp, hq, hk⟩ := ih h
      exact ⟨p, k₁, k₂, .up hdir hp, hq, hk⟩
    | down hn hx hlink h =>
      obtain ⟨rfl, rfl⟩ := List.cons.inj hnames
      obtain ⟨p, k₁, k₂, hp, hq, hk⟩ := ih h
      exact ⟨p, k₁, k₂, .down hn hx hlink hp, hq, hk⟩
    | stay hn hx =>
      obtain ⟨rfl, hnil⟩ := List.cons.inj hnames
      cases hlast (List.append_eq_nil_iff.mp hnil).2
    | @through _ _ _ _ _ _ _ k l hn hx _ htarget h =>
      obtain ⟨rfl, rfl⟩ := List.cons.inj hnames
      obtain ⟨p, k₁, k₂, hp, hq, rfl⟩ := ih h
      exact ⟨p, k + k₁ + 1, k₂, .through hn hx (fun _ => rfl) htarget hp, hq, by omega⟩

end Parts

section Strides

theorem stride_entry (hn : IsEntryName n) (hx : t.at? (place ++ [n]) = some x) :
    stride t asked place (n :: rest) = match x with
      | .link target => if rest.isEmpty && !asked then .reached (place ++ [n]) else .link place target rest
      | _ => stride t asked (place ++ [n]) rest := by
  obtain ⟨es, hes, hlookup⟩ := exists_dir_of_at?_concat hx
  have hshort : ¬isTooLong n = true := by simp [hn.notLong]
  rw [stride, hes]
  simp only [if_neg hn.ne_dot, if_neg hn.ne_dots, if_neg hshort, hlookup]
  cases x <;> rfl

theorem strideFrom_congr {place' names' : List Text} (h : stride t asked place names = stride t asked place' names') :
    strideFrom t asked links place names = strideFrom t asked links place' names' := by
  cases links with
  | zero => rfl
  | succ links => rw [strideFrom, strideFrom, h]

/-- Following goes on from where names lead, with as many links less as they open. -/
theorem Leads.strideFrom_append (h : Leads t follow place names q k) (more : List Text)
    (hfollow : follow = (asked || !more.isEmpty)) (links : ℕ) :
    strideFrom t asked links place (names ++ more) = strideFrom t asked (links - k) q more := by
  induction h generalizing more links with
  | here => rfl
  | @same _ place rest _ _ _ hdir _ ih =>
    rw [← ih more hfollow links]
    refine strideFrom_congr ?_
    rw [List.cons_append, stride, hdir]
    rfl
  | @up _ place rest _ _ _ hdir _ ih =>
    rw [← ih more hfollow links]
    refine strideFrom_congr ?_
    rw [List.cons_append, stride, hdir]
    rfl
  | @down _ place rest _ n x _ hn hx hlink _ ih =>
    rw [← ih more hfollow links]
    refine strideFrom_congr ?_
    rw [List.cons_append, stride_entry hn hx]
    cases x with
    | link target => exact absurd rfl (hlink target)
    | _ => rfl
  | @stay place n target hn hx =>
    obtain ⟨rfl, hmore⟩ : asked = false ∧ more = [] := by simpa using hfollow.symm
    subst hmore
    refine strideFrom_congr ?_
    rw [List.append_nil, stride_entry hn hx]
    rfl
  | @through follow place rest p q n target k l hn hx hlast _ _ ihtarget ih =>
    cases links with
    | zero => simp [strideFrom]
    | succ links =>
      have hopened : ((rest ++ more).isEmpty && !asked) = false := by
        cases hrest : rest with
        | nil =>
          rw [hlast hrest] at hfollow
          cases asked
          · simpa using hfollow.symm
          · simp
        | cons => rfl
      have hstep : stride t asked place (n :: rest ++ more) = .link place target (rest ++ more) := by
        rw [List.cons_append, stride_entry hn hx]
        simp only [hopened, Bool.false_eq_true, if_false]
      have htarget : true = (asked || !(rest ++ more).isEmpty) := by
        cases asked
        · simpa using hopened
        · rfl
      rw [strideFrom, hstep, show links + 1 - (k + l + 1) = links - k - l by omega, ← ih more hfollow]
      exact ihtarget (rest ++ more) htarget links

/-- Names that lead somewhere are followed there, unless more links are on the way than are opened. -/
theorem Leads.strideFrom_eq (h : Leads t follow place names q k) (links : ℕ) :
    strideFrom t follow links place names = if k < links then .reached q else .failed .tooManyLinks := by
  have happend : strideFrom t follow links place (names ++ []) = strideFrom t follow (links - k) q [] :=
    h.strideFrom_append [] (by simp) links
  rw [List.append_nil] at happend
  rw [happend]
  split_ifs with hk
  · rw [show links - k = links - k - 1 + 1 by omega]
    rfl
  · rw [show links - k = 0 by omega]
    rfl

theorem Leads.unique (h : Leads t follow place names q k) (h' : Leads t follow place names q' k') :
    q = q' ∧ k = k' := by
  have hk := (h.strideFrom_eq (k + 1)).symm.trans (h'.strideFrom_eq (k + 1))
  have hk' := (h.strideFrom_eq (k' + 1)).symm.trans (h'.strideFrom_eq (k' + 1))
  rw [if_pos (Nat.lt_succ_self _)] at hk
  rw [if_pos (Nat.lt_succ_self k')] at hk'
  split_ifs at hk hk'
  · exact ⟨Stride.reached.inj hk, by omega⟩

/-- From where a stride ends, the names that are left lead to a place. -/
def Stride.LeadsOn (t : FileTree) (asked : Bool) (q : List Text) (k : ℕ) : Stride → Prop
  | .reached p => p = q ∧ k = 0
  | .link p target rest => ∃ l, k = l + 1 ∧ Leads t asked (linkStart p target) (Path.stepsOf target ++ rest) q l
  | _ => False

theorem leads_of_stride (h : (stride t asked place names).LeadsOn t asked q k) : Leads t asked place names q k := by
  fun_induction stride t asked place names with
  | case1 place =>
    obtain ⟨rfl, rfl⟩ := h
    exact .here
  | case2 place rest es hdir ih => exact .same hdir (ih h)
  | case3 place rest es hdir _ ih => exact .up hdir (ih h)
  | case6 place n rest es hdir hdot hdots hshort target hentry hlast =>
    obtain ⟨rfl, rfl⟩ := h
    obtain ⟨rfl, rfl⟩ : rest = [] ∧ asked = false := by simpa using hlast
    exact .stay ⟨hdot, hdots, by simpa using hshort⟩ ((at?_child hdir n).trans hentry)
  | case7 place n rest es hdir hdot hdots hshort target hentry hopened =>
    obtain ⟨l, rfl, hon⟩ := h
    have hlast : rest = [] → asked = true := by
      rintro rfl
      simpa using hopened
    obtain ⟨p, k₁, k₂, htarget, hrest, rfl⟩ := hon.split hlast
    exact .through ⟨hdot, hdots, by simpa using hshort⟩ ((at?_child hdir n).trans hentry) hlast htarget hrest
  | case8 place n rest es hdir hdot hdots hshort x hlink hentry ih =>
    exact .down ⟨hdot, hdots, by simpa using hshort⟩ ((at?_child hdir n).trans hentry) hlink (ih h)
  | _ => cases h

theorem exists_leads_of_strideFrom (h : strideFrom t asked links place names = .reached q) :
    ∃ k, Leads t asked place names q k := by
  induction links generalizing place names with
  | zero => cases h
  | succ links ih =>
    rw [strideFrom] at h
    split at h
    · next p target rest hlink =>
      obtain ⟨k, hk⟩ := ih h
      refine ⟨k + 1, leads_of_stride ?_⟩
      rw [hlink]
      exact ⟨k, rfl, hk⟩
    · refine ⟨0, leads_of_stride ?_⟩
      rw [h]
      exact ⟨rfl, rfl⟩

end Strides

section Paths

/-- A path leads to a place, through however many links. -/
def LeadsTo (t : FileTree) (follow : Bool) (a : Path) (q : List Text) : Prop := ∃ k, Leads t follow [] a.names q k

variable {a : Path}

theorem LeadsTo.unique (h : t.LeadsTo follow a q) (h' : t.LeadsTo follow a q') : q = q' := by
  obtain ⟨k, hk⟩ := h
  obtain ⟨k', hk'⟩ := h'
  exact (hk.unique hk').1

theorem locate_eq_ok : t.locate follow a = .ok q ↔ IsFollowed a.toText ∧ ∃ k < maxLinks, Leads t follow [] a.names q k := by
  rw [locate]
  constructor
  · intro h
    cases hstride : strideOf t follow a.toText a.names with
    | reached p =>
      rw [hstride] at h
      cases h
      have hshort : IsFollowed a.toText := isFollowed_of_ne_failed fun e => by
        rw [hstride]
        simp
      rw [strideOf_of_isFollowed hshort] at hstride
      obtain ⟨k, hk⟩ := exists_leads_of_strideFrom hstride
      rw [hk.strideFrom_eq] at hstride
      split_ifs at hstride with hlinks
      exact ⟨hshort, k, hlinks, hk⟩
    | _ =>
      rw [hstride] at h
      cases h
  · rintro ⟨hshort, k, hlinks, hk⟩
    rw [strideOf_of_isFollowed hshort, hk.strideFrom_eq, if_pos hlinks]
    rfl

theorem leadsTo_of_locate (h : t.locate follow a = .ok q) : t.LeadsTo follow a q := by
  obtain ⟨-, k, -, hk⟩ := locate_eq_ok.mp h
  exact ⟨k, hk⟩

theorem LeadsTo.locate (h : t.LeadsTo follow a q) (hshort : IsFollowed a.toText)
    (hlinks : t.locate follow a ≠ .error .tooManyLinks) : t.locate follow a = .ok q := by
  obtain ⟨k, hk⟩ := h
  refine locate_eq_ok.mpr ⟨hshort, k, ?_, hk⟩
  by_contra hmany
  refine hlinks ?_
  rw [Entry.locate, strideOf_of_isFollowed hshort, hk.strideFrom_eq, if_neg hmany]
  rfl

theorem find_eq_ok_iff : t.find follow a = .ok x ↔ ∃ q, t.locate follow a = .ok q ∧ t.at? q = some x := by
  rw [find_eq_ok]
  refine exists_congr fun q => and_congr_left fun _ => ?_
  rw [locate]
  cases strideOf t follow a.toText a.names <;> simp [Stride.place]

end Paths

section Ends

theorem exists_dir_dropLast {es : List (Text × Entry)} (h : t.at? place = some (.dir es)) :
    ∃ es, t.at? place.dropLast = some (.dir es) := by
  rcases List.eq_nil_or_concat' place with rfl | ⟨front, n, rfl⟩
  · exact ⟨es, h⟩
  · obtain ⟨es', hes', -⟩ := exists_dir_of_at?_concat h
    rw [List.dropLast_concat]
    exact ⟨es', hes'⟩

theorem Leads.exists_entry (h : Leads t follow place names q k) (hplace : ∃ x, t.at? place = some x) :
    ∃ x, t.at? q = some x := by
  induction h with
  | here => exact hplace
  | same _ _ ih => exact ih hplace
  | up hdir _ ih =>
    obtain ⟨es, hes⟩ := exists_dir_dropLast hdir
    exact ih ⟨_, hes⟩
  | down _ hx _ _ ih => exact ih ⟨_, hx⟩
  | stay _ hx => exact ⟨_, hx⟩
  | @through _ place _ _ _ _ target _ _ _ _ _ _ _ ihtarget ih =>
    refine ih (ihtarget ?_)
    rw [linkStart]
    split_ifs
    · exact ⟨t, rfl⟩
    · exact hplace

theorem Leads.not_link (h : Leads t true place names q k) (hplace : ∀ target, t.at? place ≠ some (.link target)) :
    ∀ target, t.at? q ≠ some (.link target) := by
  generalize htrue : true = opened at h
  induction h with
  | here => exact hplace
  | same _ _ ih => exact ih hplace htrue
  | up hdir _ ih =>
    obtain ⟨es, hes⟩ := exists_dir_dropLast hdir
    exact ih (by simp [hes]) htrue
  | down _ hx hlink _ ih => exact ih (by simpa [hx] using hlink) htrue
  | stay => cases htrue
  | @through _ place _ _ _ _ target _ _ _ hx _ _ _ ihtarget ih =>
    refine ih (ihtarget ?_ rfl) htrue
    rw [linkStart]
    split_ifs
    · rintro target' htop
      rw [at?_append, Option.bind_eq_some_iff] at hx
      cases t with
      | dir es => cases htop
      | _ => cases place <;> simp [at?] at hx
    · exact hplace

theorem Leads.unopened (h : Leads t true place names q k) :
    ∃ p l, Leads t false place names p l ∧ l ≤ k ∧ (p = q ∨ ∃ target, t.at? p = some (.link target)) := by
  generalize htrue : true = opened at h
  induction h with
  | @here _ place => exact ⟨place, 0, .here, le_rfl, .inl rfl⟩
  | same hdir _ ih =>
    obtain ⟨p, l, hl, hle, hp⟩ := ih htrue
    exact ⟨p, l, .same hdir hl, hle, hp⟩
  | up hdir _ ih =>
    obtain ⟨p, l, hl, hle, hp⟩ := ih htrue
    exact ⟨p, l, .up hdir hl, hle, hp⟩
  | down hn hx hlink _ ih =>
    obtain ⟨p, l, hl, hle, hp⟩ := ih htrue
    exact ⟨p, l, .down hn hx hlink hl, hle, hp⟩
  | stay => cases htrue
  | @through _ place rest _ _ n target k _ hn hx _ htarget _ _ ih =>
    cases rest with
    | nil => exact ⟨place ++ [n], 0, .stay hn hx, Nat.zero_le _, .inr ⟨target, hx⟩⟩
    | cons m rest =>
      obtain ⟨p, l, hl, hle, hp⟩ := ih htrue
      exact ⟨p, k + l + 1, .through hn hx nofun htarget hl, by omega, hp⟩

theorem Leads.opened (h : Leads t false place names q k) (hq : ∀ target, t.at? q ≠ some (.link target)) :
    Leads t true place names q k := by
  generalize hfalse : false = opened at h
  induction h with
  | here => exact .here
  | same hdir _ ih => exact .same hdir (ih hq hfalse)
  | up hdir _ ih => exact .up hdir (ih hq hfalse)
  | down hn hx hlink _ ih => exact .down hn hx hlink (ih hq hfalse)
  | stay _ hx => exact absurd hx (hq _)
  | through hn hx hlast htarget _ _ ih => exact .through hn hx (fun _ => rfl) htarget (ih hq hfalse)

end Ends

section Real

theorem Leads.isEntryName (h : Leads t follow place names q k) (hplace : ∀ n ∈ place, IsEntryName n) :
    ∀ n ∈ q, IsEntryName n := by
  induction h with
  | here => exact hplace
  | same _ _ ih => exact ih hplace
  | up _ _ ih => exact ih fun n hn => hplace n (List.mem_of_mem_dropLast hn)
  | down hn _ _ _ ih => exact ih (List.forall_mem_append.mpr ⟨hplace, List.forall_mem_singleton.mpr hn⟩)
  | stay hn => exact List.forall_mem_append.mpr ⟨hplace, List.forall_mem_singleton.mpr hn⟩
  | @through _ place _ _ _ _ target _ _ _ _ _ _ _ ihtarget ih =>
    refine ih (ihtarget ?_)
    rw [linkStart]
    split_ifs
    · exact List.forall_mem_nil _
    · exact hplace

/-- The names of a place lead there from any place before it, and no link is opened. -/
theorem leads_below (hnames : ∀ n ∈ names, IsEntryName n) (h : t.at? (place ++ names) = some x) :
    Leads t false place names (place ++ names) 0 := by
  induction names generalizing place with
  | nil =>
    rw [List.append_nil]
    exact .here
  | cons n names ih =>
    obtain ⟨hn, hnames⟩ := List.forall_mem_cons.mp hnames
    rw [List.append_cons] at h ⊢
    cases hentry : t.at? (place ++ [n]) with
    | none =>
      rw [at?_append, hentry] at h
      cases h
    | some y =>
      cases y with
      | link target =>
        cases names with
        | nil =>
          rw [List.append_nil]
          exact .stay hn hentry
        | cons =>
          rw [at?_append, hentry] at h
          cases h
      | _ => exact .down hn hentry nofun (ih hnames h)

end Real

end RuleReview.Entry
