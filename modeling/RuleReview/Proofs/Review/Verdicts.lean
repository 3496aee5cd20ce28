import RuleReview.Decimal.Loose
import RuleReview.Proofs.Distinct
import RuleReview.Proofs.Json.Frames
import RuleReview.Proofs.Text.Cut
import RuleReview.Verdict

/-! # Verdicts on the wire

A verdict is sent as a JSON object, alone or in a fence among other text, and has to be read from the answer as it was
sent. The reader looks for fences without regard to strings: a fence that the reasoning quotes is taken for one around
the object. Which verdicts get through is told exactly by the fences in their encoding.
-/
namespace RuleReview

/-- Strings, lists and words to choose from are taken as they are. -/
structure Coercion.IsFaithful (c : Coercion) : Prop where
  text : ∀ g, c.text (.ofGlyphs g) = .pass g
  list : ∀ items, c.list (.arr items) = .pass items
  choice : ∀ names, ∀ name ∈ names, c.choice names (.str name) = .pass name

theorem Loose.isFaithful_coercion : coercion.IsFaithful where
  text g := by
    rw [Json.ofGlyphs]
    cases ht : g.text? with
    | none => rfl
    | some t => exact congrArg Check.pass (Glyphs.text?_eq_some.mp ht).symm
  list _ := rfl
  choice _ _ hname := if_pos (List.contains_iff_mem.mpr hname)

namespace Verdict

open Json

/-- The object that stands for a verdict. -/
def members (v : Verdict) : List (Text × Strings) :=
  [("status", .one (.ofText v.standing.name)), ("reasoning", .one v.reasoning), ("file_references", .many v.citations)]

/-- `j` is a JSON object that stands for the verdict, with its members in any order. -/
def Encodes (v : Verdict) (j : Text) : Prop :=
  ∃ ms s, ms.Perm v.members ∧ j = '\x7b' :: s ∧ SpellsMembers ms s []

/-- The verdict with the halves that form pairs joined, in all of its strings. -/
def joined (v : Verdict) : Verdict := ⟨v.standing, Json.joined v.reasoning, v.citations.map Json.joined⟩

/-- A complete fence stands in the text. -/
def Fenced (s : Text) : Prop := ∃ a b c, s = a ++ (fence ++ (b ++ (fence ++ c)))

/-- An answer that has a JSON object in a fence, with blanks around it and other text around the fence. -/
def fencedAnswer (before blanks j blanks' after : Text) : Text :=
  before ++ (fence ++ ("json" ++ (blanks ++ (j ++ (blanks' ++ (fence ++ after))))))

variable {c : Coercion} {v : Verdict} {j s : Text} {ms : List (Text × Strings)} {read : List (Text × Json)}

section Reading

theorem nodup_members (v : Verdict) : (v.members.map Prod.fst).Nodup := by
  have hnames : v.members.map Prod.fst = ["status".toList, "reasoning".toList, "file_references".toList] := rfl
  rw [hnames]
  decide

theorem joined_eq (h : ∀ g ∈ v.reasoning :: v.citations, IsJoined g) : v.joined = v := by
  obtain ⟨hreasoning, hcitations⟩ := List.forall_mem_cons.mp h
  have hsame : v.citations.map Json.joined = v.citations := by
    conv_rhs => rw [← List.map_id v.citations]
    exact List.map_congr_left fun g hg => (hcitations g hg).joined_eq
  rw [joined, hreasoning.joined_eq, hsame]

theorem checkStanding_name (hc : c.IsFaithful) (g : Standing) : checkStanding c (.str g.name) = .pass g := by
  have hplain : Standing.plain g.name = g.name := by cases g <;> decide
  have hname : Standing.ofName? g.name = some g := by cases g <;> decide
  have hlisted : g.name ∈ Standing.names := by cases g <;> decide
  rw [checkStanding]
  simp only [hplain, hc.choice _ _ hlisted, Check.andThen, hname]
  rfl

theorem texts_ofGlyphs (hc : c.IsFaithful) (gs : List Glyphs) : c.texts (.arr (gs.map .ofGlyphs)) = .pass gs := by
  have hitems : ∀ n : Nat, Check.itemsFrom c.text n (gs.map .ofGlyphs) = .pass gs := by
    induction gs with
    | nil => exact fun _ => rfl
    | cons g gs ih =>
      intro n
      rw [List.map_cons, Check.itemsFrom, ih (n + 1), hc.text]
      rfl
  rw [Coercion.texts, hc.list]
  exact hitems 0

theorem check_members (hc : c.IsFaithful) (hp : ms.Perm v.members) : check c (readAs ms) = .pass v.joined := by
  have hnames : (readAs ms).map Prod.fst = ms.map Prod.fst := by
    rw [readAs, List.map_map]
    rfl
  have hn : ((readAs ms).map Prod.fst).Nodup := hnames ▸ (hp.map Prod.fst).nodup_iff.mpr (nodup_members v)
  have hfind {k : Text} {x : Strings} (hm : (k, x) ∈ v.members) : (readAs ms).lookup k = some x.joined.toJson :=
    lookup_of_mem hn (List.mem_map_of_mem (hp.mem_iff.mpr hm))
  have hstatus : (readAs ms).lookup "status".toList = some (.str v.standing.name) := by
    rw [hfind (x := .one (.ofText v.standing.name)) (by simp [members]), Strings.joined, Json.joined_ofText,
      Strings.toJson, ofGlyphs, Glyphs.text?_ofText]
    rfl
  have hreasoning := hfind (k := "reasoning".toList) (x := .one v.reasoning) (by simp [members])
  have hcitations := hfind (k := "file_references".toList) (x := .many v.citations) (by simp [members])
  have hsame : withCitations (readAs ms) = readAs ms := by
    rw [withCitations, hcitations]
  have hstanding : Check.field "status" (readAs ms) (.wrong .missing) (checkStanding c) = .pass v.standing := by
    rw [Check.field, hstatus, Option.elim_some, checkStanding_name hc]
    rfl
  have htext : optional "reasoning" (readAs ms) [] c.text = .pass (Json.joined v.reasoning) := by
    have hgiven := hc.text (Json.joined v.reasoning)
    rw [optional, Check.field, hreasoning, Option.elim_some, Strings.joined, Strings.toJson]
    rw [ofGlyphs] at hgiven ⊢
    cases ht : (Json.joined v.reasoning).text? <;> rw [ht] at hgiven <;> exact congrArg (Check.within _) hgiven
  have hlist : optional "file_references" (readAs ms) [] c.texts = .pass (v.citations.map Json.joined) := by
    rw [optional, Check.field, hcitations, Option.elim_some, Strings.joined, Strings.toJson]
    exact congrArg (Check.within _) (texts_ofGlyphs hc (v.citations.map Json.joined))
  rw [check, hsame, hstanding, htext, hlist]
  rfl

theorem check_of_lookup_none (h : read.lookup "status".toList = none) : ∃ is, check c read = .fail is := by
  have hnone : (withCitations read).lookup "status".toList = none := by
    rw [withCitations]
    split
    · next v _ _ =>
      rw [List.lookup_append, h]
      rfl
    · exact h
  have hstatus : Check.field "status" (withCitations read) (.wrong .missing) (checkStanding c) =
      (Check.wrong .missing).within (.field "status") := by
    rw [Check.field, hnone]
    rfl
  rw [check, hstatus]
  cases optional "reasoning" (withCitations read) [] c.text <;>
    cases optional "file_references" (withCitations read) [] c.texts <;> exact ⟨_, rfl⟩

theorem dropTrailing_append {p : Char → Bool} {x y : Text} {c : Char} (hc : p c = false) (hy : ∀ d ∈ y, p d = true) :
    Text.dropTrailing p (x ++ c :: y) = x ++ [c] := by
  have hreverse : ∀ d ∈ y.reverse, p d = true := fun d hd => hy d (List.mem_reverse.mp hd)
  rw [Text.dropTrailing, List.reverse_append, List.reverse_cons, List.append_assoc,
    List.dropWhile_append_of_pos hreverse, List.singleton_append, List.dropWhile_cons_of_neg (by simp [hc])]
  simp

theorem upToBrace?_append {x y : Text} (hy : '\x7d' ∉ y) : upToBrace? (x ++ '\x7d' :: y) = some (x ++ ['\x7d']) := by
  have hkept : Text.dropTrailing (· != '\x7d') (x ++ '\x7d' :: y) = x ++ ['\x7d'] := by
    refine dropTrailing_append (by decide) fun d hd => ?_
    rw [bne_iff_ne]
    rintro rfl
    exact hy hd
  rw [upToBrace?, hkept]
  simp

theorem dropWhile_brace {x y : Text} (hx : '\x7b' ∉ x) : (x ++ '\x7b' :: y).dropWhile (· != '\x7b') = '\x7b' :: y := by
  rw [List.dropWhile_append_of_pos, List.dropWhile_cons_of_neg (by decide)]
  intro d hd
  rw [bne_iff_ne]
  rintro rfl
  exact hx hd

theorem objectText?_of_unfenced {x y : Text} (hu : unfenced s = x ++ '\x7b' :: (j ++ '\x7d' :: y)) (hx : '\x7b' ∉ x)
    (hy : '\x7d' ∉ y) : objectText? s = some ('\x7b' :: (j ++ ['\x7d'])) := by
  rw [objectText?, hu, dropWhile_brace hx]
  exact upToBrace?_append (x := '\x7b' :: j) hy

theorem exists_last_of_mem {c : Char} (hc : c ∈ s) : ∃ y z, s = y ++ c :: z ∧ c ∉ z := by
  obtain ⟨z, y, hs, hz⟩ := List.eq_append_cons_of_mem (List.mem_reverse.mpr hc)
  refine ⟨y.reverse, z.reverse, ?_, fun h => hz (List.mem_reverse.mp h)⟩
  rw [← List.reverse_reverse s, hs]
  simp

theorem cases_objectText? (s : Text) : objectText? s = none ∨
    ∃ x y z, '\x7b' ∉ x ∧ unfenced s = x ++ '\x7b' :: (y ++ '\x7d' :: z) ∧
      objectText? s = some ('\x7b' :: (y ++ ['\x7d'])) := by
  by_cases hopen : '\x7b' ∈ unfenced s
  · obtain ⟨x, r, hr, hx⟩ := List.eq_append_cons_of_mem hopen
    by_cases hclose : '\x7d' ∈ r
    · obtain ⟨y, z, rfl, hz⟩ := exists_last_of_mem hclose
      exact .inr ⟨x, y, z, hx, hr, objectText?_of_unfenced hr hx hz⟩
    · refine .inl ?_
      have hnone : Text.dropTrailing (· != '\x7d') ('\x7b' :: r) = [] := by
        rw [Text.dropTrailing, List.dropWhile_eq_nil_iff.mpr, List.reverse_nil]
        intro d hd
        rw [bne_iff_ne]
        rintro rfl
        exact hclose (List.mem_of_ne_of_mem (by decide) (List.mem_reverse.mp hd))
      rw [objectText?, hr, dropWhile_brace hx]
      dsimp only
      rw [upToBrace?, hnone]
      rfl
  · refine .inl ?_
    rw [objectText?, List.dropWhile_eq_nil_iff.mpr]
    intro d hd
    rw [bne_iff_ne]
    rintro rfl
    exact hopen hd

theorem exists_ofAnswer_error (h : ∀ t, objectText? s = some t → ∀ x, parse t = .ok x →
    ∀ ms, x.members? = some ms → ms.lookup "status".toList = none) : ∃ e, ofAnswer c s = .error e := by
  rw [ofAnswer]
  split
  · exact ⟨_, rfl⟩
  · next t ht =>
    split
    · exact ⟨_, rfl⟩
    · next x hx =>
      split
      · next ms hms =>
        obtain ⟨is, his⟩ := check_of_lookup_none (c := c) (h t ht x hx ms hms)
        rw [his]
        exact ⟨_, rfl⟩
      · exact ⟨_, rfl⟩

end Reading

section Fences

theorem Encodes.framed (h : v.Encodes j) : ∃ s, j = '\x7b' :: (s ++ ['\x7d']) ∧ Framed false (s ++ ['\x7d']) := by
  obtain ⟨ms, s, -, rfl, hspells⟩ := h
  obtain ⟨x, rfl⟩ := hspells.close_suffix
  exact ⟨x, rfl, hspells.framed⟩

theorem Encodes.ofAnswer_of_objectText? (hc : c.IsFaithful) (h : v.Encodes j) (ht : objectText? s = some j) :
    ofAnswer c s = .ok v.joined := by
  obtain ⟨ms, r, hp, rfl, hspells⟩ := h
  have hn : (ms.map Prod.fst).Nodup := (hp.map Prod.fst).nodup_iff.mpr (nodup_members v)
  rw [ofAnswer, ht]
  dsimp only
  rw [parse_of_spells hspells hn]
  dsimp only [Json.members?]
  rw [check_members hc hp]
  rfl

theorem fence_ne_nil : fence ≠ [] := by decide

theorem cut?_fence_append {x : Text} (hx : ¬fence <:+: x) (hlast : x.getLast? ≠ some '\x60') (t : Text) :
    Text.cut? fence (x ++ t) = (Text.cut? fence t).map fun (a, b) => (x ++ a, b) :=
  Text.cut?_replicate_append (n := 2) hx hlast t

theorem cut?_fence_of_notMem {x : Text} (hx : '\x60' ∉ x) (t : Text) :
    Text.cut? fence (x ++ t) = (Text.cut? fence t).map fun (a, b) => (x ++ a, b) := by
  refine cut?_fence_append (fun h => hx (h.subset ?_)) (fun h => hx (List.mem_of_getLast? h)) t
  decide

theorem unfenced_of_cut? {a b c r : Text} (h : Text.cut? fence s = some (a, r)) (h' : Text.cut? fence r = some (b, c)) :
    unfenced s = b := by
  rw [unfenced, h, Option.bind_some]
  dsimp only
  rw [h']

theorem unfenced_of_not_fenced (h : ¬Fenced s) : unfenced s = s := by
  rw [unfenced]
  split
  · next b c hcut =>
    obtain ⟨⟨a, r⟩, hfirst, hsecond⟩ := Option.bind_eq_some_iff.mp hcut
    refine absurd ⟨a, b, c, ?_⟩ h
    rw [← Text.eq_append_of_cut? fence_ne_nil hsecond]
    exact Text.eq_append_of_cut? fence_ne_nil hfirst
  · rfl

theorem Fenced.unfenced (h : Fenced s) : ∃ a c, s = a ++ (fence ++ (unfenced s ++ (fence ++ c))) := by
  obtain ⟨a₀, b₀, c₀, hs⟩ := h
  have hfence : fence <:+: s := ⟨a₀, b₀ ++ (fence ++ c₀), by rw [hs, List.append_assoc]⟩
  obtain ⟨a, r, hfirst⟩ := Text.exists_cut? fence_ne_nil hfence
  have hsame := Text.eq_append_of_cut? fence_ne_nil hfirst
  have hlength := Text.length_le_of_cut? fence_ne_nil hfirst hs
  have hrest : fence ++ c₀ <:+ r := by
    have hsecond : fence ++ c₀ <:+ s := ⟨a₀ ++ (fence ++ b₀), by rw [hs]; simp only [List.append_assoc]⟩
    have hfirst : r <:+ s := ⟨a ++ fence, by rw [hsame, List.append_assoc]⟩
    refine List.suffix_of_suffix_length_le hsecond hfirst ?_
    have hcount := congrArg List.length (hs.symm.trans hsame)
    simp only [List.length_append] at hcount ⊢
    omega
  obtain ⟨b, c, hsecond⟩ := Text.exists_cut? fence_ne_nil ((List.prefix_append fence c₀).isInfix.trans hrest.isInfix)
  refine ⟨a, c, ?_⟩
  rw [unfenced_of_cut? hfirst hsecond, ← Text.eq_append_of_cut? fence_ne_nil hsecond]
  exact hsame

end Fences

section Answers

variable {before blanks blanks' after : Text}

theorem Encodes.ofAnswer_of_not_fenced (hc : c.IsFaithful) (h : v.Encodes j) (hj : ¬Fenced j) :
    ofAnswer c j = .ok v.joined := by
  obtain ⟨s, hs, -⟩ := h.framed
  refine h.ofAnswer_of_objectText? hc ?_
  have hu : Verdict.unfenced j = [] ++ '\x7b' :: (s ++ '\x7d' :: []) := (unfenced_of_not_fenced hj).trans hs
  exact (objectText?_of_unfenced hu List.not_mem_nil List.not_mem_nil).trans (congrArg some hs.symm)

theorem lookup_status_of_joints (h : ∀ m ∈ read, ∀ c ∈ m.1, isJoint c = true) : read.lookup "status".toList = none := by
  rw [List.lookup_eq_none_iff]
  intro m hm
  rw [bne_iff_ne]
  intro he
  exact absurd (h m hm 's' (by rw [← he]; decide)) (by decide)

/-- What stands between two fences of an encoding begins within a string, so that it has no names but joints. -/
theorem Encodes.ofAnswer_of_fenced (h : v.Encodes j) (hj : Fenced j) : ∃ e, ofAnswer c j = .error e := by
  refine exists_ofAnswer_error fun t ht x hx ms hms => ?_
  obtain ⟨s, hs, hframed⟩ := h.framed
  obtain ⟨a, c, hsplit⟩ := hj.unfenced
  rcases cases_objectText? j with hnone | ⟨p, y, z, -, hu, hobject⟩
  · cases hnone.symm.trans ht
  · cases ht.symm.trans hobject
    obtain ⟨a', hbody⟩ : ∃ a', s ++ ['\x7d'] =
        (a' ++ (fence ++ p)) ++ '\x7b' :: ((y ++ ['\x7d']) ++ (z ++ (fence ++ c))) := by
      rw [hu, hs] at hsplit
      cases a with
      | nil => cases hsplit
      | cons d a' => exact ⟨a', by simpa using (List.cons.inj hsplit).2⟩
    rw [hbody] at hframed
    have hrest := (hframed.mark (by decide) (by simp)).2
    have hkept : ∃ e, e ≠ [] ∧ Framed true ('\x7b' :: (y ++ ['\x7d']) ++ e) :=
      ⟨z ++ (fence ++ c), by simp [fence], (framed_cons (by decide) (by decide)).mpr hrest⟩
    exact lookup_status_of_joints ((kept_framed.parse hx hkept).2 ms hms)

theorem isBlank_ne (hblanks : ∀ c ∈ blanks, Text.isBlank c = true) {d : Char} (hd : Text.isBlank d = false) :
    d ∉ blanks := by
  intro hmem
  cases hd.symm.trans (hblanks d hmem)

theorem cut?_fencedAnswer (hbefore : '\x60' ∉ before) : Text.cut? fence (fencedAnswer before blanks j blanks' after) =
    some (before, "json" ++ (blanks ++ (j ++ (blanks' ++ (fence ++ after))))) := by
  rw [fencedAnswer, cut?_fence_of_notMem hbefore, Text.cut?_append_self fence_ne_nil]
  exact congrArg (fun b => some (b, _)) (List.append_nil before)

theorem Encodes.ofAnswer_fencedAnswer_of_infix (h : v.Encodes j) (hj : fence <:+: j) (hbefore : '\x60' ∉ before)
    (hblanks : ∀ c ∈ blanks, Text.isBlank c = true) :
    ∃ e, ofAnswer c (fencedAnswer before blanks j blanks' after) = .error e := by
  obtain ⟨s, hs, hframed⟩ := h.framed
  obtain ⟨a, c, hcut⟩ := Text.exists_cut? fence_ne_nil hj
  have hjson : '\x60' ∉ "json".toList ++ blanks :=
    fun hmem => (List.mem_append.mp hmem).elim (by decide) (isBlank_ne hblanks (by decide))
  have hinside : unfenced (fencedAnswer before blanks j blanks' after) = "json" ++ blanks ++ a := by
    refine unfenced_of_cut? (cut?_fencedAnswer hbefore) (c := c ++ (blanks' ++ (fence ++ after))) ?_
    rw [← List.append_assoc, cut?_fence_of_notMem hjson, Text.cut?_append fence_ne_nil hcut]
    rfl
  have hj := Text.eq_append_of_cut? fence_ne_nil hcut
  refine exists_ofAnswer_error fun t ht x hx ms hms => ?_
  rcases cases_objectText? (fencedAnswer before blanks j blanks' after) with hnone | ⟨p, y, z, hp, hu, hobject⟩
  · cases hnone.symm.trans ht
  · cases ht.symm.trans hobject
    obtain ⟨a', rfl, ha'⟩ : ∃ a', a = '\x7b' :: a' ∧ s ++ ['\x7d'] = a' ++ (fence ++ c) := by
      rw [hs] at hj
      cases a with
      | nil => cases hj
      | cons d a' =>
        obtain ⟨rfl, hbody⟩ := List.cons.inj hj
        exact ⟨a', rfl, hbody⟩
    have hbrace : '\x7b' ∉ "json".toList ++ blanks :=
      fun hmem => (List.mem_append.mp hmem).elim (by decide) (isBlank_ne hblanks (by decide))
    have hsame : '\x7b' :: (y ++ '\x7d' :: z) = '\x7b' :: a' := by
      rw [← dropWhile_brace hp, ← hu, hinside, dropWhile_brace hbrace]
    rw [ha', ← (List.cons.inj hsame).2, List.append_assoc, List.cons_append] at hframed
    have hwithin := (hframed.mark (by decide) (by simp [fence])).1
    have hend := (kept_endsWithin.parse hx ((endsWithin_outside (by decide)).trans hwithin)).1
    cases hend

theorem Encodes.ofAnswer_fencedAnswer (hc : c.IsFaithful) (h : v.Encodes j) (hj : ¬fence <:+: j)
    (hbefore : '\x60' ∉ before)
    (hblanks : ∀ c ∈ blanks, Text.isBlank c = true) (hblanks' : ∀ c ∈ blanks', Text.isBlank c = true) :
    ofAnswer c (fencedAnswer before blanks j blanks' after) = .ok v.joined := by
  obtain ⟨s, hs, -⟩ := h.framed
  have hjson : '\x60' ∉ "json".toList ++ blanks :=
    fun hmem => (List.mem_append.mp hmem).elim (by decide) (isBlank_ne hblanks (by decide))
  have hlast : j.getLast? ≠ some '\x60' := by
    rw [hs, ← List.cons_append, List.getLast?_concat]
    decide
  have hinside : unfenced (fencedAnswer before blanks j blanks' after) = "json" ++ blanks ++ (j ++ blanks') := by
    refine unfenced_of_cut? (cut?_fencedAnswer hbefore) (c := after) ?_
    rw [← List.append_assoc, cut?_fence_of_notMem hjson, cut?_fence_append hj hlast,
      cut?_fence_of_notMem (isBlank_ne hblanks' (by decide)), Text.cut?_append_self fence_ne_nil]
    simp
  have hbrace : '\x7b' ∉ "json".toList ++ blanks :=
    fun hmem => (List.mem_append.mp hmem).elim (by decide) (isBlank_ne hblanks (by decide))
  have hbody : j ++ blanks' = '\x7b' :: (s ++ '\x7d' :: blanks') := by
    rw [hs]
    simp
  refine h.ofAnswer_of_objectText? hc ?_
  rw [hbody] at hinside
  exact (objectText?_of_unfenced hinside hbrace (isBlank_ne hblanks' (by decide))).trans (congrArg some hs.symm)

end Answers

/-- How a verdict gets through in an encoding of it, when the encoding is the whole answer, and when it stands in a
fence with other text around the fence. Only halves that form pairs come out joined, where there are some. -/
theorem ofAnswer_of_encodes (hc : c.IsFaithful) (h : v.Encodes j) :
    ((∀ g ∈ v.reasoning :: v.citations, IsJoined g) → v.joined = v) ∧
      (¬Fenced j → ofAnswer c j = .ok v.joined) ∧ (Fenced j → ∃ e, ofAnswer c j = .error e) ∧
      ∀ before blanks blanks' after : Text, '\x60' ∉ before → '\x60' ∉ after →
        (∀ c ∈ blanks, Text.isBlank c = true) → (∀ c ∈ blanks', Text.isBlank c = true) →
          (¬fence <:+: j → ofAnswer c (fencedAnswer before blanks j blanks' after) = .ok v.joined) ∧
          (fence <:+: j → ∃ e, ofAnswer c (fencedAnswer before blanks j blanks' after) = .error e) := by
  refine ⟨joined_eq, h.ofAnswer_of_not_fenced hc, h.ofAnswer_of_fenced, ?_⟩
  intro before blanks blanks' after hbefore _ hblanks hblanks'
  constructor
  · intro hfree
    exact h.ofAnswer_fencedAnswer hc hfree hbefore hblanks hblanks'
  · intro hfence
    exact h.ofAnswer_fencedAnswer_of_infix hfence hbefore hblanks

def line (plain : Char → Bool) (v : Verdict) : Text := write plain (.obj (writtenAs v.members))

theorem encodes_line (plain : Char → Bool) (v : Verdict) : v.Encodes (v.line plain) :=
  ⟨v.members, _, .refl _, rfl, spellsMembers_write plain _ _ (List.forall_mem_nil _) []⟩

def plainVerdict : Verdict := ⟨.attention, .ofText "a.ts:1 has a \x7b", [.ofText "a.ts"]⟩

theorem ofAnswer_of_encodes_plainVerdict : Loose.coercion.IsFaithful ∧
    ofAnswer Loose.coercion (plainVerdict.line fun _ => true) = .ok plainVerdict ∧
    ofAnswer Loose.coercion (fencedAnswer "Here it is: " "\n" (plainVerdict.line fun _ => true) "\n" ".") =
      .ok plainVerdict := by
  have hfree : ¬fence <:+: plainVerdict.line fun _ => true := by decide +kernel
  have hjoined : ∀ g ∈ plainVerdict.reasoning :: plainVerdict.citations, IsJoined g := by
    simp only [plainVerdict, List.forall_mem_cons]
    exact ⟨isJoined_ofText _, isJoined_ofText _, List.forall_mem_nil _⟩
  obtain ⟨hsame, halone, -, hfenced⟩ :=
    ofAnswer_of_encodes Loose.isFaithful_coercion (encodes_line (fun _ => true) plainVerdict)
  rw [hsame hjoined] at halone hfenced
  have hblank : ∀ c ∈ ['\n'], Text.isBlank c = true := List.forall_mem_singleton.mpr rfl
  refine ⟨Loose.isFaithful_coercion, halone ?_,
    (hfenced "Here it is: " "\n" "\n" "." (by decide) (by decide) hblank hblank).1 hfree⟩
  rintro ⟨a, b, c, habc⟩
  exact hfree ⟨a, b ++ (fence ++ c), (List.append_assoc _ _ _).trans habc.symm⟩

/-- A verdict whose reasoning quotes code in a fence. -/
def quotingVerdict : Verdict := ⟨.attention, .ofText "use \x60\x60\x60x\x60\x60\x60 here", [.ofText "a.ts"]⟩

/-- A verdict that quotes a fence is lost, alone and in a fence. -/
theorem ofAnswer_quotingVerdict : quotingVerdict.Encodes (quotingVerdict.line fun _ => true) ∧
    ofAnswer Loose.coercion (quotingVerdict.line fun _ => true) = .error (.provider .noObject) ∧
    ofAnswer Loose.coercion (fencedAnswer [] "\n" (quotingVerdict.line fun _ => true) "\n" []) =
      .error (.provider .noObject) := by
  have halone : objectText? (quotingVerdict.line fun _ => true) = none := by decide +kernel
  have hfenced : objectText? (fencedAnswer [] "\n" (quotingVerdict.line fun _ => true) "\n" []) = none := by
    decide +kernel
  refine ⟨encodes_line _ quotingVerdict, ?_, ?_⟩
  · rw [ofAnswer, halone]
  · rw [ofAnswer, hfenced]

end Verdict

end RuleReview
