import RuleReview.Prompt
import RuleReview.Proofs.Success

/-! # Values in the text of a template

In the text of a template a dollar sign opens a placeholder: the name of a value, alone or in braces, or a second dollar
sign, which stands for one. The text is read once, from its front to its end, and what is put in for a placeholder is
not read itself. So a prompt holds every value as it is, whatever dollar signs the value has in it.
-/
namespace RuleReview

namespace Template

def startsName (c : Char) : Bool := c.isAlpha || c = '_'

def continuesName (c : Char) : Bool := c.isAlphanum || c = '_'

/-- A name that a value is looked up under. -/
def isIdentifier : Text → Bool
  | [] => false
  | c :: s => startsName c && s.all continuesName

/-- The longest name at the front of a text, and the text behind it. -/
def name? (s : Text) : Option (Text × Text) :=
  if isIdentifier (s.takeWhile continuesName) then some (s.takeWhile continuesName, s.dropWhile continuesName) else none

/-- What a dollar sign opens. -/
inductive Mark where
  | sign
  | name (n : Text)

/-- Why a text is no template for some values. -/
inductive Fault where
  /-- A dollar sign opens nothing. The text is what stands behind it. -/
  | malformed (rest : Text)
  | unknown (name : Text)

/-- What is opened at the front of a text behind a dollar sign, and the text behind that. -/
def mark? : Text → Option (Mark × Text)
  | '$' :: s => some (.sign, s)
  | '{' :: s =>
    match name? s with
    | some (n, '}' :: rest) => some (.name n, rest)
    | _ => none
  | s => (name? s).map fun (n, rest) => (.name n, rest)

/-- What is put in for a placeholder. -/
def Mark.filled (values : List (Text × Text)) : Mark → Except Fault Text
  | .sign => .ok ['$']
  | .name n => (values.lookup n).elim (.error (.unknown n)) .ok

/-- A placeholder stands at the front of a text behind a dollar sign. A name is not left while it goes on. -/
inductive Opens : Text → Mark → Text → Prop
  | sign {s : Text} : Opens ('$' :: s) .sign s
  | name {n s : Text} : isIdentifier n = true → (∀ c, s.head? = some c → continuesName c = false) →
      Opens (n ++ s) (.name n) s
  | braced {n s : Text} : isIdentifier n = true → Opens ('{' :: (n ++ '}' :: s)) (.name n) s

variable {values : List (Text × Text)} {value : Hole → Text} {t : Template} {n s r rest : Text} {m : Mark}

section Marks

theorem continuesName_of_isIdentifier (h : isIdentifier n = true) : ∀ c ∈ n, continuesName c = true := by
  cases n with
  | nil => cases h
  | cons c s =>
    rw [isIdentifier, Bool.and_eq_true, List.all_eq_true] at h
    have hstart : continuesName c = true := by
      have hc := h.1
      simp only [startsName, continuesName, Char.isAlphanum, Bool.or_eq_true] at hc ⊢
      exact hc.imp_left .inl
    exact List.forall_mem_cons.mpr ⟨hstart, h.2⟩

theorem ne_nil_of_isIdentifier (h : isIdentifier n = true) : n ≠ [] := by
  rintro rfl
  cases h

theorem name?_eq_some : name? s = some (n, rest) ↔
    s = n ++ rest ∧ isIdentifier n = true ∧ ∀ c, rest.head? = some c → continuesName c = false := by
  constructor
  · intro h
    rw [name?, Option.ite_none_right_eq_some] at h
    obtain ⟨hname, he⟩ := h
    cases he
    refine ⟨List.takeWhile_append_dropWhile.symm, hname, fun c hc => ?_⟩
    have hhead := List.head?_dropWhile_not continuesName s
    rw [hc] at hhead
    simpa using hhead
  · rintro ⟨rfl, hname, hend⟩
    have hall := continuesName_of_isIdentifier hname
    have hstop : rest.takeWhile continuesName = [] ∧ rest.dropWhile continuesName = rest := by
      cases rest with
      | nil => exact ⟨rfl, rfl⟩
      | cons c rest => simp [hend c rfl]
    rw [name?, List.takeWhile_append_of_pos hall, List.dropWhile_append_of_pos hall, hstop.1, hstop.2,
      List.append_nil, if_pos hname]

theorem mark?_eq_some : mark? s = some (m, rest) ↔ Opens s m rest := by
  constructor
  · intro h
    unfold mark? at h
    split at h
    · cases h
      exact .sign
    · split at h
      · next hname =>
        obtain ⟨rfl, hn, -⟩ := name?_eq_some.mp hname
        cases h
        exact .braced hn
      · cases h
    · obtain ⟨⟨n, r⟩, hname, he⟩ := Option.map_eq_some_iff.mp h
      obtain ⟨rfl, hn, hend⟩ := name?_eq_some.mp hname
      cases he
      exact .name hn hend
  · intro h
    cases h with
    | sign => rfl
    | @braced n rest hn =>
      have hname : name? (n ++ '}' :: rest) = some (n, '}' :: rest) :=
        name?_eq_some.mpr ⟨rfl, hn, fun c hc => Option.some.inj hc ▸ rfl⟩
      simp only [mark?, hname]
    | @name n rest hn hend =>
      have hname : name? (n ++ rest) = some (n, rest) := name?_eq_some.mpr ⟨rfl, hn, hend⟩
      obtain ⟨c, n, rfl⟩ := List.exists_cons_of_ne_nil (ne_nil_of_isIdentifier hn)
      have hstart : startsName c = true := (Bool.and_eq_true_iff.mp hn).1
      unfold mark?
      split
      · next he => cases he; cases hstart
      · next he => cases he; cases hstart
      · rw [hname]
        rfl

theorem Opens.length_lt (h : Opens s m rest) : rest.length < s.length + 1 := by
  cases h with
  | sign => simp only [List.length_cons]; omega
  | name => simp only [List.length_append]; omega
  | braced => simp only [List.length_cons, List.length_append]; omega

end Marks

/-- The text of a template with its placeholders replaced, one after the other from its front. -/
def substitute (values : List (Text × Text)) : Text → Except Fault Text
  | [] => .ok []
  | c :: s =>
    if c = '$' then
      match _h : mark? s with
      | none => .error (.malformed s)
      | some (m, rest) => do
        let v ← m.filled values
        return v ++ (← substitute values rest)
    else (c :: ·) <$> substitute values s
termination_by s => s.length
decreasing_by
  · have hlength := (mark?_eq_some.mp ‹mark? s = some (m, rest)›).length_lt
    simpa using hlength
  · simp

/-- The second text is the first one with a value for each placeholder, and otherwise unchanged. -/
inductive Replaces (values : List (Text × Text)) : Text → Text → Prop
  | done : Replaces values [] []
  | char {c : Char} {s r : Text} : c ≠ '$' → Replaces values s r → Replaces values (c :: s) (c :: r)
  | mark {m : Mark} {s rest v r : Text} : Opens s m rest → m.filled values = .ok v → Replaces values rest r →
      Replaces values ('$' :: s) (v ++ r)

theorem substitute_mark (h : Opens s m rest) : substitute values ('$' :: s) = do
    let v ← m.filled values
    return v ++ (← substitute values rest) := by
  rw [substitute, if_pos rfl]
  split
  · next hnone => rw [mark?_eq_some.mpr h] at hnone; cases hnone
  · next m' rest' hsome =>
    rw [mark?_eq_some.mpr h] at hsome
    cases hsome
    rfl

theorem substitute_char {c : Char} (hc : c ≠ '$') : substitute values (c :: s) = (c :: ·) <$> substitute values s := by
  rw [substitute, if_neg hc]

/-- A text is substituted into exactly one text, when there is one with values for all of its placeholders. -/
theorem substitute_eq_ok : substitute values s = .ok r ↔ Replaces values s r := by
  constructor
  · intro h
    fun_induction substitute values s generalizing r with
    | case1 =>
      cases h
      exact .done
    | case2 s hnone => cases h
    | case3 s m rest hmark ih =>
      obtain ⟨v, hv, h⟩ := bind_eq_ok.mp h
      obtain ⟨r', hr', h⟩ := bind_eq_ok.mp h
      cases h
      exact .mark (mark?_eq_some.mp hmark) hv (ih hr')
    | case4 c s hc ih =>
      obtain ⟨r', hr', rfl⟩ := map_eq_ok.mp h
      exact .char hc (ih hr')
  · intro h
    induction h with
    | done => rw [substitute]
    | char hc _ ih =>
      rw [substitute_char hc, ih]
      rfl
    | mark hmark hv _ ih =>
      rw [substitute_mark hmark, hv, ih]
      rfl

/-- What is put in is not read. -/
example : substitute [("diff".toList, "$files".toList), ("files".toList, "x".toList)] "$diff, $\x7bfiles\x7d, $$".toList =
    .ok "$files, x, $".toList := by cbv

section Fill

theorem fill_text (value : Hole → Text) (s : Text) (t : Template) : fill value (.text s :: t) = s ++ fill value t := rfl

theorem fill_hole (value : Hole → Text) (h : Hole) (t : Template) : fill value (.hole h :: t) = value h ++ fill value t := rfl

theorem isIdentifier_name (h : Hole) : isIdentifier h.name = true := by cases h <;> decide

/-- The holes of a template in their order. -/
def holes (t : Template) : List Hole :=
  t.filterMap fun
    | .hole h => some h
    | .text _ => none

/-- No text of the template has a dollar sign, and none goes on with the name of a hole in front of it. -/
def isReadable : Template → Bool
  | [] => true
  | .text s :: t => !s.contains '$' && isReadable t
  | .hole _ :: t => !(source t).head?.any continuesName && isReadable t

theorem Replaces.append_text (hs : '$' ∉ s) {s' : Text} (h : Replaces values s' r) : Replaces values (s ++ s') (s ++ r) := by
  induction s with
  | nil => exact h
  | cons c s ih =>
    obtain ⟨hc, hs⟩ := not_or.mp (fun h => hs (List.mem_cons.mpr h))
    exact .char (Ne.symm hc) (ih hs)

/-- The text of a template has its placeholders where the template has its holes. -/
theorem replaces_source (hread : t.isReadable = true)
    (hvalues : ∀ h ∈ t.holes, values.lookup h.name = some (value h)) : Replaces values t.source (t.fill value) := by
  induction t with
  | nil => exact .done
  | cons piece t ih =>
    cases piece with
    | text s =>
      obtain ⟨hs, hread⟩ := Bool.and_eq_true_iff.mp hread
      rw [source, fill_text, fill_text]
      exact (ih hread hvalues).append_text (by simpa using hs)
    | hole h =>
      obtain ⟨hend, hread⟩ := Bool.and_eq_true_iff.mp hread
      obtain ⟨hvalue, hvalues⟩ := List.forall_mem_cons.mp hvalues
      have hfilled : (Mark.name h.name).filled values = .ok (value h) := by
        rw [Mark.filled, hvalue]
        rfl
      have hopens : Opens (h.name ++ source t) (.name h.name) (source t) := by
        refine .name (isIdentifier_name h) fun c hc => ?_
        simpa [hc] using hend
      rw [source, fill_hole, fill_hole]
      exact .mark hopens hfilled (ih hread hvalues)

end Fill

end Template

namespace Request

/-- The context files, each under its path, with an empty line between them. -/
def blocks (context : List (Text × Text)) : Text :=
  Text.joinWith "\n\n" (context.map fun (path, content) => contextBlock path content)

/-- The values of a prompt by the names of their placeholders. -/
def values (r : Request) (context : Text) : List (Text × Text) :=
  [("threadline_id".toList, r.rule.id), ("threadline_version".toList, r.rule.version),
    ("threadline_content".toList, r.rule.content), ("context_section".toList, context), ("diff".toList, r.diff),
    ("files".toList, Text.joinLines r.files)]

theorem isReadable_check : Template.check.isReadable = true := by
  simp only [Template.check, Template.lines, List.map_cons, List.map_nil]
  repeat rw [String.toList_ofList]
  decide +kernel

theorem isReadable_contextFiles : Template.contextFiles.isReadable = true := by decide +kernel

theorem replaces_contextText {context : List (Text × Text)} (h : context ≠ []) :
    Template.Replaces [("context_files".toList, blocks context)] Template.contextFiles.source (contextText context) := by
  rw [contextText, if_neg (by simpa using h)]
  refine Template.replaces_source isReadable_contextFiles fun hole hhole => ?_
  obtain rfl : hole = .contextFiles := List.mem_singleton.mp hhole
  rfl

theorem replaces_prompt (r : Request) :
    Template.Replaces (r.values (contextText r.context)) Template.check.source r.prompt := by
  refine Template.replaces_source isReadable_check fun hole hhole => ?_
  cases hole with
  | contextFiles =>
    have hholes : Template.check.holes = [.id, .version, .content, .context, .diff, .files] := rfl
    rw [hholes] at hhole
    exact absurd hhole (by decide)
  | _ => rfl

end Request

end RuleReview
