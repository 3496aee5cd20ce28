import RuleReview.Proofs.FileTree.Strides
import RuleReview.Proofs.Rule.Header
import RuleReview.Rule.Folder

/-! # What reading a rule comes to

In a language that calls malformed every header that it does not read, a file is read as a rule whose parts are sound,
or it is said of its path why it is none, unless something about it stops the program: a name in the header that is no
string, a version that is nested too deeply, or a context file that cannot be looked for.
-/
namespace RuleReview

/-- What is told of the text of a rule when it was read. -/
structure RuleFile.IsSound (f : RuleFile) : Prop where
  id : f.id.IsTrimmed
  version : Rule.IsVersion f.version
  patterns_ne_nil : f.patterns ≠ []
  patterns : ∀ p ∈ f.patterns, p.IsTrimmed
  contextFiles : ∀ n ∈ f.contextFiles, n.IsTrimmed
  content : f.content.IsTrimmed

/-- A header that is not read is malformed. -/
def HeaderLanguage.IsSafe (lang : HeaderLanguage) : Prop := ∀ s e, lang s = .error e → e = .malformed

namespace Rule
variable {lang : HeaderLanguage} {isFile : Glyphs → Except Failure Bool} {path s : Text} {r : RuleFile} {e : Failure}

theorem missingContext_eq_none {ns : List Glyphs} :
    missingContext isFile ns = .ok none ↔ ∀ n ∈ ns, isFile n = .ok true := by
  induction ns with
  | nil => simp [missingContext]
  | cons n ns ih =>
    rw [missingContext, List.forall_mem_cons, ← ih, bind_eq_ok]
    constructor
    · rintro ⟨b, hb, h⟩
      cases b with
      | false => cases h
      | true => exact ⟨hb, h⟩
    · rintro ⟨hn, h⟩
      exact ⟨true, hn, h⟩

/-- The search for a missing file fails at the first name that is not found to be a file, when it cannot be looked
for. -/
theorem missingContext_eq_error {ns : List Glyphs} : missingContext isFile ns = .error e ↔
    ∃ before n after, ns = before ++ n :: after ∧ (∀ m ∈ before, isFile m = .ok true) ∧ isFile n = .error e := by
  induction ns with
  | nil => simp [missingContext]
  | cons n ns ih =>
    rw [missingContext, bind_eq_error]
    constructor
    · rintro (hn | ⟨b, hb, h⟩)
      · exact ⟨[], n, ns, rfl, by simp, hn⟩
      · cases b with
        | false => cases h
        | true =>
          obtain ⟨before, m, after, rfl, hbefore, hm⟩ := ih.mp h
          exact ⟨n :: before, m, after, rfl, List.forall_mem_cons.mpr ⟨hb, hbefore⟩, hm⟩
    · rintro ⟨before, m, after, hns, hbefore, hm⟩
      cases before with
      | nil =>
        cases hns
        exact .inl hm
      | cons b before =>
        cases hns
        obtain ⟨hb, hbefore⟩ := List.forall_mem_cons.mp hbefore
        exact .inr ⟨true, hb, ih.mpr ⟨before, m, after, rfl, hbefore, hm⟩⟩

/-- The rule that a text is, wherever its context files are. -/
def parse (lang : HeaderLanguage) (path s : Text) : Except Failure RuleFile := read lang (fun _ => .ok true) path s

theorem missingContext_everywhere (ns : List Glyphs) : missingContext (fun _ => .ok true) ns = .ok none :=
  missingContext_eq_none.mpr fun _ _ => rfl

theorem read_eq_bind (lang : HeaderLanguage) (isFile : Glyphs → Except Failure Bool) (path s : Text) :
    read lang isFile path s =
      parse lang path s >>= fun r => missingContext isFile r.contextFiles >>= fun
        | some name => .error (.rule path (.contextMissing name.escaped))
        | none => .ok r := by
  cases hs : split? s with
  | none => simp only [parse, read, hs]; rfl
  | some parts =>
    obtain ⟨header, body⟩ := parts
    simp only [parse, read, hs, bind_assoc]
    refine bind_congr fun m => bind_congr fun ms => bind_congr fun _ => bind_congr fun h => ?_
    split
    · rfl
    · rw [missingContext_everywhere]
      rfl

theorem read_eq_ok :
    read lang isFile path s = .ok r ↔ parse lang path s = .ok r ∧ ∀ n ∈ r.contextFiles, isFile n = .ok true := by
  rw [read_eq_bind, bind_eq_ok]
  constructor
  · rintro ⟨r', hr, h⟩
    obtain ⟨o, ho, h⟩ := bind_eq_ok.mp h
    cases o with
    | some n => cases h
    | none =>
      cases h
      exact ⟨hr, missingContext_eq_none.mp ho⟩
  · rintro ⟨hr, h⟩
    exact ⟨r, hr, bind_eq_ok.mpr ⟨none, missingContext_eq_none.mpr h, rfl⟩⟩

/-- What stops the program at the text of a rule, with the failure that it stops with. -/
inductive Halts (lang : HeaderLanguage) (s : Text) : Failure → Prop
  | key {header body : Text} {m : HeaderMapping} {place : Nat} (hs : split? s = some (header, body))
      (hm : lang header = .ok (.mapping m)) (hk : (none, place) ∈ m.members) : Halts lang s .wrongType
  | depth {header body : Text} {m : HeaderMapping} {ms : List (Text × Nat)} {place : Nat}
      (hs : split? s = some (header, body)) (hm : lang header = .ok (.mapping m)) (hms : membersOf m = .ok ms)
      (hv : ms.lookup "version".toList = some place) (hn : m.shown place = .error .tooDeep) :
      Halts lang s (.scalar .tooDeep)

section
variable {header : Text} {m : HeaderMapping} {ms : List (Text × Nat)}

theorem mapping_of_lang (hm : lang header = .ok (.mapping m)) (path : Text) : mapping lang header path = .ok m := by
  rw [mapping, hm]
  rfl

theorem mapping_eq_ok (h : mapping lang header path = .ok m) : lang header = .ok (.mapping m) ∨ m.members = [] := by
  obtain ⟨content, hcontent, h⟩ := bind_eq_ok.mp h
  rw [mapError_eq_ok] at hcontent
  cases content with
  | blank =>
    cases h
    exact .inr rfl
  | mapping =>
    cases h
    exact .inl hcontent
  | other => cases h

theorem mapping_eq_error (hlang : lang.IsSafe) (h : mapping lang header path = .error e) : ∃ p, e = .rule path p := by
  rcases bind_eq_error.mp h with h | ⟨content, -, h⟩
  · obtain ⟨p, hp, rfl⟩ := mapError_eq_error.mp h
    cases hlang _ _ hp
    exact ⟨.badHeader, rfl⟩
  · cases content with
    | other =>
      cases h
      exact ⟨.notMapping, rfl⟩
    | _ => cases h

/-- The name of a member, which has to be a string. -/
def nameOf : Option Glyphs × Nat → Except Failure (Glyphs × Nat)
  | (some k, v) => .ok (k, v)
  | (none, _) => .error .wrongType

theorem nameOf_eq_error {k : Option Glyphs × Nat} : nameOf k = .error e ↔ k.1 = none ∧ e = .wrongType := by
  obtain ⟨k, v⟩ := k
  cases k <;> simp [nameOf, eq_comm]

theorem membersOf_eq (m : HeaderMapping) :
    membersOf m = (m.members.mapM nameOf).map (List.filterMap fun k => k.1.text?.map (·, k.2)) := by
  change (m.members.mapM nameOf >>= fun named => pure _) = _
  cases m.members.mapM nameOf <;> rfl

theorem membersOf_eq_error : membersOf m = .error e ↔ (∃ place, (none, place) ∈ m.members) ∧ e = .wrongType := by
  have hfails : (∃ e, m.members.mapM nameOf = .error e) ↔ ∃ place, (none, place) ∈ m.members := by
    rw [exists_error_iff, exists_mapM_ok]
    simp only [not_forall, exists_prop, ← exists_error_iff, nameOf_eq_error, exists_and_left, exists_eq, and_true]
    exact ⟨fun ⟨⟨_, place⟩, hk, rfl⟩ => ⟨place, hk⟩, fun ⟨place, hk⟩ => ⟨_, hk, rfl⟩⟩
  have hkind : ∀ e, m.members.mapM nameOf = .error e → e = .wrongType := by
    intro e h
    obtain ⟨k, -, hk⟩ := exists_of_mapM_eq_error h
    exact (nameOf_eq_error.mp hk).2
  rw [membersOf_eq, map_eq_error]
  constructor
  · exact fun h => ⟨hfails.mp ⟨e, h⟩, hkind e h⟩
  · rintro ⟨hk, rfl⟩
    obtain ⟨e, he⟩ := hfails.mpr hk
    rw [he, hkind e he]

theorem refuseDepth_eq_error : refuseDepth m ms = .error e ↔
    (∃ place, ms.lookup "version".toList = some place ∧ m.shown place = .error .tooDeep) ∧
      .scalar .tooDeep = e := by
  rw [refuseDepth]
  split
  · next h => simpa using fun _ => Option.map_eq_some_iff.mp h
  · next h =>
    refine ⟨nofun, ?_⟩
    rintro ⟨⟨place, hv, hn⟩, -⟩
    exact absurd (by rw [hv, Option.map_some, hn]) h

end

section
variable {header body : Text}

theorem parse_of_split? (hs : split? s = some (header, body)) : parse lang path s =
    mapping lang header path >>= fun m => membersOf m >>= fun ms => refuseDepth m ms >>= fun _ =>
      ((checkHeader m ms).toExcept.mapError fun is => .rule path (.invalid is)) >>= fun h =>
        if body.trim.isEmpty then .error (.rule path .emptyBody)
        else .ok ⟨h.id, h.version, h.patterns, body.trim, path, h.contextFiles⟩ := by
  simp only [parse, read, hs, missingContext_everywhere]
  rfl

theorem isSound_of_parse (h : parse lang path s = .ok r) : r.IsSound ∧ r.path = path := by
  cases hs : split? s with
  | none =>
    rw [parse, read, hs] at h
    cases h
  | some parts =>
    obtain ⟨header, body⟩ := parts
    rw [parse_of_split? hs] at h
    obtain ⟨m, -, h⟩ := bind_eq_ok.mp h
    obtain ⟨ms, -, h⟩ := bind_eq_ok.mp h
    obtain ⟨_, -, h⟩ := bind_eq_ok.mp h
    obtain ⟨header, hheader, h⟩ := bind_eq_ok.mp h
    split at h
    · cases h
    · next hbody =>
      cases h
      have hsound := Header.isSound_of_checkHeader (Check.toExcept_eq_ok.mp (mapError_eq_ok.mp hheader))
      exact ⟨⟨hsound.id, hsound.version, hsound.patterns_ne_nil, hsound.patterns, hsound.contextFiles,
        Text.isTrimmed_trim_iff.mpr (by simpa using hbody)⟩, rfl⟩

theorem parse_error_cases (hlang : lang.IsSafe) (h : parse lang path s = .error e) :
    (∃ p, e = .rule path p) ∨ Halts lang s e := by
  cases hs : split? s with
  | none =>
    rw [parse, read, hs] at h
    cases h
    exact .inl ⟨_, rfl⟩
  | some parts =>
    obtain ⟨header, body⟩ := parts
    rw [parse_of_split? hs] at h
    rcases bind_eq_error.mp h with h | ⟨m, hm, h⟩
    · exact .inl (mapping_eq_error hlang h)
    rcases bind_eq_error.mp h with h | ⟨ms, hms, h⟩
    · obtain ⟨⟨place, hk⟩, rfl⟩ := membersOf_eq_error.mp h
      exact .inr (.key hs ((mapping_eq_ok hm).resolve_right (List.ne_nil_of_mem hk)) hk)
    rcases bind_eq_error.mp h with h | ⟨_, _, h⟩
    · obtain ⟨⟨place, hv, hn⟩, rfl⟩ := refuseDepth_eq_error.mp h
      refine .inr (.depth hs ((mapping_eq_ok hm).resolve_right fun hnil => ?_) hms hv hn)
      rw [membersOf, hnil] at hms
      cases hms
      cases hv
    rcases bind_eq_error.mp h with h | ⟨_, _, h⟩
    · obtain ⟨is, -, rfl⟩ := mapError_eq_error.mp h
      exact .inl ⟨_, rfl⟩
    · split at h <;> cases h
      exact .inl ⟨_, rfl⟩

theorem Halts.parse_eq (h : Halts lang s e) (path : Text) : parse lang path s = .error e := by
  cases h with
  | @key header body m place hs hm hk =>
    rw [parse_of_split? hs, mapping_of_lang hm]
    change membersOf m >>= _ = _
    rw [membersOf_eq_error.mpr ⟨⟨place, hk⟩, rfl⟩]
    rfl
  | @depth header body m ms place hs hm hms hv hn =>
    rw [parse_of_split? hs, mapping_of_lang hm]
    change membersOf m >>= _ = _
    rw [hms]
    change refuseDepth m ms >>= _ = _
    rw [refuseDepth_eq_error.mpr ⟨⟨place, hv, hn⟩, rfl⟩]
    rfl

end

variable {t : FileTree} {root file : Path} {n : Glyphs}

theorem isFile_eq_ok {p : Path} {b : Bool} : Rule.isFile t p = .ok b ↔ t.hasFile p = .ok b := mapError_eq_ok

theorem isFile_eq_error {p : Path} : Rule.isFile t p = .error e ↔
    t.find true p = .error .nameTooLong ∧ .noFile p.toText .nameTooLong = e := by
  simp only [Rule.isFile, mapError_eq_error, Entry.hasFile_eq_error]
  constructor
  · rintro ⟨_, ⟨h, rfl⟩, rfl⟩
    exact ⟨h, rfl⟩
  · rintro ⟨h, rfl⟩
    exact ⟨_, ⟨h, rfl⟩, rfl⟩

/-- A name from a header stands for a path. -/
def Names (root : Path) (n : Glyphs) (p : Path) : Prop := ∃ s, n.fileName? = some s ∧ root.join (.ofText s) = p

theorem names_ofText {c : Text} {p : Path} : Names root (.ofText c) p ↔ root.join (.ofText c) = p := by
  simp [Names, Glyphs.fileName?_ofText]

theorem Names.eq {p q : Path} (hp : Names root n p) (hq : Names root n q) : p = q := by
  obtain ⟨s, hs, rfl⟩ := hp
  obtain ⟨_, hs', rfl⟩ := hq
  rw [Option.some.inj (hs.symm.trans hs')]

theorem isContext_eq_true : isContext t root n = .ok true ↔ ∃ p, Names root n p ∧ t.hasFile p = .ok true := by
  rw [isContext]
  split
  · next s hs => simp [Names, hs, isFile_eq_ok]
  · next hs => simp [Names, hs]

theorem isContext_eq_error : isContext t root n = .error e ↔
    ∃ p, Names root n p ∧ t.find true p = .error .nameTooLong ∧ .noFile p.toText .nameTooLong = e := by
  rw [isContext]
  split
  · next s hs => simp [Names, hs, isFile_eq_error]
  · next hs => simp [Names, hs]

/-- What stops the program at a file, with the failure that it stops with. -/
inductive Stops (lang : HeaderLanguage) (t : FileTree) (root file : Path) : Failure → Prop
  | path (h : '\x00' ∈ file.toText) : Stops lang t root file (.noFile file.toText .zeroByte)
  | text {s : Text} {e : Failure} (hs : t.readText file = .ok (.ok s)) (he : Halts lang s e) : Stops lang t root file e
  /-- The path of a context file is too long to be followed. -/
  | context {s : Text} {r : RuleFile} {before after : List Glyphs} {n : Glyphs} {p : Path}
      (hs : t.readText file = .ok (.ok s)) (hr : parse lang (pathFrom root file) s = .ok r)
      (hn : r.contextFiles = before ++ n :: after)
      (hbefore : ∀ m ∈ before, ∃ q, Names root m q ∧ t.hasFile q = .ok true) (hp : Names root n p)
      (hlong : t.find true p = .error .nameTooLong) : Stops lang t root file (.noFile p.toText .nameTooLong)

theorem ofFile_of_text (lang : HeaderLanguage) (root : Path) (hs : t.readText file = .ok (.ok s)) :
    ofFile lang t root file = read lang (isContext t root) (pathFrom root file) s := by
  rw [ofFile, hs]

/-- A file is read as a rule when its text is one and the context files are there. -/
theorem ofFile_eq_ok : ofFile lang t root file = .ok r ↔ ∃ s, t.readText file = .ok (.ok s) ∧
    parse lang (pathFrom root file) s = .ok r ∧
      ∀ n ∈ r.contextFiles, ∃ p, Names root n p ∧ t.hasFile p = .ok true := by
  constructor
  · intro h
    rw [ofFile] at h
    split at h
    · cases h
    · cases h
    · next s hs =>
      obtain ⟨hr, hcontext⟩ := read_eq_ok.mp h
      exact ⟨s, hs, hr, fun n hn => isContext_eq_true.mp (hcontext n hn)⟩
  · rintro ⟨s, hs, hr, hcontext⟩
    rw [ofFile_of_text lang root hs]
    exact read_eq_ok.mpr ⟨hr, fun n hn => isContext_eq_true.mpr (hcontext n hn)⟩

theorem Stops.ofFile_eq (h : Stops lang t root file e) : ofFile lang t root file = .error e := by
  cases h with
  | path h =>
    rw [ofFile, Entry.readText_eq_zeroByte.mpr h]
    rfl
  | text hs he =>
    rw [ofFile_of_text lang root hs, read_eq_bind, he.parse_eq]
    rfl
  | context hs hr hn hbefore hp hlong =>
    have hmissing := missingContext_eq_error.mpr ⟨_, _, _, hn, fun m hm => isContext_eq_true.mpr (hbefore m hm),
      isContext_eq_error.mpr ⟨_, hp, hlong, rfl⟩⟩
    rw [ofFile_of_text lang root hs, read_eq_bind, hr]
    change missingContext _ _ >>= _ = _
    rw [hmissing]
    rfl

theorem ofFile_error_cases (hlang : lang.IsSafe) (h : ofFile lang t root file = .error e) :
    (∃ p, e = .rule (pathFrom root file) p) ∨ Stops lang t root file e := by
  rw [ofFile] at h
  split at h
  · next q hq =>
    cases h
    cases q with
    | zeroByte => exact .inr (.path (Entry.readText_eq_zeroByte.mp hq))
    | _ => exact .inl ⟨_, rfl⟩
  · cases h
    exact .inl ⟨_, rfl⟩
  · next s hs =>
    rw [read_eq_bind] at h
    rcases bind_eq_error.mp h with h | ⟨r, hr, h⟩
    · exact (parse_error_cases hlang h).imp_right (.text hs)
    · rcases bind_eq_error.mp h with h | ⟨o, -, h⟩
      · obtain ⟨before, n, after, hn, hbefore, hfail⟩ := missingContext_eq_error.mp h
        obtain ⟨p, hp, hlong, rfl⟩ := isContext_eq_error.mp hfail
        exact .inr (.context hs hr hn (fun m hm => isContext_eq_true.mp (hbefore m hm)) hp hlong)
      · cases o <;> cases h
        exact .inl ⟨_, rfl⟩

theorem Stops.ne_rule (h : Stops lang t root file e) (path : Text) (p : RuleProblem) : e ≠ .rule path p := by
  cases h with
  | path | context => nofun
  | text hs he => cases he <;> nofun

end Rule

end RuleReview
