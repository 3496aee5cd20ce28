import RuleReview.Proofs.Diff.MarkLine

/-! # Sections as git writes them

What happened to a file is told by lines behind the one that opens its section, which are read one after the other.
Where one of them names a path, it is read as it is. Where none does, as for a change of the mode alone, an empty file
or a binary one, the path is what the first line says.
-/
namespace RuleReview.Diff
variable {p : Text}

section Hunks

/-- Where a hunk starts and how long it is; a length of one is left out. -/
def rangeText (start count : Nat) : Text :=
  if count = 1 then Text.ofNat start else Text.ofNat start ++ ',' :: Text.ofNat count

def rangesHeader (a b c d : Nat) (heading : Text) : Text :=
  "@@ -".toList ++ (rangeText a b ++ (" +".toList ++ (rangeText c d ++ (" @@".toList ++ heading))))

/-- A hunk that git writes: its header tells its numbers, and each of its lines has a marker. -/
structure IsWritten (h : Hunk) : Prop where
  header : ∃ a b c d : Nat, h.oldStart = a ∧ h.oldCount = b ∧ h.newStart = c ∧ h.newCount = d ∧
    h.header = rangesHeader a b c d h.heading
  countable : h.isWritable = true
  heading : '\n' ∉ h.heading
  lines : ∀ l ∈ h.lines, '\n' ∉ l ∧ ∃ marker ∈ [' ', '+', '-', '\\'], l.head? = some marker

theorem headerParts?_rangesHeader (a b c d : Nat) (heading : Text) : headerParts? (rangesHeader a b c d heading) =
    some ((Text.ofNat a, Text.ofNat b), (Text.ofNat c, Text.ofNat d), heading) := by
  let count (n : Nat) : Option Text := if n = 1 then none else some (Text.ofNat n)
  let f : HeaderForm := ⟨Text.ofNat a, count b, Text.ofNat c, count d, heading⟩
  have hrange : ∀ start n, rangeText start n = HeaderForm.rangeText (Text.ofNat start) (count n) := by
    intro start n
    by_cases hone : n = 1 <;> simp [rangeText, HeaderForm.rangeText, count, hone]
  have hnumeral : ∀ n, ∀ ds ∈ count n, Text.IsNumeral ds := by
    intro n
    by_cases hone : n = 1 <;> simp [count, hone, Text.isNumeral_ofNat]
  have hcount : ∀ n, (count n).getD "1" = Text.ofNat n := by
    intro n
    by_cases hone : n = 1 <;> simp [count, hone]
    rfl
  have hf : f.Spells (rangesHeader a b c d heading) := by
    refine ⟨?_, HeaderForm.forall_mem_numerals.mpr
      ⟨Text.isNumeral_ofNat a, hnumeral b, Text.isNumeral_ofNat c, hnumeral d⟩⟩
    rw [rangesHeader, hrange, hrange]
    rfl
  rw [hf.headerParts?, hcount, hcount]

theorem newline_notMem_rangeText (start count : Nat) : '\n' ∉ rangeText start count := by
  rw [rangeText]
  split <;> simp [newline_notMem_ofNat]

theorem IsWritten.readable {h : Hunk} (hw : IsWritten h) : h.Readable := by
  obtain ⟨⟨a, b, c, d, ha, hb, hc, hd, hheader⟩, hcount, hheading, hlines⟩ := hw
  refine ⟨?_, ?_, fun number => ?_, fun l hl => ?_⟩
  · rw [hheader]
    rfl
  · rw [hheader]
    simp [rangesHeader, newline_notMem_rangeText, hheading]
  · exact readHunk_of_headerParts? ha hb hc hd hcount (by rw [hheader, headerParts?_rangesHeader]) number
  · obtain ⟨hbreak, marker, hmarker, hhead⟩ := hlines l hl
    obtain ⟨rest, rfl⟩ := List.head?_eq_some_iff.mp hhead
    simp only [List.mem_cons, List.not_mem_nil, or_false] at hmarker
    rcases hmarker with rfl | rfl | rfl | rfl
    all_goals exact ⟨rfl, rfl, hbreak⟩

end Hunks

section Lines

/-- What happened to a file, with its mode before and after where that changed. -/
inductive Fate where
  | modified (modes : Option (Text × Text))
  | added (mode : Text)
  | deleted (mode : Text)
  | renamed (source similarity : Text) (modes : Option (Text × Text))

/-- What is shown of the content: nothing, as it is the same or there is none, that it is another one, or its hunks. -/
inductive Shown where
  | nothing
  | different
  | hunks (hs : List Hunk)

def modeLines : Option (Text × Text) → List Text
  | none => []
  | some (old, new) => ["old mode ".toList ++ old, "new mode ".toList ++ new]

def modeTexts : Option (Text × Text) → List Text
  | none => []
  | some (old, new) => [old, new]

namespace Fate

def isAdded : Fate → Bool
  | .added _ => true
  | _ => false

def isDeleted : Fate → Bool
  | .deleted _ => true
  | _ => false

def isRenamed : Fate → Bool
  | .renamed .. => true
  | _ => false

def source (path : Text) : Fate → Text
  | .renamed source .. => source
  | _ => path

def details : Fate → List Text
  | .modified modes => modeTexts modes
  | .added mode => [mode]
  | .deleted mode => [mode]
  | .renamed _ similarity modes => similarity :: modeTexts modes

def oldName (path : Text) (f : Fate) : Text := if f.isAdded then nullFile else 'a' :: '/' :: f.source path

def newName (path : Text) (f : Fate) : Text := if f.isDeleted then nullFile else 'b' :: '/' :: path

def tellOld (path : Text) (f : Fate) (s : Section) : Section :=
  if f.isAdded then { s with isNew := true } else { s with oldPath := some (f.source path) }

def tellNew (path : Text) (f : Fate) (s : Section) : Section :=
  if f.isDeleted then { s with isDeleted := true, newPath := none } else { s with newPath := some path }

def lines (path : Text) : Fate → List Text
  | .modified modes => modeLines modes
  | .added mode => ["new file mode ".toList ++ mode]
  | .deleted mode => ["deleted file mode ".toList ++ mode]
  | .renamed source similarity modes =>
    modeLines modes ++ ["similarity index ".toList ++ similarity, "rename from ".toList ++ gitName source,
      "rename to ".toList ++ gitName path]

def tell (path : Text) (s : Section) : Fate → Section
  | .modified _ => s
  | .added _ => { s with isNew := true }
  | .deleted _ => { s with isDeleted := true }
  | .renamed source .. => { s with oldPath := some source, newPath := some path, isRenamed := true }

end Fate

namespace Shown

def isDifferent : Shown → Bool
  | .different => true
  | _ => false

def allHunks : Shown → List Hunk
  | .hunks hs => hs
  | _ => []

def areHunks : Shown → Bool
  | .hunks _ => true
  | _ => false

def lines (old new : Text) : Shown → List Text
  | .nothing => []
  | .different => ["Binary files ".toList ++ (gitName old ++ (" and ".toList ++ (gitName new ++ " differ".toList)))]
  | .hunks _ => ["--- ".toList ++ fileName old, "+++ ".toList ++ fileName new]

def tell (path : Text) (f : Fate) (s : Section) : Shown → Section
  | .nothing => s
  | .different => { s with isBinary := true }
  | .hunks _ => f.tellNew path (f.tellOld path s)

end Shown

/-- A section as git writes it, with the names of its two contents where it tells them. -/
structure Written where
  path : Text
  fate : Fate
  index : Option Text
  shown : Shown

namespace Written

def extra (w : Written) : List Text :=
  w.fate.lines w.path ++ (w.index.map ("index ".toList ++ ·)).toList ++
    w.shown.lines (w.fate.oldName w.path) (w.fate.newName w.path)

def header (w : Written) : List Text := markLine (w.fate.source w.path) w.path :: w.extra

def text (w : Written) : Text := Text.joinLines (w.header ++ w.shown.allHunks.flatMap Hunk.allLines) ++ ['\n']

end Written

end Lines

section Kept
variable (p : Text) (f : Fate) (s : Section)

@[simp]
theorem Fate.header_tell : (f.tell p s).header = s.header := by cases f <;> rfl

@[simp]
theorem Fate.hunks_tell : (f.tell p s).hunks = s.hunks := by cases f <;> rfl

@[simp]
theorem Fate.header_tellOld : (f.tellOld p s).header = s.header := by
  rw [tellOld]
  split <;> rfl

@[simp]
theorem Fate.hunks_tellOld : (f.tellOld p s).hunks = s.hunks := by
  rw [tellOld]
  split <;> rfl

@[simp]
theorem Fate.header_tellNew : (f.tellNew p s).header = s.header := by
  rw [tellNew]
  split <;> rfl

@[simp]
theorem Fate.hunks_tellNew : (f.tellNew p s).hunks = s.hunks := by
  rw [tellNew]
  split <;> rfl

@[simp]
theorem Shown.header_tell (sh : Shown) : (sh.tell p f s).header = s.header := by cases sh <;> simp [tell]

@[simp]
theorem Shown.hunks_tell (sh : Shown) : (sh.tell p f s).hunks = s.hunks := by cases sh <;> simp [tell]

end Kept

section Telling

theorem tell_modeLines (modes : Option (Text × Text)) (s : Section) :
    (modeLines modes).foldlM applyHeaderLine s = .ok s := by
  rcases modes with _ | ⟨old, new⟩
  · rfl
  · rfl

theorem applyHeaderLine_from (hp : IsPath p) (s : Section) : applyHeaderLine s ("rename from ".toList ++ gitName p) =
    .ok { s with oldPath := some p, isRenamed := true } := by
  change (barePath (gitName p)).map _ = _
  rw [barePath_gitName, Diff.nonempty, if_neg (by simpa using hp.nonempty)]
  rfl

theorem applyHeaderLine_to (hp : IsPath p) (s : Section) : applyHeaderLine s ("rename to ".toList ++ gitName p) =
    .ok { s with newPath := some p, isRenamed := true } := by
  change (barePath (gitName p)).map _ = _
  rw [barePath_gitName, Diff.nonempty, if_neg (by simpa using hp.nonempty)]
  rfl

theorem applyHeaderLine_old (f : Fate) (hp : IsPath (f.source p)) (s : Section) :
    applyHeaderLine s ("--- ".toList ++ fileName (f.oldName p)) = .ok (f.tellOld p s) := by
  change (markedPath (fileName (f.oldName p))).map _ = _
  rw [markedPath_fileName, Fate.oldName, Fate.tellOld]
  cases f.isAdded with
  | true => rfl
  | false =>
    rw [if_neg Bool.false_ne_true, if_neg Bool.false_ne_true, pathOfName_side (.inl rfl) hp]
    rfl

theorem applyHeaderLine_new (f : Fate) (hp : IsPath p) (s : Section) :
    applyHeaderLine s ("+++ ".toList ++ fileName (f.newName p)) = .ok (f.tellNew p s) := by
  change (markedPath (fileName (f.newName p))).map _ = _
  rw [markedPath_fileName, Fate.newName, Fate.tellNew]
  cases f.isDeleted with
  | true => rfl
  | false =>
    rw [if_neg Bool.false_ne_true, if_neg Bool.false_ne_true, pathOfName_side (.inr rfl) hp]
    rfl

theorem tell_fateLines (f : Fate) (hp : IsPath p) (hs : IsPath (f.source p)) (s : Section) :
    (f.lines p).foldlM applyHeaderLine s = .ok (f.tell p s) := by
  cases f with
  | modified modes => exact tell_modeLines modes s
  | added mode => rfl
  | deleted mode => rfl
  | renamed source similarity modes =>
    have hsource : IsPath source := hs
    have hsimilarity : applyHeaderLine s ("similarity index ".toList ++ similarity) = .ok s := rfl
    rw [Fate.lines, List.foldlM_append, tell_modeLines]
    simp only [bind, Except.bind, List.foldlM_cons, List.foldlM_nil, hsimilarity, applyHeaderLine_from hsource,
      applyHeaderLine_to hp]
    rfl

theorem tell_shownLines (sh : Shown) (f : Fate) (hp : IsPath p) (hs : IsPath (f.source p)) (s : Section) :
    (sh.lines (f.oldName p) (f.newName p)).foldlM applyHeaderLine s = .ok (sh.tell p f s) := by
  cases sh with
  | nothing => rfl
  | different => rfl
  | hunks hunks =>
    simp only [Shown.lines, List.foldlM_cons, List.foldlM_nil, bind, Except.bind, applyHeaderLine_old f hs,
      applyHeaderLine_new f hp]
    rfl

end Telling

section Plain

theorem newline_notMem_fileName (s : Text) : '\n' ∉ fileName s := by
  rw [fileName, List.mem_append, not_or]
  refine ⟨newline_notMem_gitName s, ?_⟩
  split <;> decide

theorem newline_notMem_markLine (p q : Text) : '\n' ∉ markLine p q := by
  have hmark : '\n' ∉ gitHeaderMark := by decide
  have hleft := newline_notMem_gitName ('a' :: '/' :: p)
  have hright := newline_notMem_gitName ('b' :: '/' :: q)
  simp [markLine, namePair, hmark, hleft, hright]

theorem isPlain_modeLines {modes : Option (Text × Text)} (h : ∀ t ∈ modeTexts modes, '\n' ∉ t) :
    ∀ l ∈ modeLines modes, IsPlain l := by
  rcases modes with _ | ⟨old, new⟩
  · rintro l ⟨⟩
  · have hold : IsPlain ("old mode ".toList ++ old) := ⟨rfl, rfl, by simpa using h old (by simp [modeTexts])⟩
    have hnew : IsPlain ("new mode ".toList ++ new) := ⟨rfl, rfl, by simpa using h new (by simp [modeTexts])⟩
    exact List.forall_mem_cons.mpr ⟨hold, List.forall_mem_singleton.mpr hnew⟩

theorem isPlain_fateLines {f : Fate} (h : ∀ t ∈ f.details, '\n' ∉ t) (p : Text) : ∀ l ∈ f.lines p, IsPlain l := by
  cases f with
  | modified modes => exact isPlain_modeLines h
  | added mode => exact List.forall_mem_singleton.mpr ⟨rfl, rfl, by simpa using h mode (List.mem_singleton.mpr rfl)⟩
  | deleted mode => exact List.forall_mem_singleton.mpr ⟨rfl, rfl, by simpa using h mode (List.mem_singleton.mpr rfl)⟩
  | renamed source similarity modes =>
    obtain ⟨hsimilarity, hmodes⟩ := List.forall_mem_cons.mp h
    refine List.forall_mem_append.mpr ⟨isPlain_modeLines hmodes, ?_⟩
    simp only [List.forall_mem_cons, List.not_mem_nil, false_imp_iff, implies_true, and_true]
    refine ⟨⟨rfl, rfl, by simpa using hsimilarity⟩, ⟨rfl, rfl, ?_⟩, ⟨rfl, rfl, ?_⟩⟩
    · simp [newline_notMem_gitName]
    · simp [newline_notMem_gitName]

theorem isPlain_shownLines (sh : Shown) (old new : Text) : ∀ l ∈ sh.lines old new, IsPlain l := by
  cases sh with
  | nothing => rintro l ⟨⟩
  | different => exact List.forall_mem_singleton.mpr ⟨rfl, rfl, by simp [newline_notMem_gitName]⟩
  | hunks hunks =>
    have hold : IsPlain ("--- ".toList ++ fileName old) := ⟨rfl, rfl, by simp [newline_notMem_fileName]⟩
    have hnew : IsPlain ("+++ ".toList ++ fileName new) := ⟨rfl, rfl, by simp [newline_notMem_fileName]⟩
    exact List.forall_mem_cons.mpr ⟨hold, List.forall_mem_singleton.mpr hnew⟩

end Plain

section Reading

namespace Written

/-- The texts that are written as they are have no line feed, and a path is one. -/
structure Sound (w : Written) : Prop where
  path : IsPath w.path
  source : IsPath (w.fate.source w.path)
  fate : ∀ t ∈ w.fate.details, '\n' ∉ t
  index : ∀ t ∈ w.index, '\n' ∉ t
  hunks : ∀ h ∈ w.shown.allHunks, IsWritten h

/-- What is read of the header, given the paths of the line that opens the section. -/
def told (w : Written) (paths : Option Text × Option Text) : Section :=
  w.shown.tell w.path w.fate (w.fate.tell w.path { header := w.header, oldPath := paths.1, newPath := paths.2 })

def read (w : Written) (paths : Option Text × Option Text) : Section := { w.told paths with hunks := w.shown.allHunks }

/-- Whether a line names the path besides the one that opens the section. -/
def namesPath (w : Written) : Bool := w.fate.isRenamed || w.shown.areHunks

theorem Sound.isPlain_extra {w : Written} (hw : w.Sound) : ∀ l ∈ w.extra, IsPlain l := by
  have hindex : ∀ l ∈ (w.index.map ("index ".toList ++ ·)).toList, IsPlain l := by
    intro l hl
    obtain ⟨t, ht, rfl⟩ := Option.map_eq_some_iff.mp (Option.mem_toList.mp hl)
    exact ⟨rfl, rfl, by simpa using hw.index t ht⟩
  refine List.forall_mem_append.mpr ⟨List.forall_mem_append.mpr ⟨?_, hindex⟩, isPlain_shownLines w.shown _ _⟩
  exact isPlain_fateLines hw.fate w.path

theorem Sound.readHeader {w : Written} (hw : w.Sound) {paths : Option Text × Option Text}
    (h : headerPaths (markLine (w.fate.source w.path) w.path) = .ok paths) :
    readHeader (markLine (w.fate.source w.path) w.path) w.extra = .ok { w.read paths with hunks := [] } := by
  have hindex (s : Section) : (w.index.map ("index ".toList ++ ·)).toList.foldlM applyHeaderLine s = .ok s := by
    cases w.index <;> rfl
  have hhunks : (w.told paths).hunks = [] := by simp [told]
  have hread : { w.read paths with hunks := [] } = w.told paths := by rw [← hhunks, read]
  rw [hread, Diff.readHeader, h]
  simp only [extra, List.foldlM_append, bind, Except.bind, tell_fateLines w.fate hw.path hw.source, hindex,
    tell_shownLines w.shown w.fate hw.path hw.source]
  rfl

theorem Sound.readable {w : Written} (hw : w.Sound) {paths : Option Text × Option Text}
    (h : headerPaths (markLine (w.fate.source w.path) w.path) = .ok paths) : (w.read paths).Readable := by
  have hheader : (w.read paths).header = w.header := by simp [read, told]
  exact ⟨⟨_, w.extra, hheader, rfl, newline_notMem_markLine _ _, hw.isPlain_extra, hw.readHeader h⟩,
    fun k hk => (hw.hunks k hk).readable⟩

theorem Sound.parse {w : Written} (hw : w.Sound) {paths : Option Text × Option Text}
    (h : headerPaths (markLine (w.fate.source w.path) w.path) = .ok paths) :
    Diff.parse w.text = .ok ⟨[w.read paths], [], true⟩ := by
  let d : Diff := ⟨[w.read paths], [], true⟩
  have hread : d.Readable := ⟨by simp [d], List.forall_mem_singleton.mpr (hw.readable h)⟩
  have hlines : d.allLines ≠ [] := hread.allLines_ne_nil (List.cons_ne_nil _ _)
  have htext : d.serialize = w.text := by
    have hall : d.allLines = w.header ++ w.shown.allHunks.flatMap Hunk.allLines := by
      simp [d, Diff.allLines, Section.allLines, read, told]
    rw [Diff.serialize, if_neg (by simpa using hlines), hall]
    rfl
  rw [← htext]
  exact hread.parse_serialize hlines (.inl rfl)

/-- The line that opens a section can be read; where the path stayed, each side is what a second reading keeps of it. -/
theorem exists_headerPaths (w : Written) :
    ∃ paths, headerPaths (markLine (w.fate.source w.path) w.path) = .ok paths ∧ (w.fate.isRenamed = false →
      paths = (pathOfName ('a' :: '/' :: clipped w.path), pathOfName ('b' :: '/' :: clipped w.path))) := by
  obtain ⟨path, fate, index, shown⟩ := w
  cases fate with
  | modified modes => exact ⟨_, headerPaths_same path, fun _ => rfl⟩
  | added mode => exact ⟨_, headerPaths_same path, fun _ => rfl⟩
  | deleted mode => exact ⟨_, headerPaths_same path, fun _ => rfl⟩
  | renamed source similarity modes =>
    obtain ⟨old, new, h⟩ := Diff.exists_headerPaths source path
    exact ⟨_, h, nofun⟩

theorem path_read_of_namesPath {w : Written} (h : w.namesPath = true) (paths : Option Text × Option Text) :
    (w.read paths).path = some w.path := by
  obtain ⟨path, fate, index, shown⟩ := w
  cases shown with
  | hunks hunks => cases fate <;> rfl
  | nothing =>
    cases fate with
    | renamed source similarity modes => rfl
    | _ => cases h
  | different =>
    cases fate with
    | renamed source similarity modes => rfl
    | _ => cases h

/-- Where no other line names the path, it is read from the line that opens the section. -/
theorem path_read_of_not_namesPath {w : Written} (h : w.namesPath = false) (paths : Option Text × Option Text) :
    (w.read paths).path = paths.2.or paths.1 := by
  obtain ⟨path, fate, index, shown⟩ := w
  cases shown with
  | hunks hunks => cases fate <;> cases h
  | nothing =>
    cases fate with
    | renamed source similarity modes => cases h
    | _ => rfl
  | different =>
    cases fate with
    | renamed source similarity modes => cases h
    | _ => rfl

end Written

/-- The section says of the file what was written of it. -/
structure Tells (s : Section) (w : Written) : Prop where
  isNew : s.isNew = w.fate.isAdded
  isDeleted : s.isDeleted = w.fate.isDeleted
  isRenamed : s.isRenamed = w.fate.isRenamed
  isBinary : s.isBinary = w.shown.isDifferent
  hunks : s.hunks = w.shown.allHunks
  renamed : w.fate.isRenamed = true → s.oldPath = some (w.fate.source w.path) ∧ s.newPath = some w.path
  path : s.path = some w.path ↔ w.namesPath = true ∨ '\t' ∉ w.path ∧ w.path.getLast? ≠ some '\r'

/-- A written section is read as one section that says what was written; but where only its first line names the path, a
path with a tab in it or a carriage return at its end is lost. -/
theorem parse_written {w : Written} (hw : w.Sound) :
    ∃ s : Section, Diff.parse w.text = .ok ⟨[s], [], true⟩ ∧ Tells s w := by
  obtain ⟨paths, hpaths, hsame⟩ := w.exists_headerPaths
  refine ⟨w.read paths, hw.parse hpaths, ?_⟩
  have hpath : (w.read paths).path = some w.path ↔
      w.namesPath = true ∨ '\t' ∉ w.path ∧ w.path.getLast? ≠ some '\r' := by
    cases hnames : w.namesPath with
    | true => simp [Written.path_read_of_namesPath hnames]
    | false =>
      obtain ⟨hrenamed, -⟩ := Bool.or_eq_false_iff.mp hnames
      rw [Written.path_read_of_not_namesPath hnames, hsame hrenamed, Option.or_eq_some_iff,
        pathOfName_clipped_iff (.inr rfl) hw.path, pathOfName_clipped_iff (.inl rfl) hw.path]
      constructor
      · rintro (hwhole | ⟨-, hwhole⟩)
        · exact .inr hwhole
        · exact .inr hwhole
      · exact fun hwhole => .inl (hwhole.resolve_left Bool.false_ne_true)
  obtain ⟨path, fate, index, shown⟩ := w
  refine ⟨?_, ?_, ?_, ?_, rfl, ?_, hpath⟩
  · cases fate <;> cases shown <;> rfl
  · cases fate <;> cases shown <;> rfl
  · cases fate <;> cases shown <;> rfl
  · cases fate <;> cases shown <;> rfl
  · intro hrenamed
    cases fate with
    | renamed source similarity modes => cases shown <;> exact ⟨rfl, rfl⟩
    | _ => cases hrenamed

def renamedFile : Written where
  path := "notes/\"b\" c.md"
  fate := .renamed "notes/a\tb.md" "90%" none
  index := some "1111111..2222222 100644"
  shown := .hunks [⟨1, 1, 1, 2, " Notes", rangesHeader 1 1 1 2 " Notes", [" one", "+two"]⟩]

theorem sound_renamedFile : renamedFile.Sound := by
  refine ⟨⟨by decide, by decide, by decide⟩, ⟨by decide, by decide, by decide⟩, by decide, by decide, ?_⟩
  refine List.forall_mem_singleton.mpr ⟨⟨1, 1, 1, 2, rfl, rfl, rfl, rfl, rfl⟩, by decide +kernel, by decide, ?_⟩
  have hcontext : '\n' ∉ " one".toList ∧ ∃ marker ∈ [' ', '+', '-', '\\'], " one".toList.head? = some marker :=
    ⟨by decide, ' ', by decide, rfl⟩
  have hadded : '\n' ∉ "+two".toList ∧ ∃ marker ∈ [' ', '+', '-', '\\'], "+two".toList.head? = some marker :=
    ⟨by decide, '+', by decide, rfl⟩
  exact List.forall_mem_cons.mpr ⟨hcontext, List.forall_mem_singleton.mpr hadded⟩

theorem parse_written_renamedFile : renamedFile.Sound ∧
    ∃ s : Section, Diff.parse renamedFile.text = .ok ⟨[s], [], true⟩ ∧ Tells s renamedFile :=
  ⟨sound_renamedFile, parse_written sound_renamedFile⟩

/-- A file with a tab in its name, of which the mode changed. -/
def tabbedFile : Written where
  path := "x\ty"
  fate := .modified (some ("100644", "100755"))
  index := none
  shown := .nothing

theorem path_ne_tabbedFile : tabbedFile.Sound ∧
    (Diff.parse tabbedFile.text).toOption.map (·.sections.map Section.path) = some [some "x".toList] ∧
    tabbedFile.path ≠ "x".toList := by
  refine ⟨⟨⟨by decide, by decide, by decide⟩, ⟨by decide, by decide, by decide⟩, by decide, by decide, nofun⟩, ?_, ?_⟩
  · decide +kernel
  · decide

end Reading

end RuleReview.Diff
