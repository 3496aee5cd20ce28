import RuleReview.Decimal.Loose
import RuleReview.Proofs.FileTree.Strides
import RuleReview.Proofs.Settings.Fields
import RuleReview.Proofs.Text.Utf8
import RuleReview.Settings.Load

/-! # What loading settings comes to

Settings are loaded when the members of the settings file, with all that overrides them, settle some, and otherwise it
is said why they are not, unless something stops the program: the file cannot be looked for, its bytes are no UTF-8, or
its text passes a limit for JSON.
-/
namespace RuleReview.Settings
variable {c : Coercion} {t : FileTree} {start file : Path} {stop : Option Path} {w : Wishes} {env : Environment}
  {s : Settings} {ms : List (Text × Json)} {e : Failure} {raw : Text} {bs : List UInt8}

structure Found (t : FileTree) (start : Path) (stop : Option Path) (file : Path) (bs : List UInt8) : Prop where
  place : findFile t start stop = .ok (some file)
  bytes : t.find true file = .ok (.file bs)

/-- What is read as JSON of the text of a settings file. -/
def source (raw : Text) : Text :=
  let text := withoutComments (Text.normalizeBreaks raw)
  if text.isEmpty then "\x7b\x7d" else text

/-- The members of the settings file, and none without a file. -/
inductive HasMembers (t : FileTree) (start : Path) (stop : Option Path) : List (Text × Json) → Prop
  | absent (hplace : findFile t start stop = .ok none) : HasMembers t start stop []
  | file {file : Path} {raw : Text} {v : Json} {ms : List (Text × Json)}
      (hfile : Found t start stop file (Text.encode raw)) (hv : Json.parse (source raw) = .ok v)
      (hms : v.members? = some ms) : HasMembers t start stop ms

/-- A path that cannot be resolved, with the failure. -/
inductive IsLost (t : FileTree) (p : Path) : Failure → Prop
  | zeroByte (hp : '\x00' ∈ p.toText) : IsLost t p (.noFile p.toText .zeroByte)
  | loop (hp : '\x00' ∉ p.toText) (hreal : t.find true (t.realPath p) = .error .tooManyLinks) :
      IsLost t p (.linkLoop (t.realPath p).toText)

/-- From a directory the search comes to one above it, as the directories below that one hold no settings file and none
of them is the last one. -/
inductive Reaches (t : FileTree) (last : Option Path) (goal : Path) : Path → Prop
  | here : Reaches t last goal goal
  | above {p : Path} (hbare : t.hasFile (p.child fileName) = .ok false) (hlast : last ≠ some p) (htop : p.names ≠ [])
      (hup : Reaches t last goal p.parent) : Reaches t last goal p

/-- What stops the program before there are members, with the failure that it stops with. -/
inductive Halts (t : FileTree) (start : Path) (stop : Option Path) : Failure → Prop
  | start {e : Failure} (hstart : IsLost t start e) : Halts t start stop e
  | stop {p q : Path} {e : Failure} (hstart : t.resolve start = .ok p) (hq : stop = some q) (hstop : IsLost t q e) :
      Halts t start stop e
  /-- The search comes to a settings file whose path is too long to be looked at. -/
  | level {p q : Path} {last : Option Path} (hstart : t.resolve start = .ok p) (hstop : stop.mapM t.resolve = .ok last)
      (hreached : Reaches t last q p) (hlong : t.hasFile (q.child fileName) = .error .nameTooLong) :
      Halts t start stop (.noFile (q.child fileName).toText .nameTooLong)
  | bytes {file : Path} {bs : List UInt8} (hfile : Found t start stop file bs) (hbs : ∀ raw, Text.encode raw ≠ bs) :
      Halts t start stop (.notText (Text.badBytes bs))
  | limit {file : Path} {raw : Text} {p : Json.Problem} (hfile : Found t start stop file (Text.encode raw))
      (hp : Json.parse (source raw) = .error p)
      (hlimit : (∃ n, p.fault = .tooLong n) ∨ ∃ c, p.fault = .tooDeep c) : Halts t start stop (.limit p)

section Searching
variable {p : Path} {last : Option Path} {levels : ℕ}

theorem resolve_eq_error : t.resolve p = .error e ↔ IsLost t p e := by
  rw [Entry.resolve]
  constructor
  · intro h
    split at h
    · next hp =>
      cases h
      exact .zeroByte (by simpa using hp)
    split at h
    · next hp _ hreal =>
      cases h
      exact .loop (by simpa using hp) hreal
    · cases h
  · intro h
    cases h with
    | zeroByte hp => rw [if_pos (by simpa using hp)]
    | loop hp hreal =>
      rw [if_neg (by simpa using hp)]
      simp only [hreal]

theorem findAbove_long (h : t.hasFile (p.child fileName) = .error .nameTooLong) :
    findAbove t last (levels + 1) p = .error (.noFile (p.child fileName).toText .nameTooLong) := by
  rw [findAbove, h]
  rfl

theorem findAbove_above (hbare : t.hasFile (p.child fileName) = .ok false) (hlast : last ≠ some p)
    (htop : p.names ≠ []) : findAbove t last (levels + 1) p = findAbove t last levels p.parent := by
  rw [findAbove, hbare]
  exact if_neg (not_or.mpr ⟨hlast, htop⟩)

theorem length_parent (htop : p.names ≠ []) : p.parent.names.length < p.names.length := by
  have hpos := List.length_pos_iff.mpr htop
  have hparent : p.parent.names.length = p.names.length - 1 := List.length_dropLast
  omega

/-- The search fails exactly at a directory that it comes to and whose settings file has too long a path. There are
levels enough to come to the top. -/
theorem findAbove_eq_error (hlevels : p.names.length < levels) : findAbove t last levels p = .error e ↔
    ∃ q, Reaches t last q p ∧ t.hasFile (q.child fileName) = .error .nameTooLong ∧
      e = .noFile (q.child fileName).toText .nameTooLong := by
  constructor
  · clear hlevels
    intro h
    induction levels generalizing p with
    | zero => cases h
    | succ levels ih =>
      cases hfile : t.hasFile (p.child fileName) with
      | error problem =>
        obtain ⟨-, rfl⟩ := Entry.hasFile_eq_error.mp hfile
        rw [findAbove_long hfile] at h
        cases h
        exact ⟨p, .here, hfile, rfl⟩
      | ok b =>
        rw [findAbove, hfile] at h
        cases b with
        | true => cases h
        | false =>
          change ite _ _ _ = _ at h
          split at h
          · cases h
          next hgo =>
          obtain ⟨hlast, htop⟩ := not_or.mp hgo
          obtain ⟨q, hq, hlong, he⟩ := ih h
          exact ⟨q, .above hfile hlast htop hq, hlong, he⟩
  · rintro ⟨q, hq, hlong, rfl⟩
    induction hq generalizing levels with
    | here =>
      obtain ⟨levels, rfl⟩ := Nat.exists_eq_add_of_lt (Nat.zero_lt_of_lt hlevels)
      rw [Nat.zero_add]
      exact findAbove_long hlong
    | above hbare hlast htop _ ih =>
      obtain ⟨levels, rfl⟩ := Nat.exists_eq_add_of_lt (Nat.zero_lt_of_lt hlevels)
      have hless := length_parent htop
      rw [Nat.zero_add, findAbove_above hbare hlast htop]
      exact ih (by omega)

theorem findFile_of_resolve (hstart : t.resolve start = .ok p) (stop : Option Path) : findFile t start stop =
    stop.mapM t.resolve >>= fun last => findAbove t last (p.names.length + 1) p := by
  rw [findFile, hstart]
  rfl

theorem findFile_error_cases (h : findFile t start stop = .error e) : Halts t start stop e := by
  rcases bind_eq_error.mp h with hstart | ⟨p, hstart, h⟩
  · exact .start (resolve_eq_error.mp hstart)
  rcases bind_eq_error.mp h with hstop | ⟨last, hstop, h⟩
  · cases stop with
    | none => cases hstop
    | some q => exact .stop hstart rfl (resolve_eq_error.mp (map_eq_error.mp hstop))
  · obtain ⟨q, hreached, hlong, rfl⟩ := (findAbove_eq_error (Nat.lt_succ_self _)).mp h
    exact .level hstart hstop hreached hlong

end Searching

theorem exists_bytes_of_findAbove {levels : Nat} {p : Path}
    (h : findAbove t stop levels p = .ok (some file)) : ∃ bs, t.find true file = .ok (.file bs) := by
  induction levels generalizing p with
  | zero => cases h
  | succ levels ih =>
    rw [findAbove] at h
    obtain ⟨b, hb, h⟩ := bind_eq_ok.mp h
    cases b with
    | true =>
      cases h
      exact Entry.hasFile_eq_true.mp (mapError_eq_ok.mp hb)
    | false =>
      simp only [Bool.false_eq_true, if_false] at h
      split at h
      · cases h
      · exact ih h

theorem exists_found (h : findFile t start stop = .ok (some file)) : ∃ bs, Found t start stop file bs := by
  obtain ⟨p, -, hp⟩ := bind_eq_ok.mp h
  obtain ⟨q, -, hq⟩ := bind_eq_ok.mp hp
  obtain ⟨bs, hbs⟩ := exists_bytes_of_findAbove hq
  exact ⟨bs, h, hbs⟩

theorem isMalformed_eq_false {f : Json.Fault} :
    f.isMalformed = false ↔ (∃ n, f = .tooLong n) ∨ ∃ c, f = .tooDeep c := by
  cases f <;> simp [Json.Fault.isMalformed]

theorem readMembers_of_find (h : t.find true file = .ok (.file bs)) : readMembers t file =
    match Text.decode? bs with
    | none => .error (.notText (Text.badBytes bs))
    | some raw => match Json.parse (source raw) with
      | .error p => .error (.ofJson (fun p => .configuration (.badJson file.toText p)) p)
      | .ok v => v.members?.elim (.error (.configuration (.notObject file.toText))) .ok := by
  have hbytes : t.readBytes file = .ok bs := by
    rw [Entry.readBytes, h]
    rfl
  rw [readMembers, Entry.readText, hbytes, Except.map]
  cases Text.decode? bs <;> rfl

def readFound (t : FileTree) (start : Path) (stop : Option Path) :
    Except Failure (Option Path × List (Text × Json)) := do
  match ← findFile t start stop with
  | some f => return (f, ← readMembers t f)
  | none => return (none, [])

theorem load_eq_bind : load c t start stop w env = readFound t start stop >>= fun m =>
    (check c (overrideAll m.2 w env)).toExcept.mapError fun is =>
      .configuration (.invalid (m.1.elim "configuration".toList Path.toText) is) := by
  rw [load, readFound, bind_assoc]
  refine bind_congr fun o => ?_
  cases o with
  | none => rfl
  | some f =>
    simp only [bind_assoc]
    rfl

theorem readFound_of_found (h : Found t start stop file bs) :
    readFound t start stop = (readMembers t file).map fun ms => (some file, ms) := by
  rw [readFound, h.place]
  rfl

theorem readFound_eq_ok : (∃ o, readFound t start stop = .ok (o, ms)) ↔ HasMembers t start stop ms := by
  constructor
  · rintro ⟨o, h⟩
    obtain ⟨f, hf, h⟩ := bind_eq_ok.mp h
    cases f with
    | none =>
      cases h
      exact .absent hf
    | some file =>
      obtain ⟨bs, hfile⟩ := exists_found hf
      obtain ⟨ms', hms, h⟩ := bind_eq_ok.mp h
      cases h
      rw [readMembers_of_find hfile.bytes] at hms
      split at hms
      · cases hms
      next raw hraw =>
      split at hms
      · cases hms
      next v hv =>
      rw [← Text.decode?_eq_some.mp hraw] at hfile
      cases hmembers : v.members? with
      | none =>
        rw [hmembers] at hms
        cases hms
      | some ms'' =>
        rw [hmembers] at hms
        cases hms
        exact .file hfile hv hmembers
  · intro h
    cases h with
    | absent hplace => exact ⟨none, bind_eq_ok.mpr ⟨none, hplace, rfl⟩⟩
    | @file file raw v _ hfile hv hms =>
      refine ⟨some file, ?_⟩
      rw [readFound_of_found hfile, readMembers_of_find hfile.bytes, Text.decode?_eq_some.mpr rfl]
      simp only [hv, hms]
      rfl

theorem Halts.readFound_eq (h : Halts t start stop e) : readFound t start stop = .error e := by
  cases h with
  | start hlost =>
    rw [readFound, findFile, resolve_eq_error.mpr hlost]
    rfl
  | stop hstart hq hlost =>
    subst hq
    rw [readFound, findFile_of_resolve hstart]
    change ((t.resolve _).map some >>= _) >>= _ = _
    rw [resolve_eq_error.mpr hlost]
    rfl
  | level hstart hstop hreached hlong =>
    have hfail := (findAbove_eq_error (Nat.lt_succ_self _)).mpr ⟨_, hreached, hlong, rfl⟩
    rw [readFound, findFile_of_resolve hstart, hstop]
    change findAbove t _ _ _ >>= _ = _
    rw [hfail]
    rfl
  | @bytes file bs hfile hbs =>
    have hnone : Text.decode? bs = none :=
      Option.eq_none_iff_forall_ne_some.mpr fun raw hraw => hbs raw (Text.decode?_eq_some.mp hraw)
    rw [readFound_of_found hfile, readMembers_of_find hfile.bytes, hnone]
    rfl
  | limit hfile hp hlimit =>
    rw [readFound_of_found hfile, readMembers_of_find hfile.bytes, Text.decode?_eq_some.mpr rfl]
    simp only [hp, Failure.ofJson, isMalformed_eq_false.mpr hlimit]
    rfl

theorem readFound_error_cases (h : readFound t start stop = .error e) :
    (∃ p, e = .configuration p) ∨ Halts t start stop e := by
  rcases bind_eq_error.mp h with hplace | ⟨f, hf, h⟩
  · exact .inr (findFile_error_cases hplace)
  cases f with
  | none => cases h
  | some file =>
    obtain ⟨bs, hfile⟩ := exists_found hf
    rcases bind_eq_error.mp h with hms | ⟨_, _, h⟩
    · rw [readMembers_of_find hfile.bytes] at hms
      split at hms
      · next hnone =>
        cases hms
        refine .inr (.bytes hfile fun raw hraw => ?_)
        cases hnone.symm.trans (Text.decode?_eq_some.mpr hraw)
      next raw hraw =>
      rw [← Text.decode?_eq_some.mp hraw] at hfile
      split at hms
      · next p hp =>
        cases hms
        rw [Failure.ofJson]
        split
        · exact .inl ⟨_, rfl⟩
        · next hlimit => exact .inr (.limit hfile hp (isMalformed_eq_false.mp (Bool.eq_false_iff.mpr hlimit)))
      next v hv =>
      cases hmembers : v.members? with
      | none =>
        rw [hmembers] at hms
        cases hms
        exact .inl ⟨_, rfl⟩
      | some ms =>
        rw [hmembers] at hms
        cases hms
    · cases h

theorem Halts.ne_configuration (h : Halts t start stop e) (p : ConfigurationProblem) : e ≠ .configuration p := by
  cases h with
  | start hlost | stop _ _ hlost => cases hlost <;> nofun
  | level | bytes | limit => nofun

theorem load_eq_ok : load c t start stop w env = .ok s ↔
    ∃ ms, HasMembers t start stop ms ∧ s.IsSettled c (overrideAll ms w env) := by
  simp only [load_eq_bind, bind_eq_ok, mapError_eq_ok, Check.toExcept_eq_ok, check_eq_pass, ← readFound_eq_ok]
  constructor
  · rintro ⟨⟨o, ms⟩, hms, hs⟩
    exact ⟨ms, ⟨o, hms⟩, hs⟩
  · rintro ⟨ms, ⟨o, hms⟩, hs⟩
    exact ⟨(o, ms), hms, hs⟩

theorem Halts.load_eq (h : Halts t start stop e) : load c t start stop w env = .error e := by
  rw [load_eq_bind, h.readFound_eq]
  rfl

theorem load_error_cases (h : load c t start stop w env = .error e) :
    (∃ p, e = .configuration p) ∨ Halts t start stop e := by
  rw [load_eq_bind] at h
  rcases bind_eq_error.mp h with h | ⟨_, _, h⟩
  · exact readFound_error_cases h
  · obtain ⟨is, -, rfl⟩ := mapError_eq_error.mp h
    exact .inl ⟨_, rfl⟩

/-- Settings are loaded, or it is said why they are not, exactly when nothing stops the program, whatever overrides the
members; and what is loaded is what the members with their overrides settle. -/
theorem load_iff_not_halts (c : Coercion) (t : FileTree) (start : Path) (stop : Option Path) (w : Wishes)
    (env : Environment) :
    ((∃ s, load c t start stop w env = .ok s) ∨ (∃ p, load c t start stop w env = .error (.configuration p)) ↔
        ∀ e, ¬Halts t start stop e) ∧
      (∀ e, Halts t start stop e → load c t start stop w env = .error e) ∧
      ∀ s, load c t start stop w env = .ok s ↔
        ∃ ms, HasMembers t start stop ms ∧ s.IsSettled c (overrideAll ms w env) := by
  refine ⟨⟨?_, fun h => ?_⟩, fun _ => Halts.load_eq, fun _ => load_eq_ok⟩
  · rintro (⟨s, hs⟩ | ⟨p, hp⟩) e he
    · cases hs.symm.trans he.load_eq
    · exact he.ne_configuration p (Except.error.inj (he.load_eq.symm.trans hp))
  · cases hload : load c t start stop w env with
    | ok s => exact .inl ⟨s, rfl⟩
    | error e =>
      obtain ⟨p, rfl⟩ := (load_error_cases hload).resolve_right (h e)
      exact .inr ⟨p, rfl⟩

def commentedFile : FileTree :=
  .dir [(fileName, .file (Text.encode "// Time\n\x7b\"task_timeout_seconds\": \"60\"\x7d\n"))]

theorem load_commentedFile : (∀ e, ¬Halts commentedFile .root none e) ∧ ∃ s ms,
    load Loose.coercion commentedFile .root none { mode := some " Offline" } [] = .ok s ∧
      HasMembers commentedFile .root none ms ∧
      s.IsSettled Loose.coercion (overrideAll ms { mode := some " Offline" } []) ∧ s.modeName = "offline".toList := by
  have hmode : (load Loose.coercion commentedFile .root none { mode := some " Offline" } []).toOption.map modeName =
      some "offline".toList := by decide +kernel
  obtain ⟨hiff, -, hok⟩ := load_iff_not_halts Loose.coercion commentedFile .root none { mode := some " Offline" } []
  obtain ⟨s, hs, hname⟩ := exists_ok_of_toOption hmode
  obtain ⟨ms, hms, hsettled⟩ := (hok s).mp hs
  exact ⟨hiff.mp (.inl ⟨s, hs⟩), s, ms, hs, hms, hsettled, hname⟩

/-- A settings file whose only byte is no UTF-8. -/
def strayByte : FileTree := .dir [(fileName, .file [0xff])]

/-- It is not said of such a file why it cannot be loaded. -/
theorem load_strayByte : ¬((∃ s, load Loose.coercion strayByte .root none {} [] = .ok s) ∨
    ∃ p, load Loose.coercion strayByte .root none {} [] = .error (.configuration p)) := by
  have hkind : (failure? (load Loose.coercion strayByte .root none {} [])).map Failure.kind = some .encoding := by
    decide +kernel
  rintro (⟨s, hs⟩ | ⟨p, hp⟩)
  · rw [hs] at hkind
    cases hkind
  · rw [hp] at hkind
    cases hkind

end RuleReview.Settings
