import Mathlib.Data.List.Infix
import RuleReview.Proofs.Success
import RuleReview.FileTree.Basic

/-! # Following a path in two parts

A path is followed by following its front and going on from where that leads. What is found missing in front, or fails
there, does so for the whole path. A zero byte is the only thing of which it is told that the path is none.
-/
namespace RuleReview.Entry
variable {t : FileTree} {follow : Bool} {place p names as bs rest : List Text} {target : Text} {e : FileProblem}

/-- More names behind those that are still to be followed. -/
def Stride.extend (s : Stride) (goOn : List Text → Stride) (bs : List Text) : Stride :=
  match s with
  | .reached p => goOn p
  | .link p target rest => .link p target (rest ++ bs)
  | .missing p rest => .missing p (rest ++ bs)
  | .failed e => .failed e

theorem stride_append (hbs : bs ≠ []) : stride t follow place (as ++ bs) =
    (stride t true place as).extend (fun p => stride t follow p bs) bs := by
  induction as generalizing place with
  | nil => rfl
  | cons n as ih =>
    have hlast : ((as ++ bs).isEmpty && !follow) = false := by simp [hbs]
    rw [List.cons_append, stride, stride]
    simp only [hlast, Bool.not_true, Bool.and_false, Bool.false_eq_true, if_false]
    split
    · split_ifs
      · exact ih
      · exact ih
      · rfl
      · split
        · rfl
        · rfl
        · exact ih
    · rfl

/-- A name that leads somewhere stands where it leads, unless it is that of a link, which is not followed. -/
theorem stride_last {n : Text} (hdot : n ≠ ['.']) (hdots : n ≠ ['.', '.'])
    (hmissing : ∀ p rest, stride t true place [n] ≠ .missing p rest)
    (hfailed : ∀ e, stride t true place [n] ≠ .failed e) :
    stride t false place [n] = .reached (place ++ [n]) := by
  cases hplace : t.at? place with
  | none => exact absurd (by simp [stride, hplace]) (hfailed .notDirectory)
  | some entry =>
    cases entry with
    | dir es =>
      by_cases hlong : isTooLong n = true
      · exact absurd (by simp [stride, hplace, hdot, hdots, hlong]) (hfailed .nameTooLong)
      · cases hentry : es.lookup n with
        | none => exact absurd (by simp [stride, hplace, hdot, hdots, hlong, hentry]) (hmissing (place ++ [n]) [])
        | some entry => cases entry <;> simp [stride, hplace, hdot, hdots, hlong, hentry]
    | _ => exact absurd (by simp [stride, hplace]) (hfailed .notDirectory)

theorem strideFrom_append_of_reached (follow : Bool) (hbs : bs ≠ []) (links : Nat)
    (h : strideFrom t true links place as = .reached p) :
    ∃ k, strideFrom t follow links place (as ++ bs) = strideFrom t follow (k + 1) p bs := by
  induction links generalizing place as with
  | zero => cases h
  | succ links ih =>
    rw [strideFrom] at h
    split at h
    · next q target rest hlink =>
      rw [strideFrom, stride_append hbs, hlink]
      simpa only [Stride.extend, List.append_assoc] using ih h
    · next hend =>
      refine ⟨links, ?_⟩
      rw [strideFrom, stride_append hbs, h]
      rfl

theorem strideFrom_append_of_missing (hbs : bs ≠ []) (links : Nat)
    (h : strideFrom t true links place as = .missing p rest) :
    strideFrom t follow links place (as ++ bs) = .missing p (rest ++ bs) := by
  induction links generalizing place as with
  | zero => cases h
  | succ links ih =>
    rw [strideFrom] at h ⊢
    rw [stride_append hbs]
    split at h
    · next q target rest hlink =>
      rw [hlink]
      simpa only [Stride.extend, List.append_assoc] using ih h
    · rw [h]
      rfl

/-- The text of a path is one that can be followed. -/
def IsFollowed (s : Text) : Prop := '\x00' ∉ s ∧ (Text.encode s).length < pathLimit

instance (s : Text) : Decidable (IsFollowed s) :=
  inferInstanceAs (Decidable ('\x00' ∉ s ∧ (Text.encode s).length < pathLimit))

theorem strideOf_of_isFollowed {s : Text} (h : IsFollowed s) (names : List Text) :
    strideOf t follow s names = strideFrom t follow maxLinks [] names := by
  rw [strideOf, if_neg (by simpa using h.1), if_neg (Nat.not_le_of_lt h.2)]

theorem isFollowed_of_ne_failed {s : Text} (h : ∀ e, strideOf t follow s names ≠ .failed e) : IsFollowed s := by
  rw [strideOf] at h
  split_ifs at h with hzero hlong
  · exact absurd rfl (h _)
  · exact absurd rfl (h _)
  · exact ⟨by simpa using hzero, Nat.lt_of_not_le hlong⟩

theorem find_eq_ok {q : Path} {entry : Entry} : t.find follow q = .ok entry ↔
    ∃ place, strideOf t follow q.toText q.names = .reached place ∧ t.at? place = some entry := by
  rw [find, Stride.entry, bind_eq_ok]
  constructor
  · rintro ⟨place, hplace, h⟩
    cases hstride : strideOf t follow q.toText q.names with
    | reached p =>
      rw [hstride] at hplace
      cases hplace
      split at h
      · next hentry =>
        cases h
        exact ⟨_, rfl, hentry⟩
      · cases h
    | _ =>
      rw [hstride] at hplace
      cases hplace
  · rintro ⟨place, hstride, hentry⟩
    refine ⟨place, by rw [hstride]; rfl, ?_⟩
    rw [hentry]
    rfl

theorem found?_any_eq_true {q : Path} {f : Entry → Bool} : (t.found? follow q).map (·.any f) = .ok true ↔
    ∃ entry, t.find follow q = .ok entry ∧ f entry = true := by
  rw [map_eq_ok, found?]
  constructor
  · rintro ⟨o, ho, hf⟩
    split at ho
    · next entry hentry =>
      cases ho
      exact ⟨entry, hentry, hf⟩
    · cases ho
    · cases ho
      cases hf
  · rintro ⟨entry, hentry, hf⟩
    rw [hentry]
    exact ⟨_, rfl, hf⟩

theorem hasFile_eq_true {q : Path} : t.hasFile q = .ok true ↔ ∃ bs, t.find true q = .ok (.file bs) := by
  refine found?_any_eq_true.trans ⟨?_, fun ⟨bs, hbs⟩ => ⟨_, hbs, rfl⟩⟩
  rintro ⟨entry, hentry, hfile⟩
  cases entry with
  | file bs => exact ⟨bs, hentry⟩
  | _ => cases hfile

theorem hasFile_eq_error {q : Path} :
    t.hasFile q = .error e ↔ t.find true q = .error .nameTooLong ∧ .nameTooLong = e := by
  change (t.found? true q).map _ = .error e ↔ _
  rw [map_eq_error, found?]
  split <;> simp_all

theorem hasDirectory_eq_true {q : Path} : t.hasDirectory q = .ok true ↔ ∃ es, t.find true q = .ok (.dir es) := by
  refine found?_any_eq_true.trans ⟨?_, fun ⟨es, hes⟩ => ⟨_, hes, rfl⟩⟩
  rintro ⟨entry, hentry, hdir⟩
  cases entry with
  | dir es => exact ⟨es, hentry⟩
  | _ => cases hdir

theorem stride_ne_zeroByte : stride t follow place names ≠ .failed .zeroByte := by
  fun_induction stride t follow place names <;> simp_all

theorem strideFrom_ne_zeroByte (links : Nat) : strideFrom t follow links place names ≠ .failed .zeroByte := by
  induction links generalizing place names with
  | zero => nofun
  | succ links ih =>
    rw [strideFrom]
    split
    · exact ih
    · exact stride_ne_zeroByte

theorem find_eq_zeroByte (t : FileTree) (follow : Bool) {p : Path} :
    t.find follow p = .error .zeroByte ↔ '\x00' ∈ p.toText := by
  constructor
  · intro h
    by_contra hzero
    have hwalk : strideOf t follow p.toText p.names ≠ .failed .zeroByte := by
      rw [strideOf, if_neg (by simpa using hzero)]
      split
      · nofun
      · exact strideFrom_ne_zeroByte maxLinks
    rw [find, Stride.entry] at h
    rcases bind_eq_error.mp h with h | ⟨place, -, h⟩
    · cases hstride : strideOf t follow p.toText p.names with
      | failed e =>
        rw [hstride] at h
        cases h
        exact hwalk hstride
      | _ =>
        rw [hstride] at h
        cases h
    · split at h <;> cases h
  · intro hzero
    rw [find, strideOf, if_pos (by simpa using hzero)]
    rfl

theorem readText_eq_zeroByte {p : Path} : t.readText p = .error .zeroByte ↔ '\x00' ∈ p.toText := by
  rw [← find_eq_zeroByte t true, readText, map_eq_error, readBytes, bind_eq_error]
  refine or_iff_left ?_
  rintro ⟨e, -, h⟩
  split at h <;> cases h

end RuleReview.Entry
