import RuleReview.Proofs.FileTree.Relative
import RuleReview.Proofs.FileTree.RealPlace

/-! # Where two dots may be taken by name

The normal form of a path takes back a name for every two dots, but two dots lead up from where the names before them
lead, and behind a link that is somewhere else. A path is straight when this makes no difference. Names may be put
before others in their place when the paths are straight.
-/
namespace RuleReview

namespace Path
variable {names base whole : List Text} {n : Text} {c : Char}

theorem normalNames_concat_dots (names : List Text) : normalNames (names ++ [['.', '.']]) = (normalNames names).dropLast := by
  rw [normalNames, normalNames, List.foldl_append, List.foldl_cons, List.foldl_nil]
  exact if_pos rfl

theorem normalNames_concat (hn : n ≠ ['.', '.']) : normalNames (names ++ [n]) = normalNames names ++ [n] :=
  normalNames_append (List.forall_mem_singleton.mpr hn) names

theorem dots_notMem_normalNames (names : List Text) : ['.', '.'] ∉ normalNames names := by
  induction names using List.reverseRecOn with
  | nil => exact List.not_mem_nil
  | append_singleton names n ih =>
    by_cases hn : n = ['.', '.']
    · rw [hn, normalNames_concat_dots]
      exact fun h => ih (List.mem_of_mem_dropLast h)
    · rw [normalNames_concat hn, List.mem_append, List.mem_singleton]
      exact not_or.mpr ⟨ih, Ne.symm hn⟩

theorem normalNames_ups (names : List Text) (m : ℕ) :
    normalNames (names ++ List.replicate m ['.', '.']) = (normalNames names).take ((normalNames names).length - m) := by
  induction m with
  | zero => simp
  | succ m ih =>
    rw [List.replicate_succ', ← List.append_assoc, normalNames_concat_dots, ih, List.dropLast_eq_take,
      List.take_take, List.length_take]
    congr 1
    omega

theorem commonLength_le (base whole : List Text) : commonLength base whole ≤ base.length := by
  fun_induction commonLength base whole with
  | case1 a as b ih => simpa using ih
  | _ => simp

theorem take_commonLength (base whole : List Text) :
    base.take (commonLength base whole) = whole.take (commonLength base whole) := by
  fun_induction commonLength base whole with
  | case1 a as b ih => simpa using ih
  | _ => simp

/-- What is no slash and no dot stands in the text of a path when it stands in one of its names. -/
theorem mem_toText {p : Path} (hslash : c ≠ '/') (hdot : c ≠ '.') : c ∈ p.toText ↔ ∃ n ∈ p.names, c ∈ n := by
  have hjoin : c ∈ Text.joinWith "/" p.names ↔ ∃ n ∈ p.names, c ∈ n := by
    by_cases hnil : p.names = []
    · simp [hnil, Text.joinWith]
    · have hflat : c ∈ p.names.flatMap ('/' :: ·) ↔ c ∈ '/' :: Text.joinWith "/" p.names := by
        rw [Text.flatMap_separated '/' hnil]
        rfl
      simpa [hslash] using hflat.symm
  rw [toText]
  split_ifs
  · rw [List.mem_append, hjoin]
    cases p.origin <;> simp [Origin.toText, hslash]
  · rw [namesText]
    split_ifs with hnil
    · simp [List.isEmpty_iff.mp hnil, hdot]
    · exact hjoin

theorem ofText_namesText (h : AllNames names) (hdot : ['.'] ∉ names) : ofText (namesText names) = ⟨.here, names⟩ := by
  cases names with
  | nil => rfl
  | cons n names =>
    have horigin : Origin.ofText (namesText (n :: names)) = .here := origin_of_head?_ne (head?_namesText h)
    have hsplit : (namesText (n :: names)).splitOn '/' = n :: names :=
      List.splitOn_intercalate '/' (fun m hm => (h m hm).2) (List.cons_ne_nil _ _)
    have hnamed : (n :: names).filter isNamed = n :: names := by
      refine List.filter_eq_self.mpr fun m hm => ?_
      simp [isNamed, (h m hm).1, ne_of_mem_of_not_mem hm hdot]
    rw [ofText, horigin, hsplit, hnamed]

end Path

namespace Entry

/-- Taking names back for two dots makes no difference for where a path leads. -/
def IsStraight (t : FileTree) (p : Path) : Prop := ∀ follow q, t.LeadsTo follow p.normal q ↔ t.LeadsTo follow p q

variable {t : FileTree} {p : Path} {names rest q : List Text} {follow : Bool}

theorem isStraight_of_dots (h : ['.', '.'] ∈ p.names → t.IsStraight p) : t.IsStraight p := by
  by_cases hdots : ['.', '.'] ∈ p.names
  · exact h hdots
  · intro follow q
    rw [Path.normal, Path.normalNames_eq_self hdots]

theorem isStraight_of_locate (hp : ∀ follow, ∃ q, t.locate follow p = .ok q)
    (h : ∀ follow, t.locate follow p.normal = t.locate follow p) : t.IsStraight p := by
  intro follow q
  obtain ⟨q', hq'⟩ := hp follow
  have hplace := leadsTo_of_locate hq'
  have hnormal := leadsTo_of_locate ((h follow).trans hq')
  constructor
  · intro hq
    exact hq.unique hnormal ▸ hplace
  · intro hq
    exact hq.unique hplace ▸ hnormal

/-- Names that lead on from the normal form of a straight path do so from the path itself. -/
theorem IsStraight.below (h : t.IsStraight p) (hrest : t.LeadsTo false (p.normal.below rest) q) :
    t.LeadsTo false (p.below rest) q := by
  cases rest with
  | nil =>
    rw [Path.below, List.append_nil] at hrest ⊢
    exact (h false q).mp hrest
  | cons n rest =>
    obtain ⟨k, hk⟩ := hrest
    obtain ⟨d, k₁, k₂, hd, hq, -⟩ := hk.split (by simp)
    obtain ⟨k₁', hd'⟩ := (h true d).mp ⟨k₁, hd⟩
    exact ⟨k₁' + k₂, hd'.append hq (by simp)⟩

end Entry

end RuleReview
