import RuleReview.Proofs.Check
import RuleReview.Proofs.Text.Glyph
import RuleReview.Settings

/-! # What members settle

Settings are what the members of a file say, a member that is missing saying its default, and they are bounded and in
order. Nothing is in order with what is no number, so that no such span of seconds gets through.
-/
namespace RuleReview

namespace Binary64
variable {x y : Binary64}

theorem common_swap (s : Bool) (m : Nat) (q : Int) (t : Bool) (n : Nat) (r : Int) :
    common t n r s m q = ((common s m q t n r).2, (common s m q t n r).1) := by
  simp only [common, Int.min_comm r q]

theorem ne_nan_of_isPositive (hx : x.isPositive = true) : x ≠ .nan := by
  rintro rfl
  cases hx

theorem le_eq_false_iff (hx : x ≠ .nan) (hy : y ≠ .nan) : x.le y = false ↔ y.lt x = true := by
  cases x with
  | nan => exact absurd rfl hx
  | infinite a => cases y with
    | nan => exact absurd rfl hy
    | infinite b => cases a <;> cases b <;> decide
    | finite => cases a <;> simp [le, lt, eq]
  | finite s m q => cases y with
    | nan => exact absurd rfl hy
    | infinite b => cases b <;> simp [le, lt, eq]
    | finite t n r =>
      rw [le, lt, eq, lt, common_swap s m q t n r]
      simp only [Bool.or_eq_false_iff, decide_eq_false_iff_not, decide_eq_true_eq, beq_eq_false_iff_ne]
      omega

end Binary64

namespace Coercion
variable {c : Coercion} {v : Json} {n : Nat} {x : Binary64}

theorem naturalFrom_eq_pass {least : Nat} :
    c.naturalFrom least v = .pass n ↔ c.integer v = .pass (n : Int) ∧ least ≤ n := by
  rw [naturalFrom, Check.andThen_eq_pass]
  constructor
  · rintro ⟨i, hi, h⟩
    split at h
    · next hleast =>
      cases h
      have hcast : ((i.toNat : Nat) : Int) = i := Int.toNat_of_nonneg (by omega)
      exact ⟨by rw [hcast, hi], by omega⟩
    · cases h
  · rintro ⟨hi, hleast⟩
    exact ⟨n, hi, by rw [if_pos (by omega), Int.toNat_natCast]⟩

theorem positive_eq_pass : c.positive v = .pass x ↔ c.number v = .pass x ∧ x.isPositive = true := by
  rw [positive, Check.andThen_eq_pass]
  constructor
  · rintro ⟨y, hy, h⟩
    split at h
    · next hpos =>
      cases h
      exact ⟨hy, hpos⟩
    · cases h
  · rintro ⟨hx, hpos⟩
    exact ⟨x, hx, if_pos hpos⟩

end Coercion

namespace Settings
variable {α β : Type} {c : Coercion} {members : List (Text × Json)} {name : Text} {v : Json} {s : Settings}

/-- The value that a member says, or the default when there is none. -/
def Given (members : List (Text × Json)) (name : Text) (absent : α) (Says : Json → α → Prop) (a : α) : Prop :=
  (∃ v, members.lookup name = some v ∧ Says v a) ∨ members.lookup name = none ∧ a = absent

def SaysMode (c : Coercion) (v : Json) (word : Text) : Prop :=
  ∃ t : Text, c.text v = .pass (.ofText t) ∧ t.trim.lower = word

def SaysUrl (c : Coercion) (v : Json) (url : Glyphs) : Prop := ∃ g, c.text v = .pass g ∧ Glyphs.dropTrailing '/' g = url

/-- What members settle: a missing one says what settings without members have, a count is no less than nothing as it is
a natural, and a request ends before its task does. -/
structure IsSettled (c : Coercion) (members : List (Text × Json)) (s : Settings) : Prop where
  mode : Given members "mode" ({} : Settings).modeName (SaysMode c) s.modeName
  apiUrl : Given members "api_url" ({} : Settings).apiUrl (SaysUrl c) s.apiUrl
  model : Given members "model" ({} : Settings).model (fun v g => c.text v = .pass g) s.model
  window : Given members "diff_context_lines" (({} : Settings).window : Int) (fun v n => c.integer v = .pass n)
    (s.window : Int)
  gitWindow : Given members "git_context_lines" (({} : Settings).gitWindow : Int) (fun v n => c.integer v = .pass n)
    (s.gitWindow : Int)
  taskSeconds : Given members "task_timeout_seconds" ({} : Settings).taskSeconds (fun v x => c.number v = .pass x)
    s.taskSeconds
  requestSeconds : Given members "request_timeout_seconds" ({} : Settings).requestSeconds
    (fun v x => c.number v = .pass x) s.requestSeconds
  fetchDepth : Given members "branch_fetch_depth" (({} : Settings).fetchDepth : Int)
    (fun v n => c.integer v = .pass n) (s.fetchDepth : Int)
  remote : Given members "remote" ({} : Settings).remote (fun v g => c.text v = .pass g) s.remote
  fetchDepth_pos : 1 ≤ s.fetchDepth
  taskSeconds_pos : Binary64.zero.lt s.taskSeconds = true
  requestSeconds_pos : Binary64.zero.lt s.requestSeconds = true
  shorter : s.requestSeconds.lt s.taskSeconds = true

section Field
variable {absent a : α} {default b : β} {check : Json → Check α} {Says : Json → β → Prop} {P : Prop}

theorem field_eq_pass_iff (hsaid : ∀ v, check v = .pass a ↔ Says v b ∧ P) (habsent : absent = a ↔ b = default)
    (hdefault : b = default → P) :
    Check.field name members (.pass absent) check = .pass a ↔ Given members name default Says b ∧ P := by
  rw [Check.field_eq_pass, Given]
  simp only [hsaid, Check.pass.injEq, habsent]
  constructor
  · rintro (⟨v, hv, hsaid, hP⟩ | ⟨hv, hb⟩)
    · exact ⟨.inl ⟨v, hv, hsaid⟩, hP⟩
    · exact ⟨.inr ⟨hv, hb⟩, hdefault hb⟩
  · rintro ⟨⟨v, hv, hsaid⟩ | habsent, hP⟩
    · exact .inl ⟨v, hv, hsaid, hP⟩
    · exact .inr habsent

theorem field_eq_pass_iff_given (hsaid : ∀ v, check v = .pass a ↔ Says v b) (habsent : absent = a ↔ b = default) :
    Check.field name members (.pass absent) check = .pass a ↔ Given members name default Says b := by
  rw [field_eq_pass_iff (fun v => (hsaid v).trans (and_iff_left trivial).symm) habsent fun _ => trivial]
  exact and_iff_left trivial

theorem field_naturalFrom {least absent n : Nat} (hleast : least ≤ absent) :
    Check.field name members (.pass absent) (c.naturalFrom least) = .pass n ↔
      Given members name (absent : Int) (fun v n => c.integer v = .pass n) (n : Int) ∧ least ≤ n :=
  field_eq_pass_iff (fun _ => Coercion.naturalFrom_eq_pass) (by omega) fun h => by omega

theorem field_positive {absent x : Binary64} (hpos : absent.isPositive = true) :
    Check.field name members (.pass absent) c.positive = .pass x ↔
      Given members name absent (fun v x => c.number v = .pass x) x ∧ x.isPositive = true :=
  field_eq_pass_iff (fun _ => Coercion.positive_eq_pass) eq_comm fun h => h ▸ hpos

theorem field_text {absent g : Glyphs} : Check.field name members (.pass absent) c.text = .pass g ↔
    Given members name absent (fun v g => c.text v = .pass g) g :=
  field_eq_pass_iff_given (fun _ => Iff.rfl) eq_comm

end Field

theorem checkMode_eq_pass : checkMode c v = .pass s.online ↔ SaysMode c v s.modeName := by
  rw [checkMode, Check.andThen_eq_pass, SaysMode]
  constructor
  · rintro ⟨g, hg, h⟩
    cases ht : g.text? with
    | none =>
      rw [ht] at h
      cases h
    | some t =>
      refine ⟨t, Glyphs.text?_eq_some.mp ht ▸ hg, ?_⟩
      simp only [ht, Option.map_some, Option.some.injEq] at h
      rw [modeName]
      split at h
      · next hword => rwa [← Check.pass.inj h]
      split at h
      · next hword => rwa [← Check.pass.inj h]
      · cases h
  · rintro ⟨t, ht, hword⟩
    refine ⟨_, ht, ?_⟩
    simp only [Glyphs.text?_ofText, Option.map_some, hword, modeName]
    cases s.online <;> rfl

theorem field_mode : Check.field name members (.pass ({} : Settings).online) (checkMode c) = .pass s.online ↔
    Given members name ({} : Settings).modeName (SaysMode c) s.modeName := by
  refine field_eq_pass_iff_given (fun _ => checkMode_eq_pass) ?_
  rw [modeName, modeName]
  cases s.online <;> simp

theorem field_url {absent url : Glyphs} : Check.field name members (.pass absent) (checkUrl c) = .pass url ↔
    Given members name absent (SaysUrl c) url :=
  field_eq_pass_iff_given (fun _ => Check.map_eq_pass) eq_comm

theorem checkSeconds_eq_pass {t : Settings} :
    checkSeconds t = .pass s ↔ t = s ∧ s.taskSeconds.le s.requestSeconds = false := by
  rw [checkSeconds]
  split
  · next h => exact ⟨nofun, fun ⟨hts, hle⟩ => absurd (hts ▸ h) (Bool.eq_false_iff.mp hle)⟩
  · next h =>
    rw [Check.pass.injEq]
    refine ⟨?_, And.left⟩
    rintro rfl
    exact ⟨rfl, Bool.eq_false_iff.mpr h⟩

theorem checkFields_eq_pass : checkFields c members = .pass s ↔
    Check.field "mode" members (.pass ({} : Settings).online) (checkMode c) = .pass s.online ∧
    Check.field "api_url" members (.pass ({} : Settings).apiUrl) (checkUrl c) = .pass s.apiUrl ∧
    Check.field "model" members (.pass ({} : Settings).model) c.text = .pass s.model ∧
    Check.field "diff_context_lines" members (.pass ({} : Settings).window) (c.naturalFrom 0) = .pass s.window ∧
    Check.field "git_context_lines" members (.pass ({} : Settings).gitWindow) (c.naturalFrom 0) =
      .pass s.gitWindow ∧
    Check.field "task_timeout_seconds" members (.pass ({} : Settings).taskSeconds) c.positive =
      .pass s.taskSeconds ∧
    Check.field "request_timeout_seconds" members (.pass ({} : Settings).requestSeconds) c.positive =
      .pass s.requestSeconds ∧
    Check.field "branch_fetch_depth" members (.pass ({} : Settings).fetchDepth) (c.naturalFrom 1) =
      .pass s.fetchDepth ∧
    Check.field "remote" members (.pass ({} : Settings).remote) c.text = .pass s.remote := by
  simp only [checkFields, Check.seq_eq_pass, Check.map_eq_pass]
  constructor
  · rintro ⟨_, _, ⟨_, _, ⟨_, _, ⟨_, _, ⟨_, _, ⟨_, _, ⟨_, _, ⟨_, _, ⟨_, h₁, rfl⟩, h₂, rfl⟩, h₃, rfl⟩, h₄, rfl⟩, h₅, rfl⟩,
      h₆, rfl⟩, h₇, rfl⟩, h₈, rfl⟩, h₉, rfl⟩
    exact ⟨h₁, h₂, h₃, h₄, h₅, h₆, h₇, h₈, h₉⟩
  · rintro ⟨h₁, h₂, h₃, h₄, h₅, h₆, h₇, h₈, h₉⟩
    exact ⟨_, _, ⟨_, _, ⟨_, _, ⟨_, _, ⟨_, _, ⟨_, _, ⟨_, _, ⟨_, _, ⟨_, h₁, rfl⟩, h₂, rfl⟩, h₃, rfl⟩, h₄, rfl⟩, h₅, rfl⟩,
      h₆, rfl⟩, h₇, rfl⟩, h₈, rfl⟩, h₉, rfl⟩

theorem isPositive_defaults :
    ({} : Settings).taskSeconds.isPositive = true ∧ ({} : Settings).requestSeconds.isPositive = true := by
  decide +kernel

theorem check_eq_pass : check c members = .pass s ↔ s.IsSettled c members := by
  have hparts : check c members = .pass s ↔
      checkFields c members = .pass s ∧ s.taskSeconds.le s.requestSeconds = false := by
    rw [check, Check.andThen_eq_pass]
    simp only [checkSeconds_eq_pass]
    constructor
    · rintro ⟨_, h, rfl, hle⟩
      exact ⟨h, hle⟩
    · exact fun ⟨h, hle⟩ => ⟨s, h, rfl, hle⟩
  rw [hparts, checkFields_eq_pass, field_mode, field_url, field_text, field_naturalFrom (by decide),
    field_naturalFrom (by decide), field_positive isPositive_defaults.1, field_positive isPositive_defaults.2,
    field_naturalFrom (by decide), field_text]
  constructor
  · rintro ⟨⟨h₁, h₂, h₃, ⟨h₄, -⟩, ⟨h₅, -⟩, ⟨h₆, htask⟩, ⟨h₇, hrequest⟩, ⟨h₈, hdepth⟩, h₉⟩, hle⟩
    exact ⟨h₁, h₂, h₃, h₄, h₅, h₆, h₇, h₈, h₉, hdepth, htask, hrequest, (Binary64.le_eq_false_iff
      (Binary64.ne_nan_of_isPositive htask) (Binary64.ne_nan_of_isPositive hrequest)).mp hle⟩
  · rintro ⟨h₁, h₂, h₃, h₄, h₅, h₆, h₇, h₈, h₉, hdepth, htask, hrequest, hlt⟩
    exact ⟨⟨h₁, h₂, h₃, ⟨h₄, Nat.zero_le _⟩, ⟨h₅, Nat.zero_le _⟩, ⟨h₆, htask⟩, ⟨h₇, hrequest⟩, ⟨h₈, hdepth⟩, h₉⟩,
      (Binary64.le_eq_false_iff (Binary64.ne_nan_of_isPositive htask)
        (Binary64.ne_nan_of_isPositive hrequest)).mpr hlt⟩

end Settings

end RuleReview
