import Mathlib.Data.List.Forall2

/-! # When a computation succeeds

A computation that is put together from steps succeeds when all of its steps do, and its value is made of
their values. A list of computations succeeds pointwise.
-/
namespace RuleReview
variable {ε : Type} {α β γ : Type}

theorem bind_eq_ok {x : Except ε α} {f : α → Except ε β} {b : β} :
    (x >>= f) = .ok b ↔ ∃ a, x = .ok a ∧ f a = .ok b := by
  cases x <;> simp [bind, Except.bind]

theorem bind_eq_error {x : Except ε α} {f : α → Except ε β} {e : ε} :
    (x >>= f) = .error e ↔ x = .error e ∨ ∃ a, x = .ok a ∧ f a = .error e := by
  cases x <;> simp [bind, Except.bind]

theorem pure_eq_ok {a b : α} : (pure a : Except ε α) = .ok b ↔ a = b := by simp [pure, Except.pure]

theorem map_eq_ok {x : Except ε α} {f : α → β} {b : β} : x.map f = .ok b ↔ ∃ a, x = .ok a ∧ f a = b := by
  cases x <;> simp [Except.map]

theorem map_eq_error {x : Except ε α} {f : α → β} {e : ε} : x.map f = .error e ↔ x = .error e := by
  cases x <;> simp [Except.map]

theorem mapError_eq_ok {x : Except ε α} {f : ε → γ} {a : α} : x.mapError f = .ok a ↔ x = .ok a := by
  cases x <;> simp [Except.mapError]

theorem mapError_eq_error {x : Except ε α} {f : ε → γ} {g : γ} :
    x.mapError f = .error g ↔ ∃ e, x = .error e ∧ f e = g := by
  cases x <;> simp [Except.mapError]

theorem exists_error_iff {x : Except ε α} : (∃ e, x = .error e) ↔ ¬∃ a, x = .ok a := by cases x <;> simp

theorem toOption_eq_some {x : Except ε α} {a : α} : x.toOption = some a ↔ x = .ok a := by
  cases x <;> simp [Except.toOption]

theorem eq_ok_of_isSome {x : Except ε α} (h : x.toOption.isSome = true) (a : α) : x = .ok (x.toOption.getD a) := by
  cases x with
  | error e => cases h
  | ok b => rfl

theorem exists_ok_of_toOption {x : Except ε α} {f : α → β} {b : β} (h : x.toOption.map f = some b) :
    ∃ a, x = .ok a ∧ f a = b := by
  cases x with
  | error e => cases h
  | ok a => exact ⟨a, rfl, Option.some.inj h⟩

theorem mapM_eq_ok {f : α → Except ε β} {as : List α} {bs : List β} :
    as.mapM f = .ok bs ↔ List.Forall₂ (fun a b => f a = .ok b) as bs := by
  induction as generalizing bs with
  | nil => cases bs <;> simp [pure_eq_ok]
  | cons a as ih =>
    simp only [List.mapM_cons, bind_eq_ok, pure_eq_ok, List.forall₂_cons_left_iff, ih]
    constructor
    · rintro ⟨b, hb, bs, hbs, rfl⟩
      exact ⟨b, bs, hb, hbs, rfl⟩
    · rintro ⟨b, bs, hb, hbs, rfl⟩
      exact ⟨b, hb, bs, hbs, rfl⟩

theorem exists_of_forall₂ {R : α → β → Prop} {as : List α} {bs : List β} (h : List.Forall₂ R as bs) :
    (∀ a ∈ as, ∃ b ∈ bs, R a b) ∧ ∀ b ∈ bs, ∃ a ∈ as, R a b := by
  induction h with
  | nil => simp
  | cons hab _ ih =>
    simp only [List.forall_mem_cons, List.exists_mem_cons_iff]
    exact ⟨⟨.inl hab, fun a ha => .inr (ih.1 a ha)⟩, .inl hab, fun b hb => .inr (ih.2 b hb)⟩

/-- What can be told of each value from where it was computed from can be told of all of them. -/
theorem map_eq_of_mapM {f : α → Except ε β} {g : β → γ} {k : α → γ} (hf : ∀ a b, f a = .ok b → g b = k a)
    {as : List α} {bs : List β} (h : as.mapM f = .ok bs) : bs.map g = as.map k := by
  have hpairs := mapM_eq_ok.mp h
  clear h
  induction hpairs with
  | nil => rfl
  | cons hab _ ih => rw [List.map_cons, List.map_cons, hf _ _ hab, ih]

theorem flatMap_eq_of_mapM {f : α → Except ε β} {g : β → List γ} {k : α → List γ} (hf : ∀ a b, f a = .ok b → g b = k a)
    {as : List α} {bs : List β} (h : as.mapM f = .ok bs) : bs.flatMap g = as.flatMap k := by
  rw [List.flatMap_def, List.flatMap_def, map_eq_of_mapM hf h]

/-- What holds of each value when something holds of where it was computed from. -/
theorem forall_of_mapM {f : α → Except ε β} {P : α → Prop} {Q : β → Prop} (hf : ∀ a b, P a → f a = .ok b → Q b)
    {as : List α} {bs : List β} (has : ∀ a ∈ as, P a) (h : as.mapM f = .ok bs) : ∀ b ∈ bs, Q b := by
  have hpairs := mapM_eq_ok.mp h
  clear h
  induction hpairs with
  | nil => simp
  | cons hab _ ih =>
    obtain ⟨ha, has⟩ := List.forall_mem_cons.mp has
    exact List.forall_mem_cons.mpr ⟨hf _ _ ha hab, ih has⟩

theorem exists_mapM_ok {f : α → Except ε β} {as : List α} :
    (∃ bs, as.mapM f = .ok bs) ↔ ∀ a ∈ as, ∃ b, f a = .ok b := by
  simp only [mapM_eq_ok]
  induction as with
  | nil => exact ⟨by simp, fun _ => ⟨[], .nil⟩⟩
  | cons a as ih =>
    rw [List.forall_mem_cons, ← ih]
    constructor
    · rintro ⟨_, hall⟩
      obtain ⟨b, bs, hb, hbs, rfl⟩ := List.forall₂_cons_left_iff.mp hall
      exact ⟨⟨b, hb⟩, bs, hbs⟩
    · rintro ⟨⟨b, hb⟩, bs, hbs⟩
      exact ⟨b :: bs, .cons hb hbs⟩

theorem mapM_map {f : α → Except ε β} {g : β → γ} (as : List α) :
    (as.mapM fun a => (f a).map g) = (as.mapM f).map (List.map g) := by
  induction as with
  | nil => rfl
  | cons a as ih =>
    rw [List.mapM_cons, List.mapM_cons, ih]
    cases f a with
    | error e => rfl
    | ok b => cases as.mapM f <;> rfl

/-- The failure of a computation. -/
def failure? : Except ε α → Option ε
  | .ok _ => none
  | .error e => some e

theorem failure?_eq_some {x : Except ε α} {e : ε} : failure? x = some e ↔ x = .error e := by cases x <;> simp [failure?]

theorem failure?_eq_none {x : Except ε α} : failure? x = none ↔ ∃ a, x = .ok a := by cases x <;> simp [failure?]

/-- Where the second step fails in the same way after every outcome of the first one. -/
theorem failure?_bind {x : Except ε α} {f : α → Except ε β} {o : Option ε} (hf : ∀ a, x = .ok a → failure? (f a) = o) :
    failure? (x >>= f) = (failure? x).or o := by
  cases x with
  | error e => rfl
  | ok a => exact hf a rfl

theorem findSome?_cons_or (g : α → Option β) (a : α) (as : List α) :
    (a :: as).findSome? g = (g a).or (as.findSome? g) := by
  rw [List.findSome?_cons]
  cases g a <;> rfl

theorem failure?_mapM (f : α → Except ε β) (as : List α) :
    failure? (as.mapM f) = as.findSome? fun a => failure? (f a) := by
  induction as with
  | nil => rfl
  | cons a as ih =>
    have hlast : ∀ b : β, failure? (as.mapM f >>= fun bs => pure (b :: bs)) = failure? (as.mapM f) := by
      intro b
      cases as.mapM f <;> rfl
    rw [List.mapM_cons, failure?_bind fun b _ => hlast b, ih, findSome?_cons_or]

theorem exists_of_mapM_eq_error {f : α → Except ε β} {as : List α} {e : ε} (h : as.mapM f = .error e) :
    ∃ a ∈ as, f a = .error e := by
  obtain ⟨a, ha, hfail⟩ := List.exists_of_findSome?_eq_some (failure?_mapM f as ▸ failure?_eq_some.mpr h)
  exact ⟨a, ha, failure?_eq_some.mp hfail⟩

theorem forM_eq_ok {f : α → Except ε Unit} {as : List α} : as.forM f = .ok () ↔ ∀ a ∈ as, f a = .ok () := by
  induction as with
  | nil => exact iff_of_true rfl (by simp)
  | cons a as ih =>
    rw [List.forall_mem_cons, ← ih]
    exact bind_eq_ok.trans ⟨fun ⟨_, ha, has⟩ => ⟨ha, has⟩, fun ⟨ha, has⟩ => ⟨(), ha, has⟩⟩

/-- Checks of a list that is in order fail as the first of them does that fails. -/
theorem forM_eq_error {R : α → α → Prop} (hR : ∀ a b, R a b → ¬R b a) {f : α → Except ε Unit} {as : List α} {e : ε}
    (has : as.Pairwise R) : as.forM f = .error e ↔ ∃ a ∈ as, f a = .error e ∧ ∀ b ∈ as, R b a → f b = .ok () := by
  induction as with
  | nil => exact iff_of_false nofun (by simp)
  | cons a as ih =>
    obtain ⟨ha, has⟩ := List.pairwise_cons.mp has
    have hstep : (a :: as).forM f = .error e ↔ f a = .error e ∨ f a = .ok () ∧ as.forM f = .error e :=
      bind_eq_error.trans (or_congr_right ⟨fun ⟨_, h⟩ => h, fun h => ⟨(), h⟩⟩)
    rw [hstep, ih has]
    constructor
    · rintro (hfail | ⟨hok, b, hb, hfail, hbefore⟩)
      · have hfirst : ∀ b ∈ a :: as, R b a → f b = .ok () := by
          intro b hb hba
          rcases List.mem_cons.mp hb with rfl | hb
          · exact absurd hba (hR _ _ hba)
          · exact absurd hba (hR _ _ (ha b hb))
        exact ⟨a, List.mem_cons_self, hfail, hfirst⟩
      · exact ⟨b, List.mem_cons_of_mem a hb, hfail, List.forall_mem_cons.mpr ⟨fun _ => hok, hbefore⟩⟩
    · rintro ⟨b, hb, hfail, hbefore⟩
      rcases List.mem_cons.mp hb with rfl | hb
      · exact .inl hfail
      · obtain ⟨hok, hbefore⟩ := List.forall_mem_cons.mp hbefore
        exact .inr ⟨hok (ha b hb), b, hb, hfail, hbefore⟩

theorem filterM_eq_ok {f : α → Except ε Bool} {p : α → Bool} {as : List α} (h : ∀ a ∈ as, f a = .ok (p a)) :
    as.filterM f = .ok (as.filter p) := by
  have hwalk : ∀ acc, List.filterAuxM f as acc = .ok ((as.filter p).reverse ++ acc) := by
    induction as with
    | nil => exact fun _ => rfl
    | cons a as ih =>
      obtain ⟨ha, h⟩ := List.forall_mem_cons.mp h
      intro acc
      rw [List.filterAuxM, ha]
      refine (ih h _).trans ?_
      cases hp : p a <;> simp [hp]
  rw [List.filterM, hwalk, List.append_nil]
  exact congrArg _ (List.reverse_reverse _)

theorem foldlM_invariant {f : β → α → Except ε β} (P : β → Prop)
    (hf : ∀ b a c, P b → f b a = .ok c → P c) {as : List α} {b c : β} (hb : P b)
    (h : as.foldlM f b = .ok c) : P c := by
  induction as generalizing b with
  | nil => exact pure_eq_ok.mp h ▸ hb
  | cons a as ih =>
    obtain ⟨b', hb', h⟩ := bind_eq_ok.mp h
    exact ih (hf b a b' hb hb') h

end RuleReview
