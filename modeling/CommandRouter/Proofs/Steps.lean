import Mathlib.Data.List.Forall2

/-!
# Steps that may fail

When a computation that may fail comes to a result: all of its steps do. A step taken for each item
of a list fails as a whole where the first item fails.
-/

namespace CommandRouter

variable {ε α β : Type}

/-- A computation of two steps succeeds if both do. -/
theorem bind_eq_ok_iff {x : Except ε α} {f : α → Except ε β} {b : β} :
    (x >>= f) = .ok b ↔ ∃ a, x = .ok a ∧ f a = .ok b := by
  cases x with
  | error e => simp [bind, Except.bind]
  | ok a => simp [bind, Except.bind]

/-- A computation with a check in front succeeds if the check finds nothing. -/
theorem check_eq_ok_iff {bad : Prop} [Decidable bad] {e : ε} {f : α → Except ε β}
    {x : Except ε β} {b : β} :
    (if bad then (throw e : Except ε α) >>= f else x) = .ok b ↔ ¬bad ∧ x = .ok b := by
  by_cases h : bad
  · simp [h, bind, Except.bind, throw, throwThe, MonadExceptOf.throw]
  · simp [h]

theorem pure_eq_ok_iff {a b : α} : (pure a : Except ε α) = .ok b ↔ a = b := by
  simp [pure, Except.pure]

theorem map_eq_ok_iff {x : Except ε α} {f : α → β} {b : β} :
    x.map f = .ok b ↔ ∃ a, x = .ok a ∧ f a = b := by
  cases x with
  | error e => simp [Except.map]
  | ok a => simp [Except.map]

theorem mapError_eq_ok_iff {ε' : Type} {x : Except ε α} {f : ε → ε'} {a : α} :
    x.mapError f = .ok a ↔ x = .ok a := by
  cases x with
  | error e => exact ⟨nofun, nofun⟩
  | ok b => exact ⟨fun h => congrArg Except.ok (Except.ok.inj h), fun h => by cases h; rfl⟩

theorem mapError_eq_error_iff {ε' : Type} {x : Except ε α} {f : ε → ε'} {e : ε'} :
    x.mapError f = .error e ↔ ∃ e₀, x = .error e₀ ∧ f e₀ = e := by
  constructor
  · intro h
    cases x with
    | error e₀ => exact ⟨e₀, rfl, Except.error.inj h⟩
    | ok a => cases h
  · rintro ⟨e₀, rfl, rfl⟩
    rfl

/-- A step taken for each item of a list succeeds if it does for each of them. -/
theorem mapM_eq_ok_iff {f : α → Except ε β} {items : List α} {results : List β} :
    items.mapM f = .ok results ↔ List.Forall₂ (fun a b => f a = .ok b) items results := by
  induction items generalizing results with
  | nil => rw [List.mapM_nil, pure_eq_ok_iff, List.forall₂_nil_left_iff, eq_comm]
  | cons a items ih =>
    simp only [List.mapM_cons, bind_eq_ok_iff, pure_eq_ok_iff, ih, List.forall₂_cons_left_iff]
    constructor
    · rintro ⟨b, hb, results, hresults, rfl⟩
      exact ⟨b, results, hb, hresults, rfl⟩
    · rintro ⟨b, results, hb, hresults, rfl⟩
      exact ⟨b, hb, results, hresults, rfl⟩

/-- Whether it succeeds can be told item by item. -/
theorem exists_mapM_eq_ok_iff {f : α → Except ε β} {items : List α} :
    (∃ results, items.mapM f = .ok results) ↔ ∀ a ∈ items, ∃ b, f a = .ok b := by
  simp only [mapM_eq_ok_iff]
  induction items with
  | nil => simp
  | cons a items ih =>
    rw [List.forall_mem_cons, ← ih]
    simp only [List.forall₂_cons_left_iff]
    constructor
    · rintro ⟨_, b, results, hb, hresults, rfl⟩
      exact ⟨⟨b, hb⟩, results, hresults⟩
    · rintro ⟨⟨b, hb⟩, results, hresults⟩
      exact ⟨b :: results, b, results, hb, hresults, rfl⟩

/-- A step that gives for each item what the first one gives may be taken in its place. -/
theorem mapM_eq_ok_of_forall {f g : α → Except ε β} {items : List α} {results : List β}
    (h : ∀ a ∈ items, ∀ b, f a = .ok b → g a = .ok b) (hf : items.mapM f = .ok results) :
    items.mapM g = .ok results := by
  rw [mapM_eq_ok_iff] at hf ⊢
  induction hf with
  | nil => exact .nil
  | cons hb _ ih =>
    obtain ⟨ha, hitems⟩ := List.forall_mem_cons.mp h
    exact .cons (ha _ hb) (ih hitems)

/-- An item that gives what another one gives may stand in its place. -/
theorem mapM_set_eq_ok {f : α → Except ε β} {items : List α} {results : List β} {i : Nat}
    {a a' : α} (ha : items[i]? = some a) (h : ∀ b, f a = .ok b → f a' = .ok b)
    (hf : items.mapM f = .ok results) : (items.set i a').mapM f = .ok results := by
  rw [mapM_eq_ok_iff] at hf ⊢
  induction hf generalizing i with
  | nil => cases ha
  | cons hb hrest ih =>
    cases i with
    | zero =>
      cases ha
      exact .cons (h _ hb) hrest
    | succ i => exact .cons hb (ih ha)

/-- It fails if there is a first item for which it does. -/
theorem mapM_eq_error_iff {f : α → Except ε β} {items : List α} {e : ε} :
    items.mapM f = .error e ↔ ∃ before a after, items = before ++ a :: after ∧
      (∀ b ∈ before, ∃ r, f b = .ok r) ∧ f a = .error e := by
  induction items with
  | nil => simp [pure, Except.pure]
  | cons a items ih =>
    rw [List.mapM_cons]
    constructor
    · intro h
      cases hstep : f a with
      | error e' =>
        rw [hstep] at h
        obtain rfl : e' = e := Except.error.inj h
        exact ⟨[], a, items, rfl, by simp, hstep⟩
      | ok r =>
        cases hrest : items.mapM f with
        | ok results => simp [hstep, hrest, bind, Except.bind, pure, Except.pure] at h
        | error e' =>
          rw [hstep, hrest] at h
          obtain rfl : e' = e := Except.error.inj h
          obtain ⟨before, b, after, rfl, hbefore, hb⟩ := ih.mp hrest
          exact ⟨a :: before, b, after, rfl, List.forall_mem_cons.mpr ⟨⟨r, hstep⟩, hbefore⟩, hb⟩
    · rintro ⟨before, b, after, hsplit, hbefore, hb⟩
      cases before with
      | nil =>
        obtain ⟨rfl, -⟩ := List.cons.inj hsplit
        rw [hb]
        rfl
      | cons a' before =>
        obtain ⟨rfl, hitems⟩ := List.cons.inj hsplit
        obtain ⟨⟨r, hr⟩, hbefore⟩ := List.forall_mem_cons.mp hbefore
        rw [hr, ih.mpr ⟨before, b, after, hitems, hbefore, hb⟩]
        rfl

/-- If all items of a list are taken through a step, every result is that of an item. -/
theorem mem_of_mapM_eq_ok {f : α → Except ε β} {items : List α} {results : List β}
    (h : items.mapM f = .ok results) : ∀ b ∈ results, ∃ a ∈ items, f a = .ok b := by
  induction items generalizing results with
  | nil =>
    cases h
    exact nofun
  | cons a items ih =>
    simp only [List.mapM_cons, bind_eq_ok_iff, pure_eq_ok_iff] at h
    obtain ⟨b, hb, results, hresults, rfl⟩ := h
    refine List.forall_mem_cons.mpr ⟨⟨a, List.mem_cons_self, hb⟩, fun b' hb' => ?_⟩
    obtain ⟨a', ha', heq⟩ := ih hresults b' hb'
    exact ⟨a', List.mem_cons_of_mem a ha', heq⟩

end CommandRouter
