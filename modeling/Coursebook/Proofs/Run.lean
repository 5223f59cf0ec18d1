/-!
# Coursebook — running steps

What a step that may fail, over a state that it keeps, makes of a state: one equation for each way
of building a step. A step without a state is an outcome, of which the same is told first.

* `run_bind_keeps` — a relation between the states before and after, step by step.
* `RunsAlike` — two runs that end in the same way, step by step.
-/

namespace Coursebook

variable {ε ε' σ τ α β : Type}

/-! ## Outcomes -/

@[simp] theorem bind_ok (a : α) (f : α → Except ε β) : (Except.ok a >>= f) = f a := rfl

@[simp] theorem bind_error (e : ε) (f : α → Except ε β) : (Except.error e >>= f) = .error e := rfl

@[simp] theorem mapError_ok (f : ε → ε') (a : α) : (Except.ok a).mapError f = .ok a := rfl

@[simp] theorem mapError_error (f : ε → ε') (e : ε) :
    (Except.error e : Except ε α).mapError f = .error (f e) := rfl

/-! ## Steps -/

theorem run_pure (a : α) (s : σ) : (pure a : ExceptT ε (StateM σ) α).run s = (.ok a, s) := rfl

theorem run_bind (x : ExceptT ε (StateM σ) α) (f : α → ExceptT ε (StateM σ) β) (s : σ) :
    (x >>= f).run s =
      match x.run s with
      | (.ok a, s') => (f a).run s'
      | (.error e, s') => (.error e, s') := by
  show (x >>= f) s =
    match x s with
    | (.ok a, s') => (f a) s'
    | (.error e, s') => (.error e, s')
  simp only [bind, ExceptT.bind, ExceptT.mk, StateT.bind]
  obtain ⟨outcome, s'⟩ := x s
  cases outcome <;> rfl

theorem run_bind_of_ok {x : ExceptT ε (StateM σ) α} {f : α → ExceptT ε (StateM σ) β} {s s' : σ}
    {a : α} (h : x.run s = (.ok a, s')) : (x >>= f).run s = (f a).run s' := by
  rw [run_bind, h]

theorem run_bind_of_error {x : ExceptT ε (StateM σ) α} {f : α → ExceptT ε (StateM σ) β}
    {s s' : σ} {e : ε} (h : x.run s = (.error e, s')) : (x >>= f).run s = (.error e, s') := by
  rw [run_bind, h]

/-- A step in two parts that succeeds has succeeded in both. -/
theorem run_bind_eq_ok {x : ExceptT ε (StateM σ) α} {f : α → ExceptT ε (StateM σ) β} {s s' : σ}
    {b : β} (h : (x >>= f).run s = (.ok b, s')) :
    ∃ a s₁, x.run s = (.ok a, s₁) ∧ (f a).run s₁ = (.ok b, s') := by
  rw [run_bind] at h
  cases hRun : x.run s with
  | mk outcome s₁ =>
    rw [hRun] at h
    cases outcome with
    | error e => cases h
    | ok a => exact ⟨a, s₁, rfl, h⟩

theorem run_get (s : σ) : (get : ExceptT ε (StateM σ) σ).run s = (.ok s, s) := rfl

theorem run_modify (f : σ → σ) (s : σ) :
    (modify f : ExceptT ε (StateM σ) PUnit).run s = (.ok ⟨⟩, f s) := rfl

theorem run_throw (e : ε) (s : σ) : (throw e : ExceptT ε (StateM σ) α).run s = (.error e, s) := rfl

theorem run_liftM (x : Except ε α) (s : σ) : (liftM x : ExceptT ε (StateM σ) α).run s = (x, s) := rfl

/-- A relation that holds between the states before and after each of two steps holds between those
before and after both, also where the first one fails. -/
theorem run_bind_keeps {R : σ → σ → Prop} (hTrans : ∀ {s s₁ s₂}, R s s₁ → R s₁ s₂ → R s s₂)
    {x : ExceptT ε (StateM σ) α} {f : α → ExceptT ε (StateM σ) β} {s : σ} (h : R s (x.run s).2)
    (hNext : ∀ a s₁, x.run s = (.ok a, s₁) → R s s₁ → R s₁ ((f a).run s₁).2) :
    R s ((x >>= f).run s).2 := by
  rw [run_bind]
  cases hRun : x.run s with
  | mk outcome s₁ =>
    rw [hRun] at h
    cases outcome with
    | error e => exact h
    | ok a => exact hTrans h (hNext a s₁ hRun h)

/-! ## Two runs -/

/-- Two runs end in the same way, and leave states that are related. -/
structure RunsAlike (R : σ → τ → Prop) (x : ExceptT ε (StateM σ) α) (y : ExceptT ε (StateM τ) α)
    (s : σ) (t : τ) : Prop where
  outcome : (y.run t).1 = (x.run s).1
  state : R (x.run s).2 (y.run t).2

namespace RunsAlike

variable {R : σ → τ → Prop} {s : σ} {t : τ}

/-- Two runs are alike as others are that do the same from these states. -/
theorem congr {x x' : ExceptT ε (StateM σ) α} {y y' : ExceptT ε (StateM τ) α}
    (h : RunsAlike R x' y' s t) (hx : x.run s = x'.run s) (hy : y.run t = y'.run t) :
    RunsAlike R x y s t :=
  ⟨by rw [hx, hy, h.outcome], by rw [hx, hy]; exact h.state⟩

/-- What two runs do, told by their results. -/
theorem of_run {x : ExceptT ε (StateM σ) α} {y : ExceptT ε (StateM τ) α} {outcome : Except ε α}
    {s₁ : σ} {t₁ : τ} (hx : x.run s = (outcome, s₁)) (hy : y.run t = (outcome, t₁))
    (h : R s₁ t₁) : RunsAlike R x y s t :=
  ⟨by rw [hx, hy], by rw [hx, hy]; exact h⟩

theorem pure (h : R s t) (a : α) :
    RunsAlike R (pure a : ExceptT ε (StateM σ) α) (Pure.pure a) s t :=
  ⟨rfl, h⟩

theorem throw (h : R s t) (e : ε) :
    RunsAlike R (throw e : ExceptT ε (StateM σ) α) (MonadExcept.throw e) s t :=
  ⟨rfl, h⟩

theorem bind {x : ExceptT ε (StateM σ) α} {y : ExceptT ε (StateM τ) α}
    {f : α → ExceptT ε (StateM σ) β} {g : α → ExceptT ε (StateM τ) β} (h : RunsAlike R x y s t)
    (hNext : ∀ a s₁ t₁, x.run s = (.ok a, s₁) → y.run t = (.ok a, t₁) → R s₁ t₁ →
      RunsAlike R (f a) (g a) s₁ t₁) :
    RunsAlike R (x >>= f) (y >>= g) s t := by
  obtain ⟨hEnding, hState⟩ := h
  cases hX : x.run s with
  | mk ending s₁ =>
    cases hY : y.run t with
    | mk ending' t₁ =>
      rw [hX, hY] at hEnding hState
      dsimp only at hEnding hState
      subst ending'
      cases ending with
      | error e =>
        constructor
        · rw [run_bind_of_error hX, run_bind_of_error hY]
        · rw [run_bind_of_error hX, run_bind_of_error hY]
          exact hState
      | ok a =>
        have hRest := hNext a s₁ t₁ hX hY hState
        constructor
        · rw [run_bind_of_ok hX, run_bind_of_ok hY, hRest.outcome]
        · rw [run_bind_of_ok hX, run_bind_of_ok hY]
          exact hRest.state

end RunsAlike

/-- Two runs end in the same way, and leave states that are related if they succeed. -/
structure SucceedAlike (R : σ → τ → Prop) (x : ExceptT ε (StateM σ) α) (y : ExceptT ε (StateM τ) α)
    (s : σ) (t : τ) : Prop where
  outcome : (y.run t).1 = (x.run s).1
  state : ∀ {a s₁ t₁}, x.run s = (.ok a, s₁) → y.run t = (.ok a, t₁) → R s₁ t₁

theorem RunsAlike.succeed {R : σ → τ → Prop} {s : σ} {t : τ} {x : ExceptT ε (StateM σ) α}
    {y : ExceptT ε (StateM τ) α} (h : RunsAlike R x y s t) : SucceedAlike R x y s t := by
  refine ⟨h.outcome, fun hX hY => ?_⟩
  have hState := h.state
  rwa [hX, hY] at hState

/-- What a step leaves if it succeeds is all that the next one sees. -/
theorem SucceedAlike.bind {Q R : σ → τ → Prop} {s : σ} {t : τ} {x : ExceptT ε (StateM σ) α}
    {y : ExceptT ε (StateM τ) α} {f : α → ExceptT ε (StateM σ) β} {g : α → ExceptT ε (StateM τ) β}
    (h : SucceedAlike Q x y s t)
    (hNext : ∀ a s₁ t₁, x.run s = (.ok a, s₁) → y.run t = (.ok a, t₁) → Q s₁ t₁ →
      SucceedAlike R (f a) (g a) s₁ t₁) :
    SucceedAlike R (x >>= f) (y >>= g) s t := by
  obtain ⟨hEnding, hState⟩ := h
  rcases hX : x.run s with ⟨ending, s₁⟩
  rcases hY : y.run t with ⟨ending', t₁⟩
  rw [hX, hY] at hEnding
  obtain rfl : ending' = ending := hEnding
  cases ending' with
  | error e =>
    refine ⟨by rw [run_bind_of_error hX, run_bind_of_error hY], fun hOk _ => ?_⟩
    rw [run_bind_of_error hX] at hOk
    cases hOk
  | ok a =>
    obtain ⟨hRest, hRestState⟩ := hNext a s₁ t₁ hX hY (hState hX hY)
    refine ⟨by rw [run_bind_of_ok hX, run_bind_of_ok hY, hRest], fun hOk hOk' => ?_⟩
    rw [run_bind_of_ok hX] at hOk
    rw [run_bind_of_ok hY] at hOk'
    exact hRestState hOk hOk'

end Coursebook
