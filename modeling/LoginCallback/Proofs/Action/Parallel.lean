import LoginCallback.Action

/-!
# Two actions side by side

Two actions run in parallel if, from states that are related, they give results that are related and
leave states that are related. A fault of one is the same fault of the other (`Alike`). The rules
follow the way in which actions are built, so that two programs of one shape are compared step by
step.
-/

namespace LoginCallback

variable {σ τ α β γ δ : Type}

/-- Both computations fault, in the same way, or neither does and the results are related. -/
inductive Alike (R : α → β → Prop) : Except Fault α → Except Fault β → Prop where
  | ok {a : α} {b : β} (h : R a b) : Alike R (.ok a) (.ok b)
  | error (e : Fault) : Alike R (.error e) (.error e)

theorem alike_refl {R : α → α → Prop} (h : ∀ a, R a a) (x : Except Fault α) : Alike R x x := by
  cases x with
  | error e => exact .error e
  | ok a => exact .ok (h a)

theorem alike_of_eq {x y : Except Fault α} (h : x = y) : Alike Eq x y :=
  h ▸ alike_refl (fun _ => rfl) x

theorem Alike.mono {R R' : α → β → Prop} {x : Except Fault α} {y : Except Fault β}
    (h : Alike R x y) (hR : ∀ a b, R a b → R' a b) : Alike R' x y := by
  cases h with
  | ok h => exact .ok (hR _ _ h)
  | error e => exact .error e

theorem Alike.bind {R : α → β → Prop} {R' : γ → δ → Prop} {x : Except Fault α}
    {y : Except Fault β} {f : α → Except Fault γ} {g : β → Except Fault δ} (h : Alike R x y)
    (hf : ∀ a b, R a b → Alike R' (f a) (g b)) : Alike R' (x >>= f) (y >>= g) := by
  cases h with
  | ok h => exact hf _ _ h
  | error e => exact .error e

namespace Action

/-- From related states the actions give related results and leave related states. -/
def Parallel (S : σ → τ → Prop) (R : α → β → Prop) (x : Action σ α) (y : Action τ β) : Prop :=
  ∀ s t, S s t → Alike R (x.runOn s).1 (y.runOn t).1 ∧ S (x.runOn s).2 (y.runOn t).2

variable {S : σ → τ → Prop} {R : α → β → Prop} {x : Action σ α} {y : Action τ β}

theorem parallel_refl (x : Action σ α) : Parallel Eq Eq x x := by
  rintro s _ rfl
  exact ⟨alike_of_eq rfl, rfl⟩

theorem parallel_lift {x : Except Fault α} {y : Except Fault β} (h : Alike R x y) :
    Parallel S R (liftM x : Action σ α) (liftM y : Action τ β) := fun _ _ hst => ⟨h, hst⟩

theorem parallel_pure {a : α} {b : β} (h : R a b) :
    Parallel S R (pure a : Action σ α) (pure b : Action τ β) := parallel_lift (.ok h)

theorem parallel_throw (e : Fault) :
    Parallel S R (throw e : Action σ α) (throw e : Action τ β) := parallel_lift (.error e)

theorem parallel_change {f : σ → σ} {g : τ → τ} (h : ∀ s t, S s t → S (f s) (g t)) :
    Parallel S Eq (change f) (change g) := fun s t hst => ⟨.ok rfl, h s t hst⟩

theorem Parallel.outcome (h : Parallel S R x y) : Parallel S (Alike R) x.outcome y.outcome := by
  intro s t hst
  obtain ⟨hresult, hstate⟩ := h s t hst
  exact ⟨.ok hresult, hstate⟩

theorem Parallel.bind {R' : γ → δ → Prop} {f : α → Action σ γ} {g : β → Action τ δ}
    (h : Parallel S R x y) (hf : ∀ a b, R a b → Parallel S R' (f a) (g b)) :
    Parallel S R' (x >>= f) (y >>= g) := by
  intro s t hst
  obtain ⟨hresult, hstate⟩ := h s t hst
  rw [runOn_bind, runOn_bind]
  revert hresult hstate
  rcases x.runOn s with ⟨a, s'⟩
  rcases y.runOn t with ⟨b, t'⟩
  intro hresult hstate
  cases hresult with
  | ok hab => exact hf _ _ hab s' t' hstate
  | error e => exact ⟨.error e, hstate⟩

end Action

end LoginCallback
