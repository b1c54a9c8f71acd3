import LoginCallback.Fault

/-!
# Actions

An action changes a state and gives a result or a fault. What it changed before a fault stays
changed.
-/

namespace LoginCallback

abbrev Action (σ α : Type) : Type := ExceptT Fault (StateM σ) α

namespace Action

variable {σ τ κ α β : Type}

/-- The action that a function on states describes. -/
def ofFn (f : σ → Except Fault α × σ) : Action σ α := ExceptT.mk fun s => f s

/-- The result and the new state of an action in a state. -/
def runOn (x : Action σ α) (s : σ) : Except Fault α × σ := (ExceptT.run x).run s

/-- A fault becomes part of the result. -/
def outcome (x : Action σ α) : Action σ (Except Fault α) :=
  ofFn fun s => let (r, s') := x.runOn s; (.ok r, s')

/-- An action on a part of a larger state. -/
def within (get : τ → σ) (set : τ → σ → τ) (x : Action σ α) : Action τ α :=
  ofFn fun t => let (r, s) := x.runOn (get t); (r, set t s)

/-- An action on the first of two states. -/
def beside (x : Action σ α) : Action (σ × τ) α := x.within Prod.fst fun t s => (s, t.2)

/-- Changes the state. -/
def change (f : σ → σ) : Action σ Unit := ofFn fun s => (.ok (), f s)

/-! ## Results and new states -/

@[simp] theorem runOn_ofFn (f : σ → Except Fault α × σ) (s : σ) : (ofFn f).runOn s = f s := rfl

@[simp] theorem runOn_change (f : σ → σ) (s : σ) : (change f).runOn s = (.ok (), f s) := rfl

@[simp] theorem runOn_pure (a : α) (s : σ) : (pure a : Action σ α).runOn s = (.ok a, s) := rfl

@[simp] theorem runOn_throw (e : Fault) (s : σ) :
    (throw e : Action σ α).runOn s = (.error e, s) := rfl

@[simp] theorem runOn_lift (x : Except Fault α) (s : σ) :
    (liftM x : Action σ α).runOn s = (x, s) := rfl

@[simp] theorem runOn_outcome (x : Action σ α) (s : σ) :
    x.outcome.runOn s = (.ok (x.runOn s).1, (x.runOn s).2) := rfl

@[simp] theorem runOn_within (get : τ → σ) (set : τ → σ → τ) (x : Action σ α) (t : τ) :
    (x.within get set).runOn t = ((x.runOn (get t)).1, set t (x.runOn (get t)).2) := rfl

@[simp] theorem runOn_beside (x : Action σ α) (s : σ) (t : τ) :
    x.beside.runOn (s, t) = ((x.runOn s).1, (x.runOn s).2, t) := rfl

theorem runOn_bind (x : Action σ α) (f : α → Action σ β) (s : σ) :
    (x >>= f).runOn s = match (x.runOn s).1 with
      | .ok a => (f a).runOn (x.runOn s).2
      | .error e => (.error e, (x.runOn s).2) := by
  unfold runOn
  simp only [ExceptT.run, bind, ExceptT.bind, ExceptT.mk, StateT.bind, StateT.run]
  rcases x s with ⟨_ | a, s'⟩ <;> rfl

/-- An action that returns has returned at each of its steps. -/
theorem runOn_bind_eq_ok {x : Action σ α} {f : α → Action σ β} {s s' : σ} {b : β} :
    (x >>= f).runOn s = (.ok b, s') ↔
      ∃ a t, x.runOn s = (.ok a, t) ∧ (f a).runOn t = (.ok b, s') := by
  rw [runOn_bind]
  rcases x.runOn s with ⟨_ | a, t⟩
  · simp
  · constructor
    · intro h
      exact ⟨a, t, rfl, h⟩
    · rintro ⟨_, _, h, h'⟩
      cases h
      exact h'

/-- Beside another state an action takes the same steps. -/
theorem beside_bind (x : Action σ α) (f : α → Action σ β) :
    ((x >>= f).beside : Action (σ × τ) β) = x.beside >>= fun a => (f a).beside := by
  funext ⟨s, t⟩
  show (x >>= f).beside.runOn (s, t) = (x.beside >>= fun a => (f a).beside).runOn (s, t)
  rw [runOn_beside, runOn_bind, runOn_bind, runOn_beside]
  rcases x.runOn s with ⟨_ | a, s'⟩ <;> rfl

/-! ## What an action leaves alone -/

/-- The action leaves a part of the state alone. -/
def Keeps (part : σ → κ) (x : Action σ α) : Prop := ∀ s, part (x.runOn s).2 = part s

variable {part : σ → κ}

theorem keeps_pure (a : α) : Keeps part (pure a : Action σ α) := fun _ => rfl

theorem keeps_throw (e : Fault) : Keeps part (throw e : Action σ α) := fun _ => rfl

theorem keeps_lift (x : Except Fault α) : Keeps part (liftM x : Action σ α) := fun _ => rfl

theorem keeps_change {f : σ → σ} (h : ∀ s, part (f s) = part s) : Keeps part (change f) := h

theorem Keeps.outcome {x : Action σ α} (h : Keeps part x) : Keeps part x.outcome := h

theorem Keeps.bind {x : Action σ α} {f : α → Action σ β} (hx : Keeps part x)
    (hf : ∀ a, Keeps part (f a)) : Keeps part (x >>= f) := by
  intro s
  rw [← hx s, runOn_bind]
  rcases x.runOn s with ⟨_ | a, s'⟩
  · rfl
  · exact hf a s'

/-! ## What an action depends on -/

/-- What an action returns, and what is seen of the state it leaves, depend only on what is seen of
the state it starts in. -/
def Sees (view : σ → κ) (x : Action σ α) : Prop :=
  ∀ s s', view s = view s' →
    (x.runOn s).1 = (x.runOn s').1 ∧ view (x.runOn s).2 = view (x.runOn s').2

variable {view : σ → κ}

theorem sees_lift (x : Except Fault α) : Sees view (liftM x : Action σ α) := fun _ _ h => ⟨rfl, h⟩

theorem sees_change {f : σ → σ} (h : ∀ s, view (f s) = view s) : Sees view (change f) := by
  intro s s' hs
  exact ⟨rfl, (h s).trans (hs.trans (h s').symm)⟩

theorem Sees.outcome {x : Action σ α} (h : Sees view x) : Sees view x.outcome := by
  intro s s' hs
  obtain ⟨hresult, hview⟩ := h s s' hs
  exact ⟨congrArg Except.ok hresult, hview⟩

theorem Sees.bind {x : Action σ α} {f : α → Action σ β} (hx : Sees view x)
    (hf : ∀ a, Sees view (f a)) : Sees view (x >>= f) := by
  intro s s' hs
  obtain ⟨hresult, hview⟩ := hx s s' hs
  rw [runOn_bind, runOn_bind, ← hresult]
  cases (x.runOn s).1 with
  | error e => exact ⟨rfl, hview⟩
  | ok a => exact hf a _ _ hview

/-! ## What an action maintains -/

/-- What holds before the action holds after it. -/
def Maintains (P : σ → Prop) (x : Action σ α) : Prop := ∀ s, P s → P (x.runOn s).2

variable {P : σ → Prop}

theorem maintains_lift (x : Except Fault α) : Maintains P (liftM x : Action σ α) := fun _ h => h

theorem maintains_change {f : σ → σ} (h : ∀ s, P s → P (f s)) : Maintains P (change f) := h

theorem Maintains.outcome {x : Action σ α} (h : Maintains P x) : Maintains P x.outcome := h

theorem Maintains.bind {x : Action σ α} {f : α → Action σ β} (hx : Maintains P x)
    (hf : ∀ a, Maintains P (f a)) : Maintains P (x >>= f) := by
  intro s hs
  have hrest := hx s hs
  rw [runOn_bind]
  cases (x.runOn s).1 with
  | error e => exact hrest
  | ok a => exact hf a _ hrest

end Action

end LoginCallback
