import LoginCallback.Authentication.Filter
import LoginCallback.Proofs.Authentication.Attempt

/-!
# What holds after a callback

A login filter is watched while it processes a request: every invocation of the application or of a
handler is noted, with the security context it saw and its answer (`LoginFilter.invocations`).
Watching changes nothing (`watched_handle`). Main statement: `authentication_after_handle`, whatever
the services of the host, the handlers and the application do, no authentication but the principal
of a completed login is left in the security context of a callback.
-/

namespace LoginCallback

/-- The filter invoked the application or one of the handlers. -/
inductive Invocation (ρ : Type) where
  | next (seen : SecurityContext) (answer : Except Fault ρ)
  | success (seen : SecurityContext) (principal : Principal) (answer : Except Fault ρ)
  | failure (seen : SecurityContext) (failure : Failure) (answer : Except Fault ρ)

namespace Invocation

variable {σ ρ : Type}

/-- What the application or the handler answered. -/
def answer : Invocation ρ → Except Fault ρ
  | next _ a => a
  | success _ _ a => a
  | failure _ _ a => a

/-- Runs an action and notes its answer. -/
def noting (mark : Except Fault ρ → Invocation ρ) (x : Action σ ρ) :
    Action (σ × List (Invocation ρ)) ρ :=
  Action.ofFn fun (s, calls) => let (r, s) := x.runOn s; (r, (s, calls ++ [mark r]))

end Invocation

namespace LoginFilter

open Invocation (noting)

variable {σ ρ : Type} (f : LoginFilter σ ρ) (c : Callback) (context : SecurityContext)
  (next : Callback → SecurityContext → Action σ ρ) (st : σ)

/-- The filter whose attempts use these services. -/
def attempting (s : Services σ) : LoginFilter σ ρ := { f with attempt := Attempt.run s }

/-- The filter, noting which handler it invokes. -/
def watched : LoginFilter (σ × List (Invocation ρ)) ρ :=
  { matcher := f.matcher
    attempt := fun c => (f.attempt c).beside
    onSuccess := fun c seen p => noting (.success seen p) (f.onSuccess c seen p)
    onFailure := fun c seen failure => noting (.failure seen failure) (f.onFailure c seen failure)
    log := fun r t => (f.log r t.1, t.2)
    ownsEngine := f.ownsEngine }

/-- What the filter invokes in processing a request. -/
def invocations : List (Invocation ρ) :=
  (f.watched.handle c context (fun c seen => noting (.next seen) (next c seen)) (st, [])).2.2

/-! ## Dispatching a result -/

theorem dispatch_of_success {r : AttemptResult} {p : Principal} (h : r.success? = some p) :
    f.dispatch c r st =
      (⟨((f.onSuccess c (some p) p).runOn st).1,
        if ((f.onSuccess c (some p) p).runOn st).1.isOk then some p else none⟩,
        ((f.onSuccess c (some p) p).runOn st).2) := by
  unfold dispatch
  rw [h]
  dsimp only
  rcases (f.onSuccess c (some p) p).runOn st with ⟨_ | a, st'⟩ <;> rfl

/-- The state in which the failure handler runs. -/
def beforeFailure (failure : Failure) : σ :=
  f.log ⟨.debug, .filter,
    "Dispatching failure " ++ failure.code.display ++ " to failure handler"⟩ st

theorem dispatch_of_failure {r : AttemptResult} {failure : Failure} (h : r.success? = none)
    (hf : r.failure = some failure) :
    f.dispatch c r st =
      (⟨((f.onFailure c none failure).runOn (f.beforeFailure st failure)).1, none⟩,
        ((f.onFailure c none failure).runOn (f.beforeFailure st failure)).2) := by
  unfold dispatch
  rw [h, hf]
  rfl

theorem dispatch_of_neither {r : AttemptResult} (h : r.success? = none) (hf : r.failure = none) :
    f.dispatch c r st = (⟨.error (.endedWithoutError r.status.name), none⟩, st) := by
  unfold dispatch
  rw [h, hf]

/-- Watching a dispatch changes nothing, and adds at most one invocation. -/
theorem watched_dispatch (r : AttemptResult) (calls : List (Invocation ρ)) :
    f.watched.dispatch c r (st, calls) = ((f.dispatch c r st).1, (f.dispatch c r st).2,
      match r.success?, r.failure with
      | some p, _ => calls ++ [.success (some p) p (f.dispatch c r st).1.answer]
      | none, some failure => calls ++ [.failure none failure (f.dispatch c r st).1.answer]
      | none, none => calls) := by
  cases h : r.success? with
  | some p => rw [f.watched.dispatch_of_success c _ h, f.dispatch_of_success c st h]; rfl
  | none =>
    cases hf : r.failure with
    | some failure =>
      rw [f.watched.dispatch_of_failure c _ h hf, f.dispatch_of_failure c st h hf]
      rfl
    | none => rw [f.watched.dispatch_of_neither c _ h hf, f.dispatch_of_neither c st h hf]

/-! ## Processing a request -/

theorem handle_of_passed (h : f.requiresAuthentication c = false) :
    f.handle c context next st =
      (⟨((next c context).runOn st).1, context⟩, ((next c context).runOn st).2) := by
  unfold handle
  rw [h]
  rfl

theorem handle_of_error (h : f.requiresAuthentication c = true) {e : Fault} {st' : σ}
    (ha : (f.attempt c).runOn st = (.error e, st')) :
    f.handle c context next st = (⟨.error e, none⟩, st') := by
  unfold handle
  rw [h, ha]
  rfl

theorem handle_of_ok (h : f.requiresAuthentication c = true) {r : AttemptResult} {st' : σ}
    (ha : (f.attempt c).runOn st = (.ok r, st')) :
    f.handle c context next st = f.dispatch c r st' := by
  unfold handle
  rw [h, ha]
  rfl

theorem watched_attempt (calls : List (Invocation ρ)) :
    (f.watched.attempt c).runOn (st, calls) =
      (((f.attempt c).runOn st).1, ((f.attempt c).runOn st).2, calls) := rfl

/-- Watching a request changes neither what becomes of it nor the state of the host. -/
theorem watched_handle :
    f.watched.handle c context (fun c seen => noting (.next seen) (next c seen)) (st, []) =
      ((f.handle c context next st).1, (f.handle c context next st).2,
        f.invocations c context next st) := by
  unfold invocations
  cases h : f.requiresAuthentication c with
  | false =>
    have h' : f.watched.requiresAuthentication c = false := h
    rw [f.watched.handle_of_passed c context _ _ h', f.handle_of_passed c context next st h]
    rfl
  | true =>
    have h' : f.watched.requiresAuthentication c = true := h
    rcases ha : (f.attempt c).runOn st with ⟨e | r, st'⟩
    · have ha' := f.watched_attempt c st []
      rw [ha] at ha'
      rw [f.watched.handle_of_error c context _ _ h' ha', f.handle_of_error c context next st h ha]
    · have ha' := f.watched_attempt c st []
      rw [ha] at ha'
      rw [f.watched.handle_of_ok c context _ _ h' ha', f.handle_of_ok c context next st h ha,
        f.watched_dispatch]

theorem invocations_of_passed (h : f.requiresAuthentication c = false) :
    f.invocations c context next st = [.next context (f.handle c context next st).1.answer] := by
  have h' : f.watched.requiresAuthentication c = false := h
  unfold invocations
  rw [f.watched.handle_of_passed c context _ _ h', f.handle_of_passed c context next st h]
  rfl

theorem invocations_of_error (h : f.requiresAuthentication c = true) {e : Fault} {st' : σ}
    (ha : (f.attempt c).runOn st = (.error e, st')) : f.invocations c context next st = [] := by
  have h' : f.watched.requiresAuthentication c = true := h
  have ha' := f.watched_attempt c st []
  rw [ha] at ha'
  unfold invocations
  rw [f.watched.handle_of_error c context _ _ h' ha']

theorem invocations_of_ok (h : f.requiresAuthentication c = true) {r : AttemptResult} {st' : σ}
    (ha : (f.attempt c).runOn st = (.ok r, st')) :
    f.invocations c context next st = match r.success?, r.failure with
      | some p, _ => [.success (some p) p (f.dispatch c r st').1.answer]
      | none, some failure => [.failure none failure (f.dispatch c r st').1.answer]
      | none, none => [] := by
  have h' : f.watched.requiresAuthentication c = true := h
  have ha' := f.watched_attempt c st []
  rw [ha] at ha'
  unfold invocations
  rw [f.watched.handle_of_ok c context _ _ h' ha', f.watched_dispatch]
  simp only [List.nil_append]

/-- A login that succeeds goes to the success handler, which decides whether it counts. -/
theorem handle_of_success (h : f.requiresAuthentication c = true) {r : AttemptResult} {st' : σ}
    (ha : (f.attempt c).runOn st = (.ok r, st')) {p : Principal} (hp : r.success? = some p) :
    (f.handle c context next st).1.context =
        (if (f.handle c context next st).1.answer.isOk then some p else none) ∧
      f.invocations c context next st =
        [.success (some p) p (f.handle c context next st).1.answer] := by
  rw [f.invocations_of_ok c context next st h ha, f.handle_of_ok c context next st h ha, hp]
  refine ⟨?_, rfl⟩
  rw [f.dispatch_of_success c st' hp]

/-- A login that fails goes to the failure handler. -/
theorem handle_of_failure (h : f.requiresAuthentication c = true) {r : AttemptResult} {st' : σ}
    (ha : (f.attempt c).runOn st = (.ok r, st')) {failure : Failure} (hp : r.success? = none)
    (hf : r.failure = some failure) :
    (f.handle c context next st).1.context = none ∧
      f.invocations c context next st =
        [.failure none failure (f.handle c context next st).1.answer] := by
  rw [f.invocations_of_ok c context next st h ha, f.handle_of_ok c context next st h ha, hp, hf]
  refine ⟨?_, rfl⟩
  rw [f.dispatch_of_failure c st' hp hf]

/-- Only the success of an attempt leaves a principal. -/
theorem success_of_context (h : f.requiresAuthentication c = true) {p : Principal}
    (hp : (f.handle c context next st).1.context = some p) :
    ∃ r st', (f.attempt c).runOn st = (.ok r, st') ∧ r.success? = some p := by
  rcases ha : (f.attempt c).runOn st with ⟨e | r, st'⟩
  · rw [f.handle_of_error c context next st h ha] at hp
    cases hp
  · refine ⟨r, st', rfl, ?_⟩
    cases hs : r.success? with
    | some q =>
      rw [(f.handle_of_success c context next st h ha hs).1] at hp
      split at hp
      · exact hp
      · cases hp
    | none =>
      rw [f.handle_of_ok c context next st h ha] at hp
      cases hf : r.failure with
      | some failure =>
        rw [f.dispatch_of_failure c st' hs hf] at hp
        cases hp
      | none =>
        rw [f.dispatch_of_neither c st' hs hf] at hp
        cases hp

/-! ## Attempts -/

/-- A completed login is the only source of an authentication. A request that is no callback passes
on untouched. A callback leaves the principal of its attempt if the attempt authenticated and the
success handler returned, and nothing otherwise; an attempt that returns leads to exactly one
handler, whose answer is the answer of the filter. -/
theorem authentication_after_handle (s : Services σ) :
    let handled := ((f.attempting s).handle c context next st).1
    let calls := (f.attempting s).invocations c context next st
    let attempted := ((Attempt.run s c).runOn st).1
    (calls.length ≤ 1 ∧ ∀ call ∈ calls, call.answer = handled.answer) ∧
    (f.requiresAuthentication c = false →
      handled.context = context ∧ calls = [.next context handled.answer]) ∧
    (f.requiresAuthentication c = true →
      (∀ p, handled.context = some p ↔
        (∃ r, attempted = .ok r ∧ r.status = .authenticated ∧ r.principal = some p) ∧
          ∃ answer, calls = [.success (some p) p (.ok answer)]) ∧
      (∀ r, attempted = .ok r →
        (∃ p, r.success? = some p ∧ calls = [.success (some p) p handled.answer]) ∨
        (∃ failure, r.success? = none ∧ r.failure = some failure ∧
          calls = [.failure none failure handled.answer])) ∧
      (∀ e, attempted = .error e → calls = [] ∧ handled.answer = .error e)) := by
  intro handled calls attempted
  cases h : f.requiresAuthentication c with
  | false =>
    have hcalls : calls = [.next context handled.answer] :=
      (f.attempting s).invocations_of_passed c context next st h
    have hhandle := (f.attempting s).handle_of_passed c context next st h
    have hcontext : handled.context = context := congrArg (·.1.context) hhandle
    simp [hcalls, hcontext, Invocation.answer]
  | true =>
    rcases ha : (Attempt.run s c).runOn st with ⟨e | r, st'⟩
    · have hcalls : calls = [] := (f.attempting s).invocations_of_error c context next st h ha
      have hhandle := (f.attempting s).handle_of_error c context next st h ha
      have hhandled : handled = ⟨.error e, none⟩ := congrArg Prod.fst hhandle
      have hattempted : attempted = .error e := congrArg Prod.fst ha
      simp [hcalls, hhandled, hattempted]
    · have hattempted : attempted = .ok r := congrArg Prod.fst ha
      rcases Attempt.settled_of_run s ha with ⟨p, hp, -⟩ | ⟨failure, hp, hf⟩
      · obtain ⟨hcontext, hcalls⟩ := (f.attempting s).handle_of_success c context next st h ha hp
        change handled.context = if handled.answer.isOk then some p else none at hcontext
        change calls = [.success (some p) p handled.answer] at hcalls
        obtain ⟨hstatus, hprincipal⟩ := AttemptResult.success?_eq_some.1 hp
        rw [hcalls, hattempted, hcontext]
        refine ⟨by simp [Invocation.answer], by simp, fun _ => ⟨fun q => ?_, ?_, by simp⟩⟩
        · cases handled.answer with
          | ok a => simp [Except.isOk, Except.toBool, hstatus, hprincipal]
          | error e => simp [Except.isOk, Except.toBool]
        · rintro _ hr
          obtain rfl := Except.ok.inj hr
          exact Or.inl ⟨p, hp, rfl⟩
      · obtain ⟨hcontext, hcalls⟩ :=
          (f.attempting s).handle_of_failure c context next st h ha hp hf
        change handled.context = none at hcontext
        change calls = [.failure none failure handled.answer] at hcalls
        rw [hcalls, hattempted, hcontext]
        refine ⟨by simp [Invocation.answer], by simp, fun _ => ⟨by simp, ?_, by simp⟩⟩
        rintro _ hr
        obtain rfl := Except.ok.inj hr
        exact Or.inr ⟨failure, hp, hf, rfl⟩

end LoginFilter

end LoginCallback
