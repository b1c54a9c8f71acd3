import LoginCallback.Proofs.Session.Run
import Mathlib.Data.List.Induction

/-!
# What a request saved earlier has become

A request saved under a state stays in the ledger until it is retrieved, expires, or is pushed out
by as many other states as the store has room for, saved after it and not retrieved since
(`Crowded`).
Main statement: `retrieve_eq_some_iff`, which says of every regular run what a retrieval answers.

The invariant behind it is `Fate`: after a request `p` was saved, the ledger either still holds `p`,
followed by exactly the states that wait since (`waiting`), or it holds nothing under the state of
`p`, and then `p` has expired or was crowded out. It rests on the order of the ledger: what stands
behind `p` was saved later, so it expires later and is dropped later.
-/

namespace LoginCallback

open Time

namespace StoreEvent

/-! ## States that wait -/

/-- The state `t` was saved during the events and not retrieved since. -/
def Awaits (es : List StoreEvent) (t : String) : Prop :=
  ∃ before r after, es = before ++ save r :: after ∧ r.state = .text t ∧
    retrieve (.text t) ∉ after

/-- At least `n` states other than `t` were saved during the events and not retrieved since. -/
def Crowded (n : Nat) (es : List StoreEvent) (t : String) : Prop :=
  ∃ states : List String, states.Nodup ∧ n ≤ states.length ∧ ∀ a ∈ states, a ≠ t ∧ Awaits es a

/-- The states that wait after an event. -/
def note (states : List Value) : StoreEvent → List Value
  | save r => states.filter (!Value.sameScalar · r.state) ++ [r.state]
  | retrieve state => states.filter (!Value.sameScalar · state)
  | wait _ => states

/-- The states that were saved and not retrieved since, in the order of their latest save. -/
def waiting (es : List StoreEvent) : List Value := es.foldl note []

theorem waiting_concat (es : List StoreEvent) (e : StoreEvent) :
    waiting (es ++ [e]) = note (waiting es) e := by
  simp [waiting]

theorem awaits_concat (es : List StoreEvent) (e : StoreEvent) (t : String) :
    Awaits (es ++ [e]) t ↔
      (∃ r, e = save r ∧ r.state = .text t) ∨ (Awaits es t ∧ e ≠ retrieve (.text t)) := by
  constructor
  · rintro ⟨before, r, after, h, hr, hafter⟩
    rcases List.eq_nil_or_concat after with rfl | ⟨after, x, rfl⟩
    · obtain ⟨-, he⟩ := List.append_inj' h rfl
      exact Or.inl ⟨r, (List.cons.inj he).1, hr⟩
    · rw [List.concat_eq_append] at h hafter
      rw [← List.cons_append, ← List.append_assoc] at h
      obtain ⟨rfl, he⟩ := List.append_inj' h rfl
      obtain rfl := (List.cons.inj he).1
      simp only [List.mem_append, List.mem_singleton, not_or] at hafter
      exact Or.inr ⟨⟨before, r, after, rfl, hr, hafter.1⟩, Ne.symm hafter.2⟩
  · rintro (⟨r, rfl, hr⟩ | ⟨⟨before, r, after, rfl, hr, hafter⟩, he⟩)
    · exact ⟨es, r, [], rfl, hr, by simp⟩
    · refine ⟨before, r, after ++ [e], by simp, hr, ?_⟩
      simp only [List.mem_append, List.mem_singleton, not_or]
      exact ⟨hafter, Ne.symm he⟩

theorem mem_waiting {es : List StoreEvent} {t : String} : .text t ∈ waiting es ↔ Awaits es t := by
  induction es using List.reverseRecOn with
  | nil =>
    refine iff_of_false (by simp [waiting]) ?_
    rintro ⟨before, r, after, h, -⟩
    simp at h
  | append_singleton es e ih =>
    rw [waiting_concat, awaits_concat, ← ih]
    cases e with
    | save r =>
      by_cases h : r.state = .text t
      · simp [note, h]
      · have hs : Value.sameScalar (.text t) r.state = false :=
          Bool.eq_false_iff.2 fun hs => h ((Value.sameScalar_text_left t r.state).1 hs)
        simp [note, h, hs, Ne.symm h]
    | retrieve state =>
      by_cases h : state = .text t
      · simp [note, h]
      · have hs : Value.sameScalar (.text t) state = false :=
          Bool.eq_false_iff.2 fun hs => h ((Value.sameScalar_text_left t state).1 hs)
        simp [note, h, hs]
    | wait d => simp [note]

/-- In a regular run the waiting states are distinct texts. -/
theorem waiting_eq_map {es : List StoreEvent} (h : ∀ e ∈ es, e.Regular) :
    ∃ states : List String, states.Nodup ∧ waiting es = states.map .text := by
  induction es using List.reverseRecOn with
  | nil => exact ⟨[], List.nodup_nil, rfl⟩
  | append_singleton es e ih =>
    obtain ⟨states, hnodup, hw⟩ := ih fun e he => h e (by simp [he])
    have he := h e (by simp)
    rw [waiting_concat, hw]
    cases e with
    | save r =>
      obtain ⟨t, -, ht⟩ := he
      refine ⟨states.filter (fun a => !Value.sameScalar (.text a) r.state) ++ [t], ?_, ?_⟩
      · refine List.nodup_append.2 ⟨hnodup.filter _, by simp, ?_⟩
        rintro a ha b hb rfl
        simp [ht, List.mem_singleton.1 hb] at ha
      · simp only [note, List.filter_map, List.map_append, List.map_singleton, ht]
        rfl
    | retrieve state =>
      refine ⟨states.filter (fun a => !Value.sameScalar (.text a) state), hnodup.filter _, ?_⟩
      simp only [note, List.filter_map]
      rfl
    | wait d => exact ⟨states, hnodup, rfl⟩

/-- Without events that concern `t` itself, the waiting states are counted by `waiting`. -/
theorem crowded_iff {n : Nat} {es : List StoreEvent} {t : String} (h : ∀ e ∈ es, e.Regular)
    (ht : ∀ e ∈ es, ¬ e.Concerns t) : Crowded n es t ↔ n ≤ (waiting es).length := by
  obtain ⟨states, hnodup, hw⟩ := waiting_eq_map h
  have hawaits : ∀ a, a ∈ states ↔ Awaits es a := fun a => by
    rw [← mem_waiting, hw]
    simp
  rw [hw, List.length_map]
  constructor
  · rintro ⟨others, hothers, hn, hall⟩
    exact Nat.le_trans hn (hothers.length_le_of_subset fun a ha => (hawaits a).2 (hall a ha).2)
  · intro hn
    refine ⟨states, hnodup, hn, fun a ha => ⟨?_, (hawaits a).1 ha⟩⟩
    rintro rfl
    obtain ⟨before, r, after, rfl, hr, -⟩ := (hawaits a).1 ha
    exact ht (save r) (by simp) hr

end StoreEvent

/-! ## The fate of a request -/

namespace SessionStore

open StoreEvent (waiting note waiting_concat)

variable (s : SessionStore) {n : Nat} {t : String} {p : Pending} {es : List StoreEvent}
  {now : Moment} {ledger older newer : List Pending}

/-- The ledger holds `p`, behind `older` and before `newer` requests: these are the states that wait
since `p` was saved under `t`, and there have never been `n` of them. -/
structure Stays (n : Nat) (t : String) (p : Pending) (es : List StoreEvent)
    (ledger older newer : List Pending) : Prop where
  ledger_eq : ledger = older ++ p :: newer
  apart : ∀ q ∈ older ++ newer, q.isUnder (.text t) = false
  newer_eq : newer.map (·.request.state) = waiting es
  later : ∀ q ∈ newer, p.savedAt.ticks ≤ q.savedAt.ticks
  room : ∀ past, past <+: es → (waiting past).length < n

/-- The ledger holds nothing under the state `t` of `p`: `p` has expired, or there were `n` states
that waited since it was saved. -/
structure Gone (n : Nat) (t : String) (p : Pending) (es : List StoreEvent) (now : Moment)
    (ledger : List Pending) : Prop where
  apart : ∀ q ∈ ledger, q.isUnder (.text t) = false
  reason : s.isOver now p = true ∨ ∃ past, past <+: es ∧ n ≤ (waiting past).length

def Fate (n : Nat) (t : String) (p : Pending) (es : List StoreEvent) (now : Moment)
    (ledger : List Pending) : Prop :=
  (∃ older newer, Stays n t p es ledger older newer) ∨ s.Gone n t p es now ledger

/-! ### Expiry in the order of saving -/

theorem isOver_mono {now' : Moment} (h : now.ticks ≤ now'.ticks) (hp : s.isOver now p = true) :
    s.isOver now' p = true := by
  obtain ⟨d, hd, hne, hle⟩ := s.isOver_iff.1 hp
  exact s.isOver_iff.2 ⟨d, hd, hne, Int.le_trans hle h⟩

/-- What was saved later is not over before. -/
theorem not_isOver_of_le {q : Pending} (h : p.savedAt.ticks ≤ q.savedAt.ticks)
    (hp : s.isOver now p = false) : s.isOver now q = false := by
  refine Bool.eq_false_iff.2 fun hq => Bool.eq_false_iff.1 hp ?_
  obtain ⟨d, hd, hne, hle⟩ := s.isOver_iff.1 hq
  exact s.isOver_iff.2 ⟨d, hd, hne, by omega⟩

/-! ### One event -/

theorem take_append_cons {state : Value} (hp : s.isOver now p = false)
    (hnewer : ∀ q ∈ newer, p.savedAt.ticks ≤ q.savedAt.ticks) (hstate : p.isUnder state = false) :
    s.take now state (older ++ p :: newer) = s.take now state older ++ p :: leave state newer := by
  have hpurge : s.purge now newer = newer := by
    refine List.filter_eq_self.2 fun q hq => ?_
    rw [s.not_isOver_of_le (hnewer q hq) hp]
    rfl
  unfold take
  rw [purge, List.filter_append, List.filter_cons, hp]
  simp only [Bool.not_false, if_true]
  rw [← purge, ← purge, hpurge, leave, List.filter_append, List.filter_cons, hstate]
  rfl

theorem map_state_leave (state : Value) (ledger : List Pending) :
    (leave state ledger).map (·.request.state) =
      (ledger.map (·.request.state)).filter (!Value.sameScalar · state) := by
  rw [List.filter_map]
  rfl

/-- With room for what stands behind it, `p` is among the newest; without, it is dropped. -/
theorem keepNewest_append_cons (hn : s.limit = some n) (p : Pending) (older newer : List Pending) :
    (∃ kept, kept.Sublist older ∧ newer.length < n ∧
      s.keepNewest (older ++ p :: newer) = kept ++ p :: newer) ∨
    (n ≤ newer.length ∧ (s.keepNewest (older ++ p :: newer)).Sublist newer) := by
  unfold keepNewest
  rw [hn]
  simp only [List.length_append, List.length_cons]
  by_cases h : newer.length < n
  · refine Or.inl ⟨_, List.drop_sublist _ _, h, List.drop_append_of_le_length ?_⟩
    omega
  · refine Or.inr ⟨by omega, ?_⟩
    rw [List.drop_append, List.drop_eq_nil_of_le (by omega), List.nil_append]
    have hpos : older.length + (newer.length + 1) - n - older.length ≠ 0 := by omega
    obtain ⟨k, hk⟩ := Nat.exists_eq_succ_of_ne_zero hpos
    rw [hk, List.drop_succ_cons]
    exact List.drop_sublist _ _

/-- What an event leaves was there before and is not over, unless only time has passed, or is the
request just saved. -/
theorem mem_follow {e : StoreEvent} {q : Pending} (hq : q ∈ s.follow now ledger e) :
    (q ∈ ledger ∧ ((∀ d, e ≠ .wait d) → s.isOver now q = false)) ∨
      ∃ r, e = .save r ∧ q = ⟨r, now⟩ := by
  have htake : ∀ state, q ∈ s.take now state ledger → q ∈ ledger ∧ s.isOver now q = false :=
    fun state hq => s.mem_purge.1 (mem_leave.1 hq).1
  cases e with
  | save r =>
    rcases List.mem_append.1 ((s.keepNewest_sublist _).subset hq) with hq | hq
    · exact Or.inl ⟨(htake _ hq).1, fun _ => (htake _ hq).2⟩
    · exact Or.inr ⟨r, rfl, List.mem_singleton.1 hq⟩
  | retrieve state => exact Or.inl ⟨(htake _ hq).1, fun _ => (htake _ hq).2⟩
  | wait d => exact Or.inl ⟨hq, fun h => absurd rfl (h d)⟩

theorem isUnder_new {r : AuthorizationRequest} (h : ¬ (StoreEvent.save r).Concerns t)
    (savedAt : Moment) : (⟨r, savedAt⟩ : Pending).isUnder (.text t) = false :=
  Value.sameScalar_text_eq_false h

theorem not_isUnder (hpt : p.request.state = .text t) {state : Value} (h : state ≠ .text t) :
    p.isUnder state = false := by
  rw [Pending.isUnder, hpt]
  exact Bool.eq_false_iff.2 fun hs => h ((Value.sameScalar_text_left t state).1 hs)

theorem apart_follow {e : StoreEvent} (h : ∀ q ∈ ledger, q.isUnder (.text t) = false)
    (het : ¬ e.Concerns t) : ∀ q ∈ s.follow now ledger e, q.isUnder (.text t) = false := by
  intro q hq
  rcases s.mem_follow hq with ⟨hq, -⟩ | ⟨r, rfl, rfl⟩
  · exact h q hq
  · exact isUnder_new het now

theorem Gone.step {s : SessionStore} {now' : Moment} {e : StoreEvent}
    (h : s.Gone n t p es now ledger) (hle : now.ticks ≤ now'.ticks) (het : ¬ e.Concerns t) :
    s.Gone n t p (es ++ [e]) now' (s.follow now ledger e) := by
  refine ⟨s.apart_follow h.apart het, ?_⟩
  rcases h.reason with hp | ⟨past, hpast, hn⟩
  · exact Or.inl (s.isOver_mono hle hp)
  · exact Or.inr ⟨past, hpast.trans (List.prefix_append _ _), hn⟩

/-- A request that is over is purged by the next access. -/
theorem Stays.gone_of_isOver {s : SessionStore} {now' : Moment} {e : StoreEvent}
    (h : Stays n t p es ledger older newer) (hp : s.isOver now p = true)
    (hle : now.ticks ≤ now'.ticks) (het : ¬ e.Concerns t) (he : ∀ d, e ≠ .wait d) :
    s.Gone n t p (es ++ [e]) now' (s.follow now ledger e) := by
  refine ⟨fun q hq => ?_, Or.inl (s.isOver_mono hle hp)⟩
  rcases s.mem_follow hq with ⟨hq, hover⟩ | ⟨r, rfl, rfl⟩
  · rw [h.ledger_eq] at hq
    rcases List.mem_append.1 hq with hq | hq
    · exact h.apart q (List.mem_append_left _ hq)
    · rcases List.mem_cons.1 hq with rfl | hq
      · rw [hover he] at hp
        cases hp
      · exact h.apart q (List.mem_append_right _ hq)
  · exact isUnder_new het now

theorem room_concat {e : StoreEvent} (h : ∀ past, past <+: es → (waiting past).length < n)
    (he : (waiting (es ++ [e])).length < n) :
    ∀ past, past <+: es ++ [e] → (waiting past).length < n := by
  intro past hpast
  rcases List.prefix_concat_iff.1 hpast with rfl | hpast
  · exact he
  · exact h past hpast

theorem Stays.wait (h : Stays n t p es ledger older newer) (d : Duration) :
    Stays n t p (es ++ [.wait d]) ledger older newer := by
  have hw : waiting (es ++ [.wait d]) = waiting es := waiting_concat es _
  refine ⟨h.ledger_eq, h.apart, by rw [hw]; exact h.newer_eq, h.later, room_concat h.room ?_⟩
  rw [hw]
  exact h.room es (List.prefix_refl es)

/-- Saving another state leaves `p` where it is, or pushes it out. -/
theorem Stays.save {s : SessionStore} {now' : Moment} {r : AuthorizationRequest}
    (hn : s.limit = some n) (hpt : p.request.state = .text t)
    (hsaved : p.savedAt.ticks ≤ now.ticks) (h : Stays n t p es ledger older newer)
    (hp : s.isOver now p = false) (hr : r.state ≠ .text t) :
    s.Fate n t p (es ++ [.save r]) now' (s.put now r ledger) := by
  have hput : s.put now r ledger = s.keepNewest (s.take now r.state older ++
      p :: (leave r.state newer ++ [⟨r, now⟩])) := by
    rw [put, ← take, h.ledger_eq, s.take_append_cons hp h.later (not_isUnder hpt hr)]
    simp
  have hw : (leave r.state newer ++ [(⟨r, now⟩ : Pending)]).map (·.request.state) =
      waiting (es ++ [.save r]) := by
    rw [waiting_concat, List.map_append, map_state_leave, h.newer_eq]
    rfl
  have hapart : ∀ q ∈ leave r.state newer ++ [⟨r, now⟩], q.isUnder (.text t) = false := by
    intro q hq
    rcases List.mem_append.1 hq with hq | hq
    · exact h.apart q (List.mem_append_right _ (mem_leave.1 hq).1)
    · rw [List.mem_singleton.1 hq]
      exact isUnder_new hr now
  have hlength := congrArg List.length hw
  rw [List.length_map] at hlength
  rw [hput]
  rcases s.keepNewest_append_cons hn p _ _ with ⟨kept, hkept, hlt, hk⟩ | ⟨hle, hk⟩
  · refine Or.inl ⟨kept, _, hk, fun q hq => ?_, hw, fun q hq => ?_, room_concat h.room ?_⟩
    · rcases List.mem_append.1 hq with hq | hq
      · exact h.apart q (List.mem_append_left _
          ((s.take_sublist now r.state older).subset (hkept.subset hq)))
      · exact hapart q hq
    · rcases List.mem_append.1 hq with hq | hq
      · exact h.later q (mem_leave.1 hq).1
      · rw [List.mem_singleton.1 hq]
        exact hsaved
    · rwa [← hlength]
  · refine Or.inr ⟨fun q hq => hapart q (hk.subset hq), Or.inr ⟨_, List.prefix_refl _, ?_⟩⟩
    rwa [← hlength]

/-- Retrieving another state leaves `p` where it is. -/
theorem Stays.retrieve {s : SessionStore} {state : Value} (hpt : p.request.state = .text t)
    (h : Stays n t p es ledger older newer) (hp : s.isOver now p = false)
    (hstate : state ≠ .text t) :
    Stays n t p (es ++ [.retrieve state]) (s.take now state ledger) (s.take now state older)
      (leave state newer) := by
  refine ⟨?_, fun q hq => ?_, ?_, fun q hq => h.later q (mem_leave.1 hq).1,
    room_concat h.room ?_⟩
  · rw [h.ledger_eq, s.take_append_cons hp h.later (not_isUnder hpt hstate)]
  · refine h.apart q ?_
    rcases List.mem_append.1 hq with hq | hq
    · exact List.mem_append_left _ ((s.take_sublist now state older).subset hq)
    · exact List.mem_append_right _ (mem_leave.1 hq).1
  · rw [waiting_concat, map_state_leave, h.newer_eq]
    rfl
  · rw [waiting_concat]
    exact Nat.lt_of_le_of_lt (List.length_filter_le _ _) (h.room es (List.prefix_refl es))

/-- What an event leaves of a ledger in which `p` stays and is not over. -/
theorem Stays.step {s : SessionStore} {now' : Moment} {e : StoreEvent} (hn : s.limit = some n)
    (hpt : p.request.state = .text t) (hsaved : p.savedAt.ticks ≤ now.ticks)
    (h : Stays n t p es ledger older newer) (hp : s.isOver now p = false)
    (het : ¬ e.Concerns t) : s.Fate n t p (es ++ [e]) now' (s.follow now ledger e) := by
  cases e with
  | save r => exact h.save hn hpt hsaved hp het
  | retrieve state => exact Or.inl ⟨_, _, h.retrieve hpt hp het⟩
  | wait d => exact Or.inl ⟨older, newer, h.wait d⟩

theorem Fate.step {s : SessionStore} {now' : Moment} {e : StoreEvent} (hn : s.limit = some n)
    (hpt : p.request.state = .text t) (hsaved : p.savedAt.ticks ≤ now.ticks)
    (h : s.Fate n t p es now ledger) (hle : now.ticks ≤ now'.ticks) (het : ¬ e.Concerns t) :
    s.Fate n t p (es ++ [e]) now' (s.follow now ledger e) := by
  rcases h with ⟨older, newer, h⟩ | h
  · cases hp : s.isOver now p with
    | false => exact h.step hn hpt hsaved hp het
    | true =>
      by_cases he : ∀ d, e ≠ .wait d
      · exact Or.inr (h.gone_of_isOver hp hle het he)
      · simp only [ne_eq, not_forall, not_not] at he
        obtain ⟨d, rfl⟩ := he
        exact Or.inl ⟨older, newer, h.wait d⟩
  · exact Or.inr (h.step hle het)

/-- The fate of a request begins when it is put into the ledger. -/
theorem fate_put {r : AuthorizationRequest} (hn : s.limit = some n) (hpos : 1 ≤ n)
    (hr : r.state = .text t) : s.Fate n t ⟨r, now⟩ [] now (s.put now r ledger) := by
  rcases s.keepNewest_append_cons hn ⟨r, now⟩ (s.take now r.state ledger) [] with
    ⟨kept, hkept, hlt, hk⟩ | ⟨hle, -⟩
  · refine Or.inl ⟨kept, [], hk, fun q hq => ?_, rfl, by simp, fun past hpast => ?_⟩
    · rw [List.append_nil] at hq
      rw [← hr]
      exact (mem_leave.1 (hkept.subset hq)).2
    · rw [List.prefix_nil.1 hpast]
      exact hpos
  · exact absurd (Nat.le_trans hpos hle) (by decide)

/-! ### Runs -/

/-- After every event the clock may still be advanced by the time to live. -/
def InCalendar (start : StoreState) (es : List StoreEvent) : Prop :=
  ∀ past, past <+: es → ∃ v, s.expiry (s.runFrom start past).now = .ok v

theorem InCalendar.left {s : SessionStore} {start : StoreState} {fs : List StoreEvent}
    (h : s.InCalendar start (es ++ fs)) : s.InCalendar start es :=
  fun past hpast => h past (hpast.trans (List.prefix_append _ _))

theorem InCalendar.right {s : SessionStore} {start : StoreState} {fs : List StoreEvent}
    (h : s.InCalendar start (es ++ fs)) : s.InCalendar (s.runFrom start es) fs := by
  intro past hpast
  rw [← runFrom_append]
  exact h _ ((List.prefix_append_right_inj es).2 hpast)

/-- Along a regular run the session holds a ledger, and what every event preserves of the ledgers
holds at the end. -/
theorem holds_runFrom {start : StoreState} (hclock : start.now.Universal)
    (hl : s.Holds start.session ledger) (hes : ∀ e ∈ es, e.Regular) (hexp : s.InCalendar start es)
    {I : List StoreEvent → List Pending → Prop} (h0 : I [] ledger)
    (hstep : ∀ past e ledger, e ∈ es → I past ledger →
      I (past ++ [e]) (s.follow (s.runFrom start past).now ledger e)) :
    ∃ ledger', s.Holds (s.runFrom start es).session ledger' ∧ I es ledger' := by
  induction es using List.reverseRecOn with
  | nil => exact ⟨ledger, hl, h0⟩
  | append_singleton es e ih =>
    obtain ⟨ledger', hl', hI⟩ := ih (fun x hx => hes x (List.mem_append_left _ hx)) hexp.left
      fun past x ledger hx => hstep past x ledger (List.mem_append_left _ hx)
    have he : e ∈ es ++ [e] := by simp
    rw [runFrom_concat]
    exact ⟨_, s.holds_step (s.runFrom_universal hclock es) (hexp es (List.prefix_append _ _)) hl'
      (hes e he), hstep es e ledger' he hI⟩

/-- The fate of a request along the events that do not concern its state. -/
theorem fate_runFrom {start : StoreState} (hn : s.limit = some n)
    (hpt : p.request.state = .text t) (hclock : start.now.Universal)
    (hsaved : p.savedAt.ticks ≤ start.now.ticks) (hl : s.Holds start.session ledger)
    (hfate : s.Fate n t p [] start.now ledger) (hes : ∀ e ∈ es, e.Regular)
    (het : ∀ e ∈ es, ¬ e.Concerns t) (hexp : s.InCalendar start es) :
    ∃ ledger', s.Holds (s.runFrom start es).session ledger' ∧
      s.Fate n t p es (s.runFrom start es).now ledger' := by
  obtain ⟨ledger', hl', -, hfate'⟩ := s.holds_runFrom hclock hl hes hexp
    (I := fun past ledger => p.savedAt.ticks ≤ (s.runFrom start past).now.ticks ∧
      s.Fate n t p past (s.runFrom start past).now ledger) ⟨hsaved, hfate⟩
    fun past e ledger he ⟨hsaved, hfate⟩ => by
      have hle := s.le_step (h := s.runFrom start past) (hes e he)
      rw [runFrom_concat]
      exact ⟨Int.le_trans hsaved hle, hfate.step hn hpt hsaved hle (het e he)⟩
  exact ⟨ledger', hl', hfate'⟩

/-! ## Retrieving -/

theorem find?_of_apart (h : ∀ q ∈ ledger, q.isUnder (.text t) = false) :
    s.find? now (.text t) ledger = none := by
  refine List.find?_eq_none.2 fun q hq => ?_
  rw [h q (s.mem_purge.1 hq).1]
  exact Bool.false_ne_true

theorem find?_of_stays (hpt : p.request.state = .text t) (h : Stays n t p es ledger older newer) :
    s.find? now (.text t) ledger = if s.isOver now p then none else some p := by
  unfold find? purge
  rw [h.ledger_eq, List.filter_append, List.filter_cons, List.find?_append]
  have hnone : ∀ ledger' : List Pending, (∀ q ∈ ledger', q ∈ older ++ newer) →
      (ledger'.filter (!s.isOver now ·)).find? (·.isUnder (.text t)) = none := by
    intro ledger' hsub
    exact s.find?_of_apart fun q hq => h.apart q (hsub q hq)
  rw [hnone older fun q hq => List.mem_append_left _ hq]
  cases hp : s.isOver now p with
  | false => simp [hpt]
  | true => simpa using hnone newer fun q hq => List.mem_append_right _ hq

/-- The latest event that concerns `t`, if there is one. -/
theorem latest_cases (t : String) (es : List StoreEvent) : (∀ e ∈ es, ¬ e.Concerns t) ∨
    ∃ before e after, es = before ++ e :: after ∧ e.Concerns t ∧ ∀ x ∈ after, ¬ x.Concerns t := by
  induction es with
  | nil => exact Or.inl (by simp)
  | cons e es ih =>
    rcases ih with h | ⟨before, x, after, rfl, hx, hafter⟩
    · by_cases he : e.Concerns t
      · exact Or.inr ⟨[], e, es, rfl, he, h⟩
      · exact Or.inl (List.forall_mem_cons.2 ⟨he, h⟩)
    · exact Or.inr ⟨e :: before, x, after, rfl, hx, hafter⟩

theorem latest_unique {before after before' after' : List StoreEvent} {e e' : StoreEvent}
    (h : before ++ e :: after = before' ++ e' :: after') (he : e.Concerns t) (he' : e'.Concerns t)
    (hafter : ∀ x ∈ after, ¬ x.Concerns t) (hafter' : ∀ x ∈ after', ¬ x.Concerns t) :
    before = before' ∧ e = e' ∧ after = after' := by
  rcases List.append_eq_append_iff.1 h with ⟨gap, rfl, hgap⟩ | ⟨gap, rfl, hgap⟩
  · cases gap with
    | nil => exact ⟨by simp, List.cons.inj hgap⟩
    | cons x gap =>
      obtain ⟨-, rfl⟩ := List.cons.inj hgap
      exact absurd he' (hafter e' (by simp))
  · cases gap with
    | nil =>
      obtain ⟨rfl, rfl⟩ := List.cons.inj hgap
      exact ⟨by simp, rfl, rfl⟩
    | cons x gap =>
      obtain ⟨-, rfl⟩ := List.cons.inj hgap
      exact absurd he (hafter' e (by simp))

/-- What the history of a session says about a request `r` with the state `t`: the latest event that
concerns `t` saved it, it has not expired, and at no moment since were there `n` other states that
waited. -/
def Answers (n : Nat) (start : StoreState) (es : List StoreEvent) (t : String)
    (r : AuthorizationRequest) : Prop :=
  ∃ before after, es = before ++ .save r :: after ∧ r.state = .text t ∧
    (∀ e ∈ after, ¬ e.Concerns t) ∧
    (∀ d, s.ttl = some d → d.micros ≠ 0 →
      (s.runFrom start es).now.ticks < (s.runFrom start before).now.ticks + d.micros) ∧
    ∀ past, past <+: after → ¬ StoreEvent.Crowded n past t

/-- A retrieval whose state was never saved, or was retrieved since, finds nothing. -/
theorem find?_of_not_saved {start : StoreState} (hclock : start.now.Universal)
    (hl : s.Holds start.session ledger) (hapart : ∀ q ∈ ledger, q.isUnder (.text t) = false)
    (hes : ∀ e ∈ es, e.Regular) (het : ∀ e ∈ es, ¬ e.Concerns t) (hexp : s.InCalendar start es) :
    ∃ ledger', s.Holds (s.runFrom start es).session ledger' ∧
      s.find? (s.runFrom start es).now (.text t) ledger' = none := by
  obtain ⟨ledger', hl', hapart'⟩ := s.holds_runFrom hclock hl hes hexp
    (I := fun _ ledger => ∀ q ∈ ledger, q.isUnder (.text t) = false) hapart
    fun past e ledger he h => s.apart_follow h (het e he)
  exact ⟨ledger', hl', s.find?_of_apart hapart'⟩

/-- A retrieval of a state that was saved last finds that request, unless it has expired or was
crowded out. -/
theorem find?_of_saved {start : StoreState} {r : AuthorizationRequest} (hn : s.limit = some n)
    (hpos : 1 ≤ n) (hclock : start.now.Universal) (hl : s.Holds start.session ledger)
    (hr : r.state = .text t) (hes : ∀ e ∈ .save r :: es, e.Regular)
    (het : ∀ e ∈ es, ¬ e.Concerns t) (hexp : s.InCalendar start (.save r :: es)) :
    ∃ ledger', s.Holds (s.runFrom start (.save r :: es)).session ledger' ∧
      (s.find? (s.runFrom start (.save r :: es)).now (.text t) ledger' = some ⟨r, start.now⟩ ∨
        s.find? (s.runFrom start (.save r :: es)).now (.text t) ledger' = none) ∧
      (s.find? (s.runFrom start (.save r :: es)).now (.text t) ledger' = some ⟨r, start.now⟩ ↔
        s.isOver (s.runFrom start (.save r :: es)).now ⟨r, start.now⟩ = false ∧
          ∀ past, past <+: es → ¬ StoreEvent.Crowded n past t) := by
  have hsave := s.holds_step hclock (hexp [] (List.nil_prefix)) hl (hes _ List.mem_cons_self)
  have hes' : ∀ e ∈ es, e.Regular := fun e he => hes e (List.mem_cons_of_mem _ he)
  have hroom : ∀ past, past <+: es → (StoreEvent.Crowded n past t ↔ n ≤ (waiting past).length) :=
    fun past hpast => StoreEvent.crowded_iff (fun e he => hes' e (hpast.subset he))
      fun e he => het e (hpast.subset he)
  obtain ⟨ledger', hl', hfate⟩ := s.fate_runFrom (p := ⟨r, start.now⟩) hn hr
    (s.step_universal hclock (.save r)) (Int.le_refl _) hsave (s.fate_put hn hpos hr) hes' het
    (show s.InCalendar start ([.save r] ++ es) from hexp).right
  refine ⟨ledger', hl', ?_⟩
  change s.Fate n t ⟨r, start.now⟩ es (s.runFrom start (.save r :: es)).now ledger' at hfate
  rcases hfate with ⟨older, newer, h⟩ | h
  · rw [s.find?_of_stays hr h]
    cases s.isOver (s.runFrom start (.save r :: es)).now ⟨r, start.now⟩ with
    | true => simp
    | false =>
      simp only [Bool.false_eq_true, if_false, true_or, true_iff, true_and]
      intro past hpast hc
      exact Nat.not_le.2 (h.room past hpast) ((hroom past hpast).1 hc)
  · rw [s.find?_of_apart h.apart]
    refine ⟨Or.inr rfl, iff_of_false (by simp) ?_⟩
    rintro ⟨hover, hcrowd⟩
    rcases h.reason with hp | ⟨past, hpast, hle⟩
    · rw [hp] at hover
      cases hover
    · exact hcrowd past hpast ((hroom past hpast).2 hle)

theorem answers_iff {start : StoreState} {before after : List StoreEvent}
    {r r' : AuthorizationRequest} (hr : r.state = .text t)
    (hafter : ∀ e ∈ after, ¬ e.Concerns t) :
    s.Answers n start (before ++ .save r :: after) t r' ↔ r' = r ∧
      s.isOver (s.runFrom start (before ++ .save r :: after)).now
        ⟨r, (s.runFrom start before).now⟩ = false ∧
      ∀ past, past <+: after → ¬ StoreEvent.Crowded n past t := by
  rw [isOver_eq_false_iff]
  constructor
  · rintro ⟨before', after', h, hr', hafter', httl, hcrowd⟩
    obtain ⟨rfl, hsave, rfl⟩ := latest_unique h hr hr' hafter hafter'
    exact ⟨(StoreEvent.save.inj hsave).symm, httl, hcrowd⟩
  · rintro ⟨rfl, httl, hcrowd⟩
    exact ⟨before, after, rfl, hr, hafter, httl, hcrowd⟩

theorem not_answers_of_retrieve {start : StoreState} {before after : List StoreEvent}
    (hafter : ∀ e ∈ after, ¬ e.Concerns t) (r : AuthorizationRequest) :
    ¬ s.Answers n start (before ++ .retrieve (.text t) :: after) t r := by
  rintro ⟨before', after', h, hr, hafter', -⟩
  obtain ⟨-, h, -⟩ := latest_unique h rfl hr hafter hafter'
  cases h

/-- What a retrieval answers is what the history of the session says. -/
theorem retrieve_eq_some_iff {start : StoreState} (hn : s.limit = some n) (hpos : 1 ≤ n)
    (hclock : start.now.Universal) (hfresh : Entries.text? start.session s.key = none)
    (hes : ∀ e ∈ es, e.Regular) (hexp : s.InCalendar start es) (ht : t ≠ "") :
    ∃ found, (s.retrieve (s.runFrom start es).now (.text t) (s.runFrom start es).session).result =
      .ok found ∧ ∀ r, found = some r ↔ s.Answers n start es t r := by
  have hhere := s.runFrom_universal hclock es
  -- the answer is read off whatever ledger the session holds
  have hanswer : ∀ ledger, s.Holds (s.runFrom start es).session ledger →
      (s.retrieve (s.runFrom start es).now (.text t) (s.runFrom start es).session).result =
        .ok ((s.find? (s.runFrom start es).now (.text t) ledger).map (·.request)) :=
    fun ledger hl => (s.retrieve_of_holds hhere.offset_eq hl (Value.truthy_text ht) rfl).1
  rcases latest_cases t es with h | ⟨before, e, after, rfl, he, hafter⟩
  · obtain ⟨ledger, hl, hnone⟩ :=
      s.find?_of_not_saved hclock (s.holds_nil hfresh) (by simp) hes h hexp
    refine ⟨_, hanswer ledger hl, fun r => ?_⟩
    rw [hnone]
    refine iff_of_false (by simp) ?_
    rintro ⟨before, after, rfl, hr, -⟩
    exact h (.save r) (by simp) hr
  · have hbefore : ∀ x ∈ before, x.Regular := fun x hx => hes x (List.mem_append_left _ hx)
    have hrest : ∀ x ∈ e :: after, x.Regular := fun x hx => hes x (List.mem_append_right _ hx)
    have hmid := s.runFrom_universal hclock before
    have hsplit := s.runFrom_append start before (e :: after)
    obtain ⟨ledger, hl, -⟩ := s.holds_runFrom hclock (s.holds_nil hfresh) hbefore hexp.left
      (I := fun _ _ => True) trivial fun _ _ _ _ _ => trivial
    cases e with
    | save r =>
      obtain ⟨ledger', hl', hcases, hiff⟩ :=
        s.find?_of_saved hn hpos hmid hl he hrest hafter hexp.right
      rw [← hsplit] at hl' hcases hiff
      refine ⟨_, hanswer ledger' hl', fun r' => ?_⟩
      rw [s.answers_iff he hafter, ← hiff]
      rcases hcases with hsome | hnone
      · simp [hsome, eq_comm]
      · simp [hnone]
    | retrieve state =>
      obtain rfl : state = .text t := he
      have hl' := s.holds_step hmid (hexp.right [] List.nil_prefix) hl (hrest _ List.mem_cons_self)
      obtain ⟨ledger', hl'', hnone⟩ := s.find?_of_not_saved (s.step_universal hmid _) hl'
        (fun q hq => (mem_leave.1 hq).2) (fun x hx => hrest x (List.mem_cons_of_mem _ hx)) hafter
        (show s.InCalendar _ ([.retrieve (.text t)] ++ after) from hexp.right).right
      change s.Holds (s.runFrom _ (.retrieve (.text t) :: after)).session ledger' at hl''
      change s.find? (s.runFrom _ (.retrieve (.text t) :: after)).now _ _ = none at hnone
      rw [← hsplit] at hl'' hnone
      refine ⟨_, hanswer ledger' hl'', fun r => ?_⟩
      rw [hnone]
      exact iff_of_false (by simp) (s.not_answers_of_retrieve hafter r)
    | wait d => exact absurd he id

/-- With room for two, the earlier of two requests is found within the time to live. -/
theorem retrieve_earlier_of_two :
    let s : SessionStore := { standard with limit := some 2 }
    let start : StoreState := ⟨⟨63839664000000000, some 0⟩, []⟩
    let es := [.save (.ofState "a"), .save (.ofState "b"), .wait ⟨599999999⟩]
    (s.retrieve (s.runFrom start es).now (.text "a") (s.runFrom start es).session).result =
      .ok (some (.ofState "a")) := by
  intro s start es
  have hclock : start.now.Universal := ⟨rfl, by decide, by decide⟩
  have hes : ∀ e ∈ es, e.Regular := by
    simp [es, StoreEvent.Regular, AuthorizationRequest.ofState]
  have hexp : s.InCalendar start es := by
    intro past hpast
    simp only [es, List.prefix_cons_iff, List.prefix_nil] at hpast
    rcases hpast with rfl | ⟨_, rfl, rfl | ⟨_, rfl, rfl | ⟨_, rfl, rfl⟩⟩⟩ <;> exact ⟨_, rfl⟩
  have hanswers : s.Answers 2 start es "a" (.ofState "a") := by
    have hafter : ∀ e ∈ es.tail, ¬ e.Concerns "a" := by
      simp [es, StoreEvent.Concerns, AuthorizationRequest.ofState]
    refine ⟨[], es.tail, rfl, rfl, hafter, fun d hd _ => ?_, fun past hpast => ?_⟩
    · obtain rfl := Option.some.inj hd
      decide
    · -- only "b" waits after the request was saved
      have hmem : ∀ e ∈ past, e ∈ es.tail := fun e he => hpast.subset he
      rw [StoreEvent.crowded_iff (fun e he => hes e (List.mem_of_mem_tail (hmem e he)))
        fun e he => hafter e (hmem e he), Nat.not_le]
      simp only [es, List.tail_cons, List.prefix_cons_iff, List.prefix_nil] at hpast
      rcases hpast with rfl | ⟨_, rfl, rfl | ⟨_, rfl, rfl⟩⟩ <;> decide
  obtain ⟨found, hfound, hiff⟩ :=
    s.retrieve_eq_some_iff rfl (by decide : 1 ≤ 2) hclock rfl hes hexp (by decide : "a" ≠ "")
  rw [hfound, (hiff _).2 hanswers]

end SessionStore

end LoginCallback
