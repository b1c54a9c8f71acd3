import LoginCallback.Proofs.Authentication.StateMachine
import LoginCallback.Proofs.Session.Faults
import LoginCallback.Proofs.Session.Run
import Mathlib.Data.List.Induction

/-!
# What a session looks like after any run

A run of the store may save and retrieve anything and move the clock forwards and backwards. The
pending requests of the session are then those whose latest saves are recent enough, in the order of
these saves (`WellKept`). Main statement: `session_after_run`, which adds that nothing expired is
left right after an operation, and that an attempt with this store never finds the request of
another state.

One event keeps the invariant (`wellKept_concat`): each operation writes a part of the ledger, and
saving adds the new request at its end, where dropping the oldest does not reach it (`put_eq`).
-/

namespace LoginCallback

open Time

namespace SessionStore

variable (s : SessionStore) {start : StoreState} {es : List StoreEvent} {now : Moment}
  {session : Session} {ledger : List Pending}

/-- The store keeps at least one request. -/
def Roomy : Prop := ∀ n, s.limit = some n → 1 ≤ n

/-! ## Runs and their saves -/

/-- The session and the clock before an event of a run. -/
def stateAt (start : StoreState) (es : List StoreEvent) (i : Nat) : StoreState :=
  s.runFrom start (es.take i)

/-- An event of a run saves a request: the store does not fault. -/
structure Saves (start : StoreState) (es : List StoreEvent) (i : Nat) (r : AuthorizationRequest) :
    Prop where
  event : es[i]? = some (.save r)
  saved : (s.save (s.stateAt start es i).now r (s.stateAt start es i).session).result = .ok ()

/-- A pending request was saved by an event of a run, and none of its state was saved later. -/
structure LatestSave (start : StoreState) (es : List StoreEvent) (i : Nat) (p : Pending) : Prop where
  saves : s.Saves start es i p.request
  savedAt : (s.stateAt start es i).now = p.savedAt
  latest : ∀ j r, i < j → s.Saves start es j r → p.isUnder r.state = false

/-- After a run the session holds pending requests, each marked with the event that saved it: every
one is the latest of its state, they stand in the order in which they were saved, there are no more
than allowed, and the key is absent if there are none. Nothing else in the session has changed. -/
structure WellKept (start : StoreState) (es : List StoreEvent) (marked : List (Nat × Pending)) :
    Prop where
  leaves : s.Leaves start.session (s.runFrom start es).session (marked.map fun m => s.entryOf m.2)
  bounded : ∀ n, s.limit = some n → marked.length ≤ n
  ordered : marked.Pairwise fun m m' => m.1 < m'.1
  latest : ∀ m ∈ marked, s.LatestSave start es m.1 m.2
  timely : ∀ m ∈ marked, s.Timely m.2

variable {s}

theorem stateAt_concat (e : StoreEvent) {i : Nat} (hi : i ≤ es.length) :
    s.stateAt start (es ++ [e]) i = s.stateAt start es i := by
  unfold stateAt
  rw [List.take_append_of_le_length hi]

theorem stateAt_length (e : StoreEvent) :
    s.stateAt start (es ++ [e]) es.length = s.runFrom start es := by
  rw [stateAt_concat e (Nat.le_refl _)]
  unfold stateAt
  rw [List.take_length]

theorem Saves.lt {i : Nat} {r : AuthorizationRequest} (h : s.Saves start es i r) :
    i < es.length := (List.getElem?_eq_some_iff.1 h.event).1

theorem saves_concat_of_lt {e : StoreEvent} {i : Nat} {r : AuthorizationRequest}
    (hi : i < es.length) : s.Saves start (es ++ [e]) i r ↔ s.Saves start es i r := by
  constructor
  · rintro ⟨hevent, hsaved⟩
    rw [List.getElem?_append_left hi] at hevent
    rw [stateAt_concat e (Nat.le_of_lt hi)] at hsaved
    exact ⟨hevent, hsaved⟩
  · rintro ⟨hevent, hsaved⟩
    refine ⟨?_, ?_⟩
    · rwa [List.getElem?_append_left hi]
    · rwa [stateAt_concat e (Nat.le_of_lt hi)]

theorem saves_concat_length {e : StoreEvent} {r : AuthorizationRequest} :
    s.Saves start (es ++ [e]) es.length r ↔ e = .save r ∧
      (s.save (s.runFrom start es).now r (s.runFrom start es).session).result = .ok () := by
  constructor
  · rintro ⟨hevent, hsaved⟩
    rw [List.getElem?_concat_length, Option.some.injEq] at hevent
    rw [stateAt_length] at hsaved
    exact ⟨hevent, hsaved⟩
  · rintro ⟨rfl, hsaved⟩
    refine ⟨List.getElem?_concat_length, ?_⟩
    rwa [stateAt_length]

/-- The latest save of a state stays the latest unless the state is saved again. -/
theorem LatestSave.concat {i : Nat} {p : Pending} (h : s.LatestSave start es i p) {e : StoreEvent}
    (he : ∀ r, s.Saves start (es ++ [e]) es.length r → p.isUnder r.state = false) :
    s.LatestSave start (es ++ [e]) i p := by
  have hi := h.saves.lt
  refine ⟨(saves_concat_of_lt hi).2 h.saves, ?_, fun j r hij hj => ?_⟩
  · rw [stateAt_concat e (Nat.le_of_lt hi)]
    exact h.savedAt
  · have hlt := hj.lt
    rw [List.length_append, List.length_singleton] at hlt
    rcases Nat.lt_succ_iff_lt_or_eq.1 hlt with hj' | rfl
    · exact h.latest j r hij ((saves_concat_of_lt hj').1 hj)
    · exact he r hj

/-! ## Operations on what is well kept -/

theorem WellKept.holds {marked : List (Nat × Pending)} (h : s.WellKept start es marked) :
    s.Holds (s.runFrom start es).session (marked.map Prod.snd) := by
  refine ⟨?_, fun p hp => ?_⟩
  · rw [h.leaves.stored, List.map_map]
    rfl
  · obtain ⟨m, hm, rfl⟩ := List.mem_map.1 hp
    exact h.timely m hm

/-- A request that is accepted is saved. -/
theorem WellKept.saves {marked : List (Nat × Pending)}
    (hclock : (s.runFrom start es).now.Universal) (h : s.WellKept start es marked)
    {r : AuthorizationRequest} (hr : s.Accepts (s.runFrom start es).now r) :
    s.Saves start (es ++ [.save r]) es.length r :=
  saves_concat_length.2 ⟨rfl, (s.save_eq_of_accepts hclock.offset_eq h.holds hr).1⟩

/-- A store with room keeps a request that it saves, behind what is left of the others. -/
theorem put_eq (hroom : s.Roomy) (now : Moment) (r : AuthorizationRequest)
    (ledger : List Pending) : ∃ older, older.Sublist (s.take now r.state ledger) ∧
      s.put now r ledger = older ++ [⟨r, now⟩] ∧
      ∀ n, s.limit = some n → older.length + 1 ≤ n := by
  show ∃ older, older.Sublist (s.take now r.state ledger) ∧
    s.keepNewest (s.take now r.state ledger ++ [⟨r, now⟩]) = older ++ [⟨r, now⟩] ∧ _
  generalize s.take now r.state ledger = rest
  unfold keepNewest
  cases hn : s.limit with
  | none => exact ⟨rest, List.Sublist.refl _, rfl, by simp⟩
  | some n =>
    have hpos := hroom n hn
    refine ⟨rest.drop (rest.length + 1 - n), List.drop_sublist _ _, drop_concat hpos rest _,
      fun m hm => ?_⟩
    obtain rfl := Option.some.inj hm
    rw [List.length_drop]
    omega

/-- The events that saved what is left of the marked requests. -/
theorem exists_marked {marked : List (Nat × Pending)} (h : ledger.Sublist (marked.map Prod.snd)) :
    ∃ kept : List (Nat × Pending), kept.Sublist marked ∧ ledger = kept.map Prod.snd :=
  List.sublist_map_iff.1 h

theorem map_entryOf_eq {kept : List (Nat × Pending)} (h : ledger = kept.map Prod.snd) :
    (kept.map fun m => s.entryOf m.2) = ledger.map s.entryOf := by
  rw [h, List.map_map]
  rfl

theorem Leaves.trans {first second third : Session} {pending pending' : Entries}
    (h : s.Leaves first second pending) (h' : s.Leaves second third pending') :
    s.Leaves first third pending' :=
  ⟨h'.pending_eq, h'.others_eq.trans h.others_eq⟩

/-- An event that writes a part of the ledger, or nothing. -/
theorem WellKept.concat_of_sublist {marked kept : List (Nat × Pending)}
    (h : s.WellKept start es marked) {e : StoreEvent} (hkept : kept.Sublist marked)
    (hsession : (s.step (s.runFrom start es) e).session = (s.runFrom start es).session ∧
        kept = marked ∨
      (s.step (s.runFrom start es) e).session =
        s.withPending (s.runFrom start es).session (kept.map fun m => s.entryOf m.2))
    (hsaves : ∀ r, ¬ s.Saves start (es ++ [e]) es.length r) :
    s.WellKept start (es ++ [e]) kept := by
  refine ⟨?_, fun n hn => Nat.le_trans hkept.length_le (h.bounded n hn), h.ordered.sublist hkept,
    fun m hm => (h.latest m (hkept.subset hm)).concat fun r hr => absurd hr (hsaves r),
    fun m hm => h.timely m (hkept.subset hm)⟩
  rw [runFrom_concat]
  rcases hsession with ⟨hsame, rfl⟩ | hwritten
  · rw [hsame]
    exact h.leaves
  · rw [hwritten]
    exact h.leaves.trans (s.leaves_withPending _ _)

/-! ## One event -/

/-- Nothing that is marked has expired. -/
def Fresh (s : SessionStore) (now : Moment) (marked : List (Nat × Pending)) : Prop :=
  ∀ m ∈ marked, s.isOver now m.2 = false

/-- The last event of a run is the latest save of its state, if it saves. -/
theorem Saves.latestSave {e : StoreEvent} {r : AuthorizationRequest}
    (h : s.Saves start (es ++ [e]) es.length r) :
    s.LatestSave start (es ++ [e]) es.length ⟨r, (s.runFrom start es).now⟩ := by
  refine ⟨h, by rw [stateAt_length], fun j r' hj hr' => ?_⟩
  have hlt := hr'.lt
  rw [List.length_append, List.length_singleton] at hlt
  omega

/-- A request that is accepted is marked behind what is left of the others, of which none has
expired or has its state. -/
theorem WellKept.save_of_accepts {marked : List (Nat × Pending)} (hroom : s.Roomy)
    (hclock : (s.runFrom start es).now.Universal) (h : s.WellKept start es marked)
    {r : AuthorizationRequest} (hr : s.Accepts (s.runFrom start es).now r) :
    ∃ kept, s.WellKept start (es ++ [.save r])
        (kept ++ [(es.length, ⟨r, (s.runFrom start es).now⟩)]) ∧
      s.Fresh (s.runFrom start es).now kept := by
  set now := (s.runFrom start es).now with hnow
  obtain ⟨-, hsession⟩ := s.save_eq_of_accepts hclock.offset_eq h.holds hr
  obtain ⟨older, holder, hput, hbound⟩ := put_eq hroom now r (marked.map Prod.snd)
  have hledger := holder.trans (s.take_sublist now r.state _)
  obtain ⟨kept, hkept, rfl⟩ := exists_marked hledger
  have htaken : ∀ m ∈ kept, m.2.isUnder r.state = false ∧ s.isOver now m.2 = false := by
    intro m hm
    obtain ⟨hpurged, hunder⟩ := mem_leave.1 (holder.subset (List.mem_map_of_mem hm))
    exact ⟨hunder, (s.mem_purge.1 hpurged).2⟩
  refine ⟨kept, ⟨?_, fun n hn => ?_, ?_, fun m hm => ?_, fun m hm => ?_⟩,
    fun m hm => (htaken m hm).2⟩
  · have hwritten : (s.runFrom start (es ++ [.save r])).session =
        s.withPending (s.runFrom start es).session
          ((kept ++ [(es.length, (⟨r, now⟩ : Pending))]).map fun m => s.entryOf m.2) := by
      rw [runFrom_concat]
      show (s.save now r (s.runFrom start es).session).session = _
      rw [hsession, hput, List.map_append, List.map_append, List.map_map]
      unfold withPending
      rw [if_neg (by simp)]
      rfl
    rw [hwritten]
    exact h.leaves.trans (s.leaves_withPending _ _)
  · have hlength := hbound n hn
    rwa [List.length_append, List.length_singleton, ← List.length_map (f := Prod.snd)]
  · refine List.pairwise_append.2 ⟨h.ordered.sublist hkept, List.pairwise_singleton _ _, ?_⟩
    intro m hm m' hm'
    rw [List.mem_singleton.1 hm']
    exact (h.latest m (hkept.subset hm)).saves.lt
  · rcases List.mem_append.1 hm with hm | hm
    · refine (h.latest m (hkept.subset hm)).concat fun r' hr' => ?_
      obtain rfl : r = r' := StoreEvent.save.inj (saves_concat_length.1 hr').1
      exact (htaken m hm).1
    · rw [List.mem_singleton.1 hm]
      exact (h.saves hclock hr).latestSave
  · rcases List.mem_append.1 hm with hm | hm
    · exact h.timely m (hkept.subset hm)
    · rw [List.mem_singleton.1 hm]
      exact (s.entry_of_accepts hclock.offset_eq hr).2

/-- Saving leaves the latest save of each state, and its own is the last. -/
theorem WellKept.save {marked : List (Nat × Pending)} (hroom : s.Roomy)
    (hclock : (s.runFrom start es).now.Universal) (h : s.WellKept start es marked)
    (r : AuthorizationRequest) :
    ∃ kept, s.WellKept start (es ++ [.save r]) kept ∧
      ((s.save (s.runFrom start es).now r (s.runFrom start es).session).result = .ok () →
        (es.length, ⟨r, (s.runFrom start es).now⟩) ∈ kept ∧
        ((∀ d, s.ttl = some d → 0 ≤ d.micros) → s.Fresh (s.runFrom start es).now kept)) := by
  by_cases hr : s.Accepts (s.runFrom start es).now r
  · obtain ⟨kept, hkept, hfresh⟩ := h.save_of_accepts hroom hclock hr
    refine ⟨_, hkept, fun _ => ⟨by simp, fun httl m hm => ?_⟩⟩
    rcases List.mem_append.1 hm with hm | hm
    · exact hfresh m hm
    · rw [List.mem_singleton.1 hm]
      refine s.isOver_eq_false_iff.2 fun d hd hne => ?_
      have hpos := httl d hd
      simp only
      omega
  · obtain ⟨⟨e, he⟩, hsame⟩ := s.save_of_not_accepts hr (s.runFrom start es).session
    refine ⟨marked, h.concat_of_sublist (List.Sublist.refl _) (Or.inl ⟨hsame, rfl⟩) fun r' hr' => ?_,
      fun hok => ?_⟩
    · obtain ⟨heq, hok⟩ := saves_concat_length.1 hr'
      obtain rfl : r = r' := StoreEvent.save.inj heq
      rw [he] at hok
      cases hok
    · rw [he] at hok
      cases hok

/-- A state that is no key is refused, unless nothing is left that could be searched for it. -/
theorem retrieve_of_not_hashable (hnow : now.offset = some 0) (h : s.Holds session ledger)
    {state : Value} (hstate : state.truthy = true) (hkey : state.hashable = false) :
    (s.retrieve now state session).session = session ∨
      (s.retrieve now state session).session = s.withPending session [] := by
  obtain ⟨n, hload⟩ := s.load_of_holds hnow h
  unfold retrieve
  rw [hstate, hload]
  cases (s.purge now ledger).map s.entryOf with
  | nil => exact Or.inr rfl
  | cons e pending =>
    refine Or.inl ?_
    simp [without, Value.asKey, hkey, Except.map, ofValue]

/-- Retrieving leaves a part of what was pending. -/
theorem WellKept.retrieve {marked : List (Nat × Pending)}
    (hclock : (s.runFrom start es).now.Universal) (h : s.WellKept start es marked) (state : Value) :
    ∃ kept, s.WellKept start (es ++ [.retrieve state]) kept ∧
      (state.truthy = true → state.hashable = true → s.Fresh (s.runFrom start es).now kept) := by
  have hsaves : ∀ r, ¬ s.Saves start (es ++ [.retrieve state]) es.length r :=
    fun r hr => nomatch (saves_concat_length.1 hr).1
  cases hstate : state.truthy with
  | false =>
    refine ⟨marked, h.concat_of_sublist (List.Sublist.refl _) (Or.inl ⟨?_, rfl⟩) hsaves, nofun⟩
    show (s.retrieve _ state _).session = _
    unfold SessionStore.retrieve
    rw [hstate]
    rfl
  | true =>
    cases hkey : state.hashable with
    | false =>
      rcases retrieve_of_not_hashable hclock.offset_eq h.holds hstate hkey with hsame | hnone
      · exact ⟨marked, h.concat_of_sublist (List.Sublist.refl _) (Or.inl ⟨hsame, rfl⟩) hsaves, nofun⟩
      · exact ⟨[], h.concat_of_sublist (List.nil_sublist _) (Or.inr hnone) hsaves, nofun⟩
    | true =>
      obtain ⟨-, hsession⟩ := s.retrieve_eq_of_holds hclock.offset_eq h.holds hstate hkey
      obtain ⟨kept, hkept, htake⟩ :=
        exists_marked (s.take_sublist (s.runFrom start es).now state (marked.map Prod.snd))
      refine ⟨kept, h.concat_of_sublist hkept (Or.inr ?_) hsaves, fun _ _ m hm => ?_⟩
      · rw [map_entryOf_eq htake]
        exact hsession
      · have hmem : m.2 ∈ s.take (s.runFrom start es).now state (marked.map Prod.snd) := by
          rw [htake]
          exact List.mem_map_of_mem hm
        exact (s.mem_purge.1 (mem_leave.1 hmem).1).2

/-- Whatever happens next, the pending requests stay well kept. -/
theorem wellKept_concat {marked : List (Nat × Pending)} (hroom : s.Roomy)
    (hclock : (s.runFrom start es).now.Universal) (h : s.WellKept start es marked) (e : StoreEvent) :
    ∃ kept, s.WellKept start (es ++ [e]) kept ∧
      (∀ r, s.Saves start (es ++ [e]) es.length r →
        (es.length, ⟨r, (s.runFrom start es).now⟩) ∈ kept ∧
        ((∀ d, s.ttl = some d → 0 ≤ d.micros) → s.Fresh (s.runFrom start es).now kept)) ∧
      ∀ state, e = .retrieve state → state.truthy = true → state.hashable = true →
        s.Fresh (s.runFrom start es).now kept := by
  cases e with
  | save r =>
    obtain ⟨kept, hkept, hsaved⟩ := h.save hroom hclock r
    refine ⟨kept, hkept, fun r' hr' => ?_, nofun⟩
    obtain ⟨heq, hok⟩ := saves_concat_length.1 hr'
    obtain rfl : r = r' := StoreEvent.save.inj heq
    exact hsaved hok
  | retrieve state =>
    obtain ⟨kept, hkept, hfresh⟩ := h.retrieve hclock state
    refine ⟨kept, hkept, fun r hr => ?_, fun state' heq => ?_⟩
    · cases (saves_concat_length.1 hr).1
    · obtain rfl : state = state' := StoreEvent.retrieve.inj heq
      exact hfresh
  | wait d =>
    have hsaves : ∀ r, ¬ s.Saves start (es ++ [.wait d]) es.length r :=
      fun r hr => nomatch (saves_concat_length.1 hr).1
    exact ⟨marked, h.concat_of_sublist (List.Sublist.refl _) (Or.inl ⟨rfl, rfl⟩) hsaves,
      fun r hr => absurd hr (hsaves r), nofun⟩

/-! ## Runs -/

theorem wellKept_nil (hfresh : Entries.text? start.session s.key = none) :
    s.WellKept start [] [] :=
  ⟨⟨hfresh, rfl⟩, by simp, List.Pairwise.nil, by simp, by simp⟩

/-- After every run the pending requests are well kept. -/
theorem exists_wellKept (hroom : s.Roomy) (hclock : start.now.Universal)
    (hfresh : Entries.text? start.session s.key = none) (es : List StoreEvent) :
    ∃ marked, s.WellKept start es marked := by
  induction es using List.reverseRecOn with
  | nil => exact ⟨[], wellKept_nil hfresh⟩
  | append_singleton es e ih =>
    obtain ⟨marked, h⟩ := ih
    obtain ⟨kept, hkept, -⟩ := wellKept_concat hroom (s.runFrom_universal hclock es) h e
    exact ⟨kept, hkept⟩

/-! ## Attempts -/

/-- An attempt that retrieves its request from a session which holds a ledger does not fail because
the states differ. -/
theorem Holds.not_stateValidated {ε : Type} {services : Services (Host ε)}
    (hservices : services.retrieveRequest = Host.retrieve s.toRequestStore) {host host' : Host ε}
    (hnow : host.now.offset = some 0) (h : s.Holds host.session ledger) {c : Callback}
    {result : AttemptResult} (hrun : (Attempt.run services c).runOn host = (.ok result, host')) :
    result.failedIn ≠ some .stateValidated := by
  obtain ⟨calls, result', host'', hf⟩ := Attempt.exists_follows services host c
  rw [hf.runOn] at hrun
  obtain ⟨rfl, rfl⟩ := Prod.mk.inj hrun
  cases hf with
  | refused | notFound => simp [Attempt.failed]
  | @found state request _ _ _ _ hc hr hp =>
    obtain ⟨found, hfound, hunder⟩ := s.exists_retrieved hnow h hc.state.2
    rw [hservices] at hr
    have hresult : (s.retrieve host.now (.text state) host.session).result = .ok (some request) :=
      congrArg Prod.fst hr
    rw [hresult] at hfound
    obtain rfl := Except.ok.inj hfound
    have hstate : (Attempt.responseOf c).state = some state := hc.state.1
    cases hp with
    | stateDiffers hs hne =>
      obtain rfl := Value.text.inj (hs.symm.trans (hunder request rfl))
      exact absurd hstate hne
    | unknown => simp [Attempt.failed]
    | known _ _ _ hx =>
      cases hx with
      | failed => simp [Attempt.failed]
      | returned _ hfinishes =>
        cases hfinishes with
        | unrecorded | recorded => simp [Attempt.succeeded]

/-- The invariant of the session store. After any run that begins without the session key, the
session holds the latest saves of some states, in order and no more than allowed, and has changed in
nothing else (`WellKept`). Right after a save, unless the time to live is negative, and right after
a retrieval of a state, no entry has expired, and the request that was saved is there. An attempt
with this store, whatever the other services do, never fails because the states differ. -/
theorem session_after_run (hroom : s.Roomy) (hclock : start.now.Universal)
    (hfresh : Entries.text? start.session s.key = none) (es : List StoreEvent) :
    ∃ marked, s.WellKept start es marked ∧
      (∀ past e, es = past ++ [e] →
        (∀ r, s.Saves start es past.length r →
          (past.length, ⟨r, (s.runFrom start es).now⟩) ∈ marked ∧
          ((∀ d, s.ttl = some d → 0 ≤ d.micros) → ∀ m ∈ marked,
            isExpired (s.runFrom start es).now (s.entryOf m.2).2 = .ok false)) ∧
        ∀ state, e = .retrieve state → state.truthy = true → state.hashable = true →
          ∀ m ∈ marked, isExpired (s.runFrom start es).now (s.entryOf m.2).2 = .ok false) ∧
      ∀ (ε : Type) (services : Services (Host ε)) (host host' : Host ε) (c : Callback)
        (result : AttemptResult), services.retrieveRequest = Host.retrieve s.toRequestStore →
        host.session = (s.runFrom start es).session → host.now.Universal →
        (Attempt.run services c).runOn host = (.ok result, host') →
        result.failedIn ≠ some .stateValidated := by
  have hattempts : ∀ marked, s.WellKept start es marked →
      ∀ (ε : Type) (services : Services (Host ε)) (host host' : Host ε) (c : Callback)
        (result : AttemptResult), services.retrieveRequest = Host.retrieve s.toRequestStore →
        host.session = (s.runFrom start es).session → host.now.Universal →
        (Attempt.run services c).runOn host = (.ok result, host') →
        result.failedIn ≠ some .stateValidated := by
    intro marked h ε services host host' c result hservices hsession hnow hrun
    have hholds := h.holds
    rw [← hsession] at hholds
    exact hholds.not_stateValidated hservices hnow.offset_eq hrun
  rcases List.eq_nil_or_concat es with rfl | ⟨past, e, rfl⟩
  · refine ⟨[], wellKept_nil hfresh, fun past e heq => ?_, hattempts [] (wellKept_nil hfresh)⟩
    simp at heq
  · rw [List.concat_eq_append] at hattempts ⊢
    obtain ⟨marked, hmarked⟩ := exists_wellKept hroom hclock hfresh past
    have hhere := s.runFrom_universal hclock past
    obtain ⟨kept, hkept, hsaved, hretrieved⟩ := wellKept_concat hroom hhere hmarked e
    have hexpired : s.Fresh (s.runFrom start past).now kept → ∀ m ∈ kept,
        isExpired (s.runFrom start past).now (s.entryOf m.2).2 = .ok false := by
      intro hover m hm
      rw [s.isExpired_entryOf hhere.offset_eq (hkept.timely m hm), hover m hm]
    refine ⟨kept, hkept, fun past' e' heq => ?_, hattempts kept hkept⟩
    obtain ⟨rfl, he⟩ := List.append_inj' heq rfl
    obtain rfl := (List.cons.inj he).1
    -- the clock does not move while the store is at work
    have hstill : (∀ d, e ≠ .wait d) →
        (s.runFrom start (past ++ [e])).now = (s.runFrom start past).now := by
      intro hne
      rw [runFrom_concat]
      cases e with
      | save | retrieve => rfl
      | wait d => exact absurd rfl (hne d)
    refine ⟨fun r hr => ?_, fun state heq htruthy hkey => ?_⟩
    · obtain ⟨rfl, -⟩ := saves_concat_length.1 hr
      obtain ⟨hmem, hover⟩ := hsaved r hr
      rw [hstill nofun]
      exact ⟨hmem, fun httl => hexpired (hover httl)⟩
    · subst heq
      rw [hstill nofun]
      exact hexpired (hretrieved state rfl htruthy hkey)

/-- A store for two requests is given three, and one of them twice: the last is there, and nothing
has expired. -/
theorem session_after_run_of_three :
    let s : SessionStore := { ttl := some ⟨60000000⟩, limit := some 2, key := "pending" }
    let start : StoreState := ⟨⟨63839664000000000, some 0⟩, [(.text "user", .int 1)]⟩
    let es : List StoreEvent := [.save (.ofState "a"), .wait ⟨30000000⟩, .save (.ofState "b"),
      .save (.ofState "a"), .save (.ofState "c")]
    ∃ marked, s.WellKept start es marked ∧
      (4, ⟨.ofState "c", ⟨63839664030000000, some 0⟩⟩) ∈ marked ∧
      ∀ m ∈ marked, isExpired ⟨63839664030000000, some 0⟩ (s.entryOf m.2).2 = .ok false := by
  intro s start es
  have hroom : s.Roomy := by
    rintro n hn
    obtain rfl := Option.some.inj hn
    decide
  have hclock : start.now.Universal := ⟨rfl, by decide, by decide⟩
  obtain ⟨marked, hkept, hlast, -⟩ := session_after_run hroom hclock rfl es
  have haccepts : s.Accepts ⟨63839664030000000, some 0⟩ (.ofState "c") :=
    ⟨rfl, rfl, .text (Moment.mk 63839664090000000 (some 0)).toText, rfl⟩
  obtain ⟨earlier, hearlier⟩ := exists_wellKept hroom hclock rfl (es.take 4)
  have hsaves : s.Saves start es 4 (.ofState "c") :=
    hearlier.saves (s.runFrom_universal hclock _) haccepts
  obtain ⟨hmem, hfresh⟩ := (hlast (es.take 4) _ rfl).1 _ hsaves
  refine ⟨marked, hkept, hmem, hfresh fun d hd => ?_⟩
  obtain rfl := Option.some.inj hd
  decide

end SessionStore

end LoginCallback
