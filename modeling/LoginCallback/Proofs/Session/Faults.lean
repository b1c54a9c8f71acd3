import LoginCallback.Proofs.Session.Ledger

/-!
# Faults of the session store

A session may hold anything under the key of the pending requests, so that every operation of the
store can fault. Reading them gives what has not expired, if each entry says whether it has
(`live_eq_ok_iff`), and that does not depend on the time (`Legible.of_legible`). Main statement:
`session_after_fault`, an operation that faults leaves the session alone, except that a retrieval
also takes out what has expired and the entry whose request cannot be decoded, so that it faults
only once.
-/

namespace LoginCallback

open Time

namespace SessionStore

variable (s : SessionStore) {now now' : Moment} {session session' : Session} {es kept : Entries}

/-- The session has become another one: these are its pending requests now, and without any the key
is absent. What it has under other keys is as it was. -/
structure Leaves (session session' : Session) (pending : Entries) : Prop where
  pending_eq : Entries.text? session' s.key = if pending = [] then none else some (.mapping pending)
  others_eq : Entries.erase session' (.text s.key) = Entries.erase session (.text s.key)

theorem leaves_withPending (session : Session) (pending : Entries) :
    s.Leaves session (s.withPending session pending) pending := by
  unfold withPending
  cases pending with
  | nil => exact ⟨Entries.text?_erase_self _ _, Entries.erase_erase_self _ _⟩
  | cons e pending => exact ⟨Entries.text?_insert_self _ _ _, Entries.erase_insert_self _ _ _⟩

theorem Leaves.stored {s : SessionStore} (h : s.Leaves session session' es) :
    s.stored session' = .ok es := by
  unfold SessionStore.stored
  rw [h.pending_eq]
  cases es <;> rfl

/-! ## Reading what is pending -/

/-- The entry says whether it has expired. -/
def Legible (now : Moment) (entry : Value) : Prop := ∃ gone, isExpired now entry = .ok gone

/-- Whether an entry has not expired. -/
def lasts (now : Moment) (e : Value × Value) : Bool :=
  match isExpired now e.2 with
  | .ok gone => !gone
  | .error _ => false

theorem lasts_iff {e : Value × Value} : lasts now e = true ↔ isExpired now e.2 = .ok false := by
  unfold lasts
  cases isExpired now e.2 with
  | error e => simp
  | ok gone => cases gone <;> simp

/-- Pending entries are read if each of them is legible, and then those that last are left. -/
theorem live_eq_ok_iff : (live now es).2 = .ok kept ↔
    (∀ e ∈ es, Legible now e.2) ∧ kept = es.filter (lasts now) := by
  induction es generalizing kept with
  | nil => simp [live, eq_comm]
  | cons e es ih =>
    obtain ⟨state, entry⟩ := e
    rw [List.forall_mem_cons, List.filter_cons]
    cases he : isExpired now entry with
    | error fault => simp [live, he, Legible]
    | ok gone =>
      have hlegible : Legible now entry := ⟨gone, he⟩
      cases gone with
      | true => simp [live, lasts, he, hlegible, ih]
      | false =>
        simp only [live, lasts, he, hlegible, true_and, Bool.not_false, if_true]
        cases hlive : (live now es).2 with
        | error fault =>
          have hes : ¬ ∀ e ∈ es, Legible now e.2 := fun h => by
            rw [ih.2 ⟨h, rfl⟩] at hlive
            cases hlive
          exact iff_of_false (fun h => by cases h) fun h => hes h.1
        | ok kept' =>
          obtain ⟨hes, rfl⟩ := ih.1 hlive
          rw [Except.map, Except.ok.injEq]
          exact ⟨fun h => ⟨hes, h.symm⟩, fun h => h.2.symm⟩

/-- Whether an entry is legible does not depend on what a clock with universal time shows. -/
theorem Legible.of_legible {entry : Value} (hnow : now.offset = some 0)
    (hnow' : now'.offset = some 0) (h : Legible now entry) : Legible now' entry := by
  obtain ⟨gone, h⟩ := h
  unfold isExpired at h
  obtain ⟨expiry, hexpiry, h⟩ := bind_eq_ok.1 h
  unfold Legible isExpired
  rw [hexpiry]
  change ∃ gone, (if !expiry.truthy then pure false else _ : Except Fault Bool) = .ok gone
  split at h
  · exact ⟨false, by rw [if_pos ‹_›]; rfl⟩
  · rw [if_neg ‹_›]
    cases expiry with
    | text t =>
      obtain ⟨m, hm, h⟩ := bind_eq_ok.1 h
      dsimp only
      rw [hm]
      change ∃ gone, (m.notAfter now').mapError Fault.time = .ok gone
      unfold Moment.notAfter at h ⊢
      rw [hnow] at h
      rw [hnow']
      cases hoffset : m.offset with
      | none =>
        rw [hoffset] at h
        cases h
      | some o => exact ⟨_, rfl⟩
    | null | bool | int | float | list | mapping | foreign => cases h

theorem load_eq_ok_iff : (s.load now session).2 = .ok kept ↔
    ∃ es, s.stored session = .ok es ∧ (∀ e ∈ es, Legible now e.2) ∧ kept = es.filter (lasts now) := by
  unfold load
  cases s.stored session with
  | error e => simp
  | ok es => simp [live_eq_ok_iff]

/-! ## Retrieving -/

/-- The request that an entry keeps. -/
def requestOf (entry : Value) : Except Fault AuthorizationRequest := do
  AuthorizationRequest.read (← ofValue (entry.item "request"))

theorem requestOf_map_some (entry : Value) :
    (do return some (← AuthorizationRequest.read (← ofValue (entry.item "request")))) =
      (requestOf entry).map some := by
  unfold requestOf
  cases ofValue (entry.item "request") with
  | error e => rfl
  | ok v =>
    change (AuthorizationRequest.read v >>= fun r => pure (some r)) =
      (AuthorizationRequest.read v).map some
    cases AuthorizationRequest.read v <;> rfl

/-- What a retrieval answers of the entries that are pending. -/
def answerOf (pending : Entries) (state : String) : Except Fault (Option AuthorizationRequest) :=
  match Entries.text? pending state with
  | none => .ok none
  | some entry => (requestOf entry).map some

/-- The only fault of an answer is that of an entry that cannot be decoded. -/
theorem answerOf_eq_error {state : String} {e : Fault} (h : answerOf es state = .error e) :
    ∃ entry, Entries.text? es state = some entry ∧ requestOf entry = .error e := by
  unfold answerOf at h
  cases hfound : Entries.text? es state with
  | none =>
    rw [hfound] at h
    cases h
  | some entry =>
    rw [hfound] at h
    refine ⟨entry, rfl, ?_⟩
    dsimp only at h
    cases hrequest : requestOf entry with
    | error fault =>
      rw [hrequest] at h
      exact congrArg _ (Except.error.inj h)
    | ok request =>
      rw [hrequest] at h
      cases h

/-- A retrieval that cannot read the pending entries changes nothing. -/
theorem retrieve_of_load_error {state : String} (hstate : state ≠ "") {e : Fault}
    (h : (s.load now session).2 = .error e) :
    (s.retrieve now (.text state) session).result = .error e ∧
      (s.retrieve now (.text state) session).session = session := by
  unfold retrieve
  rw [Value.truthy_text hstate]
  rcases hload : s.load now session with ⟨n, loaded⟩
  rw [hload] at h
  obtain rfl : loaded = .error e := h
  exact ⟨rfl, rfl⟩

/-- A retrieval that reads the pending entries takes the one of the state out before it decodes
it. -/
theorem retrieve_of_load {state : String} (hstate : state ≠ "")
    (h : (s.load now session).2 = .ok kept) :
    (s.retrieve now (.text state) session).result = answerOf kept state ∧
      (s.retrieve now (.text state) session).session =
        s.withPending session (kept.erase (.text state)) := by
  have hwithout : without kept (.text state) = .ok (kept.erase (.text state)) := by
    cases kept <;> rfl
  obtain ⟨hresult, hsession⟩ := s.retrieve_of_without (Value.truthy_text hstate) h hwithout
  refine ⟨?_, hsession⟩
  rw [hresult]
  unfold answerOf Entries.text?
  cases kept.get? (.text state) with
  | none => rfl
  | some entry => exact requestOf_map_some entry

theorem text?_erase_filter (es : Entries) (keep : Value × Value → Bool) (state : String) :
    Entries.text? ((es.erase (.text state)).filter keep) state = none := by
  unfold Entries.text? Entries.get? Entries.erase
  rw [Option.map_eq_none_iff, List.find?_eq_none]
  intro e he hsame
  have hleft := (List.mem_filter.1 (List.mem_filter.1 he).1).2
  rw [hsame] at hleft
  cases hleft

/-- What was taken out is not found again, at whatever time. -/
theorem retrieve_again {state : String} (hnow : now.offset = some 0) (hnow' : now'.offset = some 0)
    (hstate : state ≠ "") (h : (s.load now session).2 = .ok kept)
    (hleft : s.Leaves session session' (kept.erase (.text state))) :
    (s.retrieve now' (.text state) session').result = .ok none := by
  obtain ⟨es, -, hlegible, rfl⟩ := s.load_eq_ok_iff.1 h
  have hrest : ∀ e ∈ Entries.erase (es.filter (lasts now)) (.text state), Legible now' e.2 := by
    intro e he
    exact (hlegible e (List.mem_filter.1 (List.mem_filter.1 he).1).1).of_legible hnow hnow'
  have hload := s.load_eq_ok_iff.2 ⟨_, hleft.stored, hrest, rfl⟩
  rw [(s.retrieve_of_load hstate hload).1]
  unfold answerOf
  rw [text?_erase_filter]

/-! ## Faults -/

/-- The entry of a state is pending: the request that it keeps cannot be decoded. -/
structure Undecodable (now : Moment) (session : Session) (state : String) (e : Fault)
    (es : Entries) (entry : Value) : Prop where
  stored : s.stored session = .ok es
  legible : ∀ x ∈ es, Legible now x.2
  present : (.text state, entry) ∈ es
  lasting : isExpired now entry = .ok false
  fault : requestOf entry = .error e

/-- An operation that faults does not spoil the session. Saving leaves it as it was, and so does a
retrieval that cannot read the pending entries. The only other fault of a retrieval is that the
unexpired entry of the state holds no request that can be decoded: this entry and what has expired
are taken out, nothing else is changed, and retrieving under the state once more finds nothing. -/
theorem session_after_fault (session : Session) (hnow : now.offset = some 0) :
    (∀ r e, (s.save now r session).result = .error e →
      (s.save now r session).session = session) ∧
    ∀ state e, (s.retrieve now (.text state) session).result = .error e →
      ((s.load now session).2 = .error e ∧
        (s.retrieve now (.text state) session).session = session) ∨
      ∃ es entry, s.Undecodable now session state e es entry ∧
        s.Leaves session (s.retrieve now (.text state) session).session
          (es.filter fun x => lasts now x && !Value.sameScalar x.1 (.text state)) ∧
        ∀ now' : Moment, now'.offset = some 0 →
          (s.retrieve now' (.text state)
            (s.retrieve now (.text state) session).session).result = .ok none := by
  refine ⟨fun r e => s.session_of_save_error, fun state e h => ?_⟩
  have hstate : state ≠ "" := by
    rintro rfl
    cases h
  cases hload : (s.load now session).2 with
  | error fault =>
    obtain ⟨hresult, hsession⟩ := s.retrieve_of_load_error hstate hload
    rw [hresult] at h
    exact Or.inl ⟨congrArg _ (Except.error.inj h), hsession⟩
  | ok kept =>
    obtain ⟨hresult, hsession⟩ := s.retrieve_of_load hstate hload
    obtain ⟨es, hstored, hlegible, rfl⟩ := s.load_eq_ok_iff.1 hload
    have hleft := s.leaves_withPending session (Entries.erase (es.filter (lasts now)) (.text state))
    rw [hresult] at h
    rw [hsession]
    obtain ⟨entry, hfound, hfault⟩ := answerOf_eq_error h
    obtain ⟨hmem, hlasts⟩ := List.mem_filter.1 (Entries.mem_of_text? hfound)
    refine Or.inr ⟨es, entry, ⟨hstored, hlegible, hmem, lasts_iff.1 hlasts, hfault⟩, ?_,
      fun now' hnow' => s.retrieve_again hnow hnow' hstate hload hleft⟩
    have hrest : Entries.erase (es.filter (lasts now)) (.text state) =
        es.filter fun x => lasts now x && !Value.sameScalar x.1 (.text state) := by
      unfold Entries.erase
      rw [List.filter_filter]
      simp only [Bool.and_comm]
    rwa [← hrest]

/-- An entry without a request, beside one that has expired: the first retrieval faults and leaves
nothing, the second finds nothing. -/
theorem session_after_fault_twice :
    let s : SessionStore := { ttl := none, limit := some 8, key := "pending" }
    let now : Moment := ⟨63839664000000000, some 0⟩
    let session : Session := [(.text "user", .int 1), (.text "pending", .mapping [
      (.text "a", .record [("request", .null)]),
      (.text "b", .record [("expires_at", .text "2023-12-31T23:59:59+00:00")])])]
    let first := s.retrieve now (.text "a") session
    first.result = .error (.value (.notSubscriptable "NoneType")) ∧
      Entries.text? first.session "pending" = none ∧
      (s.retrieve now (.text "a") first.session).result = .ok none := by
  intro s now session first
  have hfault : first.result = .error (.value (.notSubscriptable "NoneType")) := by rfl
  refine ⟨hfault, ?_⟩
  have hnow : now.offset = some 0 := rfl
  rcases (s.session_after_fault session hnow).2 "a" _ hfault with
    ⟨hload, -⟩ | ⟨es, entry, hentry, hleaves, hagain⟩
  · cases hload
  · obtain rfl : _ = es := Except.ok.inj hentry.stored
    refine ⟨hleaves.pending_eq.trans ?_, hagain now rfl⟩
    rfl

end SessionStore

end LoginCallback
