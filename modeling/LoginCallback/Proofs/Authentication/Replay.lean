import LoginCallback.Proofs.Authentication.EngineCalls
import LoginCallback.Proofs.Session.Run
import LoginCallback.Settings.Assembly
import Mathlib.Data.List.Induction
import Mathlib.Data.List.Nodup

/-!
# No login twice

A gate is a login filter whose pending requests are kept in the session, with the application behind
it. In a run of a gate requests are saved, the clock is set, forwards or backwards, and requests are
processed, in any order (`GateEvent`). Main statement: `engine_calls_redeem`, every call of the
engine uses up a request that was saved earlier in the run, and no two calls the same one.

The invariant is `Accounts`: the session holds a ledger whose entries were saved by distinct events
of the run (`Marks`), and no event that a call of the engine has used up is among them.
-/

namespace LoginCallback

/-- The clock keeps universal time and the session keeps what it has under a key. -/
def Host.Spared {ε : Type} (key : String) (h h' : Host ε) : Prop :=
  (h.now.Universal → h'.now.Universal) ∧
    Entries.text? h'.session key = Entries.text? h.session key

/-- A login filter on a session and the application behind it. The handlers and the application do
not meddle with the pending requests. -/
structure Gate (ε ρ : Type) where
  repository : Repository
  store : SessionStore
  matcher : Matcher
  engine : Engine ε
  ownsEngine : Bool
  recordsClients : Bool
  onSuccess : Callback → SecurityContext → Principal → Action (Host ε) ρ
  onFailure : Callback → SecurityContext → Failure → Action (Host ε) ρ
  next : Callback → SecurityContext → Action (Host ε) ρ
  ids_given : ∀ r ∈ repository.registrations, r.id.truthy = true
  success_spares : ∀ c seen p h, Host.Spared store.key h ((onSuccess c seen p).runOn h).2
  failure_spares : ∀ c seen f h, Host.Spared store.key h ((onFailure c seen f).runOn h).2
  next_spares : ∀ c seen h, Host.Spared store.key h ((next c seen).runOn h).2

/-- What can happen to a session behind a gate. -/
inductive GateEvent where
  | save (request : AuthorizationRequest)
  | clock (now : Time.Moment) (universal : now.Universal)
  | handle (c : Callback) (context : SecurityContext)

namespace Gate

variable {ε ρ : Type} (g : Gate ε ρ)

def parts : LoginParts := ⟨g.repository, g.store.toRequestStore, g.matcher⟩

def filter : LoginFilter (Host ε) ρ :=
  g.parts.filter g.engine g.ownsEngine g.recordsClients g.onSuccess g.onFailure

def services : Services (Host ε) :=
  Host.services g.repository g.store.toRequestStore g.engine g.recordsClients

def step (h : Host ε) : GateEvent → Host ε
  | .save r => ((Host.save g.store.toRequestStore r).runOn h).2
  | .clock now _ => { h with now }
  | .handle c context => (g.filter.handle c context g.next h).2

def runFrom (start : Host ε) (es : List GateEvent) : Host ε := es.foldl g.step start

/-- The host before an event of a run. -/
def hostAt (start : Host ε) (es : List GateEvent) (i : Nat) : Host ε := g.runFrom start (es.take i)

/-- The tokens that the engine gets in an event of a run. -/
def callsAt (start : Host ε) (es : List GateEvent) (i : Nat) : List LoginToken :=
  match es[i]? with
  | some (.handle c context) =>
    g.filter.engineCalls g.services c context g.next (g.hostAt start es i)
  | _ => []

/-- The call of the engine in the event `i` uses up the request saved in the event `k`: it was saved
before and has not expired, it has the state of the callback and it comes with its own
registration. -/
structure Redeems (start : Host ε) (es : List GateEvent) (i k : Nat) : Prop where
  earlier : k < i
  timely : ∀ d, g.store.ttl = some d → d.micros ≠ 0 →
    (g.hostAt start es i).now.ticks < (g.hostAt start es k).now.ticks + d.micros
  matched : ∃ c context r t text id, es[i]? = some (.handle c context) ∧ es[k]? = some (.save r) ∧
    g.callsAt start es i = [t] ∧ t.request = r ∧
    r.state = .text text ∧ c.query.lookup "state" = some text ∧
    r.registrationId? = some id ∧ g.repository.find? (.text id) = some t.registration

/-! ## One request -/

theorem services_keep : g.services.Keep fun h => (h.now, h.session) :=
  Host.services_keep g.repository g.store.toRequestStore g.engine g.recordsClients

/-- The state of a callback that is not refused is given. -/
theorem state_of_accepted {c : Callback} (h : Attempt.refusal? (Attempt.responseOf c) = none) :
    ∃ text, text ≠ "" ∧ c.query.lookup "state" = some text := by
  unfold Attempt.refusal? at h
  split at h
  · cases h
  · split at h
    · cases h
    · split at h
      · cases h
      · rename_i hgiven
        change ¬ (!AuthorizationResponse.given (c.query.lookup "state")) = true at hgiven
        cases hs : c.query.lookup "state" with
        | none => simp [hs, AuthorizationResponse.given] at hgiven
        | some text =>
          refine ⟨text, ?_, rfl⟩
          rintro rfl
          simp [hs, AuthorizationResponse.given] at hgiven

variable {g} {h : Host ε} {ledger : List Pending} {c : Callback}

/-- A registration that is found under an identifier has it, and it is not empty. -/
theorem find?_eq_some {id : String} {r : Registration}
    (h : g.repository.find? (.text id) = some r) : id ≠ "" := by
  have hid := List.find?_some h
  have hgiven := g.ids_given r (List.mem_of_find?_eq_some h)
  rw [Value.sameScalar_text_right] at hid
  rintro rfl
  rw [hid] at hgiven
  cases hgiven

theorem spared_dispatch (r : AttemptResult) :
    Host.Spared g.store.key h (g.filter.dispatch c r h).2 := by
  cases hs : r.success? with
  | some p =>
    rw [g.filter.dispatch_of_success c h hs]
    exact g.success_spares c (some p) p h
  | none =>
    cases hf : r.failure with
    | some failure =>
      rw [g.filter.dispatch_of_failure c h hs hf]
      exact g.failure_spares c none failure (g.filter.beforeFailure h failure)
    | none =>
      rw [g.filter.dispatch_of_neither c h hs hf]
      exact ⟨id, rfl⟩

theorem spared_handle_of_attempt (context : SecurityContext)
    (hc : g.filter.requiresAuthentication c = true) :
    Host.Spared g.store.key ((Attempt.run g.services c).runOn h).2
      (g.filter.handle c context g.next h).2 := by
  rcases ha : (Attempt.run g.services c).runOn h with ⟨e | r, h'⟩
  · rw [g.filter.handle_of_error c context g.next h hc ha]
    exact ⟨id, rfl⟩
  · rw [g.filter.handle_of_ok c context g.next h hc ha]
    exact spared_dispatch r

theorem spared_handle_of_passed (context : SecurityContext)
    (hc : g.filter.requiresAuthentication c = false) :
    Host.Spared g.store.key h (g.filter.handle c context g.next h).2 := by
  rw [g.filter.handle_of_passed c context g.next h hc]
  exact g.next_spares c context h

theorem runOn_retrieveRequest (state : String) :
    (g.services.retrieveRequest state).runOn h =
      h.settle (g.store.retrieve h.now (.text state) h.session) := rfl

/-- What an attempt leaves in the session: all that was pending if the callback is refused,
otherwise what is not over and not saved under its state. -/
theorem holds_attempt (hnow : h.now.Universal) (hl : g.store.Holds h.session ledger) :
    ((Attempt.run g.services c).runOn h).2.now = h.now ∧
      ((∃ f, Attempt.refusal? (Attempt.responseOf c) = some f ∧
          g.store.Holds ((Attempt.run g.services c).runOn h).2.session ledger) ∨
        ∃ text, c.query.lookup "state" = some text ∧
          g.store.Holds ((Attempt.run g.services c).runOn h).2.session
            (g.store.take h.now (.text text) ledger)) := by
  cases hc : Attempt.refusal? (Attempt.responseOf c) with
  | some f =>
    have hpart := Attempt.part_run_of_refused h g.services_keep hc
    rw [Prod.mk.injEq] at hpart
    rw [hpart.1, hpart.2]
    exact ⟨rfl, Or.inl ⟨f, rfl, hl⟩⟩
  | none =>
    have hpart := Attempt.part_run_of_accepted h g.services_keep hc
    obtain ⟨text, htext, hquery⟩ := state_of_accepted hc
    have hstate : (Attempt.responseOf c).state = some text := hquery
    rw [Prod.mk.injEq, hstate, Option.getD_some, runOn_retrieveRequest] at hpart
    rw [hpart.1, hpart.2]
    exact ⟨rfl, Or.inr ⟨text, hquery,
      (g.store.retrieve_of_holds hnow.offset_eq hl (Value.truthy_text htext) rfl).2⟩⟩

/-- The request that an attempt hands to the engine is pending under the state of the callback. -/
theorem pending_of_reaches (hnow : h.now.Universal) (hl : g.store.Holds h.session ledger)
    {t : LoginToken} {h' : Host ε} (hr : Attempt.Reaches g.services c h t h') :
    ∃ text p, c.query.lookup "state" = some text ∧ p ∈ ledger ∧ p.request = t.request ∧
      p.isUnder (.text text) = true ∧ g.store.isOver h.now p = false := by
  obtain ⟨text, htext, hquery⟩ := state_of_accepted hr.accepted
  obtain ⟨h₁, hretrieve, -⟩ := hr.retrieved
  have hstate : (Attempt.responseOf c).state = some text := hquery
  have hfound := (g.store.retrieve_of_holds hnow.offset_eq hl (Value.truthy_text htext) rfl).1
  rw [hstate, Option.getD_some, runOn_retrieveRequest] at hretrieve
  have hresult := hfound.symm.trans (congrArg Prod.fst hretrieve)
  obtain ⟨p, hp, hpt⟩ := Option.map_eq_some_iff.1 (Except.ok.inj hresult)
  obtain ⟨hmem, hover⟩ := g.store.mem_purge.1 (List.mem_of_find?_eq_some hp)
  exact ⟨text, p, hquery, hmem, hpt, List.find?_some hp, hover⟩

/-- The registration that an attempt hands to the engine is the one that the request names. -/
theorem registration_of_reaches {t : LoginToken} {h' : Host ε}
    (hr : Attempt.Reaches g.services c h t h') :
    ∃ id, t.request.registrationId? = some id ∧
      g.repository.find? (.text id) = some t.registration := by
  obtain ⟨h₁, -, hfind⟩ := hr.retrieved
  have hfound : g.repository.find? (.text (t.request.registrationId?.getD "")) =
      some t.registration := Except.ok.inj (congrArg Prod.fst hfind)
  cases hid : t.request.registrationId? with
  | none =>
    rw [hid] at hfound
    exact absurd rfl (find?_eq_some hfound)
  | some id =>
    rw [hid] at hfound
    exact ⟨id, rfl, hfound⟩

/-- Processing a request leaves a part of the ledger. If the engine is called, it gets a request of
the ledger that is not over, and nothing is left under its state. -/
theorem holds_handle (context : SecurityContext) (c : Callback) (hnow : h.now.Universal)
    (hl : g.store.Holds h.session ledger) :
    (g.filter.handle c context g.next h).2.now.Universal ∧
      ∃ keep : Pending → Bool,
        g.store.Holds (g.filter.handle c context g.next h).2.session (ledger.filter keep) ∧
        (g.filter.engineCalls g.services c context g.next h ≠ [] →
          ∃ t h' text p, Attempt.Reaches g.services c h t h' ∧
            g.filter.engineCalls g.services c context g.next h = [t] ∧
            c.query.lookup "state" = some text ∧ p ∈ ledger ∧ p.request = t.request ∧
            p.isUnder (.text text) = true ∧ g.store.isOver h.now p = false ∧ keep p = false) := by
  cases hc : g.filter.requiresAuthentication c with
  | false =>
    obtain ⟨hclock, hkey⟩ := spared_handle_of_passed (h := h) context hc
    refine ⟨hclock hnow, fun _ => true, ?_, fun hcalls => ?_⟩
    · rw [List.filter_eq_self.2 fun _ _ => rfl]
      exact hl.congr hkey
    · exact absurd (g.filter.engineCalls_of_passed g.services c context g.next h hc) hcalls
  | true =>
    obtain ⟨hclock, hkey⟩ := spared_handle_of_attempt (h := h) context hc
    obtain ⟨hstill, hleft⟩ := holds_attempt (c := c) hnow hl
    refine ⟨hclock (by rw [hstill]; exact hnow), ?_⟩
    rcases hleft with ⟨f, hf, hleft⟩ | ⟨text, hquery, hleft⟩
    · refine ⟨fun _ => true, ?_, fun hcalls => ?_⟩
      · rw [List.filter_eq_self.2 fun _ _ => rfl]
        exact hleft.congr hkey
      · obtain ⟨t, h', hr, -⟩ :=
          g.filter.reaches_of_engineCalls g.services c context g.next h hcalls
        rw [hr.accepted] at hf
        cases hf
    · refine ⟨fun q => !g.store.isOver h.now q && !q.isUnder (.text text), ?_, fun hcalls => ?_⟩
      · have htake : g.store.take h.now (.text text) ledger =
            ledger.filter fun q => !g.store.isOver h.now q && !q.isUnder (.text text) := by
          unfold SessionStore.take SessionStore.leave SessionStore.purge
          rw [List.filter_filter]
          simp only [Bool.and_comm]
        rw [← htake]
        exact hleft.congr hkey
      · obtain ⟨t, h', hr, ht⟩ :=
          g.filter.reaches_of_engineCalls g.services c context g.next h hcalls
        obtain ⟨text', p, hquery', hmem, hpt, hunder, hover⟩ := pending_of_reaches hnow hl hr
        obtain rfl : text = text' := Option.some.inj (hquery.symm.trans hquery')
        exact ⟨t, h', text, p, hr, ht, hquery, hmem, hpt, hunder, hover, by simp [hunder]⟩

/-! ## Runs -/

variable {start : Host ε} {es : List GateEvent}

theorem runFrom_concat (e : GateEvent) :
    g.runFrom start (es ++ [e]) = g.step (g.runFrom start es) e := by
  unfold runFrom
  rw [List.foldl_append]
  rfl

theorem hostAt_length : g.hostAt start es es.length = g.runFrom start es := by
  unfold hostAt
  rw [List.take_length]

/-- What happens later does not change what was before an event. -/
theorem hostAt_concat (e : GateEvent) {i : Nat} (hi : i ≤ es.length) :
    g.hostAt start (es ++ [e]) i = g.hostAt start es i := by
  unfold hostAt
  rw [List.take_append_of_le_length hi]

theorem getElem?_concat (e : GateEvent) {i : Nat} (hi : i < es.length) :
    (es ++ [e])[i]? = es[i]? := List.getElem?_append_left hi

theorem callsAt_concat (e : GateEvent) {i : Nat} (hi : i < es.length) :
    g.callsAt start (es ++ [e]) i = g.callsAt start es i := by
  unfold callsAt
  rw [getElem?_concat e hi, hostAt_concat e (Nat.le_of_lt hi)]

theorem callsAt_length (e : GateEvent) :
    g.callsAt start (es ++ [e]) es.length = match e with
      | .handle c context =>
        g.filter.engineCalls g.services c context g.next (g.runFrom start es)
      | _ => [] := by
  unfold callsAt
  rw [hostAt_concat e (Nat.le_refl _), hostAt_length, List.getElem?_concat_length]
  cases e <;> rfl

theorem lt_of_callsAt {i : Nat} (h : g.callsAt start es i ≠ []) : i < es.length := by
  refine Nat.lt_of_not_le fun hi => h ?_
  unfold callsAt
  rw [List.getElem?_eq_none hi]

theorem Redeems.concat {i k : Nat} (h : g.Redeems start es i k) (e : GateEvent) :
    g.Redeems start (es ++ [e]) i k := by
  obtain ⟨c, context, r, t, text, id, hi, hk, ht, hrest⟩ := h.matched
  have hi' : i < es.length := (List.getElem?_eq_some_iff.1 hi).1
  have hk' : k < es.length := (List.getElem?_eq_some_iff.1 hk).1
  refine ⟨h.earlier, ?_, c, context, r, t, text, id, ?_, ?_, ?_, hrest⟩
  · rw [hostAt_concat e (Nat.le_of_lt hi'), hostAt_concat e (Nat.le_of_lt hk')]
    exact h.timely
  · rwa [getElem?_concat e hi']
  · rwa [getElem?_concat e hk']
  · rwa [callsAt_concat e hi']

/-! ### Marks -/

variable (g) in
/-- Each pending request is marked with the event that saved it. -/
structure Marks (start : Host ε) (es : List GateEvent) (marked : List (Nat × Pending)) : Prop where
  nodup : (marked.map Prod.fst).Nodup
  saved : ∀ m ∈ marked, es[m.1]? = some (.save m.2.request) ∧
    (g.hostAt start es m.1).now = m.2.savedAt

variable {marked : List (Nat × Pending)}

theorem Marks.lt (h : g.Marks start es marked) {m : Nat × Pending} (hm : m ∈ marked) :
    m.1 < es.length := (List.getElem?_eq_some_iff.1 (h.saved m hm).1).1

theorem Marks.sublist (h : g.Marks start es marked) {kept : List (Nat × Pending)}
    (hk : kept.Sublist marked) : g.Marks start es kept :=
  ⟨h.nodup.sublist (hk.map _), fun m hm => h.saved m (hk.subset hm)⟩

theorem Marks.concat (h : g.Marks start es marked) (e : GateEvent) :
    g.Marks start (es ++ [e]) marked := by
  refine ⟨h.nodup, fun m hm => ?_⟩
  rw [getElem?_concat e (h.lt hm), hostAt_concat e (Nat.le_of_lt (h.lt hm))]
  exact h.saved m hm

theorem Marks.save (h : g.Marks start es marked) (r : AuthorizationRequest) :
    g.Marks start (es ++ [.save r])
      (marked ++ [(es.length, ⟨r, (g.runFrom start es).now⟩)]) := by
  refine ⟨?_, fun m hm => ?_⟩
  · rw [List.map_append, List.nodup_append]
    refine ⟨h.nodup, by simp, ?_⟩
    rintro k hk _ hn rfl
    obtain ⟨m, hm, rfl⟩ := List.mem_map.1 hk
    exact absurd (h.lt hm) (by simp [List.mem_singleton.1 hn])
  · rcases List.mem_append.1 hm with hm | hm
    · exact (h.concat (.save r)).saved m hm
    · rw [List.mem_singleton.1 hm]
      refine ⟨List.getElem?_concat_length, ?_⟩
      rw [hostAt_concat _ (Nat.le_refl _), hostAt_length]

/-- Two entries with the same mark are the same. -/
theorem Marks.eq_of_fst (h : g.Marks start es marked) {m m' : Nat × Pending} (hm : m ∈ marked)
    (hm' : m' ∈ marked) (hfst : m.1 = m'.1) : m = m' :=
  List.inj_on_of_nodup_map h.nodup hm hm' hfst

/-! ### Accounts -/

variable (g) in
/-- The account of a run: `use i` is the event whose request the call in the event `i` has used up;
the session holds the requests of other events. -/
structure Accounts (start : Host ε) (es : List GateEvent) (use : Nat → Nat)
    (marked : List (Nat × Pending)) : Prop where
  universal : (g.runFrom start es).now.Universal
  holds : g.store.Holds (g.runFrom start es).session (marked.map Prod.snd)
  marks : g.Marks start es marked
  redeems : ∀ i, g.callsAt start es i ≠ [] → g.Redeems start es i (use i)
  distinct : ∀ i j, g.callsAt start es i ≠ [] → g.callsAt start es j ≠ [] → use i = use j → i = j
  unused : ∀ i, g.callsAt start es i ≠ [] → ∀ m ∈ marked, m.1 ≠ use i

/-- An event that does not call the engine uses nothing up. -/
theorem Accounts.concat_of_silent {use : Nat → Nat} (h : g.Accounts start es use marked)
    {e : GateEvent} (hsilent : g.callsAt start (es ++ [e]) es.length = [])
    (huniversal : (g.step (g.runFrom start es) e).now.Universal) {kept : List (Nat × Pending)}
    (hholds : g.store.Holds (g.step (g.runFrom start es) e).session (kept.map Prod.snd))
    (hmarks : g.Marks start (es ++ [e]) kept)
    (hkept : ∀ m ∈ kept, m ∈ marked ∨ m.1 = es.length) :
    g.Accounts start (es ++ [e]) use kept := by
  have hcalls : ∀ i, g.callsAt start (es ++ [e]) i ≠ [] →
      i < es.length ∧ g.callsAt start es i ≠ [] := by
    intro i hi
    have hlt := lt_of_callsAt hi
    rw [List.length_append, List.length_singleton] at hlt
    have hne : i ≠ es.length := by
      rintro rfl
      exact hi hsilent
    have hi' : i < es.length := by omega
    rw [callsAt_concat e hi'] at hi
    exact ⟨hi', hi⟩
  refine ⟨?_, ?_, hmarks, fun i hi => (h.redeems i (hcalls i hi).2).concat e, ?_, ?_⟩
  · rwa [runFrom_concat]
  · rwa [runFrom_concat]
  · exact fun i j hi hj => h.distinct i j (hcalls i hi).2 (hcalls j hj).2
  · intro i hi m hm
    obtain ⟨hlt, hi'⟩ := hcalls i hi
    rcases hkept m hm with hm | hm
    · exact h.unused i hi' m hm
    · rw [hm]
      have hearlier := (h.redeems i hi').earlier
      omega

/-- A call of the engine uses up one of the pending requests. -/
theorem Accounts.concat_of_call {use : Nat → Nat} (h : g.Accounts start es use marked)
    {e : GateEvent} (huniversal : (g.step (g.runFrom start es) e).now.Universal)
    {kept : List (Nat × Pending)} (hkept : kept.Sublist marked)
    (hholds : g.store.Holds (g.step (g.runFrom start es) e).session (kept.map Prod.snd))
    {m : Nat × Pending} (hm : m ∈ marked) (hused : m ∉ kept)
    (hredeems : g.Redeems start (es ++ [e]) es.length m.1) :
    g.Accounts start (es ++ [e]) (fun i => if i = es.length then m.1 else use i) kept := by
  have hcalls : ∀ i, g.callsAt start (es ++ [e]) i ≠ [] →
      i = es.length ∨ (i < es.length ∧ g.callsAt start es i ≠ []) := by
    intro i hi
    have hlt := lt_of_callsAt hi
    rw [List.length_append, List.length_singleton] at hlt
    rcases Nat.lt_succ_iff_lt_or_eq.1 hlt with hi' | hi'
    · rw [callsAt_concat e hi'] at hi
      exact Or.inr ⟨hi', hi⟩
    · exact Or.inl hi'
  have huse : ∀ i, i < es.length → (if i = es.length then m.1 else use i) = use i :=
    fun i hi => if_neg (Nat.ne_of_lt hi)
  refine ⟨?_, ?_, (h.marks.sublist hkept).concat e, fun i hi => ?_, fun i j hi hj hij => ?_,
    fun i hi m' hm' => ?_⟩
  · rwa [runFrom_concat]
  · rwa [runFrom_concat]
  · rcases hcalls i hi with rfl | ⟨hlt, hi'⟩
    · rwa [if_pos rfl]
    · rw [huse i hlt]
      exact (h.redeems i hi').concat e
  · rcases hcalls i hi with rfl | ⟨hilt, hi'⟩
    · rcases hcalls j hj with rfl | ⟨hjlt, hj'⟩
      · rfl
      · rw [if_pos rfl, huse j hjlt] at hij
        exact absurd hij (h.unused j hj' m hm)
    · rw [huse i hilt] at hij
      rcases hcalls j hj with rfl | ⟨hjlt, hj'⟩
      · rw [if_pos rfl] at hij
        exact absurd hij.symm (h.unused i hi' m hm)
      · rw [huse j hjlt] at hij
        exact h.distinct i j hi' hj' hij
  · rcases hcalls i hi with rfl | ⟨hlt, hi'⟩
    · rw [if_pos rfl]
      intro hfst
      rw [h.marks.eq_of_fst (hkept.subset hm') hm hfst] at hm'
      exact hused hm'
    · rw [huse i hlt]
      exact h.unused i hi' m' (hkept.subset hm')

/-- A request that is saved is marked; one that cannot be saved changes nothing. -/
theorem Accounts.save {use : Nat → Nat} (h : g.Accounts start es use marked)
    (r : AuthorizationRequest) : ∃ kept, g.Accounts start (es ++ [.save r]) use kept := by
  have hsilent : g.callsAt start (es ++ [.save r]) es.length = [] := callsAt_length (.save r)
  have hsession : (g.step (g.runFrom start es) (.save r)).session =
    (g.store.save (g.runFrom start es).now r (g.runFrom start es).session).session := rfl
  by_cases hr : g.store.Accepts (g.runFrom start es).now r
  · have hl := (g.store.save_of_accepts h.universal.offset_eq h.holds hr).2
    have hput := g.store.put_sublist (g.runFrom start es).now r (marked.map Prod.snd)
    have hnew : marked.map Prod.snd ++ [⟨r, (g.runFrom start es).now⟩] =
        (marked ++ [(es.length, (⟨r, (g.runFrom start es).now⟩ : Pending))]).map Prod.snd := by
      rw [List.map_append]
      rfl
    rw [hnew] at hput
    obtain ⟨kept, hkept, heq⟩ := List.sublist_map_iff.1 hput
    refine ⟨kept, h.concat_of_silent hsilent h.universal ?_ ((h.marks.save r).sublist hkept) ?_⟩
    · rw [hsession, ← heq]
      exact hl
    · intro m hm
      rcases List.mem_append.1 (hkept.subset hm) with hm | hm
      · exact Or.inl hm
      · rw [List.mem_singleton.1 hm]
        exact Or.inr rfl
  · have hsame := (g.store.save_of_not_accepts hr (g.runFrom start es).session).2
    refine ⟨marked, h.concat_of_silent hsilent h.universal ?_ (h.marks.concat _)
      fun m hm => Or.inl hm⟩
    rw [hsession, hsame]
    exact h.holds

/-- A request that is processed uses up a pending request if it calls the engine. -/
theorem Accounts.handle {use : Nat → Nat} (h : g.Accounts start es use marked) (c : Callback)
    (context : SecurityContext) :
    ∃ use' kept, g.Accounts start (es ++ [.handle c context]) use' kept := by
  obtain ⟨huniversal, keep, hleft, hcall⟩ := holds_handle context c h.universal h.holds
  have hcalls : g.callsAt start (es ++ [.handle c context]) es.length = _ :=
    callsAt_length (.handle c context)
  have hkept : (marked.filter fun m => keep m.2).Sublist marked := List.filter_sublist
  have hsnd : (marked.map Prod.snd).filter keep =
      (marked.filter fun m => keep m.2).map Prod.snd := by
    rw [List.filter_map]
    rfl
  rw [hsnd] at hleft
  by_cases hsilent : g.callsAt start (es ++ [.handle c context]) es.length = []
  · exact ⟨use, _, h.concat_of_silent hsilent huniversal hleft ((h.marks.sublist hkept).concat _)
      fun m hm => Or.inl (hkept.subset hm)⟩
  · rw [hcalls] at hsilent
    obtain ⟨t, h', text, p, hr, ht, hquery, hmem, hpt, hunder, hover, hdrop⟩ := hcall hsilent
    obtain ⟨m, hm, rfl⟩ := List.mem_map.1 hmem
    obtain ⟨id, hid, hfound⟩ := registration_of_reaches hr
    obtain ⟨hsaved, hsavedAt⟩ := (h.marks.concat (.handle c context)).saved m hm
    refine ⟨_, _, h.concat_of_call (e := .handle c context) huniversal hkept hleft hm
      (fun hm' => ?_) ⟨h.marks.lt hm, ?_, c, context, m.2.request, t, text, id,
        List.getElem?_concat_length, hsaved, hcalls.trans ht, hpt.symm, ?_, hquery, ?_, hfound⟩⟩
    · have hk := (List.mem_filter.1 hm').2
      rw [hdrop] at hk
      cases hk
    · rw [hostAt_concat _ (Nat.le_refl _), hostAt_length, hsavedAt]
      exact g.store.isOver_eq_false_iff.1 hover
    · exact (Pending.isUnder_text m.2 text).1 hunder
    · rw [hpt]
      exact hid

theorem accounts_nil (hclock : start.now.Universal)
    (hfresh : Entries.text? start.session g.store.key = none) : g.Accounts start [] id [] := by
  have hcalls : ∀ i, g.callsAt start [] i = [] := fun i => rfl
  exact ⟨hclock, g.store.holds_nil hfresh, ⟨List.nodup_nil, by simp⟩,
    fun i hi => absurd (hcalls i) hi, fun i _ hi => absurd (hcalls i) hi, by simp⟩

/-- Every run of a gate has an account. -/
theorem exists_accounts (hclock : start.now.Universal)
    (hfresh : Entries.text? start.session g.store.key = none) (es : List GateEvent) :
    ∃ use marked, g.Accounts start es use marked := by
  induction es using List.reverseRecOn with
  | nil => exact ⟨id, [], accounts_nil hclock hfresh⟩
  | append_singleton es e ih =>
    obtain ⟨use, marked, h⟩ := ih
    cases e with
    | save r =>
      obtain ⟨kept, h'⟩ := h.save r
      exact ⟨use, kept, h'⟩
    | clock now universal =>
      exact ⟨use, marked, h.concat_of_silent (e := .clock now universal) (callsAt_length _)
        universal h.holds (h.marks.concat _) fun m hm => Or.inl hm⟩
    | handle c context => exact h.handle c context

/-- No login is forged or replayed: every call of the engine in a run uses up a request that was
saved earlier in the run, no two calls the same one, and a request ends with a new principal only
if it called the engine. -/
theorem engine_calls_redeem (g : Gate ε ρ) {start : Host ε} (hclock : start.now.Universal)
    (hfresh : Entries.text? start.session g.store.key = none) (es : List GateEvent) :
    (∃ use : Nat → Nat,
      (∀ i, g.callsAt start es i ≠ [] → g.Redeems start es i (use i)) ∧
      ∀ i j, g.callsAt start es i ≠ [] → g.callsAt start es j ≠ [] → use i = use j → i = j) ∧
    ∀ i c context p, es[i]? = some (.handle c context) →
      (g.filter.handle c context g.next (g.hostAt start es i)).1.context = some p →
      (g.filter.requiresAuthentication c = false ∧ context = some p) ∨
        ∃ t, g.callsAt start es i = [t] ∧ p.registrationId = t.registration.id := by
  obtain ⟨use, marked, h⟩ := exists_accounts (g := g) hclock hfresh es
  refine ⟨⟨use, h.redeems, h.distinct⟩, fun i c context p hi hp => ?_⟩
  cases hc : g.filter.requiresAuthentication c with
  | false =>
    rw [g.filter.handle_of_passed c context g.next _ hc] at hp
    exact Or.inl ⟨rfl, hp⟩
  | true =>
    obtain ⟨t, ht, hregistration⟩ :=
      g.filter.engineCalls_of_context g.services c context g.next _ hc hp
    refine Or.inr ⟨t, ?_, hregistration⟩
    unfold callsAt
    rw [hi]
    exact ht

/-- A gate with the default store and one registration, whose engine returns the token as it is and
whose handlers do nothing. -/
def single (id : String) (h : id ≠ "") : Gate Unit Unit :=
  { repository := ⟨[.ofId id]⟩
    store := .standard
    matcher := ⟨⟨"/login/".toList, []⟩, []⟩
    engine := fun _ t => pure t
    ownsEngine := false
    recordsClients := false
    onSuccess := fun _ _ _ => pure ()
    onFailure := fun _ _ _ => pure ()
    next := fun _ _ => pure ()
    ids_given := by
      intro r hr
      rw [List.mem_singleton.1 hr]
      exact Value.truthy_text h
    success_spares := fun _ _ _ _ => ⟨fun hu => hu, rfl⟩
    failure_spares := fun _ _ _ _ => ⟨fun hu => hu, rfl⟩
    next_spares := fun _ _ _ => ⟨fun hu => hu, rfl⟩ }

/-- The same callback twice: the engine is called for the first one alone. -/
theorem callsAt_replayed :
    let g := single "github" (by decide)
    let start : Host Unit := { now := ⟨63839664000000000, some 0⟩, engine := () }
    let c : Callback :=
      { path := "/login/github", query := [("code", "c"), ("state", "a")] }
    let es := [.save (.ofLogin "a" "github"), .handle c none, .handle c none]
    g.callsAt start es 1 ≠ [] ∧ g.callsAt start es 2 = [] := by
  intro g start c es
  obtain ⟨⟨use, hredeems, hdistinct⟩, -⟩ :=
    @engine_calls_redeem Unit Unit g start ⟨rfl, by decide, by decide⟩ rfl es
  have hfirst : g.callsAt start es 1 ≠ [] := by
    have hlength : (g.callsAt start es 1).length = 1 := by decide +kernel
    intro hnil
    rw [hnil] at hlength
    cases hlength
  -- only the first event saves a request
  have huse : ∀ i, g.callsAt start es i ≠ [] → use i = 0 := by
    intro i hi
    obtain ⟨_, _, r, _, _, _, -, hsave, -⟩ := (hredeems i hi).matched
    rcases hk : use i with _ | _ | _ | k
    · rfl
    all_goals
      rw [hk] at hsave
      cases hsave
  refine ⟨hfirst, Classical.byContradiction fun hsecond => ?_⟩
  have h := hdistinct 1 2 hfirst hsecond ((huse 1 hfirst).trans (huse 2 hsecond).symm)
  cases h

end Gate

end LoginCallback
