import LoginCallback.Proofs.Time.Iso
import LoginCallback.Proofs.Value.Entries
import LoginCallback.Session.Store

/-!
# The ledger of pending requests

What a session holds under its key, read as a list of requests with the moments at which they were
saved (`Pending`), in the order of saving. A store that holds a ledger (`SessionStore.Holds`) works
on it as follows:

* `save_of_accepts`, `save_of_not_accepts`: saving a request either drops what has expired and what
  was saved under the same state, adds the request at the end and keeps the newest (`put`), or
  faults and leaves the session alone;
* `retrieve_of_holds`: retrieving answers with the first unexpired request of the state (`find?`)
  and leaves the others (`take`).

These rest on what the operations do to a session whatever it holds (`save_of_admits`,
`admits_or_save_error`, `retrieve_of_without`).

The entry of a request holds the text of its expiry, which the calendar gives back, so the moment of
expiry that counts is exactly the one at which the request was saved plus the time to live.
-/

namespace LoginCallback

open Time

/-- A request that awaits its callback, and when it was saved. -/
structure Pending where
  request : AuthorizationRequest
  savedAt : Moment

namespace Pending

/-- Whether the request was saved under a state. -/
def isUnder (state : Value) (p : Pending) : Bool := Value.sameScalar p.request.state state

/-- A request saved under the text `t` is found under the state `t` alone. -/
@[simp] theorem isUnder_text (p : Pending) (t : String) :
    p.isUnder (.text t) = true ↔ p.request.state = .text t :=
  Value.sameScalar_text_right _ _

end Pending

namespace SessionStore

variable (s : SessionStore)

/-- When a request saved at a moment expires, if ever. -/
def expiresAt? (savedAt : Moment) : Option Moment :=
  match s.ttl with
  | none => none
  | some d => if d.micros = 0 then none else some { savedAt with ticks := savedAt.ticks + d.micros }

/-- Whether a pending request has expired. -/
def isOver (now : Moment) (p : Pending) : Bool :=
  match s.expiresAt? p.savedAt with
  | none => false
  | some m => decide (m.ticks ≤ now.ticks)

/-- The entry of a pending request. -/
def entryOf (p : Pending) : Value × Value :=
  (p.request.state, Value.record [
    ("request", p.request.toValue),
    ("expires_at", match s.expiresAt? p.savedAt with
      | none => .null
      | some m => .text m.toText)])

/-- The moment at which a pending request expires is one of the calendar. -/
def Timely (p : Pending) : Prop := ∀ m, s.expiresAt? p.savedAt = some m → m.Universal

/-- A session holds a ledger: its pending entries are those of the ledger, in order. -/
structure Holds (session : Session) (ledger : List Pending) : Prop where
  stored_eq : s.stored session = .ok (ledger.map s.entryOf)
  timely : ∀ p ∈ ledger, s.Timely p

/-! ## Operations on ledgers -/

/-- What has not expired. -/
def purge (now : Moment) (ledger : List Pending) : List Pending := ledger.filter (!s.isOver now ·)

/-- What was not saved under a state. -/
def leave (state : Value) (ledger : List Pending) : List Pending := ledger.filter (!·.isUnder state)

/-- The newest requests, as many as are allowed. -/
def keepNewest (ledger : List Pending) : List Pending :=
  match s.limit with
  | some n => ledger.drop (ledger.length - n)
  | none => ledger

/-- The ledger after a request is saved. -/
def put (now : Moment) (r : AuthorizationRequest) (ledger : List Pending) : List Pending :=
  s.keepNewest (leave r.state (s.purge now ledger) ++ [⟨r, now⟩])

/-- The ledger after a request is retrieved. -/
def take (now : Moment) (state : Value) (ledger : List Pending) : List Pending :=
  leave state (s.purge now ledger)

/-- The unexpired request of a state. -/
def find? (now : Moment) (state : Value) (ledger : List Pending) : Option Pending :=
  (s.purge now ledger).find? (·.isUnder state)

/-- With room for one, the last element stays behind what is left of the others. -/
theorem drop_concat {α : Type} {n : Nat} (h : 1 ≤ n) (xs : List α) (x : α) :
    (xs ++ [x]).drop ((xs ++ [x]).length - n) = xs.drop (xs.length + 1 - n) ++ [x] := by
  rw [List.length_append, List.length_singleton]
  exact List.drop_append_of_le_length (by omega)

theorem mem_purge {now : Moment} {p : Pending} {ledger : List Pending} :
    p ∈ s.purge now ledger ↔ p ∈ ledger ∧ s.isOver now p = false := by
  simp [purge]

theorem mem_leave {state : Value} {p : Pending} {ledger : List Pending} :
    p ∈ leave state ledger ↔ p ∈ ledger ∧ p.isUnder state = false := by
  simp [leave]

theorem keepNewest_sublist (ledger : List Pending) : (s.keepNewest ledger).Sublist ledger := by
  unfold keepNewest
  split
  · exact List.drop_sublist _ _
  · exact List.Sublist.refl _

theorem take_sublist (now : Moment) (state : Value) (ledger : List Pending) :
    (s.take now state ledger).Sublist ledger :=
  List.filter_sublist.trans List.filter_sublist

theorem put_sublist (now : Moment) (r : AuthorizationRequest) (ledger : List Pending) :
    (s.put now r ledger).Sublist (ledger ++ [⟨r, now⟩]) :=
  (s.keepNewest_sublist _).trans (List.Sublist.append_right (s.take_sublist now r.state ledger) _)

/-! ## Expiry -/

/-- A request is over as soon as the time to live has passed since it was saved. -/
theorem isOver_iff {now : Moment} {p : Pending} : s.isOver now p = true ↔
    ∃ d, s.ttl = some d ∧ d.micros ≠ 0 ∧ p.savedAt.ticks + d.micros ≤ now.ticks := by
  unfold isOver expiresAt?
  cases s.ttl with
  | none => simp
  | some d => by_cases hd : d.micros = 0 <;> simp [hd]

theorem isOver_eq_false_iff {now : Moment} {p : Pending} : s.isOver now p = false ↔
    ∀ d, s.ttl = some d → d.micros ≠ 0 → now.ticks < p.savedAt.ticks + d.micros := by
  rw [Bool.eq_false_iff, Ne, isOver_iff]
  constructor
  · intro h d hd hne
    exact Int.not_le.1 fun hle => h ⟨d, hd, hne, hle⟩
  · rintro h ⟨d, hd, hne, hle⟩
    exact Int.not_le.2 (h d hd hne) hle

/-- The entry of a request says exactly when it expires. -/
theorem isExpired_entryOf {now : Moment} (hnow : now.offset = some 0) {p : Pending}
    (hp : s.Timely p) : isExpired now (s.entryOf p).2 = .ok (s.isOver now p) := by
  cases he : s.expiresAt? p.savedAt with
  | none =>
    have hentry : (s.entryOf p).2.getD "expires_at" .null = .ok .null := by
      simp [entryOf, Value.getD_record, he, List.lookup_cons]
    simp [isExpired, hentry, isOver, he]
    rfl
  | some m =>
    have hu := hp m he
    have hentry : (s.entryOf p).2.getD "expires_at" .null = .ok (.text m.toText) := by
      simp [entryOf, Value.getD_record, he, List.lookup_cons]
    have hover : m.notAfter now = .ok (s.isOver now p) := by
      simp [Moment.notAfter, isOver, he, hu.offset_eq, hnow]
    simp [isExpired, hentry, ofValue, Value.truthy, Moment.isEmpty_toText, Moment.read_toText hu,
      hover, bind, Except.bind]

theorem live_map_entryOf {now : Moment} (hnow : now.offset = some 0) :
    ∀ {ledger : List Pending}, (∀ p ∈ ledger, s.Timely p) →
      (live now (ledger.map s.entryOf)).2 = .ok ((s.purge now ledger).map s.entryOf)
  | [], _ => rfl
  | p :: ledger, h => by
    have hp := s.isExpired_entryOf hnow (h p List.mem_cons_self)
    have ih := live_map_entryOf hnow fun q (hq : q ∈ ledger) => h q (List.mem_cons_of_mem _ hq)
    rw [List.map_cons]
    cases ho : s.isOver now p
    · rw [ho] at hp
      simp [live, hp, ho, ih, purge]
      rfl
    · rw [ho] at hp
      simp [live, hp, ho, ih, purge]

/-! ## The pending requests of a session -/

theorem stored_insert (session : Session) (es : Entries) :
    s.stored (session.insert (.text s.key) (.mapping es)) = .ok es := by
  unfold stored
  rw [Entries.text?_insert_self]
  cases es <;> rfl

theorem stored_erase (session : Session) : s.stored (session.erase (.text s.key)) = .ok [] := by
  unfold stored
  rw [Entries.text?_erase_self]
  rfl

/-- A session without the key holds the empty ledger. -/
theorem holds_nil {session : Session} (h : Entries.text? session s.key = none) :
    s.Holds session [] := by
  refine ⟨?_, by simp⟩
  unfold stored
  rw [h]
  rfl

/-- What a session holds is read from its key alone. -/
theorem Holds.congr {s : SessionStore} {session session' : Session} {ledger : List Pending}
    (h : s.Holds session ledger)
    (hkey : Entries.text? session' s.key = Entries.text? session s.key) :
    s.Holds session' ledger := by
  refine ⟨?_, h.timely⟩
  rw [← h.stored_eq]
  unfold stored
  rw [hkey]

theorem load_of_holds {now : Moment} (hnow : now.offset = some 0) {session : Session}
    {ledger : List Pending} (h : s.Holds session ledger) :
    ∃ n, s.load now session = (n, .ok ((s.purge now ledger).map s.entryOf)) := by
  unfold load
  rw [h.stored_eq]
  exact ⟨_, Prod.ext rfl (s.live_map_entryOf hnow h.timely)⟩

theorem holds_withPending (session : Session) {ledger : List Pending}
    (h : ∀ p ∈ ledger, s.Timely p) :
    s.Holds (s.withPending session (ledger.map s.entryOf)) ledger := by
  refine ⟨?_, h⟩
  unfold withPending
  cases ledger with
  | nil => exact s.stored_erase session
  | cons p ledger => exact s.stored_insert session _

theorem erase_map_entryOf (state : Value) (ledger : List Pending) :
    Entries.erase (ledger.map s.entryOf) state = (leave state ledger).map s.entryOf := by
  unfold Entries.erase leave
  rw [List.filter_map]
  rfl

theorem newest_map_entryOf (ledger : List Pending) :
    s.newest (ledger.map s.entryOf) = (s.keepNewest ledger).map s.entryOf := by
  unfold newest keepNewest
  cases s.limit with
  | none => rfl
  | some n => simp only [List.length_map, List.map_drop]

/-! ## Saving -/

/-- A session lets a request in: its state is given, what is pending can be read, and the request
can be given an entry. -/
structure Admits (now : Moment) (r : AuthorizationRequest) (session : Session) (pending : Entries)
    (entry : Value × Value) : Prop where
  state_given : r.state.truthy = true
  load_eq : (s.load now session).2 = .ok pending
  entry_eq : s.entry now r = .ok entry

/-- Saving puts the entry behind the others that are pending, in place of the one of the same
state, and keeps the newest. -/
theorem save_of_admits {now : Moment} {r : AuthorizationRequest} {session : Session}
    {pending : Entries} {entry : Value × Value} (h : s.Admits now r session pending entry) :
    (s.save now r session).result = .ok () ∧ (s.save now r session).session =
      session.insert (.text s.key) (.mapping (s.newest (pending.erase entry.1 ++ [entry]))) := by
  obtain ⟨hstate, hload, hentry⟩ := h
  unfold save
  rw [hstate, hentry]
  rcases hloaded : s.load now session with ⟨n, loaded⟩
  rw [hloaded] at hload
  obtain rfl : loaded = .ok pending := hload
  exact ⟨rfl, rfl⟩

/-- A request that is not let in faults and leaves the session alone. -/
theorem admits_or_save_error (now : Moment) (r : AuthorizationRequest) (session : Session) :
    (∃ pending entry, s.Admits now r session pending entry) ∨
      (∃ e, (s.save now r session).result = .error e) ∧
        (s.save now r session).session = session := by
  cases hstate : r.state.truthy with
  | false =>
    unfold save
    rw [hstate]
    exact Or.inr ⟨⟨_, rfl⟩, rfl⟩
  | true =>
    rcases hload : s.load now session with ⟨n, e | pending⟩
    · unfold save
      rw [hstate, hload]
      exact Or.inr ⟨⟨_, rfl⟩, rfl⟩
    · cases hentry : s.entry now r with
      | error e =>
        unfold save
        rw [hstate, hload, hentry]
        exact Or.inr ⟨⟨_, rfl⟩, rfl⟩
      | ok entry => exact Or.inl ⟨pending, entry, hstate, congrArg Prod.snd hload, hentry⟩

/-- A request that was saved was let in. -/
theorem admits_of_save_ok {now : Moment} {r : AuthorizationRequest} {session : Session}
    (h : (s.save now r session).result = .ok ()) :
    ∃ pending entry, s.Admits now r session pending entry := by
  rcases s.admits_or_save_error now r session with hin | ⟨⟨e, he⟩, -⟩
  · exact hin
  · rw [he] at h
    cases h

theorem session_of_save_error {now : Moment} {r : AuthorizationRequest} {session : Session}
    {e : Fault} (h : (s.save now r session).result = .error e) :
    (s.save now r session).session = session := by
  rcases s.admits_or_save_error now r session with ⟨pending, entry, hin⟩ | ⟨-, hsame⟩
  · rw [(s.save_of_admits hin).1] at h
    cases h
  · exact hsame

/-- The expiry of a request saved now, if it lies in the calendar. -/
theorem expiry_eq_ok {now : Moment} (hnow : now.offset = some 0) {v : Value}
    (h : s.expiry now = .ok v) (r : AuthorizationRequest) :
    s.Timely ⟨r, now⟩ ∧ v = match s.expiresAt? now with
      | none => .null
      | some m => .text m.toText := by
  unfold expiry at h
  unfold Timely expiresAt?
  cases ht : s.ttl with
  | none =>
    rw [ht] at h
    exact ⟨by simp, (Except.ok.inj h).symm⟩
  | some d =>
    rw [ht] at h
    dsimp only at h ⊢
    by_cases hd : d.micros = 0
    · rw [if_pos hd] at h ⊢
      exact ⟨by simp, (Except.ok.inj h).symm⟩
    · rw [if_neg hd] at h ⊢
      rcases now.add_cases d with ⟨hnonneg, hlt, hok⟩ | ⟨-, hfault⟩
      · rw [hok] at h
        refine ⟨?_, (Except.ok.inj h).symm⟩
        rintro m hm
        obtain rfl := Option.some.inj hm
        exact ⟨hnow, hnonneg, hlt⟩
      · rw [hfault] at h
        cases h

/-- A request can be saved now: its state is given and can be a key, and it expires within the
calendar. -/
structure Accepts (now : Moment) (r : AuthorizationRequest) : Prop where
  state_given : r.state.truthy = true
  state_key : r.state.hashable = true
  expires : ∃ v, s.expiry now = .ok v

theorem entry_of_accepts {now : Moment} (hnow : now.offset = some 0) {r : AuthorizationRequest}
    (h : s.Accepts now r) : s.entry now r = .ok (s.entryOf ⟨r, now⟩) ∧ s.Timely ⟨r, now⟩ := by
  obtain ⟨v, hv⟩ := h.expires
  obtain ⟨ht, rfl⟩ := s.expiry_eq_ok hnow hv r
  refine ⟨?_, ht⟩
  simp only [entry, Value.asKey, h.state_key, if_true, hv]
  rfl

/-- A request that is let in is accepted. -/
theorem Admits.accepts {s : SessionStore} {now : Moment} {r : AuthorizationRequest}
    {session : Session} {pending : Entries} {entry : Value × Value}
    (h : s.Admits now r session pending entry) : s.Accepts now r := by
  obtain ⟨key, hkey, hrest⟩ := bind_eq_ok.1 h.entry_eq
  obtain ⟨v, hv, -⟩ := bind_eq_ok.1 hrest
  refine ⟨h.state_given, ?_, v, hv⟩
  unfold Value.asKey at hkey
  cases hhashable : r.state.hashable with
  | true => rfl
  | false =>
    rw [hhashable] at hkey
    cases hkey

/-- A request that is accepted is let in if what is pending can be read. -/
theorem Accepts.admits {s : SessionStore} {now : Moment} (hnow : now.offset = some 0)
    {r : AuthorizationRequest} (hr : s.Accepts now r) {session : Session} {pending : Entries}
    (hload : (s.load now session).2 = .ok pending) :
    s.Admits now r session pending (s.entryOf ⟨r, now⟩) :=
  ⟨hr.state_given, hload, (s.entry_of_accepts hnow hr).1⟩

/-- Saving a request that is accepted returns, and writes the ledger with it. -/
theorem save_eq_of_accepts {now : Moment} (hnow : now.offset = some 0) {session : Session}
    {ledger : List Pending} (h : s.Holds session ledger) {r : AuthorizationRequest}
    (hr : s.Accepts now r) :
    (s.save now r session).result = .ok () ∧ (s.save now r session).session =
      session.insert (.text s.key) (.mapping ((s.put now r ledger).map s.entryOf)) := by
  obtain ⟨n, hload⟩ := s.load_of_holds hnow h
  have hput : s.newest (Entries.erase ((s.purge now ledger).map s.entryOf) r.state ++
      [s.entryOf ⟨r, now⟩]) = (s.put now r ledger).map s.entryOf := by
    rw [erase_map_entryOf, ← List.map_singleton, ← List.map_append, newest_map_entryOf]
    rfl
  rw [← hput]
  exact s.save_of_admits (hr.admits hnow (congrArg Prod.snd hload))

theorem timely_put {now : Moment} (hnow : now.offset = some 0) {ledger : List Pending}
    (h : ∀ p ∈ ledger, s.Timely p) {r : AuthorizationRequest} (hr : s.Accepts now r) :
    ∀ p ∈ s.put now r ledger, s.Timely p := by
  intro p hp
  rcases List.mem_append.1 ((s.put_sublist now r ledger).subset hp) with hp | hp
  · exact h p hp
  · rw [List.mem_singleton.1 hp]
    exact (s.entry_of_accepts hnow hr).2

/-- A request that is accepted is put into the ledger. -/
theorem save_of_accepts {now : Moment} (hnow : now.offset = some 0) {session : Session}
    {ledger : List Pending} (h : s.Holds session ledger) {r : AuthorizationRequest}
    (hr : s.Accepts now r) :
    (s.save now r session).result = .ok () ∧
      s.Holds (s.save now r session).session (s.put now r ledger) := by
  obtain ⟨hresult, hsession⟩ := s.save_eq_of_accepts hnow h hr
  refine ⟨hresult, ?_, s.timely_put hnow h.timely hr⟩
  rw [hsession]
  exact s.stored_insert session _

/-- A request that is not accepted leaves the session alone. -/
theorem save_of_not_accepts {now : Moment} {r : AuthorizationRequest} (h : ¬ s.Accepts now r)
    (session : Session) :
    (∃ e, (s.save now r session).result = .error e) ∧ (s.save now r session).session = session := by
  rcases s.admits_or_save_error now r session with ⟨pending, entry, hin⟩ | hfault
  · exact absurd hin.accepts h
  · exact hfault

/-! ## Retrieving -/

/-- Retrieving under a state answers with the request that the entry of the state keeps, and leaves
what is pending without the entry. -/
theorem retrieve_of_without {now : Moment} {session : Session} {pending rest : Entries}
    {state : Value} (hstate : state.truthy = true) (hload : (s.load now session).2 = .ok pending)
    (hrest : without pending state = .ok rest) :
    (s.retrieve now state session).result = (match pending.get? state with
      | none => .ok none
      | some entry => do
        return some (← AuthorizationRequest.read (← ofValue (entry.item "request")))) ∧
      (s.retrieve now state session).session = s.withPending session rest := by
  rcases hloaded : s.load now session with ⟨n, loaded⟩
  rw [hloaded] at hload
  obtain rfl : loaded = .ok pending := hload
  unfold retrieve
  rw [hstate, hloaded, if_neg (by decide)]
  dsimp only
  rw [hrest]
  exact ⟨rfl, rfl⟩

theorem get?_map_entryOf (state : Value) (ledger : List Pending) :
    Entries.get? (ledger.map s.entryOf) state =
      (ledger.find? (·.isUnder state)).map fun p => (s.entryOf p).2 := by
  unfold Entries.get?
  rw [List.find?_map, Option.map_map]
  rfl

theorem without_map_entryOf {state : Value} (hkey : state.hashable = true) (ledger : List Pending) :
    without (ledger.map s.entryOf) state = .ok ((leave state ledger).map s.entryOf) := by
  unfold without
  cases ledger with
  | nil => rfl
  | cons p ledger =>
    simp only [Value.asKey, hkey, if_true, Except.map, erase_map_entryOf]
    rfl

/-- Retrieving under a state answers with the unexpired request of the state, if there is one, and
writes the ledger without it. -/
theorem retrieve_eq_of_holds {now : Moment} (hnow : now.offset = some 0) {session : Session}
    {ledger : List Pending} (h : s.Holds session ledger) {state : Value}
    (hstate : state.truthy = true) (hkey : state.hashable = true) :
    (s.retrieve now state session).result =
        .ok ((s.find? now state ledger).map (·.request)) ∧
      (s.retrieve now state session).session =
        s.withPending session ((s.take now state ledger).map s.entryOf) := by
  obtain ⟨n, hload⟩ := s.load_of_holds hnow h
  obtain ⟨hresult, hsession⟩ := s.retrieve_of_without hstate (congrArg Prod.snd hload)
    (s.without_map_entryOf hkey _)
  refine ⟨?_, hsession⟩
  rw [hresult, get?_map_entryOf]
  unfold find?
  cases (s.purge now ledger).find? (·.isUnder state) with
  | none => rfl
  | some p =>
    have hitem : (s.entryOf p).2.item "request" = .ok p.request.toValue := Value.item_record rfl
    simp only [Option.map_some, hitem]
    rfl

theorem timely_take {now : Moment} {ledger : List Pending} (h : ∀ p ∈ ledger, s.Timely p)
    (state : Value) : ∀ p ∈ s.take now state ledger, s.Timely p :=
  fun p hp => h p ((s.take_sublist now state ledger).subset hp)

/-- Retrieving under a state answers with the unexpired request of the state, if there is one, and
takes it out of the ledger. -/
theorem retrieve_of_holds {now : Moment} (hnow : now.offset = some 0) {session : Session}
    {ledger : List Pending} (h : s.Holds session ledger) {state : Value}
    (hstate : state.truthy = true) (hkey : state.hashable = true) :
    (s.retrieve now state session).result =
        .ok ((s.find? now state ledger).map (·.request)) ∧
      s.Holds (s.retrieve now state session).session (s.take now state ledger) := by
  obtain ⟨hresult, hsession⟩ := s.retrieve_eq_of_holds hnow h hstate hkey
  rw [hsession]
  exact ⟨hresult, s.holds_withPending session (s.timely_take h.timely state)⟩

/-- A store that holds a ledger finds only requests of the state it is asked for. -/
theorem exists_retrieved {now : Moment} (hnow : now.offset = some 0) {session : Session}
    {ledger : List Pending} (h : s.Holds session ledger) {state : String} (hstate : state ≠ "") :
    ∃ found, (s.retrieve now (.text state) session).result = .ok found ∧
      ∀ request ∈ found, request.state = .text state := by
  have hfound := (s.retrieve_of_holds hnow h (Value.truthy_text hstate) rfl).1
  refine ⟨_, hfound, fun request hrequest => ?_⟩
  obtain ⟨p, hp, rfl⟩ := Option.map_eq_some_iff.1 hrequest
  exact (Pending.isUnder_text p state).1 (List.find?_some hp)

end SessionStore

end LoginCallback
