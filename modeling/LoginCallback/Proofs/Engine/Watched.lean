import LoginCallback.Http.Client

/-!
# Watching a provider

A provider can be watched: every request it gets is noted together with its answer
(`Provider.watched`). `Logs Q x y` says that the action `y` with a watched provider does what `x`
does with the provider itself, and that the exchanges it adds and the result satisfy `Q`. `Sends`
describes what sending a draft adds, and what its sender gets of the answer (`logs_send`).
-/

namespace LoginCallback.Http

/-- A request that a provider got, and its answer. -/
abbrev Noted := Request × Except Fault Reply

variable {τ : Type}

/-- The provider, noting what it gets and answers. -/
def Provider.watched (p : Provider τ) : Provider (τ × List Noted) := fun r =>
  Action.ofFn fun (s, notes) => let (a, s) := (p r).runOn s; (a, (s, notes ++ [(r, a)]))

/-- The wire to a watched provider. -/
def Wire.watched (w : Wire τ) (notes : List Noted) : Wire (τ × List Noted) :=
  { client := w.client, recorder := w.recorder, journal := w.journal
    provider := (w.provider, notes) }

/-! ## Actions with a watched provider -/

variable {α β : Type}

def Logs (Q : List Noted → Except Fault α → Prop) (x : Action (Wire τ) α)
    (y : Action (Wire (τ × List Noted)) α) : Prop :=
  ∀ w notes, ∃ new, y.runOn (w.watched notes) =
      ((x.runOn w).1, (x.runOn w).2.watched (notes ++ new)) ∧ Q new (x.runOn w).1

variable {Q : List Noted → Except Fault α → Prop} {x : Action (Wire τ) α}
  {y : Action (Wire (τ × List Noted)) α}

theorem Logs.mono {Q' : List Noted → Except Fault α → Prop} (h : Logs Q x y)
    (hQ : ∀ new r, Q new r → Q' new r) : Logs Q' x y := by
  intro w notes
  obtain ⟨new, hrun, hq⟩ := h w notes
  exact ⟨new, hrun, hQ new _ hq⟩

/-- What does not touch the wire adds no exchange. -/
theorem logs_lift {r : Except Fault α} (hQ : Q [] r) :
    Logs (τ := τ) Q (liftM r : Action _ α) (liftM r : Action _ α) := by
  intro w notes
  refine ⟨[], ?_, hQ⟩
  rw [List.append_nil]
  rfl

theorem logs_pure {a : α} (hQ : Q [] (.ok a)) :
    Logs (τ := τ) Q (pure a : Action _ α) (pure a : Action _ α) := logs_lift hQ

theorem logs_change {f : Wire τ → Wire τ} {g : Wire (τ × List Noted) → Wire (τ × List Noted)}
    (h : ∀ w notes, g (w.watched notes) = (f w).watched notes) :
    Logs (fun new r => new = [] ∧ r = .ok ()) (Action.change f) (Action.change g) := by
  intro w notes
  refine ⟨[], ?_, rfl, rfl⟩
  rw [List.append_nil, Action.runOn_change, Action.runOn_change, h]

theorem Logs.outcome (h : Logs Q x y) :
    Logs (fun new r => ∃ a, r = .ok a ∧ Q new a) x.outcome y.outcome := by
  intro w notes
  obtain ⟨new, hrun, hq⟩ := h w notes
  refine ⟨new, ?_, _, rfl, hq⟩
  rw [Action.runOn_outcome, Action.runOn_outcome, hrun]

theorem Logs.bind {R : α → List Noted → Except Fault β → Prop}
    {S : List Noted → Except Fault β → Prop} {f : α → Action (Wire τ) β}
    {g : α → Action (Wire (τ × List Noted)) β} (h : Logs Q x y) (hf : ∀ a, Logs (R a) (f a) (g a))
    (herror : ∀ new e, Q new (.error e) → S new (.error e))
    (hok : ∀ new a new' r, Q new (.ok a) → R a new' r → S (new ++ new') r) :
    Logs S (x >>= f) (y >>= g) := by
  intro w notes
  obtain ⟨new, hrun, hq⟩ := h w notes
  rw [Action.runOn_bind, Action.runOn_bind, hrun]
  clear hrun
  revert hq
  rcases x.runOn w with ⟨e | a, w'⟩ <;> intro hq
  · exact ⟨new, rfl, herror new e hq⟩
  · obtain ⟨new', hrun', hr⟩ := hf a w' (notes ++ new)
    refine ⟨new ++ new', ?_, hok new a new' _ hq hr⟩
    rw [← List.append_assoc]
    exact hrun'

/-! ## Sending -/

@[simp] theorem Draft.method_toRequest (d : Draft) (a : Address) (cookie : Option String) :
    (d.toRequest a cookie).method = d.method := rfl

@[simp] theorem Draft.address_toRequest (d : Draft) (a : Address) (cookie : Option String) :
    (d.toRequest a cookie).address = a := rfl

theorem Draft.headers_toRequest (d : Draft) (a : Address) (cookie : Option String) :
    (d.toRequest a cookie).headers =
      (d.credentials <|> a.credentials?.map fun x => basic x.1 x.2).elim
        (d.headers ++ (cookie.map fun c => ("cookie", c)).toList ++ d.contentHeaders)
        ((d.headers ++ (cookie.map fun c => ("cookie", c)).toList ++ d.contentHeaders).insert
          "authorization") := by
  unfold Draft.toRequest
  dsimp only
  cases d.credentials <|> a.credentials?.map fun x => basic x.1 x.2 <;> rfl

variable [Platform]

/-- What the sender of a request at `a` gets of its answer: a reply must send it to an address. -/
def received (a : Address) (answer : Except Fault Reply) : Except Fault Reply := do
  let reply ← answer
  (reply.checkLocation a).map fun _ => reply

theorem received_eq_ok {a : Address} {answer : Except Fault Reply} {reply : Reply} :
    received a answer = .ok reply ↔ answer = .ok reply ∧ reply.checkLocation a = .ok () := by
  unfold received
  cases answer with
  | error e => exact ⟨fun h => (by cases h), fun h => (by cases h.1)⟩
  | ok reply' =>
    show (reply'.checkLocation a).map (fun _ => reply') = _ ↔ _
    cases hl : reply'.checkLocation a with
    | error e =>
      refine ⟨fun h => (by cases h), fun h => ?_⟩
      rw [← Except.ok.inj h.1, hl] at h
      cases h.2
    | ok u =>
      refine ⟨fun h => ?_, fun h => congrArg Except.ok (Except.ok.inj h.1)⟩
      obtain rfl := Except.ok.inj h
      exact ⟨rfl, hl⟩

/-- The provider answers a request so, in some state. -/
def Provider.Answers (p : Provider τ) (request : Request) (answer : Except Fault Reply) : Prop :=
  ∃ st, ((p request).runOn st).1 = answer

/-- What sending a draft adds, and its outcome: nothing if no request can be made of it, otherwise
one exchange. -/
inductive Sends (p : Provider τ) (d : Draft) : List Noted → Except Fault Reply → Prop where
  | noAddress {e : Fault} (ha : Draft.readAddress d.address = .error e) : Sends p d [] (.error e)
  | noHeaders {e : Fault} (hh : Draft.checkHeaders d.headers = .error e) : Sends p d [] (.error e)
  | exchanged {a : Address} {answer : Except Fault Reply} (cookie : Option String)
      (ha : Draft.readAddress d.address = .ok a) (hh : Draft.checkHeaders d.headers = .ok ())
      (hp : p.Answers (d.toRequest a cookie) answer) :
      Sends p d [(d.toRequest a cookie, answer)] (received a answer)

/-- A reply was answered to a request. -/
theorem Sends.of_ok {p : Provider τ} {d : Draft} {new : List Noted}
    {outcome : Except Fault Reply} {reply : Reply} (h : Sends p d new outcome)
    (hr : outcome = .ok reply) : ∃ request, new = [(request, .ok reply)] := by
  cases h with
  | noAddress ha => cases hr
  | noHeaders hh => cases hr
  | exchanged cookie ha hh hp =>
    obtain ⟨rfl, -⟩ := received_eq_ok.1 hr
    exact ⟨_, rfl⟩

section

variable (p : Provider τ) (now : Time.Moment) (c : Client) (request : Request) (w : Wire τ)

theorem transmit_fst : (c.transmit p now request w).1 =
    received request.address ((p request).runOn w.provider).1 := by
  unfold Client.transmit
  rcases (p request).runOn w.provider with ⟨e | reply, s⟩ <;> rfl

theorem provider_transmit :
    (c.transmit p now request w).2.provider = ((p request).runOn w.provider).2 := by
  unfold Client.transmit
  rcases (p request).runOn w.provider with ⟨e | reply, s⟩ <;> rfl

/-- The cookies of a reply are taken over. -/
theorem jar_transmit : (c.transmit p now request w).2.opened.jar =
    match ((p request).runOn w.provider).1 with
    | .ok reply => c.jar.takeAll (secondOf now) request.address (reply.values "set-cookie")
        (reply.values "set-cookie2")
    | .error _ => c.jar := by
  unfold Client.transmit
  rcases (p request).runOn w.provider with ⟨e | reply, s⟩ <;> rfl

/-- An open client sends a request once. -/
theorem transmit_watched (notes : List Noted) :
    c.transmit p.watched now request (w.watched notes) =
      ((c.transmit p now request w).1, (c.transmit p now request w).2.watched
        (notes ++ [(request, ((p request).runOn w.provider).1)])) := by
  have hwatched : (p.watched request).runOn (w.watched notes).provider =
      (((p request).runOn w.provider).1, ((p request).runOn w.provider).2,
        notes ++ [(request, ((p request).runOn w.provider).1)]) := rfl
  unfold Client.transmit
  rw [hwatched]
  rcases (p request).runOn w.provider with ⟨e | reply, s⟩ <;> rfl

end

theorem logs_send (p : Provider τ) (now : Time.Moment) (d : Draft) :
    Logs (Sends p d) (send p now d) (send p.watched now d) := by
  intro w notes
  have hopened : (w.watched notes).opened = w.opened := rfl
  unfold send
  rw [Action.runOn_ofFn, Action.runOn_ofFn]
  simp only [hopened]
  cases ha : Draft.readAddress d.address with
  | error e =>
    refine ⟨[], ?_, .noAddress ha⟩
    rw [List.append_nil]
    rfl
  | ok a =>
    cases hh : Draft.checkHeaders d.headers with
    | error e =>
      refine ⟨[], ?_, .noHeaders hh⟩
      rw [List.append_nil]
      rfl
    | ok _ =>
      refine ⟨_, transmit_watched p now w.opened _ { w with client := some w.opened } notes, ?_⟩
      rw [transmit_fst]
      exact .exchanged _ ha hh ⟨_, rfl⟩

/-- What is made of the outcome of a request: another fault, or what the reply is read to. -/
def answered (onFault : Fault → Fault) (onReply : Reply → Except Fault α) :
    Except Fault Reply → Except Fault α
  | .error e => .error (onFault e)
  | .ok reply => onReply reply

/-- A draft is sent, and nothing more is asked of the provider. -/
theorem logs_answered (p : Provider τ) (now : Time.Moment) (d : Draft)
    (onFault : Fault → Fault) (onReply : Reply → Except Fault α)
    {x : Except Fault Reply → Action (Wire τ) α}
    {y : Except Fault Reply → Action (Wire (τ × List Noted)) α}
    (hx : ∀ sent, x sent = liftM (answered onFault onReply sent))
    (hy : ∀ sent, y sent = liftM (answered onFault onReply sent)) :
    Logs (fun new answer => ∃ sent, Sends p d new sent ∧ answer = answered onFault onReply sent)
      ((send p now d).outcome >>= x) ((send p.watched now d).outcome >>= y) := by
  refine (logs_send p now d).outcome.bind
    (R := fun sent new answer => new = [] ∧ answer = answered onFault onReply sent)
    (fun sent => ?_) ?_ ?_
  · rw [hx, hy]
    exact logs_lift ⟨rfl, rfl⟩
  · rintro new e ⟨_, h, -⟩
    cases h
  · rintro new a new' answer ⟨sent, hsent, hs⟩ ⟨rfl, rfl⟩
    obtain rfl := Except.ok.inj hsent
    rw [List.append_nil]
    exact ⟨_, hs, rfl⟩

end LoginCallback.Http
