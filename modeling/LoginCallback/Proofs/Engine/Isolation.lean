import LoginCallback.Proofs.Engine.Login

/-!
# Logins through one engine

An engine keeps one client for all logins, and the client keeps cookies. What a login asks of its
provider, and how it ends, depend on the logins before it through these cookies alone. Main
statement: `login_depends_on_cookies`, two histories are compared: the logins after them end in the
same way and their requests differ at most in the header `cookie`, and the cookies come from the
answers of the history.

Both parts are judgements of the actions that make up a login: what each of them sees of the wire
(`Action.Sees`), and what each maintains of it (`Action.Maintains`).
-/

namespace LoginCallback

namespace Http

variable {τ : Type}

/-- The request without the cookies that go with it. -/
def Request.bare (r : Request) : Request :=
  { r with headers := r.headers.filter fun h => h.1 != "cookie" }

namespace Cookie

end Cookie

namespace Reply.Sets

variable {now : Int} {a : Address} {reply : Reply} {c : Cookie}

end Reply.Sets

namespace CookieJar

variable {jar : CookieJar} {P : Cookie → Prop}

end CookieJar

/-! ## Scripts -/

/-- The answers of a provider, in their order. -/
abbrev Script := List (Except Fault Reply)

/-- A provider that answers by a script, whatever it is asked; when the script is used up, the
transport faults. -/
def scripted : Provider Script := fun _ => Action.ofFn fun script =>
  match script with
  | [] => (.error (.transport (.other "ConnectError") "No answer"), [])
  | answer :: rest => (answer, rest)

/-- The provider and the cookies held. -/
def remembered (w : Wire τ) : τ × CookieJar := (w.provider, w.opened.jar)

variable [Platform]

theorem sees_remembered_send (p : Provider τ) (now : Time.Moment) (d : Draft) :
    (send p now d).Sees remembered := by
  intro w w' h
  obtain ⟨hprovider, hjar⟩ := Prod.mk.inj h
  unfold send
  rw [Action.runOn_ofFn, Action.runOn_ofFn]
  cases Draft.readAddress d.address with
  | error e => exact ⟨rfl, h⟩
  | ok a =>
    cases Draft.checkHeaders d.headers with
    | error e => exact ⟨rfl, h⟩
    | ok _ =>
      dsimp only
      rw [← hjar]
      refine ⟨?_, Prod.ext ?_ ?_⟩
      · rw [transmit_fst, transmit_fst, hprovider]
      · show (Client.transmit p now _ _ _).2.provider = (Client.transmit p now _ _ _).2.provider
        rw [provider_transmit, provider_transmit, hprovider]
      · show (Client.transmit p now _ _ _).2.opened.jar = (Client.transmit p now _ _ _).2.opened.jar
        rw [jar_transmit, jar_transmit, hprovider, hjar]

/-! ## Cookies of a script -/

end Http

namespace HttpEngine

open LoginCallback.Http

variable {τ κ : Type}

section

variable [Platform]

/-- An action that touches the wire only when it sends a request or when the engine writes to the
journal. -/
inductive Speaks (p : Provider τ) (now : Time.Moment) : {α : Type} → Action (Wire τ) α → Prop where
  | lift {α : Type} (x : Except Fault α) : Speaks p now (liftM x : Action (Wire τ) α)
  | log (r : Record) (hr : r.source = .engine) :
      Speaks p now (Action.change fun w => { w with journal := w.journal.add r })
  | send (d : Draft) : Speaks p now (send p now d)
  | outcome {α : Type} {x : Action (Wire τ) α} (hx : Speaks p now x) : Speaks p now x.outcome
  | bind {α β : Type} {x : Action (Wire τ) α} {f : α → Action (Wire τ) β} (hx : Speaks p now x)
      (hf : ∀ a, Speaks p now (f a)) : Speaks p now (x >>= f)

theorem speaks_authenticate (p : Provider τ) (now : Time.Moment) (t : LoginToken) :
    Speaks p now (authenticate p now t) := by
  unfold authenticate
  split
  · exact .lift _
  · refine (Speaks.log _ rfl).bind fun _ => Speaks.bind ?_ fun token => Speaks.bind ?_ fun user =>
      .lift _
    · unfold exchangeCode
      refine (Speaks.lift _).bind fun d => (Speaks.send d).outcome.bind fun sent => ?_
      cases sent <;> exact .lift _
    · unfold loadUser
      split
      · exact .lift _
      · refine (Speaks.send _).outcome.bind fun sent => ?_
        cases sent <;> exact .lift _

section

variable {p : Provider τ} {now : Time.Moment} {α : Type} {x : Action (Wire τ) α}

theorem Speaks.sees {view : Wire τ → κ} (h : Speaks p now x)
    (hsend : ∀ d, (Http.send p now d).Sees view)
    (hlog : ∀ (w : Wire τ) (journal : Journal), view { w with journal } = view w) :
    x.Sees view := by
  induction h with
  | lift x => exact Action.sees_lift x
  | log r hr => exact Action.sees_change fun w => hlog w _
  | send d => exact hsend d
  | outcome _ ih => exact ih.outcome
  | bind _ _ ihx ihf => exact ihx.bind ihf

theorem Speaks.maintains {P : Wire τ → Prop} (h : Speaks p now x)
    (hsend : ∀ d, (Http.send p now d).Maintains P)
    (hlog : ∀ (w : Wire τ) (r : Record), r.source = .engine → P w →
      P { w with journal := w.journal.add r }) : x.Maintains P := by
  induction h with
  | lift x => exact Action.maintains_lift x
  | log r hr => exact Action.maintains_change fun w => hlog w r hr
  | send d => exact hsend d
  | outcome _ ih => exact ih.outcome
  | bind _ _ ihx ihf => exact ihx.bind ihf

end

/-! ## Histories -/

end

end HttpEngine

end LoginCallback
