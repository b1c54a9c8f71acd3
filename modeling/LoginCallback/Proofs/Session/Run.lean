import LoginCallback.Proofs.Session.Ledger
import LoginCallback.Registration.Basic

/-!
# Runs of the session store

A run of the store on one session is a list of events: a request is saved, one is retrieved, or
time passes (`SessionStore.runFrom`). As long as the states of the events are texts that are not
empty and every expiry lies in the calendar, the session holds a ledger all along, and each event
changes the ledger as `SessionStore.follow` says (`holds_step`).
-/

namespace LoginCallback

open Time

/-- What can happen to the pending requests of a session. -/
inductive StoreEvent where
  | save (request : AuthorizationRequest)
  | retrieve (state : Value)
  | wait (d : Duration)

/-- A session, and what the clock shows. -/
structure StoreState where
  now : Moment
  session : Session

namespace StoreEvent

/-- The events of a run in which states are texts that are not empty and the clock does not go
back. -/
def Regular : StoreEvent → Prop
  | save r => ∃ t, t ≠ "" ∧ r.state = .text t
  | retrieve state => ∃ t, t ≠ "" ∧ state = .text t
  | wait d => 0 ≤ d.micros

/-- The event saves or retrieves a request under the state `t`. -/
def Concerns (t : String) : StoreEvent → Prop
  | save r => r.state = .text t
  | retrieve state => state = .text t
  | wait _ => False

end StoreEvent

/-- A request of which only the state matters. -/
def AuthorizationRequest.ofState (t : String) : AuthorizationRequest :=
  { clientId := .text "client"
    authorizationUri := .text "https://id.example.com/authorize"
    redirectUri := .text "https://app.example.com/login"
    state := .text t
    scopes := []
    additionalParameters := []
    grantType := .text "authorization_code" }

/-- The request of a login through a registration. -/
def AuthorizationRequest.ofLogin (t id : String) : AuthorizationRequest :=
  { ofState t with additionalParameters := [(.text "registration_id", .text id)] }

/-- A registration of which only the identifier matters. -/
def Registration.ofId (id : String) : Registration :=
  { id := .text id
    clientId := .text "client"
    clientSecret := .null
    authentication := .secretBasic
    grantType := .text "authorization_code"
    redirectTemplate := .text defaultRedirectTemplate
    scopes := []
    authorizationUri := .text "https://id.example.com/authorize"
    tokenUri := .text "https://id.example.com/token"
    userInfoUri := .text "https://id.example.com/user"
    userNameAttribute := .text "sub"
    clientName := .text id }

namespace SessionStore

/-- The store of the default settings. -/
def standard : SessionStore :=
  { ttl := some defaultTtl, limit := some defaultLimit, key := defaultKey }

variable (s : SessionStore)

/-- The clock after some time; it stands still at the end of the calendar. -/
def passed (now : Moment) (d : Duration) : Moment :=
  match now.add d with
  | .ok m => m
  | .error _ => now

def step (h : StoreState) : StoreEvent → StoreState
  | .save r => { h with session := (s.save h.now r h.session).session }
  | .retrieve state => { h with session := (s.retrieve h.now state h.session).session }
  | .wait d => { h with now := passed h.now d }

def runFrom (start : StoreState) (es : List StoreEvent) : StoreState := es.foldl s.step start

/-- The ledger after an event. -/
def follow (now : Moment) (ledger : List Pending) : StoreEvent → List Pending
  | .save r => s.put now r ledger
  | .retrieve state => s.take now state ledger
  | .wait _ => ledger

theorem runFrom_append (start : StoreState) (es fs : List StoreEvent) :
    s.runFrom start (es ++ fs) = s.runFrom (s.runFrom start es) fs := List.foldl_append

theorem runFrom_concat (start : StoreState) (es : List StoreEvent) (e : StoreEvent) :
    s.runFrom start (es ++ [e]) = s.step (s.runFrom start es) e := by
  rw [runFrom_append]
  rfl

/-! ## The clock -/

theorem passed_cases (now : Moment) (d : Duration) :
    passed now d = now ∨ (passed now d = { now with ticks := now.ticks + d.micros } ∧
      0 ≤ now.ticks + d.micros ∧ now.ticks + d.micros < Moment.endTicks) := by
  unfold passed
  rcases now.add_cases d with ⟨hnonneg, hlt, hok⟩ | ⟨-, hfault⟩
  · rw [hok]
    exact Or.inr ⟨rfl, hnonneg, hlt⟩
  · rw [hfault]
    exact Or.inl rfl

theorem passed_universal {now : Moment} (h : now.Universal) (d : Duration) :
    (passed now d).Universal := by
  rcases passed_cases now d with e | ⟨e, h0, hlt⟩
  · rwa [e]
  · rw [e]
    exact ⟨h.offset_eq, h0, hlt⟩

theorem le_passed (now : Moment) {d : Duration} (h : 0 ≤ d.micros) :
    now.ticks ≤ (passed now d).ticks := by
  rcases passed_cases now d with e | ⟨e, -, -⟩
  · exact Int.le_of_eq (congrArg Moment.ticks e).symm
  · have hticks : (passed now d).ticks = now.ticks + d.micros := congrArg Moment.ticks e
    omega

theorem step_universal {h : StoreState} (hnow : h.now.Universal) (e : StoreEvent) :
    (s.step h e).now.Universal := by
  cases e with
  | save r => exact hnow
  | retrieve state => exact hnow
  | wait d => exact passed_universal hnow d

theorem runFrom_universal {start : StoreState} (hnow : start.now.Universal) (es : List StoreEvent) :
    (s.runFrom start es).now.Universal := by
  induction es generalizing start with
  | nil => exact hnow
  | cons e es ih => exact ih (s.step_universal hnow e)

/-- In a regular run the clock does not go back. -/
theorem le_step {h : StoreState} {e : StoreEvent} (he : e.Regular) :
    h.now.ticks ≤ (s.step h e).now.ticks := by
  cases e with
  | save r => exact Int.le_refl _
  | retrieve state => exact Int.le_refl _
  | wait d => exact le_passed h.now he

/-! ## Sessions and ledgers -/

/-- An event changes the ledger that the session holds. -/
theorem holds_step {h : StoreState} (hnow : h.now.Universal) (hexp : ∃ v, s.expiry h.now = .ok v)
    {ledger : List Pending} (hl : s.Holds h.session ledger) {e : StoreEvent} (he : e.Regular) :
    s.Holds (s.step h e).session (s.follow h.now ledger e) := by
  cases e with
  | save r =>
    obtain ⟨t, ht, hstate⟩ := he
    have hr : s.Accepts h.now r :=
      ⟨by rw [hstate]; exact Value.truthy_text ht, by rw [hstate]; rfl, hexp⟩
    exact (s.save_of_accepts hnow.offset_eq hl hr).2
  | retrieve state =>
    obtain ⟨t, ht, rfl⟩ := he
    exact (s.retrieve_of_holds hnow.offset_eq hl (Value.truthy_text ht) rfl).2
  | wait d => exact hl

end SessionStore

end LoginCallback
