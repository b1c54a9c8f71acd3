import LoginCallback.Authentication.Host
import LoginCallback.Proofs.Authentication.Parallel
import LoginCallback.Proofs.Authentication.StateMachine
import Mathlib.Data.Set.Card

/-!
# The authorized clients of a service

A service of authorized clients serves any number of hosts: attempts to log in, look-ups and
removals follow each other in any order (`ClientEvent`). An attempt saves the client that it grants
to a user and otherwise leaves the clients alone, in whatever way it ends (`Attempt.Records`, with
one case for each stage). Main statement: `load?_clientsAfter`, what is kept under a registration
and a name is the client of the last login of that user through that registration.
-/

namespace LoginCallback

namespace Clients

/-! ## Clients under texts -/

theorem isAt_text (id name : String) (c : AuthorizedClient) :
    isAt (.text id) name c = true ↔ c.registration.id = .text id ∧ c.principalName = name := by
  unfold isAt
  rw [Bool.and_eq_true, Value.sameScalar_text_right, beq_iff_eq]

section

variable {clients : Clients} {client : AuthorizedClient} {id name : String}

theorem load?_save_self (hid : client.registration.id = .text id)
    (hname : client.principalName = name) :
    (clients.save client).load? (.text id) name = some client := by
  have hat : isAt (.text id) name client = true := (isAt_text id name client).2 ⟨hid, hname⟩
  obtain ⟨entries⟩ := clients
  show (put client entries).find? _ = _
  induction entries with
  | nil => simp [put, hat]
  | cons c entries ih =>
    unfold put
    rw [hid, hname]
    by_cases hc : isAt (.text id) name c = true
    · rw [if_pos hc, List.find?_cons_of_pos hat]
    · rw [if_neg hc, List.find?_cons_of_neg hc, ih]

theorem load?_save_of_ne {id' : String} (hid : client.registration.id = .text id')
    (hne : ¬ (id' = id ∧ client.principalName = name)) :
    (clients.save client).load? (.text id) name = clients.load? (.text id) name := by
  have hat : ¬ isAt (.text id) name client = true := by
    rw [isAt_text, hid]
    rintro ⟨h, hname⟩
    exact hne ⟨Value.text.inj h, hname⟩
  obtain ⟨entries⟩ := clients
  show (put client entries).find? _ = entries.find? _
  induction entries with
  | nil => simp [put, hat]
  | cons c entries ih =>
    unfold put
    rw [hid]
    by_cases hc : isAt (.text id') client.principalName c = true
    · have hc' : ¬ isAt (.text id) name c = true := by
        obtain ⟨hcid, hcname⟩ := (isAt_text _ _ c).1 hc
        rw [isAt_text, hcid, hcname]
        rintro ⟨h, hname⟩
        exact hne ⟨Value.text.inj h, hname⟩
      rw [if_pos hc, List.find?_cons_of_neg hat, List.find?_cons_of_neg hc']
    · rw [if_neg hc, List.find?_cons, List.find?_cons, ih]

theorem load?_remove_self : (clients.remove (.text id) name).load? (.text id) name = none := by
  refine List.find?_eq_none.2 fun c hc hat => ?_
  have hkept := (List.mem_filter.1 hc).2
  rw [hat] at hkept
  cases hkept

theorem load?_remove_of_ne {id' name' : String} (hne : ¬ (id' = id ∧ name' = name)) :
    (clients.remove (.text id') name').load? (.text id) name = clients.load? (.text id) name := by
  show (clients.entries.filter _).find? _ = clients.entries.find? _
  rw [List.find?_filter]
  congr 1
  funext c
  by_cases hat : isAt (.text id) name c = true
  · have hother : isAt (.text id') name' c = false := by
      obtain ⟨hid, hname⟩ := (isAt_text _ _ c).1 hat
      refine Bool.eq_false_iff.2 fun h => hne ?_
      rw [isAt_text, hid, hname] at h
      exact ⟨(Value.text.inj h.1).symm, h.2.symm⟩
    rw [hat, hother]
    rfl
  · rw [Bool.eq_false_iff.2 hat]
    simp

end

/-! ## How many there are -/

/-- Every client is kept under a text and a name of its own. -/
structure Distinct (clients : Clients) : Prop where
  text : ∀ c ∈ clients.entries, ∃ id, c.registration.id = .text id
  nodup : clients.entries.Pairwise fun c d =>
    ¬ (c.registration.id = d.registration.id ∧ c.principalName = d.principalName)

theorem distinct_empty : Distinct {} := ⟨by simp, List.Pairwise.nil⟩

theorem mem_put {client d : AuthorizedClient} {entries : List AuthorizedClient}
    (h : d ∈ put client entries) : d = client ∨ d ∈ entries := by
  induction entries with
  | nil => exact Or.inl (List.mem_singleton.1 h)
  | cons c entries ih =>
    unfold put at h
    split at h
    · exact (List.mem_cons.1 h).imp_right (List.mem_cons_of_mem c)
    · rcases List.mem_cons.1 h with rfl | h
      · exact Or.inr List.mem_cons_self
      · exact (ih h).imp_right (List.mem_cons_of_mem c)

theorem Distinct.save {clients : Clients} (h : clients.Distinct) {client : AuthorizedClient}
    {id : String} (hid : client.registration.id = .text id) : (clients.save client).Distinct := by
  obtain ⟨entries⟩ := clients
  obtain ⟨htext, hnodup⟩ := h
  refine ⟨fun d hd => ?_, ?_⟩
  · rcases mem_put hd with rfl | hd
    · exact ⟨id, hid⟩
    · exact htext d hd
  · show (put client entries).Pairwise _
    change entries.Pairwise _ at hnodup
    clear htext
    induction entries with
    | nil => exact List.pairwise_singleton _ _
    | cons c entries ih =>
      obtain ⟨hc, hrest⟩ := List.pairwise_cons.1 hnodup
      unfold put
      rw [hid]
      by_cases hat : isAt (.text id) client.principalName c = true
      · obtain ⟨hcid, hcname⟩ := (isAt_text _ _ c).1 hat
        rw [if_pos hat]
        refine List.pairwise_cons.2 ⟨fun d hd => ?_, hrest⟩
        rw [hid, ← hcid, ← hcname]
        exact hc d hd
      · rw [if_neg hat]
        refine List.pairwise_cons.2 ⟨fun d hd => ?_, ih hrest⟩
        rcases mem_put hd with rfl | hd
        · rw [isAt_text] at hat
          rwa [hid]
        · exact hc d hd

theorem Distinct.remove {clients : Clients} (h : clients.Distinct) (id : Value) (name : String) :
    (clients.remove id name).Distinct :=
  ⟨fun c hc => h.text c (List.mem_filter.1 hc).1, h.nodup.filter _⟩

/-- The registrations and names under which a client is kept. -/
def present (clients : Clients) : Set (String × String) :=
  {k | ∃ client, clients.load? (.text k.1) k.2 = some client}

theorem ncard_present {clients : Clients} (h : clients.Distinct) :
    clients.present.ncard = clients.size := by
  obtain ⟨entries⟩ := clients
  obtain ⟨htext, hnodup⟩ := h
  show Set.ncard {k : String × String | ∃ client,
    entries.find? (isAt (.text k.1) k.2) = some client} = entries.length
  change ∀ c ∈ entries, _ at htext
  change entries.Pairwise _ at hnodup
  induction entries with
  | nil => simp
  | cons c entries ih =>
    obtain ⟨id, hid⟩ := htext c List.mem_cons_self
    obtain ⟨hc, hrest⟩ := List.pairwise_cons.1 hnodup
    have hset : {k : String × String | ∃ client,
        (c :: entries).find? (isAt (.text k.1) k.2) = some client} =
        insert (id, c.principalName) {k : String × String | ∃ client,
          entries.find? (isAt (.text k.1) k.2) = some client} := by
      ext ⟨id', name⟩
      rw [Set.mem_insert_iff, Set.mem_ofPred_eq, Set.mem_ofPred_eq]
      by_cases hat : isAt (.text id') name c = true
      · obtain ⟨hid', hname⟩ := (isAt_text _ _ c).1 hat
        rw [List.find?_cons_of_pos hat]
        refine iff_of_true ⟨c, rfl⟩ (Or.inl ?_)
        rw [Prod.mk.injEq]
        exact ⟨Value.text.inj (hid'.symm.trans hid), hname.symm⟩
      · rw [List.find?_cons_of_neg hat]
        refine ⟨Or.inr, fun h => h.resolve_left fun hk => hat ?_⟩
        obtain ⟨rfl, rfl⟩ := Prod.mk.inj hk
        exact (isAt_text _ _ c).2 ⟨hid, rfl⟩
    have hnew : (id, c.principalName) ∉ {k : String × String | ∃ client,
        entries.find? (isAt (.text k.1) k.2) = some client} := by
      rintro ⟨d, hd⟩
      obtain ⟨hdid, hdname⟩ := (isAt_text _ _ d).1 (List.find?_some hd)
      exact hc d (List.mem_of_find?_eq_some hd) ⟨hid.trans hdid.symm, hdname.symm⟩
    have hfinite : {k : String × String | ∃ client,
        entries.find? (isAt (.text k.1) k.2) = some client}.Finite := by
      have hinjective : Function.Injective fun k : String × String => (Value.text k.1, k.2) := by
        rintro ⟨id, name⟩ ⟨id', name'⟩ h
        simpa using h
      have hkeys := (List.finite_toSet
        (entries.map fun d => (d.registration.id, d.principalName))).preimage hinjective.injOn
      refine hkeys.subset ?_
      rintro ⟨id', name⟩ ⟨d, hd⟩
      obtain ⟨hdid, hdname⟩ := (isAt_text _ _ d).1 (List.find?_some hd)
      exact List.mem_map.2 ⟨d, List.mem_of_find?_eq_some hd, by rw [hdid, hdname]⟩
    rw [hset, Set.ncard_insert_of_notMem hnew hfinite,
      ih (fun d hd => htext d (List.mem_cons_of_mem c hd)) hrest, List.length_cons]

end Clients

/-! ## What an attempt records -/

theorem Repository.id_of_find? {repository : Repository} {id : String} {r : Registration}
    (h : repository.find? (.text id) = some r) : r.id = .text id := by
  have hsame := List.find?_some h
  exact (Value.sameScalar_text_right r.id id).1 hsame

namespace Attempt

variable {ε : Type} {repository : Repository} {store : RequestStore} {engine : Engine ε}

/-- An attempt has logged a user in with an access token: the client that authorizes it. -/
inductive Grants (repository : Repository) :
    Except Fault AttemptResult → AuthorizedClient → Prop where
  | intro {r : AttemptResult} {p : Principal} {t : LoginToken} {client : AuthorizedClient}
      (success : r.success? = some p) (token : r.loginToken = some t)
      (accessToken : t.accessToken = some client.accessToken)
      (registration : repository.find? p.registrationId = some client.registration)
      (name : p.name = .ok client.principalName) : Grants repository (.ok r) client

theorem Grants.unique {result : Except Fault AttemptResult} {client client' : AuthorizedClient}
    (h : Grants repository result client) (h' : Grants repository result client') :
    client = client' := by
  obtain ⟨registration, name, accessToken⟩ := client
  obtain ⟨registration', name', accessToken'⟩ := client'
  cases h with
  | intro hs ht ha hr hn =>
    cases h' with
    | intro hs' ht' ha' hr' hn' =>
      obtain rfl := Option.some.inj (hs.symm.trans hs')
      obtain rfl := Option.some.inj (ht.symm.trans ht')
      obtain rfl := Option.some.inj (ha.symm.trans ha')
      obtain rfl := Option.some.inj (hr.symm.trans hr')
      obtain rfl := Except.ok.inj (hn.symm.trans hn')
      rfl

theorem Grants.congr {result result' : Except Fault AttemptResult} {client : AuthorizedClient}
    (h : Grants repository result client) (hm : Alike AttemptResult.Matches result result') :
    Grants repository result' client := by
  cases h with
  | @intro r p t _ hs ht ha hr hn =>
    cases hm with
    | ok hm =>
      have hfilled := hm.filled
      rw [ht, Option.map_some] at hfilled
      obtain ⟨t', ht', hf⟩ := Option.map_eq_some_iff.1 hfilled.symm
      simp only [LoginToken.filled, Prod.mk.injEq] at hf
      exact .intro (hm.success?.symm.trans hs) ht' (hf.2.1.trans ha) hr hn

theorem not_grants_error (e : Fault) (client : AuthorizedClient) :
    ¬ Grants repository (.error e) client := nofun

theorem not_grants_failed (stage : Stage) (f : Failure) (client : AuthorizedClient) :
    ¬ Grants repository (.ok (failed stage f)) client := by
  rintro ⟨hs, -, -, -, -⟩
  simp [AttemptResult.success?, failed] at hs

theorem not_grants_of_no_token {p : Principal} {t : LoginToken} (h : t.accessToken = none)
    (client : AuthorizedClient) : ¬ Grants repository (.ok (succeeded p t)) client := by
  rintro ⟨-, ht, ha, -, -⟩
  obtain rfl := Option.some.inj ht
  rw [h] at ha
  cases ha

/-- What an attempt does to the authorized clients: it saves the one that it grants, which is kept
under a text, and without one it leaves them alone. -/
inductive Records (repository : Repository) (result : Except Fault AttemptResult)
    (clients : Clients) : Clients → Prop where
  | granted {client : AuthorizedClient} {id : String} (h : Grants repository result client)
      (hid : client.registration.id = .text id) :
      Records repository result clients (clients.save client)
  | nothing (h : ∀ client, ¬ Grants repository result client) :
      Records repository result clients clients

section

variable {st st' : Host ε} {calls : List ServiceCall} {result : Except Fault AttemptResult}

theorem Finishes.records {r : Registration} {t : LoginToken} {id : String}
    (hr : repository.find? (.text id) = some r) (hid : r.id = .text id)
    (h : Finishes (Host.services repository store engine true) r t st calls result st') :
    Records repository result st.clients st'.clients := by
  cases h with
  | unauthenticated | nameless => exact .nothing (not_grants_error _)
  | unrecorded ht hu hn hs =>
    rcases hs with hs | ha
    · cases hs
    · exact .nothing (not_grants_of_no_token ha)
  | recordingFaulted ht hu hn hs ha hsave =>
    obtain rfl := Option.some.inj hs
    cases hsave
  | @recorded user name save token st₁ ht hu hn hs ha hsave =>
    obtain rfl := Option.some.inj hs
    cases hsave
    have hgrants : Grants repository (.ok (succeeded (principal r t user) t)) ⟨r, name, token⟩ := by
      refine .intro rfl rfl ha ?_ hn
      show repository.find? r.id = some r
      rw [hid, hr]
    exact .granted hgrants hid

theorem Exchanges.records {t : LoginToken} {id : String}
    (hr : repository.find? (.text id) = some t.registration) (hid : t.registration.id = .text id)
    (h : Exchanges (Host.services repository store engine true) t st calls result st') :
    Records repository result st.clients st'.clients := by
  cases h with
  | failed ha =>
    obtain ⟨-, rfl⟩ := Prod.mk.inj ha
    exact .nothing (not_grants_failed _ _)
  | faulted ha =>
    obtain ⟨-, rfl⟩ := Prod.mk.inj ha
    exact .nothing (not_grants_error _)
  | returned ha hf =>
    obtain ⟨-, rfl⟩ := Prod.mk.inj ha
    have hrest := hf.records hr hid
    exact hrest

theorem Proceeds.records {request : AuthorizationRequest} {response : AuthorizationResponse}
    (h : Proceeds (Host.services repository store engine true) request response st calls result st') :
    Records repository result st.clients st'.clients := by
  cases h with
  | stateKind => exact .nothing (not_grants_error _)
  | stateDiffers => exact .nothing (not_grants_failed _ _)
  | lookupFaulted _ _ hf => cases hf
  | unknown _ _ hf =>
    obtain ⟨-, rfl⟩ := Prod.mk.inj hf
    exact .nothing (not_grants_failed _ _)
  | known _ _ hf hx =>
    obtain ⟨hfound, rfl⟩ := Prod.mk.inj hf
    exact hx.records (Except.ok.inj hfound) (Repository.id_of_find? (Except.ok.inj hfound))

theorem Follows.records {c : Callback}
    (h : Follows (Host.services repository store engine true) c st calls result st') :
    Records repository result st.clients st'.clients := by
  cases h with
  | refused => exact .nothing (not_grants_failed _ _)
  | retrievalFaulted _ hr =>
    obtain ⟨-, rfl⟩ := Prod.mk.inj hr
    exact .nothing (not_grants_error _)
  | notFound _ hr =>
    obtain ⟨-, rfl⟩ := Prod.mk.inj hr
    exact .nothing (not_grants_failed _ _)
  | found _ hr hp =>
    obtain ⟨-, rfl⟩ := Prod.mk.inj hr
    exact hp.records

theorem records_run (repository : Repository) (store : RequestStore) (engine : Engine ε)
    (host : Host ε) (c : Callback) :
    Records repository ((run (Host.services repository store engine true) c).runOn host).1
      host.clients ((run (Host.services repository store engine true) c).runOn host).2.clients := by
  obtain ⟨calls, result, st', h⟩ :=
    exists_follows (Host.services repository store engine true) host c
  rw [h.runOn]
  exact h.records

end

/-! ## An attempt does not look at the clients -/

/-- The hosts differ at most in their clients. -/
def SameButClients (h h' : Host ε) : Prop := { h with clients := {} } = { h' with clients := {} }

theorem SameButClients.log {h h' : Host ε} (hs : SameButClients h h') (r : Record) :
    SameButClients (h.log r) (h'.log r) := by
  obtain ⟨now, session, clients, journal, engine⟩ := h
  obtain ⟨now', session', clients', journal', engine'⟩ := h'
  simp only [SameButClients, Host.mk.injEq] at hs
  obtain ⟨rfl, rfl, -, rfl, rfl⟩ := hs
  rfl

theorem parallel_services : (Host.services repository store engine true).Parallel SameButClients
    Eq Eq (Host.services repository store engine true) where
  findRegistration id := Action.parallel_pure (by cases repository.find? id <;> constructor; rfl)
  authenticate := by
    rintro t _ rfl ⟨now, session, clients, journal, st⟩ ⟨now', session', clients', journal', st'⟩ hs
    simp only [SameButClients, Host.mk.injEq] at hs
    obtain ⟨rfl, rfl, -, rfl, rfl⟩ := hs
    exact ⟨alike_refl (R := fun t t' => LoginToken.filled t = LoginToken.filled t') (fun _ => rfl)
      ((engine now t).runOn (journal, st)).1, rfl⟩
  saveClient := Or.inr ⟨_, _, rfl, rfl, fun _ _ => Action.parallel_change fun h h' hs => hs⟩
  log r _ _ hs := hs.log r

/-- Whom an attempt grants what does not depend on the clients that are known already. -/
theorem grants_iff_of_same (repository : Repository) (store : RequestStore) (engine : Engine ε)
    {h h' : Host ε} (hs : SameButClients h h') (c : Callback)
    (client : AuthorizedClient) :
    Grants repository ((run (Host.services repository store engine true) c).runOn h).1 client ↔
      Grants repository ((run (Host.services repository store engine true) c).runOn h').1 client := by
  have hmatches : ∀ h h' : Host ε, SameButClients h h' → Alike AttemptResult.Matches
      ((run (Host.services repository store engine true) c).runOn h).1
      ((run (Host.services repository store engine true) c).runOn h').1 := by
    intro h h' hs
    refine (matches_run (P := Eq) parallel_services (fun r r' h => congrArg _ h) rfl ?_ hs
      fun _ => ?_).1
    · rintro request _ rfl
      refine ⟨⟨rfl, alike_refl (R := fun state state' => some state = _ ↔ some state' = _)
        (fun _ => Iff.rfl) _⟩, ?_⟩
      rintro r _ rfl
      rfl
    · obtain ⟨now, session, clients, journal, engine⟩ := h
      obtain ⟨now', session', clients', journal', engine'⟩ := h'
      simp only [SameButClients, Host.mk.injEq] at hs
      obtain ⟨rfl, rfl, -, rfl, rfl⟩ := hs
      exact ⟨alike_refl (fun found => by cases found <;> constructor; rfl) _, rfl⟩
  exact ⟨fun hg => hg.congr (hmatches h h' hs), fun hg => hg.congr (hmatches h' h hs.symm)⟩

end Attempt

/-! ## Runs of events -/

/-- What happens to a service of authorized clients. -/
inductive ClientEvent : Type 1 where
  | attempt {ε : Type} (repository : Repository) (store : RequestStore) (engine : Engine ε)
      (host : Host ε) (c : Callback)
  | load (id name : String)
  | remove (id name : String)

namespace ClientEvent

/-- The clients after an event. An attempt finds them in the place of those of its host. -/
def after (clients : Clients) : ClientEvent → Clients
  | attempt repository store engine host c =>
    ((Attempt.run (Host.services repository store engine true) c).runOn
      { host with clients }).2.clients
  | load _ _ => clients
  | remove id name => clients.remove (.text id) name

/-- The event is an attempt that has logged a user in with an access token. -/
def Authorizes : ClientEvent → AuthorizedClient → Prop
  | attempt repository store engine host c => Attempt.Grants repository
      ((Attempt.run (Host.services repository store engine true) c).runOn host).1
  | load _ _ => fun _ => False
  | remove _ _ => fun _ => False

/-- The event is a login of the user through the registration, or removes their client. -/
def Touches (e : ClientEvent) (id name : String) : Prop :=
  (∃ client, e.Authorizes client ∧ client.registration.id = .text id ∧ client.principalName = name) ∨
    e = remove id name

variable {e : ClientEvent} {clients : Clients} {id name : String}

theorem Authorizes.unique {client client' : AuthorizedClient} (h : e.Authorizes client)
    (h' : e.Authorizes client') : client = client' := by
  cases e with
  | attempt => exact Attempt.Grants.unique h h'
  | load | remove => exact h.elim

theorem records_after (clients : Clients) (repository : Repository) {ε : Type}
    (store : RequestStore) (engine : Engine ε) (host : Host ε) (c : Callback) :
    (∃ client id, (attempt repository store engine host c).Authorizes client ∧
      client.registration.id = .text id ∧
      (attempt repository store engine host c).after clients = clients.save client) ∨
    ((∀ client, ¬ (attempt repository store engine host c).Authorizes client) ∧
      (attempt repository store engine host c).after clients = clients) := by
  have hsame : Attempt.SameButClients host { host with clients } := rfl
  have hgrants := fun client =>
    Attempt.grants_iff_of_same repository store engine hsame c client
  have hrecords := Attempt.records_run repository store engine { host with clients } c
  generalize hafter : ((Attempt.run (Host.services repository store engine true) c).runOn
    { host with clients }).2.clients = clients' at hrecords
  cases hrecords with
  | @granted client id h hid => exact Or.inl ⟨client, id, (hgrants client).2 h, hid, hafter⟩
  | nothing h => exact Or.inr ⟨fun client hc => h client ((hgrants client).1 hc), hafter⟩

/-- A login with an access token records its client. -/
theorem after_of_authorizes {client : AuthorizedClient} (h : e.Authorizes client)
    (clients : Clients) :
    ∃ id, client.registration.id = .text id ∧ e.after clients = clients.save client := by
  cases e with
  | attempt repository store engine host c =>
    rcases records_after clients repository store engine host c with
      ⟨client', id, h', hid, hafter⟩ | ⟨hnone, -⟩
    · obtain rfl := h.unique h'
      exact ⟨id, hid, hafter⟩
    · exact absurd h (hnone client)
  | load | remove => exact h.elim

/-- Neither a failed attempt nor a login without an access token nor a look-up changes anything. -/
theorem after_of_idle (h : ∀ client, ¬ e.Authorizes client) (hr : ∀ id name, e ≠ remove id name)
    (clients : Clients) : e.after clients = clients := by
  cases e with
  | attempt repository store engine host c =>
    rcases records_after clients repository store engine host c with ⟨client, -, hc, -⟩ | ⟨-, hafter⟩
    · exact absurd hc (h client)
    · exact hafter
  | load => rfl
  | remove id name => exact absurd rfl (hr id name)

theorem load?_after_of_not_touches (h : ¬ e.Touches id name) (clients : Clients) :
    (e.after clients).load? (.text id) name = clients.load? (.text id) name := by
  by_cases hauthorizes : ∃ client, e.Authorizes client
  · obtain ⟨client, hclient⟩ := hauthorizes
    obtain ⟨id', hid, hafter⟩ := after_of_authorizes hclient clients
    rw [hafter]
    refine Clients.load?_save_of_ne hid fun ⟨heq, hname⟩ => h (Or.inl ⟨client, hclient, ?_, hname⟩)
    rw [hid, heq]
  · by_cases hremoves : ∃ id' name', e = remove id' name'
    · obtain ⟨id', name', rfl⟩ := hremoves
      refine Clients.load?_remove_of_ne ?_
      rintro ⟨rfl, rfl⟩
      exact h (Or.inr rfl)
    · have hafter := after_of_idle (fun client hc => hauthorizes ⟨client, hc⟩)
        (fun id' name' he => hremoves ⟨id', name', he⟩) clients
      rw [hafter]

theorem distinct_after (h : clients.Distinct) (e : ClientEvent) : (e.after clients).Distinct := by
  by_cases hauthorizes : ∃ client, e.Authorizes client
  · obtain ⟨client, hclient⟩ := hauthorizes
    obtain ⟨id, hid, hafter⟩ := after_of_authorizes hclient clients
    rw [hafter]
    exact h.save hid
  · cases e with
    | attempt | load =>
      rw [after_of_idle (fun client hc => hauthorizes ⟨client, hc⟩) (fun _ _ => nofun)]
      exact h
    | remove id name => exact h.remove _ _

end ClientEvent

/-- The clients after some events, of which the first finds none. -/
def clientsAfter (es : List ClientEvent) : Clients := es.foldl ClientEvent.after {}

/-- One of the events was a login of the user through the registration that has authorized the
client, and since then neither has the user logged in through it nor was the client removed. -/
def LastAuthorized (es : List ClientEvent) (id name : String) (client : AuthorizedClient) : Prop :=
  ∃ before e later, es = before ++ e :: later ∧ e.Authorizes client ∧
    client.registration.id = .text id ∧ client.principalName = name ∧
    ∀ e' ∈ later, ¬ e'.Touches id name

section

variable {es : List ClientEvent} {e : ClientEvent} {id name : String} {client : AuthorizedClient}

theorem clientsAfter_concat : clientsAfter (es ++ [e]) = e.after (clientsAfter es) := by
  unfold clientsAfter
  rw [List.foldl_append]
  rfl

theorem distinct_clientsAfter (es : List ClientEvent) : (clientsAfter es).Distinct := by
  induction es using List.reverseRecOn with
  | nil => exact Clients.distinct_empty
  | append_singleton es e ih =>
    rw [clientsAfter_concat]
    exact ClientEvent.distinct_after ih e

theorem lastAuthorized_concat : LastAuthorized (es ++ [e]) id name client ↔
    (e.Authorizes client ∧ client.registration.id = .text id ∧ client.principalName = name) ∨
      (¬ e.Touches id name ∧ LastAuthorized es id name client) := by
  constructor
  · rintro ⟨before, e', later, heq, he', hid, hname, hlater⟩
    rcases List.eq_nil_or_concat later with rfl | ⟨later', last, rfl⟩
    · obtain ⟨-, he⟩ := List.append_inj' heq rfl
      obtain rfl := (List.cons.inj he).1
      exact Or.inl ⟨he', hid, hname⟩
    · rw [List.concat_eq_append] at heq hlater
      have heq' : es ++ [e] = (before ++ e' :: later') ++ [last] := by
        rw [heq, List.append_assoc, List.cons_append]
      obtain ⟨hes, he⟩ := List.append_inj' heq' rfl
      obtain rfl := (List.cons.inj he).1
      refine Or.inr ⟨hlater e (by simp), before, e', later', hes, he', hid, hname, ?_⟩
      intro e'' he''
      exact hlater e'' (by simp [he''])
  · rintro (⟨he, hid, hname⟩ | ⟨hnot, before, e', later, rfl, he', hid, hname, hlater⟩)
    · exact ⟨es, e, [], rfl, he, hid, hname, by simp⟩
    · refine ⟨before, e', later ++ [e], by simp, he', hid, hname, ?_⟩
      intro e'' he''
      rcases List.mem_append.1 he'' with he'' | he''
      · exact hlater e'' he''
      · rwa [List.mem_singleton.1 he'']

theorem load?_eq_some_iff_lastAuthorized (es : List ClientEvent) (id name : String)
    (client : AuthorizedClient) :
    (clientsAfter es).load? (.text id) name = some client ↔ LastAuthorized es id name client := by
  induction es using List.reverseRecOn with
  | nil =>
    refine iff_of_false nofun ?_
    rintro ⟨before, e, later, heq, -⟩
    simp at heq
  | append_singleton es e ih =>
    rw [clientsAfter_concat, lastAuthorized_concat]
    by_cases htouches : e.Touches id name
    · simp only [htouches, not_true, false_and, or_false]
      rcases htouches with ⟨granted, hgranted, hid, hname⟩ | rfl
      · obtain ⟨-, -, hafter⟩ := ClientEvent.after_of_authorizes hgranted (clientsAfter es)
        rw [hafter, Clients.load?_save_self hid hname, Option.some.injEq]
        constructor
        · rintro rfl
          exact ⟨hgranted, hid, hname⟩
        · rintro ⟨hclient, -, -⟩
          exact hgranted.unique hclient
      · show ((clientsAfter es).remove (.text id) name).load? (.text id) name = some client ↔ _
        rw [Clients.load?_remove_self]
        exact iff_of_false nofun fun h => h.1
    · rw [ClientEvent.load?_after_of_not_touches htouches, ih]
      constructor
      · exact fun h => Or.inr ⟨htouches, h⟩
      · rintro (⟨he, hid, hname⟩ | ⟨-, h⟩)
        · exact absurd (Or.inl ⟨client, he, hid, hname⟩) htouches
        · exact h

end

/-- The service mirrors the logins. Under a registration and a name is kept the client of the last
login of that user through that registration with an access token, unless it was removed since. The
client keeps the registration and the access token of that login, as `LastAuthorized` says. What is
neither such a login nor the removal of the client leaves what is kept under the registration and
the name alone, and what is neither a login with an access token nor a removal changes nothing.
There are as many clients as registrations and names under which one is kept. -/
theorem load?_clientsAfter (es : List ClientEvent) :
    (∀ id name client, (clientsAfter es).load? (.text id) name = some client ↔
      LastAuthorized es id name client) ∧
    (∀ (e : ClientEvent) id name, ¬ e.Touches id name →
      (clientsAfter (es ++ [e])).load? (.text id) name =
        (clientsAfter es).load? (.text id) name) ∧
    (∀ e : ClientEvent, (∀ client, ¬ e.Authorizes client) → (∀ id name, e ≠ .remove id name) →
      clientsAfter (es ++ [e]) = clientsAfter es) ∧
    (clientsAfter es).size =
      Set.ncard {k : String × String | ∃ client, LastAuthorized es k.1 k.2 client} := by
  refine ⟨load?_eq_some_iff_lastAuthorized es, fun e id name h => ?_, fun e h hr => ?_, ?_⟩
  · rw [clientsAfter_concat]
    exact ClientEvent.load?_after_of_not_touches h _
  · rw [clientsAfter_concat]
    exact ClientEvent.after_of_idle h hr _
  · rw [← Clients.ncard_present (distinct_clientsAfter es)]
    congr 1
    ext ⟨id, name⟩
    have hload := load?_eq_some_iff_lastAuthorized es id name
    exact exists_congr hload

end LoginCallback
