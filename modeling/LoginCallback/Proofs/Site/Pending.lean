import LoginCallback.Proofs.Session.Faults
import LoginCallback.Proofs.Site.Kept

/-!
# Pending requests of a site

The pending requests that a store wrote into a session are found again although the session comes
back sorted: each entry still holds a request with the state under which it stands, and an expiry
that can be read (`Sound`). A store works on such a session without faults (`Fit.retrieve`),
and what it leaves is sound again (`Fit.save`).
-/

namespace LoginCallback.Site

open Time SessionStore

/-! ## Entries -/

/-- The fields of a request with the state `t`. -/
structure RequestFields (fs : Entries) (t : String) : Prop where
  keys : TextKeys fs
  clientId : ∃ v, Entries.text? fs "client_id" = some v
  authorizationUri : ∃ v, Entries.text? fs "authorization_uri" = some v
  redirectUri : ∃ v, Entries.text? fs "redirect_uri" = some v
  state : Entries.text? fs "state" = some (.text t)
  scopes : ∃ xs, Entries.text? fs "scopes" = some (.list xs)
  parameters : ∃ ps, Entries.text? fs "additional_parameters" = some (.mapping ps)

/-- An expiry that can be read. -/
def Readable (v : Value) : Prop := v = .null ∨ ∃ m : Moment, m.Universal ∧ v = .text m.toText

/-- The fields of the entry of a request with the state `t`. -/
structure EntryFields (es : Entries) (t : String) : Prop where
  keys : TextKeys es
  request : ∃ fs, Entries.text? es "request" = some (.mapping fs) ∧ RequestFields fs t
  expiry : ∃ v, Entries.text? es "expires_at" = some v ∧ Readable v

/-- An entry as a store writes it, or as it comes back. -/
def Sound (e : Value × Value) : Prop := ∃ t es, e = (.text t, .mapping es) ∧ EntryFields es t

theorem item_of_text? {es : Entries} {k : String} {v : Value} (h : Entries.text? es k = some v) :
    ofValue ((Value.mapping es).item k) = .ok v := by
  simp [ofValue, Value.item, h]

theorem getD_of_text? {es : Entries} {k : String} {v : Value} (h : Entries.text? es k = some v)
    (default : Value) : (Value.mapping es).getD k default = .ok v := by
  unfold Value.getD
  simp [Value.entriesFor, h, bind, Except.bind, pure, Except.pure]

theorem RequestFields.read {fs : Entries} {t : String} (h : RequestFields fs t) :
    ∃ r, AuthorizationRequest.read (.mapping fs) = .ok r ∧ r.state = .text t := by
  obtain ⟨clientId, hclient⟩ := h.clientId
  obtain ⟨authorizationUri, hauthorization⟩ := h.authorizationUri
  obtain ⟨redirectUri, hredirect⟩ := h.redirectUri
  obtain ⟨scopes, hscopes⟩ := h.scopes
  obtain ⟨parameters, hparameters⟩ := h.parameters
  refine ⟨_, bind_eq_ok.2 ⟨clientId, item_of_text? hclient, bind_eq_ok.2
    ⟨authorizationUri, item_of_text? hauthorization, bind_eq_ok.2 ⟨redirectUri,
      item_of_text? hredirect, bind_eq_ok.2 ⟨.text t, item_of_text? h.state, bind_eq_ok.2
        ⟨scopes, ?_, bind_eq_ok.2 ⟨parameters, ?_, rfl⟩⟩⟩⟩⟩⟩, rfl⟩
  · rw [getD_of_text? hscopes]
    rfl
  · rw [getD_of_text? hparameters]
    rfl

theorem EntryFields.requestOf_eq {es : Entries} {t : String} (h : EntryFields es t) :
    ∃ r, requestOf (.mapping es) = .ok r ∧ r.state = .text t := by
  obtain ⟨fs, hrequest, hfields⟩ := h.request
  obtain ⟨r, hr, hstate⟩ := hfields.read
  exact ⟨r, bind_eq_ok.2 ⟨.mapping fs, item_of_text? hrequest, hr⟩, hstate⟩

/-- An expiry that can be read is read at any universal time. -/
theorem EntryFields.legible {es : Entries} {t : String} (h : EntryFields es t) {now : Moment}
    (hnow : now.offset = some 0) : Legible now (.mapping es) := by
  obtain ⟨v, hexpiry, hreadable⟩ := h.expiry
  have hread : ofValue ((Value.mapping es).getD "expires_at" .null) = .ok v := by
    rw [getD_of_text? hexpiry]
    rfl
  unfold Legible isExpired
  rw [hread]
  rcases hreadable with rfl | ⟨m, hm, rfl⟩
  · exact ⟨false, rfl⟩
  · refine ⟨decide (m.ticks ≤ now.ticks), ?_⟩
    simp [Value.truthy, Moment.isEmpty_toText, Moment.read_toText hm, Moment.notAfter, hm.offset_eq,
      hnow, bind, Except.bind]

/-! ## Entries that come back -/

theorem RequestFields.kept {fs : Entries} {t : String} (h : RequestFields fs t) {v : Value}
    (hkept : Site.kept (.mapping fs) = .ok v) : ∃ fs', v = .mapping fs' ∧ RequestFields fs' t := by
  obtain ⟨fs', rfl, hkeys, hreturns⟩ := returns_of_kept h.keys hkept
  obtain ⟨xs, hscopes⟩ := h.scopes
  obtain ⟨ps, hparameters⟩ := h.parameters
  obtain ⟨state, hstate, hstate'⟩ := hreturns.of_some h.state
  obtain ⟨scopes, hkeptScopes, hscopes'⟩ := hreturns.of_some hscopes
  obtain ⟨parameters, hkeptParameters, hparameters'⟩ := hreturns.of_some hparameters
  obtain rfl := Except.ok.inj hstate
  obtain ⟨ys, -, rfl⟩ := kept_list_eq_ok.1 hkeptScopes
  obtain ⟨-, ps', -, -, rfl⟩ := kept_mapping_eq_ok.1 hkeptParameters
  have hsome : ∀ k, (∃ v, Entries.text? fs k = some v) → ∃ v, Entries.text? fs' k = some v := by
    rintro k ⟨v, hv⟩
    obtain ⟨w, -, hw⟩ := hreturns.of_some hv
    exact ⟨w, hw⟩
  exact ⟨fs', rfl, hkeys, hsome _ h.clientId, hsome _ h.authorizationUri, hsome _ h.redirectUri,
    hstate', ⟨ys, hscopes'⟩, ⟨ps', hparameters'⟩⟩

theorem Readable.kept {v w : Value} (h : Readable v) (hkept : Site.kept v = .ok w) : w = v := by
  rcases h with rfl | ⟨m, -, rfl⟩
  · exact (Except.ok.inj hkept).symm
  · exact (Except.ok.inj hkept).symm

theorem EntryFields.kept {es : Entries} {t : String} (h : EntryFields es t) {v : Value}
    (hkept : Site.kept (.mapping es) = .ok v) : ∃ es', v = .mapping es' ∧ EntryFields es' t := by
  obtain ⟨es', rfl, hkeys, hreturns⟩ := returns_of_kept h.keys hkept
  obtain ⟨fs, hrequest, hfields⟩ := h.request
  obtain ⟨expiry, hexpiry, hreadable⟩ := h.expiry
  obtain ⟨request, hkeptRequest, hrequest'⟩ := hreturns.of_some hrequest
  obtain ⟨expiry', hkeptExpiry, hexpiry'⟩ := hreturns.of_some hexpiry
  obtain ⟨fs', rfl, hfields'⟩ := hfields.kept hkeptRequest
  obtain rfl := hreadable.kept hkeptExpiry
  exact ⟨es', rfl, hkeys, ⟨fs', hrequest', hfields'⟩, ⟨_, hexpiry', hreadable⟩⟩

theorem Sound.isText {e : Value × Value} (h : Sound e) : e.1.isText = true := by
  obtain ⟨t, es, rfl, -⟩ := h
  rfl

/-- Sound entries come back sound. -/
theorem sound_of_kept {es : Entries} (h : ∀ e ∈ es, Sound e) {v : Value}
    (hkept : kept (.mapping es) = .ok v) : ∃ es', v = .mapping es' ∧ ∀ e ∈ es', Sound e := by
  have hkeys : TextKeys es := fun e he => (h e he).isText
  obtain ⟨es', rfl, -⟩ := returns_of_kept hkeys hkept
  refine ⟨es', rfl, fun e he => ?_⟩
  obtain ⟨w, hw, hback⟩ := mem_of_kept hkeys hkept he
  obtain ⟨t, fs, heq, hfields⟩ := h _ hw
  obtain ⟨hkey, rfl⟩ := Prod.mk.inj heq
  obtain ⟨fs', hvalue, hfields'⟩ := hfields.kept hback
  exact ⟨t, fs', Prod.ext hkey hvalue, hfields'⟩

/-! ## Sessions -/

variable (s : SessionStore) {session session' : Session} {now : Moment}

/-- The pending requests of a session are as a store writes them. -/
def SoundIn (session : Session) : Prop := Entries.text? session s.key = none ∨
  ∃ es, Entries.text? session s.key = some (.mapping es) ∧ ∀ e ∈ es, Sound e

/-- A session as a visit finds it. -/
structure Fit (session : Session) : Prop where
  settled : Settled session
  sound : SoundIn s session

/-- A session as a visit leaves it: it will come back. -/
structure Storable (session : Session) : Prop where
  keys : TextKeys session
  values : ∀ e ∈ session, ∃ w, kept e.2 = .ok w
  sound : SoundIn s session

variable {s}

theorem SoundIn.congr (h : SoundIn s session)
    (hkey : Entries.text? session' s.key = Entries.text? session s.key) : SoundIn s session' := by
  unfold SoundIn
  rwa [hkey]

theorem Fit.storable (h : Fit s session) : Storable s session :=
  ⟨h.settled.keys, fun e he => ⟨e.2, h.settled.values e he⟩, h.sound⟩

/-- A session whose pending requests are sound comes back with sound ones. -/
theorem fit_of_keptSession (hkeys : TextKeys session) (h : SoundIn s session)
    (hkept : keptSession session = .ok session') : Fit s session' := by
  refine ⟨settled_of_keptSession hkept, ?_⟩
  have hreturns := returns_of_keptSession hkeys hkept
  rcases h with hnone | ⟨es, hes, hsound⟩
  · exact Or.inl (hreturns.of_none hnone)
  · obtain ⟨v, hback, hv⟩ := hreturns.of_some hes
    obtain ⟨es', rfl, hsound'⟩ := sound_of_kept hsound hback
    exact Or.inr ⟨es', hv, hsound'⟩

theorem SoundIn.stored (h : SoundIn s session) :
    ∃ es, s.stored session = .ok es ∧ (∀ e ∈ es, Sound e) ∧
      (es = [] ∨ Entries.text? session s.key = some (.mapping es)) := by
  unfold SessionStore.stored
  rcases h with hnone | ⟨es, hes, hsound⟩
  · rw [hnone]
    exact ⟨[], rfl, by simp, Or.inl rfl⟩
  · rw [hes]
    cases es with
    | nil => exact ⟨[], rfl, by simp, Or.inl rfl⟩
    | cons e es => exact ⟨e :: es, rfl, hsound, Or.inr rfl⟩

theorem SoundIn.load (h : SoundIn s session) (hnow : now.offset = some 0) :
    ∃ es, (s.load now session).2 = .ok es ∧ (∀ e ∈ es, Sound e) ∧
      ∃ all, es.Sublist all ∧ (all = [] ∨ Entries.text? session s.key = some (.mapping all)) := by
  obtain ⟨all, hstored, hsound, hall⟩ := h.stored
  have hlegible : ∀ e ∈ all, Legible now e.2 := by
    intro e he
    obtain ⟨t, es, rfl, hfields⟩ := hsound e he
    exact hfields.legible hnow
  exact ⟨all.filter (lasts now), s.load_eq_ok_iff.2 ⟨all, hstored, hlegible, rfl⟩,
    fun e he => hsound e (List.mem_filter.1 he).1, all, List.filter_sublist, hall⟩

/-! ## Writing into a session -/

theorem TextKeys.insert (h : TextKeys session) (k : String) (v : Value) :
    TextKeys (session.insert (.text k) v) := by
  intro e he
  rcases Entries.mem_insert he with he | rfl
  · exact h e he
  · rfl

theorem TextKeys.erase (h : TextKeys session) (key : Value) : TextKeys (session.erase key) :=
  fun e he => h e (List.mem_filter.1 he).1

theorem soundIn_insert {es : Entries} (h : ∀ e ∈ es, Sound e) :
    SoundIn s (session.insert (.text s.key) (.mapping es)) :=
  Or.inr ⟨es, Entries.text?_insert_self _ _ _, h⟩

/-- A session can be given another entry that comes back. -/
theorem Storable.insert (h : Storable s session) {k : String} (hk : s.key ≠ k) {v : Value}
    (hv : ∃ w, kept v = .ok w) : Storable s (session.insert (.text k) v) := by
  refine ⟨h.keys.insert k v, fun e he => ?_, h.sound.congr (Entries.text?_insert_of_ne _ hk v)⟩
  rcases Entries.mem_insert he with he | rfl
  · exact h.values e he
  · exact hv

theorem Storable.erase (h : Storable s session) {k : String} (hk : s.key ≠ k) :
    Storable s (session.erase (.text k)) :=
  ⟨h.keys.erase _, fun e he => h.values e (List.mem_filter.1 he).1,
    h.sound.congr (Entries.text?_erase_of_ne _ hk)⟩

/-- A part of the pending requests of a session can be written into it. -/
theorem Fit.withPending (h : Fit s session) {pending all : Entries}
    (hsound : ∀ e ∈ pending, Sound e) (hpart : pending.Sublist all)
    (hall : all = [] ∨ Entries.text? session s.key = some (.mapping all)) :
    Storable s (s.withPending session pending) := by
  unfold SessionStore.withPending
  split
  · exact ⟨h.settled.keys.erase _, fun e he => h.storable.values e (List.mem_filter.1 he).1,
      Or.inl (Entries.text?_erase_self _ _)⟩
  · rename_i hne
    have hstable : ∀ e ∈ all, Stable e.2 := by
      rcases hall with rfl | hall
      · simp
      · have hmapping : Stable (.mapping all) := h.settled.values _ (Entries.mem_of_text? hall)
        obtain ⟨es₁, es₂, hkept, hsort, heq⟩ := kept_mapping_eq_ok.1 hmapping
        obtain rfl := Value.mapping.inj heq
        intro e he
        obtain ⟨e', he', hvalue⟩ := mem_of_sortEntries hsort he
        rw [← hvalue]
        exact stable_of_keptEntries hkept e' he'
    have hback : ∃ w, kept (.mapping pending) = .ok w :=
      exists_kept_mapping (fun e he => (hsound e he).isText)
        fun e he => ⟨e.2, hstable e (hpart.subset he)⟩
    refine ⟨h.settled.keys.insert _ _, fun e he => ?_, soundIn_insert hsound⟩
    rcases Entries.mem_insert he with he | rfl
    · exact h.storable.values e he
    · exact hback

/-! ## Operations of the store -/

/-- A retrieval from a session as a visit finds it returns, with a request of the state if there is
one, and leaves what will come back. -/
theorem Fit.retrieve (h : Fit s session) (hnow : now.offset = some 0) {state : String}
    (hstate : state ≠ "") :
    (∃ found, (s.retrieve now (.text state) session).result = .ok found ∧
      ∀ r, found = some r → r.state = .text state) ∧
    Storable s (s.retrieve now (.text state) session).session := by
  obtain ⟨es, hload, hsound, all, hpart, hall⟩ := h.sound.load hnow
  obtain ⟨hresult, hsession⟩ := s.retrieve_of_load hstate hload
  rw [hresult, hsession]
  refine ⟨?_, h.withPending (fun e he => hsound e (List.mem_filter.1 he).1)
    (List.filter_sublist.trans hpart) hall⟩
  unfold answerOf
  cases hfound : Entries.text? es state with
  | none => exact ⟨none, rfl, by simp⟩
  | some entry =>
    obtain ⟨t, fs, heq, hfields⟩ := hsound _ (Entries.mem_of_text? hfound)
    obtain ⟨hkey, rfl⟩ := Prod.mk.inj heq
    obtain rfl := Value.text.inj hkey
    obtain ⟨r, hr, hrstate⟩ := hfields.requestOf_eq
    refine ⟨some r, by simp only [hr]; rfl, ?_⟩
    rintro r' heq
    obtain rfl := Option.some.inj heq
    exact hrstate

/-- The entry of a request that is saved. -/
theorem sound_of_entry (hnow : now.Universal) {r : AuthorizationRequest} {t : String}
    (hstate : r.state = .text t) {e : Value × Value} (h : s.entry now r = .ok e) : Sound e := by
  obtain ⟨key, hkey, h⟩ := bind_eq_ok.1 h
  obtain ⟨expiry, hexpiry, h⟩ := bind_eq_ok.1 h
  obtain rfl := Except.ok.inj h
  rw [hstate] at hkey
  obtain rfl := Except.ok.inj hkey
  obtain ⟨htimely, hvalue⟩ := s.expiry_eq_ok hnow.offset_eq hexpiry r
  have hreadable : Readable expiry := by
    rw [hvalue]
    cases hexpires : s.expiresAt? now with
    | none => exact Or.inl rfl
    | some m => exact Or.inr ⟨m, htimely m hexpires, rfl⟩
  refine ⟨t, _, rfl, by simp [TextKeys, Value.isText], ⟨_, rfl, ?_⟩, ⟨_, rfl, hreadable⟩⟩
  exact ⟨by simp [TextKeys, Value.isText], ⟨_, rfl⟩, ⟨_, rfl⟩, ⟨_, rfl⟩,
    congrArg some hstate, ⟨_, rfl⟩, ⟨_, rfl⟩⟩

theorem newest_subset (es : Entries) : s.newest es ⊆ es := by
  unfold newest
  split
  · exact List.drop_subset _ _
  · exact List.Subset.refl _

/-- Saving a request leaves sound pending requests, and what there is under other keys. -/
theorem Fit.save (h : Fit s session) (hnow : now.Universal) {r : AuthorizationRequest} {t : String}
    (hstate : r.state = .text t) : TextKeys (s.save now r session).session ∧
      SoundIn s (s.save now r session).session ∧
      ∀ k, k ≠ s.key → Entries.text? (s.save now r session).session k = Entries.text? session k := by
  cases hresult : (s.save now r session).result with
  | error e =>
    rw [s.session_of_save_error hresult]
    exact ⟨h.settled.keys, h.sound, fun _ _ => rfl⟩
  | ok _ =>
    obtain ⟨pending, entry, hin⟩ := s.admits_of_save_ok hresult
    obtain ⟨pending', hload, hsound, -⟩ := h.sound.load hnow.offset_eq
    obtain rfl := Except.ok.inj (hin.load_eq.symm.trans hload)
    have hwritten : ∀ e ∈ s.newest (pending.erase entry.1 ++ [entry]), Sound e := by
      intro e he
      rcases List.mem_append.1 (newest_subset _ he) with he | he
      · exact hsound e (List.mem_filter.1 he).1
      · rw [List.mem_singleton.1 he]
        exact sound_of_entry hnow hstate hin.entry_eq
    rw [(s.save_of_admits hin).2]
    exact ⟨h.settled.keys.insert _ _, soundIn_insert hwritten,
      fun k hk => Entries.text?_insert_of_ne _ hk _⟩

end LoginCallback.Site
