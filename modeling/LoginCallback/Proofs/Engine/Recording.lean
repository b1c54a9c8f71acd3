import LoginCallback.Proofs.Engine.Isolation

/-!
# What the recorder gets of the logins

An engine hands every request it sends, with what came of it, to its recorder: exactly once, in
order and numbered from one, whether the provider answers or faults. The recorder keeps the latest
exchanges, as many as it may, and writes each of them to the journal. None of this changes the
logins. Main statement: `exchanges_recorded`, about all sequences of logins through one engine.

The steps are those of a login. A request that is sent adds one exchange to those recorded
(`recorded_transmit`), and the engine's own records of the journal are not of the protocol, so the
invariant `Recorded` is maintained by whatever speaks to the provider.
-/

namespace LoginCallback

/-! ## The journal -/

namespace Journal

/-- The records of exchanges, in the order in which they were made. -/
def ofProtocol (j : Journal) : List Record := j.records.filter (·.source = .protocol)

theorem least_add (j : Journal) (r : Record) : (j.add r).least = j.least := by
  unfold add
  split <;> rfl

theorem ofProtocol_add_of_ne {r : Record} (h : r.source ≠ .protocol) (j : Journal) :
    (j.add r).ofProtocol = j.ofProtocol := by
  unfold add
  split
  · simp [ofProtocol, records, h]
  · rfl

theorem ofProtocol_add {r : Record} (h : r.source = .protocol) (j : Journal) :
    (j.add r).ofProtocol = j.ofProtocol ++ [r].filter (j.least ≤ ·.severity) := by
  unfold add
  split
  · rename_i hleast
    simp [ofProtocol, records, h, hleast]
  · rename_i hleast
    simp [hleast]

theorem least_foldl_add (rs : List Record) (j : Journal) : (rs.foldl add j).least = j.least := by
  induction rs generalizing j with
  | nil => rfl
  | cons r rs ih => rw [List.foldl_cons, ih, least_add]

theorem ofProtocol_foldl_add {rs : List Record} (h : ∀ r ∈ rs, r.source = .protocol) (j : Journal) :
    (rs.foldl add j).ofProtocol = j.ofProtocol ++ rs.filter (j.least ≤ ·.severity) := by
  induction rs generalizing j with
  | nil => simp
  | cons r rs ih =>
    rw [List.forall_mem_cons] at h
    rw [List.foldl_cons, ih h.2, ofProtocol_add h.1, least_add, List.append_assoc,
      ← List.filter_append, List.singleton_append]

end Journal

/-! ## The recorder -/

namespace Recorder

theorem source_of_mem_recordsOf {r : Recorder} {e : Exchange} {x : Record} (h : x ∈ r.recordsOf e) :
    x.source = .protocol := by
  unfold recordsOf at h
  rcases List.mem_append.1 h with h | h
  · split at h
    · rw [List.mem_singleton.1 h]
    · split at h
      · rw [List.mem_singleton.1 h]
      · cases h
  · split at h
    · split at h
      · cases h
      · rw [List.mem_singleton.1 h]
    · cases h

/-- The latest of all are the latest of the ones that were kept before, and of the new one. -/
theorem latest_concat (r : Recorder) (es : List Exchange) (e : Exchange) :
    r.latest (r.latest es ++ [e]) = r.latest (es ++ [e]) := by
  unfold latest
  rw [List.drop_append, List.drop_append, List.drop_drop]
  simp only [List.length_append, List.length_drop, List.length_singleton]
  congr 2 <;> omega

/-- A recorder that starts with the latest of some exchanges keeps the latest of them all. -/
theorem foldl_keep (r : Recorder) (old es : List Exchange) :
    es.foldl keep { r with kept := r.latest old } =
      { r with kept := r.latest (old ++ es.map (·.shown r.sensitive)) } := by
  induction es generalizing old with
  | nil => rw [List.foldl_nil, List.map_nil, List.append_nil]
  | cons e es ih =>
    have hkeep : keep { r with kept := r.latest old } e =
        { r with kept := r.latest (old ++ [e.shown r.sensitive]) } := by
      rw [← latest_concat]
      rfl
    rw [List.foldl_cons, hkeep, ih, List.append_assoc, List.singleton_append, List.map_cons]

theorem ofSize_eq (level : Severity) (traceEnabled : Bool) (size : Int) :
    let r := ofSize level traceEnabled size
    r = { r with kept := r.latest [] } := by
  intro r
  unfold latest
  rw [List.drop_nil]
  rfl

theorem recordsOf_foldl_keep (r : Recorder) (es : List Exchange) (e : Exchange) :
    (es.foldl keep r).recordsOf e = r.recordsOf e := by
  induction es generalizing r with
  | nil => rfl
  | cons x es ih => exact ih (r.keep x)

end Recorder

namespace HttpEngine

open LoginCallback.Http

variable {τ : Type}

/-! ## Exchanges -/

/-- The exchange of the `n`th request with its answer: the status, the headers and the body of a
reply, or the text of a fault. -/
def exchangeOf (n : Nat) (now : Time.Moment) : Noted → Exchange
  | (request, answer) =>
    let sent : Exchange :=
      { id := exchangeId n, timestamp := now, method := request.method
        url := request.address.toText, requestHeaders := request.headers
        requestBody := if request.body.isEmpty then none else some request.body
        duration := .float 0.0 }
    match answer with
    | .ok reply =>
      { sent with
        responseStatus := some reply.status
        responseHeaders := reply.joined
        responseBody := some reply.bodyText }
    | .error fault => { sent with error := some (faultText fault) }

/-- The exchanges of all that was sent, numbered from one. -/
def exchangesIn (sent : List (Time.Moment × Noted)) : List Exchange :=
  sent.mapIdx fun i x => exchangeOf (i + 1) x.1 x.2

theorem length_exchangesIn (sent : List (Time.Moment × Noted)) :
    (exchangesIn sent).length = sent.length := List.length_mapIdx

theorem exchangesIn_concat (sent : List (Time.Moment × Noted)) (now : Time.Moment) (n : Noted) :
    exchangesIn (sent ++ [(now, n)]) = exchangesIn sent ++ [exchangeOf (sent.length + 1) now n] := by
  unfold exchangesIn
  rw [List.mapIdx_append]
  simp

/-- The recorder and the journal have got these exchanges, and no others, since they were `r` and
`j`, and so many requests have been sent. -/
structure Recorded (r : Recorder) (j : Journal) (es : List Exchange) (w : Wire τ) : Prop where
  sent : w.opened.sent = es.length
  recorder : w.recorder = es.foldl Recorder.keep r
  journal : w.journal.ofProtocol =
    j.ofProtocol ++ es.flatMap fun e => (r.recordsOf e).filter (j.least ≤ ·.severity)
  least : w.journal.least = j.least

section

variable {r : Recorder} {j : Journal}

/-- One more exchange is recorded. -/
theorem Recorded.concat {es : List Exchange} {e : Exchange} {w w' : Wire τ} (h : Recorded r j es w)
    (hsent : w'.opened.sent = w.opened.sent + 1) (hrecorder : w'.recorder = w.recorder.keep e)
    (hjournal : w'.journal = (w.recorder.recordsOf e).foldl Journal.add w.journal) :
    Recorded r j (es ++ [e]) w' := by
  have hsource : ∀ x ∈ r.recordsOf e, x.source = .protocol :=
    fun x hx => Recorder.source_of_mem_recordsOf hx
  have hrecords : w.recorder.recordsOf e = r.recordsOf e := by
    rw [h.recorder, Recorder.recordsOf_foldl_keep]
  rw [hrecords] at hjournal
  refine ⟨?_, ?_, ?_, ?_⟩
  · rw [hsent, h.sent, List.length_append, List.length_singleton]
  · rw [hrecorder, h.recorder, List.foldl_append, List.foldl_cons, List.foldl_nil]
  · rw [hjournal, Journal.ofProtocol_foldl_add hsource, h.journal, h.least, List.flatMap_append,
      List.flatMap_singleton, List.append_assoc]
  · rw [hjournal, Journal.least_foldl_add, h.least]

variable [Platform]

/-- A request that is sent adds one exchange, whatever comes of it. -/
theorem recorded_transmit (p : Provider τ) (now : Time.Moment) (request : Request)
    {sent : List (Time.Moment × Noted)} {w : Wire τ} (h : Recorded r j (exchangesIn sent) w) :
    Recorded r j
      (exchangesIn (sent ++ [(now, request, ((p request).runOn w.provider).1)]))
      (w.opened.transmit p now request { w with client := some w.opened }).2 := by
  have hnumber : w.opened.sent = sent.length := h.sent.trans (length_exchangesIn sent)
  rw [exchangesIn_concat, ← hnumber]
  unfold Client.transmit
  rcases (p request).runOn w.provider with ⟨fault | reply, s⟩
  · exact h.concat rfl rfl rfl
  · exact h.concat rfl rfl rfl

theorem maintains_recorded_send (p : Provider τ) (now : Time.Moment)
    (old : List (Time.Moment × Noted)) (d : Draft) : (send p.watched now d).Maintains fun w =>
      Recorded r j (exchangesIn (old ++ w.provider.2.map (now, ·))) w := by
  intro w h
  have hopened : Recorded r j (exchangesIn (old ++ w.provider.2.map (now, ·)))
      { w with client := some w.opened } := ⟨h.sent, h.recorder, h.journal, h.least⟩
  unfold send
  rw [Action.runOn_ofFn]
  cases Draft.readAddress d.address with
  | error e => exact hopened
  | ok a =>
    cases Draft.checkHeaders d.headers with
    | error e => exact hopened
    | ok _ =>
      dsimp only
      rw [provider_transmit]
      have hstep := recorded_transmit p.watched now
        (d.toRequest a (w.opened.jar.headerFor? (secondOf now) a)) h
      rw [List.append_assoc] at hstep
      show Recorded r j (exchangesIn (old ++ List.map _ (w.provider.2 ++ [_]))) _
      rw [List.map_append]
      exact hstep

/-- What a login sends is recorded. -/
theorem recorded_authenticate (p : Provider τ) (now : Time.Moment) (t : LoginToken)
    {old : List (Time.Moment × Noted)} {w : Wire τ} (h : Recorded r j (exchangesIn old) w) :
    Recorded r j (exchangesIn (old ++ (exchangesOf p now t w).map (now, ·)))
      ((authenticate p now t).runOn w).2 := by
  have hmaintains := (speaks_authenticate p.watched now t).maintains
    (maintains_recorded_send (r := r) (j := j) p now old) fun w x hx hw => ?_
  · have hstart : Recorded r j (exchangesIn (old ++ (w.watched []).provider.2.map (now, ·)))
        (w.watched []) := by
      have hnil : (w.watched []).provider.2 = [] := rfl
      rw [hnil, List.map_nil, List.append_nil]
      exact ⟨h.sent, h.recorder, h.journal, h.least⟩
    have hend := hmaintains _ hstart
    obtain ⟨new, hrun, -⟩ := logs_authenticates p now t w []
    unfold exchangesOf
    rw [hrun] at hend ⊢
    exact ⟨hend.sent, hend.recorder, hend.journal, hend.least⟩
  · have hne : x.source ≠ .protocol := by
      rw [hx]
      decide
    exact ⟨hw.sent, hw.recorder, (Journal.ofProtocol_add_of_ne hne _).trans hw.journal,
      (Journal.least_add _ _).trans hw.least⟩

end

/-! ## Logins one after the other -/

variable [Platform]

/-- The results of logins through one engine, and the wire after them. -/
def authenticateAll (p : Provider τ) :
    List (Time.Moment × LoginToken) → Wire τ → List (Except Fault LoginToken) × Wire τ
  | [], w => ([], w)
  | (now, t) :: logins, w =>
    let (result, w) := (authenticate p now t).runOn w
    let (results, w) := authenticateAll p logins w
    (result :: results, w)

/-- The requests that the logins send, with their answers. -/
def sentBy (p : Provider τ) : List (Time.Moment × LoginToken) → Wire τ → List (Time.Moment × Noted)
  | [], _ => []
  | (now, t) :: logins, w =>
    (exchangesOf p now t w).map (now, ·) ++ sentBy p logins ((authenticate p now t).runOn w).2

theorem recorded_authenticateAll {r : Recorder} {j : Journal} (p : Provider τ)
    (logins : List (Time.Moment × LoginToken)) {old : List (Time.Moment × Noted)} {w : Wire τ}
    (h : Recorded r j (exchangesIn old) w) :
    Recorded r j (exchangesIn (old ++ sentBy p logins w)) (authenticateAll p logins w).2 := by
  induction logins generalizing old w with
  | nil =>
    rw [sentBy, List.append_nil]
    exact h
  | cons login logins ih =>
    obtain ⟨now, t⟩ := login
    have hrest := ih (recorded_authenticate p now t h)
    rwa [List.append_assoc] at hrest

/-- What the provider and the cookies are decides what is sent and how the logins end. -/
theorem authenticateAll_congr (p : Provider τ) (logins : List (Time.Moment × LoginToken))
    {w w' : Wire τ} (h : remembered w = remembered w') :
    (authenticateAll p logins w).1 = (authenticateAll p logins w').1 ∧
      sentBy p logins w = sentBy p logins w' := by
  induction logins generalizing w w' with
  | nil => exact ⟨rfl, rfl⟩
  | cons login logins ih =>
    obtain ⟨now, t⟩ := login
    obtain ⟨hresult, hnext⟩ := (speaks_authenticate p now t).sees (sees_remembered_send p now)
      (fun _ _ => rfl) w w' h
    have hwatched : remembered (w.watched []) = remembered (w'.watched []) := by
      obtain ⟨hprovider, hjar⟩ := Prod.mk.inj h
      exact Prod.ext (congrArg (·, []) hprovider) hjar
    have hsent : exchangesOf p now t w = exchangesOf p now t w' := by
      have hview := ((speaks_authenticate p.watched now t).sees (sees_remembered_send p.watched now)
        (fun _ _ => rfl) _ _ hwatched).2
      exact congrArg Prod.snd (congrArg Prod.fst hview)
    obtain ⟨hresults, hrest⟩ := ih hnext
    simp only [authenticateAll, sentBy]
    exact ⟨by rw [hresult, hresults], by rw [hsent, hrest]⟩

/-- A new recorder of any level and size gets the exchanges of all that logins through a new engine
send, once each and in order. It keeps the latest of them, without their secrets unless tracing is
enabled and the level is `trace`, and writes the records of each to the journal. The requests, the
answers and the results of the logins are the same with any other recorder and journal. -/
theorem exchanges_recorded (p : Provider τ) (start : τ) (level : Severity) (traceEnabled : Bool)
    (size : Int) (journal : Journal) (logins : List (Time.Moment × LoginToken)) :
    let recorder := Recorder.ofSize level traceEnabled size
    let w : Wire τ := { recorder, journal, provider := start }
    let exchanges := exchangesIn (sentBy p logins w)
    let last := (authenticateAll p logins w).2
    last.recorder = exchanges.foldl Recorder.keep recorder ∧
    last.recorder.kept = (exchanges.drop (exchanges.length - size.toNat)).map
        (·.shown (traceEnabled && decide (level ≤ Severity.trace))) ∧
    last.journal.ofProtocol = journal.ofProtocol ++
        exchanges.flatMap (fun e => (recorder.recordsOf e).filter (journal.least ≤ ·.severity)) ∧
    ∀ recorder' journal', let w' : Wire τ :=
        { recorder := recorder', journal := journal', provider := start }
      (authenticateAll p logins w').1 = (authenticateAll p logins w).1 ∧
        sentBy p logins w' = sentBy p logins w := by
  intro recorder w exchanges last
  have hstart : Recorded recorder journal (exchangesIn []) w :=
    ⟨rfl, rfl, (List.append_nil _).symm, rfl⟩
  have hlast : Recorded recorder journal exchanges last := recorded_authenticateAll p logins hstart
  refine ⟨hlast.recorder, ?_, hlast.journal, fun recorder' journal' =>
    authenticateAll_congr p logins rfl⟩
  have hkept : exchanges.foldl Recorder.keep recorder =
      { recorder with kept := recorder.latest (exchanges.map (·.shown recorder.sensitive)) } := by
    have hempty := Recorder.ofSize_eq level traceEnabled size
    exact (congrArg (exchanges.foldl Recorder.keep) hempty).trans
      (Recorder.foldl_keep recorder [] exchanges)
  rw [hlast.recorder, hkept]
  show recorder.latest (exchanges.map _) = _
  unfold Recorder.latest
  rw [List.length_map, List.map_drop]
  rfl

end HttpEngine

end LoginCallback
