import LoginCallback.Proofs.Session.Invariant

/-!
# The moment at which a request expires

A store with a time to live writes into the entry of a request the text of the moment at which it
expires, and reads the text again whenever it goes through what is pending. Main statement:
`expires_when_due`, the moment that counts is exactly the one at which the request was saved plus
the time to live, to the microsecond and wherever in the calendar it falls.
-/

namespace LoginCallback

open Time

namespace SessionStore

variable {s : SessionStore} {now due t : Moment} {session : Session} {es kept : Entries}
  {r : AuthorizationRequest}

/-! ## Entries that expire -/

/-- An entry holds the text of a moment, which is read back as this very moment, and a clock finds
the entry expired from then on and not before. -/
structure ExpiresAt (entry : Value) (text : String) (due : Moment) : Prop where
  held : entry.getD "expires_at" .null = .ok (.text text)
  written : due.IsWritten text
  fraction_iff : '.' ∈ text.toList ↔ due.ticks % microsPerSecond ≠ 0
  read_eq : Moment.read text = .ok due
  isExpired_eq : ∀ t : Moment, t.offset = some 0 →
    isExpired t entry = .ok (decide (due.ticks ≤ t.ticks))

theorem expiresAt_entryOf {p : Pending} (hp : s.expiresAt? p.savedAt = some due)
    (hdue : due.Universal) : ExpiresAt (s.entryOf p).2 due.toText due := by
  have htimely : s.Timely p := by
    intro m hm
    obtain rfl := Option.some.inj (hp.symm.trans hm)
    exact hdue
  have hwritten := Moment.isWritten_toText hdue
  refine ⟨?_, hwritten, hwritten.dot_mem_iff, Moment.read_toText hdue, fun t ht => ?_⟩
  · simp [entryOf, Value.getD_record, hp, List.lookup_cons]
  · rw [s.isExpired_entryOf ht htimely, isOver, hp]

theorem ExpiresAt.lasts_iff {entry : Value} {text : String} (h : ExpiresAt entry text due)
    (ht : t.offset = some 0) (key : Value) : lasts t (key, entry) = true ↔ t.ticks < due.ticks := by
  rw [SessionStore.lasts_iff, h.isExpired_eq t ht]
  simp

theorem ExpiresAt.filter_lasts {entry : Value} {text : String} (h : ExpiresAt entry text due)
    (ht : t.offset = some 0) (key : Value) :
    [(key, entry)].filter (lasts t) = if due.ticks ≤ t.ticks then [] else [(key, entry)] := by
  have hlasts := h.lasts_iff ht key
  split_ifs with hover
  · rw [List.filter_eq_nil_iff]
    intro e he
    rw [List.mem_singleton.1 he, hlasts]
    exact Int.not_lt.2 hover
  · rw [List.filter_eq_self]
    intro e he
    rw [List.mem_singleton.1 he, hlasts]
    exact Int.not_le.1 hover

/-- Of the entries that are pending, the last is read until it is due. -/
theorem ExpiresAt.load_concat {key entry : Value} {text : String} (h : ExpiresAt entry text due)
    (hstored : s.stored session = .ok (es ++ [(key, entry)])) (hes : ∀ e ∈ es, Legible t e.2)
    (ht : t.offset = some 0) : (s.load t session).2 =
      .ok (es.filter (lasts t) ++ if due.ticks ≤ t.ticks then [] else [(key, entry)]) := by
  refine s.load_eq_ok_iff.2 ⟨_, hstored, fun e he => ?_, ?_⟩
  · rcases List.mem_append.1 he with he | he
    · exact hes e he
    · rw [List.mem_singleton.1 he]
      exact ⟨_, h.isExpired_eq t ht⟩
  · rw [List.filter_append, h.filter_lasts ht]

/-- Of the entries that are pending, an entry that expires is left out as soon as it is due. -/
theorem ExpiresAt.notMem_iff {key entry : Value} {text : String} (h : ExpiresAt entry text due)
    (hstored : s.stored session = .ok es) (hmem : (key, entry) ∈ es) (ht : t.offset = some 0)
    (hload : (s.load t session).2 = .ok kept) : (key, entry) ∉ kept ↔ due.ticks ≤ t.ticks := by
  obtain ⟨es', hstored', -, rfl⟩ := s.load_eq_ok_iff.1 hload
  obtain rfl := Except.ok.inj (hstored.symm.trans hstored')
  rw [List.mem_filter, h.lasts_iff ht, and_iff_right hmem, Int.not_lt]

/-! ## Saving -/

/-- The moment at which a request saved now is due. -/
theorem expiresAt?_eq {d : Duration} (httl : s.ttl = some d) (hd : d.micros ≠ 0)
    (hnow : now.Universal) (hdue : due.Universal) (hticks : due.ticks = now.ticks + d.micros) :
    s.expiresAt? now = some due := by
  obtain ⟨ticks, offset⟩ := due
  obtain rfl : ticks = now.ticks + d.micros := hticks
  obtain rfl : offset = now.offset := hdue.offset_eq.trans hnow.offset_eq.symm
  unfold expiresAt?
  rw [httl]
  exact if_neg hd

/-- A request that is due within the calendar can be given an expiry. -/
theorem exists_expiry {d : Duration} (httl : s.ttl = some d) (hdue : due.Universal)
    (hticks : due.ticks = now.ticks + d.micros) : ∃ v, s.expiry now = .ok v := by
  have hadd : now.add d = .ok { now with ticks := now.ticks + d.micros } := by
    have hnonneg := hdue.ticks_nonneg
    have hlt := hdue.ticks_lt
    rcases now.add_cases d with ⟨-, -, hok⟩ | ⟨hout, -⟩
    · exact hok
    · omega
  unfold expiry
  rw [httl]
  dsimp only
  rw [hadd]
  split
  · exact ⟨_, rfl⟩
  · exact ⟨_, rfl⟩

/-- A store with room keeps a new entry, behind what is left of the others. -/
theorem newest_concat (hroom : s.Roomy) (es : Entries) (e : Value × Value) :
    ∃ older, older.Sublist es ∧ s.newest (es ++ [e]) = older ++ [e] := by
  unfold newest
  cases hn : s.limit with
  | none => exact ⟨es, List.Sublist.refl _, rfl⟩
  | some n => exact ⟨_, List.drop_sublist _ _, drop_concat (hroom n hn) es e⟩

/-- A session that lets a request in holds its entry afterwards, behind others that can be read. -/
theorem Admits.stored_save (hroom : s.Roomy) {pending : Entries} {entry : Value × Value}
    (h : s.Admits now r session pending entry) : ∃ older,
      s.stored (s.save now r session).session = .ok (older ++ [entry]) ∧
      ∀ e ∈ older, Legible now e.2 := by
  obtain ⟨older, holder, hnewest⟩ := newest_concat hroom (pending.erase entry.1) entry
  obtain ⟨es, -, hlegible, rfl⟩ := s.load_eq_ok_iff.1 h.load_eq
  refine ⟨older, ?_, fun e he => ?_⟩
  · rw [(s.save_of_admits h).2, s.stored_insert, hnewest]
  · exact hlegible e (List.mem_filter.1 (List.mem_filter.1 (holder.subset he)).1).1

/-- A store with a time to live gives every request that it saves an entry which expires at the
moment of saving plus the time to live, exactly. The entry holds the text of that moment, whose date
is the one that counting the days leads to and whose fraction is left out for a whole second; the
text is read back as that moment; and reading what is pending, from the session as it was left or
from any other that has the entry, passes over the entry at that moment and later, and never
before. A request is saved if its state is given and can be a key and what is pending can be
read. -/
theorem expires_when_due (hroom : s.Roomy) {d : Duration} (httl : s.ttl = some d)
    (hd : d.micros ≠ 0) (hnow : now.Universal) (hdue : due.Universal)
    (hticks : due.ticks = now.ticks + d.micros) (r : AuthorizationRequest) (session : Session) :
    ((s.save now r session).result = .ok () ↔ r.state.truthy = true ∧ r.state.hashable = true ∧
      ∃ pending, (s.load now session).2 = .ok pending) ∧
    ((s.save now r session).result = .ok () → ∃ older entry text,
      s.stored (s.save now r session).session = .ok (older ++ [(r.state, entry)]) ∧
      ExpiresAt entry text due ∧
      (∀ t : Moment, t.offset = some 0 → (s.load t (s.save now r session).session).2 =
        .ok (older.filter (lasts t) ++ if due.ticks ≤ t.ticks then [] else [(r.state, entry)])) ∧
      ∀ (later : Session) (es kept : Entries) (t : Moment), t.offset = some 0 →
        s.stored later = .ok es → (r.state, entry) ∈ es → (s.load t later).2 = .ok kept →
        ((r.state, entry) ∉ kept ↔ due.ticks ≤ t.ticks)) := by
  have hexpiry := exists_expiry httl hdue hticks
  refine ⟨⟨fun h => ?_, fun ⟨hstate, hkey, pending, hload⟩ => ?_⟩, fun h => ?_⟩
  · obtain ⟨pending, entry, hin⟩ := s.admits_of_save_ok h
    exact ⟨hin.state_given, hin.accepts.state_key, pending, hin.load_eq⟩
  · have hr : s.Accepts now r := ⟨hstate, hkey, hexpiry⟩
    exact (s.save_of_admits (hr.admits hnow.offset_eq hload)).1
  · obtain ⟨pending, entry, hin⟩ := s.admits_of_save_ok h
    obtain rfl : entry = s.entryOf ⟨r, now⟩ :=
      Except.ok.inj (hin.entry_eq.symm.trans (s.entry_of_accepts hnow.offset_eq hin.accepts).1)
    obtain ⟨older, hstored, holder⟩ := hin.stored_save hroom
    have hexpires : ExpiresAt (s.entryOf ⟨r, now⟩).2 due.toText due :=
      expiresAt_entryOf (expiresAt?_eq httl hd hnow hdue hticks) hdue
    exact ⟨older, (s.entryOf ⟨r, now⟩).2, due.toText, hstored, hexpires,
      fun t ht => hexpires.load_concat hstored
        (fun e he => (holder e he).of_legible hnow.offset_eq ht) ht,
      fun later es kept t ht hlater hmem hload => hexpires.notMem_iff hlater hmem ht hload⟩

/-- A request saved in the last microsecond of a leap day, to be kept for one microsecond: it is
there when it was saved, and gone at midnight. -/
theorem expires_when_due_leap_day :
    let s : SessionStore := { ttl := some ⟨1⟩, limit := some 2, key := "pending" }
    let now : Moment := ⟨63844847999999999, some 0⟩
    let due : Moment := ⟨63844848000000000, some 0⟩
    let session : Session :=
      [(.text "pending", .mapping [(.text "b", .record [("request", .null)])])]
    let saved := s.save now (.ofState "a") session
    saved.result = .ok () ∧ ∃ older entry text,
      s.stored saved.session = .ok (older ++ [(.text "a", entry)]) ∧
      ExpiresAt entry text due ∧ '.' ∉ text.toList ∧
      (s.load now saved.session).2 = .ok (older.filter (lasts now) ++ [(.text "a", entry)]) ∧
      (s.load due saved.session).2 = .ok (older.filter (lasts due)) := by
  intro s now due session saved
  have hroom : s.Roomy := by
    rintro n hn
    obtain rfl := Option.some.inj hn
    decide
  have hnow : now.Universal := ⟨rfl, by decide, by decide⟩
  have hdue : due.Universal := ⟨rfl, by decide, by decide⟩
  obtain ⟨hsaves, hentry⟩ := expires_when_due hroom (d := ⟨1⟩) rfl (by decide) hnow hdue rfl
    (.ofState "a") session
  have hsaved : saved.result = .ok () := hsaves.2 ⟨rfl, rfl, _, rfl⟩
  obtain ⟨older, entry, text, hstored, hexpires, hload, -⟩ := hentry hsaved
  refine ⟨hsaved, older, entry, text, hstored, hexpires, ?_, hload now rfl, ?_⟩
  · rw [hexpires.fraction_iff]
    decide
  · exact (hload due rfl).trans (congrArg Except.ok (List.append_nil _))

end SessionStore

end LoginCallback
