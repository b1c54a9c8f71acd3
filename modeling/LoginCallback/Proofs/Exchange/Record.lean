import LoginCallback.Exchange.Recorder
import LoginCallback.Proofs.Exchange.Replacement
import Mathlib.Data.List.Infix

/-!
# What the records of an exchange show

A recorder that does not trace shows of an exchange what redaction leaves of it, and nothing else
(`Recorder.record_congr`). Redaction works on the value of a header alone, so the rules for header
lines do not apply to it, and a cookie in which no secret parameter occurs stays as it is
(`redact_plain`). Main statement: `recorder_shows_cookie`, two cookies that a provider sets are told
apart in what is kept and in what is written to the journal exactly if redaction tells them apart.
-/

namespace LoginCallback

/-! ## Redacted exchanges -/

namespace Recorder

variable {r : Recorder} {e e' : Exchange}

theorem shown_of_not_sensitive (hr : r.sensitive = false) : e.shown r.sensitive = e.redacted := by
  rw [hr]
  rfl

/-- Without tracing, the records of an exchange depend on its redacted form only. -/
theorem recordsOf_congr (hr : r.sensitive = false) (h : e.redacted = e'.redacted) :
    r.recordsOf e = r.recordsOf e' := by
  have hmethod := congrArg Exchange.method h
  have hurl := congrArg Exchange.url h
  have herror := congrArg Exchange.error h
  simp only [Exchange.redacted] at hmethod hurl herror
  unfold recordsOf Exchange.logText
  rw [shown_of_not_sensitive hr, shown_of_not_sensitive hr, h, hmethod, hurl, herror]

theorem record_congr (hr : r.sensitive = false) (h : e.redacted = e'.redacted) (j : Journal) :
    r.record e j = r.record e' j := by
  unfold record keep
  rw [shown_of_not_sensitive hr, shown_of_not_sensitive hr, h, recordsOf_congr hr h]

/-- An exchange is kept, as the latest one, unless none are kept. -/
theorem kept_keep_eq_iff : (r.keep e).kept = (r.keep e').kept ↔
    r.capacity = 0 ∨ e.shown r.sensitive = e'.shown r.sensitive := by
  have hkept : ∀ x : Exchange, (r.keep x).kept =
      (r.kept ++ [x.shown r.sensitive]).drop (r.kept.length + 1 - r.capacity) := by
    intro x
    unfold keep latest
    rw [List.length_append, List.length_singleton]
  rw [hkept, hkept]
  by_cases hcapacity : r.capacity = 0
  · refine iff_of_true ?_ (Or.inl hcapacity)
    rw [hcapacity, List.drop_of_length_le (by simp), List.drop_of_length_le (by simp)]
  · have hold : r.kept.length + 1 - r.capacity ≤ r.kept.length := by omega
    rw [List.drop_append_of_le_length hold, List.drop_append_of_le_length hold,
      List.append_cancel_left_eq, List.singleton_inj]
    simp [hcapacity]

end Recorder

/-! ## A header of the response -/

theorem intercalate_append_eq_iff (separator : String) (before after : List String) (x y : String) :
    String.intercalate separator (before ++ x :: after) =
      String.intercalate separator (before ++ y :: after) ↔ x = y := by
  induction before with
  | nil =>
    cases after with
    | nil => simp
    | cons z after =>
      rw [List.nil_append, List.nil_append, String.intercalate_cons_cons,
        String.intercalate_cons_cons, String.append_assoc, String.append_assoc,
        String.append_left_inj]
  | cons z before ih =>
    have hcons : ∀ w : String, ∃ a rest, before ++ w :: after = a :: rest := by
      intro w
      cases before with
      | nil => exact ⟨w, after, rfl⟩
      | cons a before => exact ⟨a, before ++ w :: after, rfl⟩
    obtain ⟨a, rest, hx⟩ := hcons x
    obtain ⟨b, rest', hy⟩ := hcons y
    rw [hx, hy] at ih
    rw [List.cons_append, List.cons_append, hx, hy, String.intercalate_cons_cons,
      String.intercalate_cons_cons, String.append_right_inj, ih]

namespace Exchange

/-- The exchange with a header in its response. -/
def withHeader (e : Exchange) (before after : Headers) (name value : String) : Exchange :=
  { e with responseHeaders := before ++ (name, value) :: after }

variable (e : Exchange) (before after : Headers) (name value value' : String)

theorem redacted_withHeader : (e.withHeader before after name value).redacted =
    { e.redacted with responseHeaders := redactHeaders (before ++ (name, value) :: after) } := rfl

theorem redacted_withHeader_eq_iff :
    (e.withHeader before after name value).redacted =
      (e.withHeader before after name value').redacted ↔ redact value = redact value' := by
  constructor
  · intro h
    have hheaders := congrArg Exchange.responseHeaders h
    simpa [redacted, withHeader, redactHeaders] using hheaders
  · intro h
    simp [redacted, withHeader, redactHeaders, h]

/-- The lines above the headers of the response. -/
def linesAbove : List String := ({ e with responseHeaders := [] }).lines Severity.debug

/-- The lines below the headers of the response. -/
def linesBelow (level : Severity) : List String :=
  if level ≤ Severity.trace then
    bodyLines "Request Body" e.requestBody ++ bodyLines "Response Body" e.responseBody
  else []

theorem lines_eq {level : Severity} (hlevel : level ≤ Severity.debug) {headers : Headers}
    (hne : headers ≠ []) : ({ e with responseHeaders := headers }).lines level =
      e.linesAbove ++ headerLines "Response Headers" headers ++ e.linesBelow level := by
  have hempty : ¬ headers.isEmpty = true := by simpa using hne
  have hdebug : Severity.debug ≤ Severity.debug := Int.le_refl _
  have htrace : ¬ Severity.debug ≤ Severity.trace := by decide
  unfold linesAbove linesBelow lines statusText
  rw [if_pos hlevel, if_pos hdebug, if_neg htrace]
  dsimp only
  rw [if_neg hempty, if_pos List.isEmpty_nil, List.append_nil, List.append_nil,
    ← List.append_assoc _ _ (headerLines "Response Headers" headers)]

/-- The headers of the response are written from `debug` on. -/
theorem logText_withHeader_eq_iff (level : Severity) :
    (e.withHeader before after name value).logText level false =
      (e.withHeader before after name value').logText level false ↔
    (level ≤ Severity.debug → redact value = redact value') := by
  by_cases hlevel : level ≤ Severity.debug
  · have htext : ∀ value, (e.withHeader before after name value).logText level false =
        String.intercalate "\n" ((e.redacted.linesAbove ++ "  Response Headers:" ::
          (redactHeaders before).map fun h => "    " ++ h.1 ++ ": " ++ h.2) ++
          ("    " ++ name ++ ": " ++ redact value) ::
          (((redactHeaders after).map fun h => "    " ++ h.1 ++ ": " ++ h.2) ++
            e.redacted.linesBelow level)) := by
      intro value
      unfold logText shown
      rw [if_neg Bool.false_ne_true, redacted_withHeader,
        lines_eq e.redacted hlevel (by simp [redactHeaders])]
      simp [headerLines, redactHeaders]
    rw [htext, htext, intercalate_append_eq_iff, String.append_right_inj]
    simp [hlevel]
  · have hinfo : ∀ headers : Headers, ({ e.redacted with responseHeaders := headers }).lines level =
        e.redacted.lines level := by
      intro headers
      unfold lines statusText
      rw [if_neg hlevel, if_neg hlevel]
    have htext : ∀ value, (e.withHeader before after name value).logText level false =
        String.intercalate "\n" (e.redacted.lines level) := by
      intro value
      unfold logText shown
      rw [if_neg Bool.false_ne_true, redacted_withHeader, hinfo]
    rw [htext, htext]
    simp [hlevel]

end Exchange

namespace Recorder

variable {r : Recorder} (e : Exchange) (before after : Headers) (name value value' : String)

theorem recordsOf_withHeader_eq_iff (hr : r.sensitive = false) :
    r.recordsOf (e.withHeader before after name value) =
      r.recordsOf (e.withHeader before after name value') ↔
    (r.effectiveLevel ≤ Severity.debug → redact value = redact value') := by
  have htext := e.logText_withHeader_eq_iff before after name value value' r.effectiveLevel
  unfold recordsOf
  rw [hr]
  dsimp only
  by_cases hlevel : r.effectiveLevel ≤ Severity.debug
  · rw [if_pos hlevel, if_pos hlevel, ← htext]
    constructor
    · intro h
      have hfirst := (List.cons.inj h).1
      exact congrArg Record.text hfirst
    · intro h
      rw [h]
      rfl
  · refine iff_of_true ?_ fun h => absurd h hlevel
    rw [if_neg hlevel, if_neg hlevel, htext.2 fun h => absurd h hlevel]
    rfl

end Recorder

/-! ## Cookies -/

namespace Redaction

/-- A text without the signs around which headers and fields are recognised, that begins with no
scheme of credentials and in which no secret parameter has a value. -/
structure Plain (text : String) : Prop where
  colon : ':' ∉ text.toList
  quote : '"' ∉ text.toList
  scheme : ∀ scheme ∈ ["bearer", "basic"], afterName? scheme.toList text.toList = none
  parameter : ∀ name ∈ ["client_secret", "code", "state", "access_token", "refresh_token", "id_token"],
    ∀ rest ∈ text.toList.tails, afterName? (name.toList ++ ['=']) rest = none

variable {cs : List Char}

theorem apply_parameter_eq_self {name : String} {wordStart : Bool}
    (h : ∀ rest ∈ cs.tails, afterName? (name.toList ++ ['=']) rest = none) :
    (Rule.parameter name wordStart).apply cs = cs := by
  refine replace_eq_self fun u c v hcs => ?_
  have hnone := h (c :: v) ((List.mem_tails _ _).2 ⟨u, hcs.symm⟩)
  simp only [Rule.find, hnone, ite_self]

theorem apply_header_eq_self {scheme : String} (h : ':' ∉ cs) :
    (Rule.header scheme).apply cs = cs := by
  refine replace_eq_self fun u c v hcs => ?_
  have hcolon : ':' ∉ c :: v := fun hmem => h (hcs ▸ List.mem_append_right u hmem)
  have hnone : afterName? "authorization:".toList (c :: v) = none :=
    afterName?_eq_none (by decide) (by decide) hcolon
  simp only [Rule.find, hnone]

theorem apply_line_eq_self {name : String} (h : ':' ∉ cs) : (Rule.line name).apply cs = cs := by
  refine replace_eq_self fun u c v hcs => ?_
  have hcolon : ':' ∉ c :: v := fun hmem => h (hcs ▸ List.mem_append_right u hmem)
  have hnone : afterName? (name.toList ++ [':']) (c :: v) = none :=
    afterName?_eq_none (k := ':') (by decide) (by simp) hcolon
  simp only [Rule.find, hnone]

/-- Credentials are recognised at the front only. -/
theorem apply_credentials_eq_self {scheme : String} (h : afterName? scheme.toList cs = none) :
    (Rule.credentials scheme).apply cs = cs := by
  refine replace_eq_self fun u c v hcs => ?_
  cases u with
  | nil =>
    rw [hcs] at h
    simp only [List.nil_append] at h
    simp [Rule.find, findCredentials, h]
  | cons d u =>
    have hsome : ∀ (d : Char) (u : List Char), (lastOf (some d) u).isSome = true := by
      intro d u
      induction u generalizing d with
      | nil => rfl
      | cons d' u ih => exact ih d'
    simp only [Rule.find, lastOf_cons, hsome, if_true]

theorem apply_field_eq_self {name : String} (h : '"' ∉ cs) : (Rule.field name).apply cs = cs := by
  refine replace_eq_self fun u c v hcs => ?_
  have hquote : '"' ∉ c :: v := fun hmem => h (hcs ▸ List.mem_append_right u hmem)
  have hnone : afterName? ['"'] (c :: v) = none :=
    afterName?_eq_none (by decide) List.mem_cons_self hquote
  simp [Rule.find, findField, afterField?, hnone]

end Redaction

theorem redact_plain {text : String} (h : Redaction.Plain text) : redact text = text := by
  have hself : ∀ r ∈ Redaction.rules, r.apply text.toList = text.toList := by
    intro r hr
    cases r with
    | parameter name wordStart =>
      refine Redaction.apply_parameter_eq_self (h.parameter name ?_)
      simp [Redaction.rules] at hr
      rcases hr with ⟨rfl, -⟩ | ⟨rfl, -⟩ | ⟨rfl, -⟩ | ⟨rfl, -⟩ | ⟨rfl, -⟩ | ⟨rfl, -⟩ <;> decide
    | header scheme => exact Redaction.apply_header_eq_self h.colon
    | credentials scheme =>
      refine Redaction.apply_credentials_eq_self (h.scheme scheme ?_)
      simp [Redaction.rules] at hr
      rcases hr with rfl | rfl <;> decide
    | line name => exact Redaction.apply_line_eq_self h.colon
    | field name => exact Redaction.apply_field_eq_self h.quote
  rw [Redaction.redact_eq, Redaction.applyAll_eq_self hself, String.ofList_toList]

/-- Two cookies that a provider sets are told apart in the redacted exchange, in its text from
`debug` on, in the exchanges that are kept and in the records of the journal exactly if redaction
tells them apart. A plain cookie is left as it is, so two of them always are. -/
theorem recorder_shows_cookie (r : Recorder) (hr : r.sensitive = false) (e : Exchange)
    (before after : Headers) (value value' : String) :
    let first := e.withHeader before after "set-cookie" value
    let second := e.withHeader before after "set-cookie" value'
    (first.redacted = second.redacted ↔ redact value = redact value') ∧
    (∀ level, first.logText level false = second.logText level false ↔
      (level ≤ Severity.debug → redact value = redact value')) ∧
    ((r.keep first).kept = (r.keep second).kept ↔
      r.capacity = 0 ∨ redact value = redact value') ∧
    (r.recordsOf first = r.recordsOf second ↔
      (r.effectiveLevel ≤ Severity.debug → redact value = redact value')) ∧
    (redact value = redact value' → ∀ j, r.record first j = r.record second j) ∧
    (Redaction.Plain value → Redaction.Plain value' →
      (redact value = redact value' ↔ value = value')) := by
  intro first second
  have hredacted : first.redacted = second.redacted ↔ redact value = redact value' :=
    e.redacted_withHeader_eq_iff before after "set-cookie" value value'
  refine ⟨hredacted, fun level => e.logText_withHeader_eq_iff before after _ value value' level, ?_,
    Recorder.recordsOf_withHeader_eq_iff e before after _ value value' hr,
    fun h j => Recorder.record_congr hr (hredacted.2 h) j, fun h h' => ?_⟩
  · rw [Recorder.kept_keep_eq_iff, Recorder.shown_of_not_sensitive hr,
      Recorder.shown_of_not_sensitive hr, hredacted]
  · rw [redact_plain h, redact_plain h']

/-- The session cookies of two users, with their attributes, at a recorder that debugs. -/
theorem recorder_shows_cookie_of_session :
    let r : Recorder := { level := Severity.debug }
    let e : Exchange :=
      { id := "http_0001", timestamp := ⟨63839664000000000, some 0⟩, method := "POST"
        url := "https://id.example.com/token", requestHeaders := [] }
    let first := e.withHeader [] [] "set-cookie" "sid=alice; Path=/"
    let second := e.withHeader [] [] "set-cookie" "sid=bob; Path=/"
    r.sensitive = false ∧ (r.keep first).kept ≠ (r.keep second).kept ∧
      r.recordsOf first ≠ r.recordsOf second := by
  intro r e first second
  have hfirst : Redaction.Plain "sid=alice; Path=/" := by constructor <;> decide +kernel
  have hsecond : Redaction.Plain "sid=bob; Path=/" := by constructor <;> decide +kernel
  have hsensitive : r.sensitive = false := rfl
  obtain ⟨-, -, hkept, hrecords, -, hplain⟩ :=
    recorder_shows_cookie r hsensitive e [] [] "sid=alice; Path=/" "sid=bob; Path=/"
  have hdiffer : ¬ redact "sid=alice; Path=/" = redact "sid=bob; Path=/" := by
    rw [hplain hfirst hsecond]
    decide
  refine ⟨hsensitive, fun h => ?_, fun h => hdiffer (hrecords.1 h (Int.le_refl _))⟩
  rcases hkept.1 h with h | h
  · cases h
  · exact hdiffer h

/-- Without tracing, the sessions of two users are told apart in the redacted exchanges, in their
texts, in what is kept and in the journal. -/
theorem recorder_tells_sessions_apart :
    let r : Recorder := { level := Severity.debug }
    let e : Exchange :=
      { id := "http_0001", timestamp := ⟨63839664000000000, some 0⟩, method := "POST"
        url := "https://id.example.com/token", requestHeaders := [] }
    let first := e.withHeader [] [] "set-cookie" "sid=alice"
    let second := e.withHeader [] [] "set-cookie" "sid=bob"
    r.sensitive = false ∧ first.redacted ≠ second.redacted ∧
      first.logText Severity.debug false ≠ second.logText Severity.debug false ∧
      (r.keep first).kept ≠ (r.keep second).kept ∧ r.recordsOf first ≠ r.recordsOf second := by
  intro r e first second
  have hdiffer : redact "sid=alice" ≠ redact "sid=bob" := by decide +kernel
  have hredacted : first.redacted ≠ second.redacted := fun h =>
    hdiffer ((e.redacted_withHeader_eq_iff [] [] _ _ _).1 h)
  refine ⟨rfl, hredacted, fun h => ?_, fun h => ?_, fun h => ?_⟩
  · exact hdiffer ((e.logText_withHeader_eq_iff [] [] _ _ _ _).1 h (Int.le_refl _))
  · rcases Recorder.kept_keep_eq_iff.1 h with h | h
    · cases h
    · exact hredacted h
  · exact hdiffer ((Recorder.recordsOf_withHeader_eq_iff e [] [] _ _ _ rfl).1 h (Int.le_refl _))

end LoginCallback
