import LoginCallback.Proofs.Exchange.Fields
import LoginCallback.Proofs.Exchange.Record
import LoginCallback.Proofs.Json.Writer

/-!
# Tokens in replies

A reply with a token is a JSON object that has it in a secret field. A recorder that does not trace
neither keeps nor writes the token (`recorder_hides_token`), under two conditions. Redaction can
find it (`Findable`): the token is not empty and holds no quote, which would be escaped, and what
redaction takes for a parameter or a header in it does not reach over the end of its string. Tokens
without quotes, equals signs and colons are such (`findable_of_plain`). And the quote before its
name does not end another field of that name, which is the case if the name does not occur before
(`not_endsField_of_lacks`). The example of a quote in a token is `redact_shows_quoted_token`.
-/

namespace LoginCallback

open Redaction

/-! ## Tokens -/

/-- A token that redaction finds as a whole where it is written as a string. -/
structure Findable (token : String) : Prop where
  ne_empty : token ≠ ""
  quote : '"' ∉ token.toList
  contained : (applyAll running (Json.writeString token)).getLast? = some '"'

variable {token token' : String}

theorem held_writeBody (h : Findable token) : Held running (Json.writeBody token) := by
  refine ⟨Json.writeBody_ne_nil h.ne_empty, Json.notMem_writeBody (by simp) h.quote, ?_, h.contained⟩
  intro c hc
  have hbounds := Json.toNat_of_mem_writeBody hc
  have hends : ∀ d ∈ ['\r', '\n'], d.toNat < 32 := by decide
  have hne : ∀ d ∈ ['\r', '\n'], c ≠ d := by
    rintro d hd rfl
    have hcontrol := hends c hd
    omega
  simp [isLineEnd, hne '\r' (by simp), hne '\n' (by simp)]

/-- Tokens without quotes, equals signs and colons. -/
theorem findable_of_plain (hne : token ≠ "") (h : ∀ c ∈ ['"', '=', ':'], c ∉ token.toList) :
    Findable token := by
  refine ⟨hne, h '"' (by simp), ?_⟩
  have hsigns : ∀ c ∈ ['=', ':'], c ∉ Json.writeString token := by
    intro c hc hmem
    have hquote : c ≠ '"' := by
      rintro rfl
      exact absurd hc (by decide)
    have hd : c ∈ ['"', '=', ':'] := List.mem_cons_of_mem _ hc
    rw [Json.writeString_eq, List.mem_cons, List.mem_append, List.mem_singleton] at hmem
    rcases hmem with hmem | hmem | hmem
    · exact hquote hmem
    · exact Json.notMem_writeBody hd (h c hd) hmem
    · exact hquote hmem
  have hself : ∀ r ∈ running, r.apply (Json.writeString token) = Json.writeString token := by
    intro r hr
    cases r with
    | parameter name wordStart =>
      refine apply_parameter_eq_self fun rest hrest => ?_
      refine afterName?_eq_none (k := '=') (by simp) (by simp) fun hmem => ?_
      exact hsigns '=' (by simp) (((List.mem_tails _ _).1 hrest).subset hmem)
    | header scheme => exact apply_header_eq_self (hsigns ':' (by simp))
    | credentials scheme =>
      refine apply_credentials_eq_self ?_
      have hscheme : scheme = "bearer" ∨ scheme = "basic" := by
        simpa [running, rules] using hr
      rcases hscheme with rfl | rfl <;> rfl
    | line name => exact apply_line_eq_self (hsigns ':' (by simp))
    | field name => simp [running, rules] at hr
  rw [applyAll_eq_self hself, Json.writeString_eq, ← List.cons_append]
  exact List.getLast?_concat

/-! ## Replies -/

/-- The text of a reply with a token in one of its fields. -/
def tokenReply (before after : Entries) (name token : String) : String :=
  Json.toText (.mapping (before ++ (.text name, .text token) :: after))

/-- The text of a reply up to the quote before a field. -/
def replyBefore (before : Entries) : List Char := '\x7b' :: (Json.writeBefore before ++ ['"'])

theorem toList_tokenReply {name : String} (hname : name ∈ secretFields) (before after : Entries)
    (token : String) : (tokenReply before after name token).toList =
      replyBefore before ++ (opening name ++
        (Json.writeBody token ++ '"' :: Json.writeBehind after)) := by
  have hplain : ∀ name ∈ secretFields, Json.writeBody name = name.toList := by decide
  unfold tokenReply Json.toText replyBefore opening
  rw [String.toList_ofList, Json.write_field, Json.keyText, Json.writeString_eq, hplain name hname,
    Json.write, Json.writeString_eq]
  simp

theorem sealed_replyBefore (before : Entries) : Sealed (replyBefore before) := by
  unfold replyBefore
  rcases Json.writeBefore_cases before with h | ⟨u, h⟩
  · exact Or.inl (by rw [h]; rfl)
  · exact Or.inr ⟨'\x7b' :: u, ',', Or.inl rfl, by rw [h]; simp⟩

theorem behind_writeBehind (after : Entries) : Behind (Json.writeBehind after) := by
  cases after with
  | nil => exact ⟨'\x7d', [], Or.inr rfl, rfl⟩
  | cons e after => exact ⟨',', _, Or.inl rfl, rfl⟩

/-- What redaction leaves of a reply does not depend on the token. -/
theorem redact_tokenReply {name : String} (hname : name ∈ secretFields) (before after : Entries)
    (hend : ¬ EndsField name (applyAll (rulesBefore name) (replyBefore before)))
    (h : Findable token) (h' : Findable token') :
    redact (tokenReply before after name token) = redact (tokenReply before after name token') := by
  rw [redact_eq, redact_eq, toList_tokenReply hname, toList_tokenReply hname]
  exact congrArg String.ofList (redact_framed hname (sealed_replyBefore before) hend
    (held_writeBody h) (held_writeBody h') (behind_writeBehind after))

/-- A field whose name does not occur before it. -/
theorem not_endsField_of_lacks {name : String} (hname : name ∈ secretFields) {before : Entries}
    (h : Lacks name (Json.writeBefore before)) :
    ¬ EndsField name (applyAll (rulesBefore name) (replyBefore before)) := by
  have hne := (secretFields_facts hname).1
  have havoids := (secretFields_facts hname).2
  have hempty : Lacks name [] := fun a ha => by
    rw [List.suffix_nil.1 ha, afterName?_nil hne]
  have hbrace : Lacks name ([] ++ '\x7b' :: Json.writeBefore before) :=
    hempty.append hne (havoids '\x7b' (by simp)) h
  have hfront : Lacks name (('\x7b' :: Json.writeBefore before) ++ ['"']) :=
    hbrace.append hne (havoids '"' (by simp)) hempty
  exact (lacks_applyAll hname (rulesBefore name) hfront).not_endsField

/-- A recorder that does not trace neither keeps nor writes a token of a reply, if redaction can
find it and the quote before its name does not end another field of that name. -/
theorem recorder_hides_token (r : Recorder) (hr : r.sensitive = false) (e : Exchange) {name : String}
    (hname : name ∈ secretFields) (before after : Entries)
    (hend : ¬ EndsField name (applyAll (rulesBefore name) (replyBefore before)))
    (h : Findable token) (h' : Findable token') :
    let reply (token : String) : String := tokenReply before after name token
    let exchange (token : String) : Exchange := { e with responseBody := some (reply token) }
    redact (reply token) = redact (reply token') ∧
      (exchange token).redacted = (exchange token').redacted ∧
      (∀ level, (exchange token).logText level false = (exchange token').logText level false) ∧
      ∀ j, r.record (exchange token) j = r.record (exchange token') j := by
  intro reply exchange
  have hreply : redact (reply token) = redact (reply token') :=
    redact_tokenReply hname before after hend h h'
  have hredacted : (exchange token).redacted = (exchange token').redacted := by
    simp only [exchange, Exchange.redacted, Option.map_some, hreply]
  refine ⟨hreply, hredacted, fun level => ?_, fun j => Recorder.record_congr hr hredacted j⟩
  unfold Exchange.logText Exchange.shown
  rw [if_neg Bool.false_ne_true, if_neg Bool.false_ne_true, hredacted]

/-- Two tokens, one of them padded, in the middle of a reply. -/
theorem recorder_hides_token_of_login :
    let r : Recorder := {}
    let e : Exchange :=
      { id := "http_0001", timestamp := ⟨63839664000000000, some 0⟩, method := "POST"
        url := "https://id.example.com/token", requestHeaders := [] }
    let exchange (token : String) : Exchange :=
      { e with
        responseBody := some (tokenReply [(.text "token_type", .text "Bearer")]
          [(.text "expires_in", .int 3600)] "access_token" token) }
    r.sensitive = false ∧
      (exchange "gho_16C7").responseBody = some
        "\x7b\"token_type\": \"Bearer\", \"access_token\": \"gho_16C7\", \"expires_in\": 3600\x7d" ∧
      (exchange "gho_16C7").redacted = (exchange "c2VjcmV0==").redacted ∧
      ∀ j, r.record (exchange "gho_16C7") j = r.record (exchange "c2VjcmV0==") j := by
  intro r e exchange
  have hname : "access_token" ∈ secretFields := by decide
  have hlacks : ∀ a ∈ (Json.writeBefore [(.text "token_type", .text "Bearer")]).tails,
      afterName? "access_token".toList a = none := by decide +kernel
  have hend := not_endsField_of_lacks hname fun a ha => hlacks a ((List.mem_tails _ _).2 ha)
  have hplain : Findable "gho_16C7" := findable_of_plain (by decide) (by decide +kernel)
  have hpadded : Findable "c2VjcmV0==" := by constructor <;> decide +kernel
  obtain ⟨-, hredacted, -, hrecord⟩ := recorder_hides_token r rfl e hname _
    [(.text "expires_in", .int 3600)] hend hplain hpadded
  exact ⟨rfl, by decide +kernel, hredacted, hrecord⟩

/-- Redaction takes the escaped quote in a token for the end of its string, and shows the rest of
the token. -/
theorem redact_shows_quoted_token :
    let r : Recorder := {}
    let e : Exchange :=
      { id := "http_0001", timestamp := ⟨63839664000000000, some 0⟩, method := "POST"
        url := "https://id.example.com/token", requestHeaders := [] }
    let reply (token : String) : String := tokenReply [] [] "access_token" token
    let exchange (token : String) : Exchange := { e with responseBody := some (reply token) }
    r.sensitive = false ∧
      redact (reply "a\"SECRET") = "\x7b\"access_token\": \"[REDACTED]\"SECRET\"\x7d" ∧
      redact (reply "a\"SECRET") ≠ redact (reply "a\"OTHER") ∧
      (r.keep (exchange "a\"SECRET")).kept ≠ (r.keep (exchange "a\"OTHER")).kept := by
  intro r e reply exchange
  have hshown : redact (reply "a\"SECRET") ≠ redact (reply "a\"OTHER") := by decide +kernel
  refine ⟨rfl, by decide +kernel, hshown, fun h => ?_⟩
  rcases Recorder.kept_keep_eq_iff.1 h with h | h
  · cases h
  · have hbody := congrArg Exchange.responseBody h
    exact hshown (Option.some.inj hbody)

end LoginCallback
