import LoginCallback.Http.Client
import LoginCallback.Proofs.Exchange.Forms

/-!
# Secrets in forms and credentials

What redaction leaves of a form does not depend on the values of its secret fields
(`redact_form_congr`). What it leaves of credentials does not depend on them (`redact_credentials`),
whatever the rules for parameters find in them.
-/

namespace LoginCallback

open LoginCallback.Text (isBlank)

/-- The fields are the same, or both are the code or both the secret of a client. -/
structure SameButSecret (f f' : String × String) : Prop where
  label : f.1 = f'.1
  value : f.2 = f'.2 ∨ ((f.1 = "code" ∨ f.1 = "client_secret") ∧ f.2 ≠ "" ∧ f'.2 ≠ "")

/-- What redaction leaves of a form does not depend on the code and the secret of the client. -/
theorem redact_form_congr {fields fields' : List (String × String)}
    (h : List.Forall₂ SameButSecret fields fields') :
    redact (Octets.encodeForm fields) = redact (Octets.encodeForm fields') := by
  have hfield : ∀ f f', SameButSecret f f' →
      Redaction.redactedField f = Redaction.redactedField f' := by
    have hsecret : ∀ label ∈ ["code", "client_secret"],
        Redaction.isSecretLabel (Octets.encodeFormText label.toList) = true := by decide +kernel
    have hne : ∀ text : String, text ≠ "" → (Octets.encodeFormText text.toList).isEmpty = false := by
      intro text htext
      rw [List.isEmpty_eq_false_iff]
      exact Octets.encodeFormText_ne_nil fun hnil => htext (String.toList_eq_nil_iff.1 hnil)
    rintro ⟨label, value⟩ ⟨label', value'⟩ ⟨rfl, hvalue⟩
    rcases hvalue with rfl | ⟨hlabel, hv, hv'⟩
    · rfl
    · simp only [Redaction.redactedField, hsecret label (by simpa using hlabel), hne value hv,
        hne value' hv', Bool.not_false, Bool.and_self, if_true]
  refine Redaction.redact_congr ?_
  rw [Redaction.withoutParameters_encodeForm, Redaction.withoutParameters_encodeForm]
  congr 1
  induction h with
  | nil => rfl
  | cons hf _ ih => rw [List.map_cons, List.map_cons, hfield _ _ hf, ih]

/-! ## Credentials -/

namespace Redaction

/-- A scheme and, behind a blank, what could be its credentials. -/
def Credentials (scheme cs : List Char) : Prop :=
  ∃ value, cs = scheme ++ ' ' :: value ∧ value ≠ [] ∧ ∀ c ∈ value, isBlank c = false

section

variable {scheme : List Char}

/-- A rule for parameters leaves credentials, whatever it finds in them. -/
theorem Credentials.apply_parameter {name : String} {wordStart : Bool}
    (hd : (Rule.parameter name wordStart).Avoids ' ')
    (hscheme : (Rule.parameter name wordStart).apply scheme = scheme) {cs : List Char}
    (h : Credentials scheme cs) : Credentials scheme ((Rule.parameter name wordStart).apply cs) := by
  obtain ⟨value, rfl, hne, hvalue⟩ := h
  have hmarks : Marks (Rule.parameter name wordStart).find := Rule.marks rfl
  refine ⟨_, ?_, replace_ne_nil hmarks (some ' ') hne, fun c hc => ?_⟩
  · have hseam := scan_parameter_append hd (by decide) none scheme value
    unfold Rule.apply at hscheme ⊢
    rw [hseam, hscheme]
  · rcases mem_replace hmarks hc with hc | hc
    · exact hvalue c hc
    · have hmark : ∀ c ∈ mark, isBlank c = false := by decide
      exact hmark c hc

/-- Credentials without a name before them are no header. -/
theorem Credentials.apply_header {name : String}
    (hscheme : ∀ a ∈ scheme.tails, afterName? "authorization:".toList a = none) {cs : List Char}
    (h : Credentials scheme cs) : (Rule.header name).apply cs = cs := by
  obtain ⟨value, rfl, -, hvalue⟩ := h
  have hname : ∀ a, afterName? "authorization:".toList (a ++ ' ' :: value) =
      (afterName? "authorization:".toList a).map (· ++ ' ' :: value) :=
    fun a => afterName?_append (by decide) a value
  have hnone : ∀ a ∈ scheme.tails, ∀ before,
      (Rule.header name).find before (a ++ ' ' :: value) = none := by
    intro a ha before
    simp only [Rule.find, hname, hscheme a ha, Option.map_none]
  refine replace_eq_self fun u c v hcs => ?_
  rcases List.append_eq_append_iff.1 hcs with ⟨a, -, ha⟩ | ⟨a, hu, ha⟩
  · cases a with
    | nil =>
      rw [List.nil_append] at ha
      rw [← ha]
      exact hnone [] ((List.mem_tails _ _).2 List.nil_suffix) _
    | cons d a =>
      have hv : ∀ x ∈ c :: v, isBlank x = false := by
        intro x hx
        refine hvalue x ?_
        rw [(List.cons.inj ha).2]
        exact List.mem_append_right a hx
      simp only [Rule.find]
      split
      · rename_i rest hrest
        have hsuffix := suffix_of_afterName? hrest
        unfold findCredentials
        split
        · rename_i b rest' hb
          have hmem : b ∈ c :: v := hsuffix.subset ((List.dropWhile_suffix isBlank).subset
            ((suffix_of_afterName? hb).subset List.mem_cons_self))
          rw [hv b hmem]
          rfl
        · rfl
      · rfl
  · rw [ha]
    exact hnone a ((List.mem_tails _ _).2 ⟨u, hu.symm⟩) _

/-- The credentials of a scheme are replaced as a whole. -/
theorem apply_credentials {name : String} (hscheme : afterName? name.toList scheme = some [])
    (hname : ∀ k ∈ name.toList, isCaseOf k ' ' = false) {cs : List Char}
    (h : Credentials scheme cs) : (Rule.credentials name).apply cs = scheme ++ ' ' :: mark := by
  obtain ⟨value, rfl, hne, hvalue⟩ := h
  have hbehind : afterName? name.toList (scheme ++ ' ' :: value) = some (' ' :: value) := by
    rw [afterName?_append hname, hscheme]
    rfl
  have hdrop : dropBlank value = value := by
    cases value with
    | nil => rfl
    | cons c value =>
      have hc := hvalue c List.mem_cons_self
      simp [dropBlank, hc]
  have hall : value.takeWhile (!isBlank ·) = value :=
    List.takeWhile_eq_self_iff.2 fun c hc => by simp [hvalue c hc]
  have hempty : ¬ value.length = 0 := mt List.length_eq_zero_iff.1 hne
  have hsplit : scheme ++ ' ' :: value = (scheme ++ [' ']) ++ value := by simp
  have hfind : (Rule.credentials name).find none (scheme ++ ' ' :: value) =
      some ⟨scheme ++ [' '] ++ mark, (scheme ++ ' ' :: value).length⟩ := by
    have hblank : isBlank ' ' = true := by decide
    simp only [Rule.find, findCredentials, hbehind, hblank, hdrop, Option.isSome_none,
      Bool.false_eq_true, if_false, if_true]
    unfold hitOf hitAfter
    rw [hall, if_neg hempty, hsplit, List.length_append, Nat.add_sub_cancel, List.take_left]
  have hwhole := replace_whole (by simp) hfind
  rwa [List.append_assoc, List.singleton_append] at hwhole

/-- The rules for parameters leave the credentials of the schemes in use. -/
theorem Credentials.withoutParameters (hscheme : scheme ∈ ["Basic".toList, "Bearer".toList])
    {cs : List Char} (h : Credentials scheme cs) : Credentials scheme (withoutParameters cs) := by
  have hself : ∀ p ∈ parameters, ∀ scheme ∈ ["Basic".toList, "Bearer".toList],
      (Rule.parameter p.1 p.2).apply scheme = scheme := by decide +kernel
  have hfold : ∀ ps : List (String × Bool), (∀ p ∈ ps, p ∈ parameters) → ∀ cs,
      Credentials scheme cs →
      Credentials scheme (applyAll (ps.map fun p => .parameter p.1 p.2) cs) := by
    intro ps hps
    induction ps with
    | nil => exact fun cs h => h
    | cons p ps ih =>
      intro cs h
      rw [List.forall_mem_cons] at hps
      have havoids := avoids_of_endsValue p.2 (labels_of_mem hps.1)
        (show isValueChar ' ' = false by decide)
      exact ih hps.2 _ (h.apply_parameter havoids (hself p hps.1 scheme hscheme))
  exact hfold parameters (fun p hp => hp) cs h

/-- Once the rules for parameters have been applied, the rules for credentials are the first that
change them. -/
theorem redact_credentials (hscheme : scheme ∈ ["Basic".toList, "Bearer".toList]) {text : String}
    (h : Credentials scheme text.toList) : ∃ cs, Credentials scheme cs ∧
      redact text = String.ofList (applyAll (rules.drop 8) cs) := by
  have hcs := h.withoutParameters hscheme
  have hname : ∀ scheme ∈ ["Basic".toList, "Bearer".toList], ∀ a ∈ scheme.tails,
      afterName? "authorization:".toList a = none := by decide
  have hrules : rules = rules.take 6 ++ (.header "bearer" :: .header "basic" :: rules.drop 8) := rfl
  refine ⟨_, hcs, ?_⟩
  have hfirst : applyAll (rules.take 6) text.toList = withoutParameters text.toList := rfl
  rw [redact_eq]
  conv_lhs =>
    rw [hrules, applyAll_append, applyAll_cons, applyAll_cons, hfirst,
      hcs.apply_header (hname scheme hscheme), hcs.apply_header (hname scheme hscheme)]

end

end Redaction

theorem credentials_append (scheme : String) {value : String} (hne : value ≠ "")
    (hvalue : ∀ c ∈ value.toList, isBlank c = false) :
    Redaction.Credentials scheme.toList (scheme ++ " " ++ value).toList := by
  refine ⟨value.toList, ?_, fun hnil => hne (String.toList_eq_nil_iff.1 hnil), hvalue⟩
  have hblank : " ".toList = [' '] := by decide
  rw [String.toList_append, String.toList_append, hblank, List.append_assoc, List.singleton_append]

/-- What redaction leaves of the credentials of a client. -/
theorem redact_basic {value : String} (hne : value ≠ "")
    (hvalue : ∀ c ∈ value.toList, isBlank c = false) :
    redact ("Basic" ++ " " ++ value) = "Basic [REDACTED]" := by
  obtain ⟨cs, hcs, hredact⟩ := Redaction.redact_credentials (by decide)
    (credentials_append "Basic" hne hvalue)
  have hother : (Redaction.Rule.credentials "bearer").apply cs = cs := by
    obtain ⟨value, rfl, -, -⟩ := hcs
    refine Redaction.apply_credentials_eq_self ?_
    rw [Redaction.afterName?_append (by decide)]
    rfl
  have hrules : Redaction.rules.drop 8 =
      .credentials "bearer" :: .credentials "basic" :: Redaction.rules.drop 10 := rfl
  rw [hredact, hrules, Redaction.applyAll_cons, Redaction.applyAll_cons, hother,
    Redaction.apply_credentials (by decide) (by decide) hcs]
  decide +kernel

/-- What redaction leaves of a bearer token. -/
theorem redact_bearer {value : String} (hne : value ≠ "")
    (hvalue : ∀ c ∈ value.toList, isBlank c = false) :
    redact ("Bearer" ++ " " ++ value) = "Bearer [REDACTED]" := by
  obtain ⟨cs, hcs, hredact⟩ := Redaction.redact_credentials (by decide)
    (credentials_append "Bearer" hne hvalue)
  have hrules : Redaction.rules.drop 8 = .credentials "bearer" :: Redaction.rules.drop 9 := rfl
  rw [hredact, hrules, Redaction.applyAll_cons,
    Redaction.apply_credentials (by decide) (by decide) hcs]
  decide +kernel

end LoginCallback
