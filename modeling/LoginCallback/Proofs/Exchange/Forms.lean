import LoginCallback.Proofs.Exchange.Parameters
import LoginCallback.Proofs.Exchange.Record
import LoginCallback.Proofs.Exchange.Running
import LoginCallback.Proofs.Octets.Characters

/-!
# Redacted forms

Redaction is exact on forms (`redact_encodeForm`): it puts the mark in the place of the values that
are not empty and whose labels end in the name of a secret parameter, and leaves everything else.
The rules for parameters work on each field by itself, since `&` ends a value, and find a name only
at the end of a label, since labels and values are encoded and hold no sign
(`withoutParameters_encodeField`). The other rules find nothing, since a form holds no colon, no
quote and no white space.
-/

namespace LoginCallback.Redaction

open LoginCallback.Text (isBlank isWord)
open LoginCallback.Octets (encodeFormText encodeField encodeForm joinWith)

/-! ## Fields -/

/-- Whether a label ends in the name of a secret parameter, in any letter case. Before the code and
the state no character of a word may stand. -/
def isSecretLabel (label : List Char) : Bool :=
  let small := label.map Char.toLower
  secretFields.any (fun name => name.toList.isSuffixOf small) ||
    ["code", "state"].any fun name => name.toList.isSuffixOf small &&
      !(label.take (label.length - name.length)).getLast?.any isWord

/-- A field of a form, as redaction leaves it. -/
def redactedField (f : String × String) : List Char :=
  let label := encodeFormText f.1.toList
  let value := encodeFormText f.2.toList
  label ++ '=' :: if isSecretLabel label && !value.isEmpty then mark else value

/-- The name of the grant and the labels of other codes are kept, the code is not. -/
example : isSecretLabel "grant_type".toList = false ∧ isSecretLabel "error_code".toList = false ∧
    isSecretLabel "Code".toList = true ∧ isSecretLabel "x.state".toList = true := by decide +kernel

theorem endsIn_iff_of_ascii {name : String} {wordStart : Bool} {label : List Char}
    (hlabel : ∀ c ∈ label, c.toNat < 128) : EndsIn name wordStart none label ↔
      name.toList <:+ label.map Char.toLower ∧
        (wordStart = true →
          (label.take (label.length - name.length)).getLast?.any isWord = false) := by
  constructor
  · rintro ⟨a, key, rfl, hkey, hstart⟩
    have hascii : ∀ c ∈ key, c.toNat < 128 := fun c hc => hlabel c (List.mem_append_right a hc)
    have hlength : name.length = key.length := String.length_toList ▸ hkey.length_eq
    rw [List.map_append, (spells_iff_of_ascii hascii).1 hkey]
    refine ⟨List.suffix_append _ _, ?_⟩
    rwa [List.length_append, hlength, Nat.add_sub_cancel, List.take_left, ← lastOf_none]
  · rintro ⟨⟨t, ht⟩, hstart⟩
    obtain ⟨a, key, rfl, -, hkey⟩ := List.map_eq_append_iff.1 ht.symm
    have hascii : ∀ c ∈ key, c.toNat < 128 := fun c hc => hlabel c (List.mem_append_right a hc)
    have hspells := (spells_iff_of_ascii hascii).2 hkey
    have hlength : name.length = key.length := String.length_toList ▸ hspells.length_eq
    rw [List.length_append, hlength, Nat.add_sub_cancel, List.take_left, ← lastOf_none] at hstart
    exact ⟨a, key, rfl, hspells, hstart⟩

/-- The secret labels are those in which a rule for a parameter finds its name. -/
theorem isSecretLabel_iff {label : List Char} (hlabel : ∀ c ∈ label, c.toNat < 128) :
    isSecretLabel label = true ↔ ∃ p ∈ parameters, EndsIn p.1 p.2 none label := by
  have hkinds : ∀ p ∈ parameters,
      (p.1 ∈ secretFields ∧ p.2 = false) ∨ (p.1 ∈ ["code", "state"] ∧ p.2 = true) := by decide
  have hfields : ∀ name ∈ secretFields, (name, false) ∈ parameters := by decide
  have hstarts : ∀ name ∈ ["code", "state"], (name, true) ∈ parameters := by decide
  unfold isSecretLabel
  rw [Bool.or_eq_true, List.any_eq_true, List.any_eq_true]
  constructor
  · rintro (⟨name, hname, hends⟩ | ⟨name, hname, hends⟩)
    · refine ⟨_, hfields name hname, (endsIn_iff_of_ascii hlabel).2 ⟨?_, by simp⟩⟩
      exact List.isSuffixOf_iff_suffix.1 hends
    · obtain ⟨hends, hstart⟩ := Bool.and_eq_true_iff.1 hends
      refine ⟨_, hstarts name hname, (endsIn_iff_of_ascii hlabel).2 ⟨?_, fun _ => ?_⟩⟩
      · exact List.isSuffixOf_iff_suffix.1 hends
      · rwa [Bool.not_eq_true'] at hstart
  · rintro ⟨⟨name, wordStart⟩, hp, hends⟩
    obtain ⟨hsuffix, hstart⟩ := (endsIn_iff_of_ascii hlabel).1 hends
    rw [← List.isSuffixOf_iff_suffix] at hsuffix
    rcases hkinds _ hp with ⟨hname, -⟩ | ⟨hname, rfl⟩
    · exact Or.inl ⟨name, hname, hsuffix⟩
    · refine Or.inr ⟨name, hname, ?_⟩
      rw [Bool.and_eq_true_iff, Bool.not_eq_true']
      exact ⟨hsuffix, hstart rfl⟩

section

variable {name : String} {wordStart : Bool} {label value : List Char}

/-- A parameter without a value is kept. -/
theorem apply_without_value (hsign : '=' ∉ label) :
    (Rule.parameter name wordStart).apply (label ++ ['=']) = label ++ ['='] := by
  refine replace_eq_self fun u c v hcs => ?_
  simp only [Rule.find]
  split
  · rfl
  · split
    · rename_i rest hrest
      obtain ⟨key, hkey, heq⟩ := afterName?_eq_some.1 hrest
      obtain ⟨key', rfl, -⟩ := (spells_concat (by decide)).1 hkey
      have hsplit : label ++ '=' :: [] = (u ++ key') ++ '=' :: rest := by
        rw [hcs, heq]
        simp
      obtain ⟨-, -, rfl⟩ := (List.append_cons_inj_of_notMem hsign List.not_mem_nil).1 hsplit
      rfl
    · rfl

/-- The value behind a label that ends in the name is replaced. -/
theorem apply_of_endsIn (hname : Labels name) (hlabel : ∀ c ∈ label, isValueChar c = true)
    (hsign : '=' ∉ label) (hvalue : IsValue value) (h : EndsIn name wordStart none label) :
    (Rule.parameter name wordStart).apply (label ++ '=' :: value) = label ++ '=' :: mark := by
  obtain ⟨p, ⟨rest, hp⟩, hmem, hscan⟩ := scan_of_named hname hlabel (named_of_endsIn hname h)
  obtain ⟨u, v, rfl⟩ := List.append_of_mem hmem
  rw [List.append_assoc, List.cons_append] at hp
  obtain ⟨rfl, -, hnil⟩ := (List.append_cons_inj_of_notMem hsign List.not_mem_nil).1 hp.symm
  obtain ⟨rfl, -⟩ := List.append_eq_nil_iff.1 hnil.symm
  have happly := hscan value hvalue.ne_nil hvalue.chars
  rwa [List.append_assoc, List.singleton_append] at happly

/-- A parameter of another name is kept. -/
theorem apply_of_not_endsIn (hname : Labels name) (hsign : '=' ∉ label) (hvalue : '=' ∉ value)
    (h : ¬ EndsIn name wordStart none label) :
    (Rule.parameter name wordStart).apply (label ++ '=' :: value) = label ++ '=' :: value := by
  have hrest : replace (Rule.parameter name wordStart).find 0 (some '=') value = value := by
    refine replace_eq_self fun u c v hcs => ?_
    have hnone : afterName? (name.toList ++ ['=']) (c :: v) = none :=
      afterName?_eq_none (by decide) (List.mem_append_right _ List.mem_cons_self)
        fun hmem => hvalue (hcs ▸ List.mem_append_right u hmem)
    simp only [Rule.find, hnone, ite_self]
  unfold Rule.apply
  rw [scan_of_not_named hname (fun hnamed => h (endsIn_of_named hsign hnamed)), hrest]

section

variable {ps : List (String × Bool)} (hps : ∀ p ∈ ps, p ∈ parameters)

include hps

theorem applyAll_kept (hsign : '=' ∉ label) (hvalue : '=' ∉ value)
    (h : value = [] ∨ ∀ p ∈ ps, ¬ EndsIn p.1 p.2 none label) :
    applyAll (ps.map fun p => .parameter p.1 p.2) (label ++ '=' :: value) = label ++ '=' :: value := by
  refine applyAll_eq_self (List.forall_mem_map.2 fun p hp => ?_)
  rcases h with rfl | h
  · exact apply_without_value hsign
  · exact apply_of_not_endsIn (labels_of_mem (hps p hp)) hsign hvalue (h p hp)

/-- The first rule that finds its name replaces the value, and the others find the mark. -/
theorem applyAll_hidden (hlabel : ∀ c ∈ label, isValueChar c = true) (hsign : '=' ∉ label)
    (hvalue : IsValue value) (hvalue' : '=' ∉ value) (h : ∃ p ∈ ps, EndsIn p.1 p.2 none label) :
    applyAll (ps.map fun p => .parameter p.1 p.2) (label ++ '=' :: value) = label ++ '=' :: mark := by
  have hmark : IsValue mark ∧ '=' ∉ mark := ⟨⟨mark_ne_nil, by decide⟩, by decide⟩
  induction ps generalizing value with
  | nil => simp at h
  | cons p ps ih =>
    rw [List.forall_mem_cons] at hps
    have hname := labels_of_mem hps.1
    rw [List.map_cons, applyAll_cons]
    by_cases hrest : ∃ p ∈ ps, EndsIn p.1 p.2 none label
    · by_cases hhere : EndsIn p.1 p.2 none label
      · rw [apply_of_endsIn hname hlabel hsign hvalue hhere, ih hps.2 hmark.1 hmark.2 hrest]
      · rw [apply_of_not_endsIn hname hsign hvalue' hhere, ih hps.2 hvalue hvalue' hrest]
    · have hhere : EndsIn p.1 p.2 none label :=
        ((List.exists_mem_cons_iff _ _ _).1 h).resolve_right hrest
      rw [apply_of_endsIn hname hlabel hsign hvalue hhere]
      exact applyAll_kept hps.2 hsign hmark.2 (Or.inr fun p hp hends => hrest ⟨p, hp, hends⟩)

end

end

/-! ## Forms -/

/-- Encoded texts are words, without the signs around which secrets are recognised. -/
theorem facts_of_mem_encodeFormText {cs : List Char} {c : Char} (h : c ∈ encodeFormText cs) :
    isValueChar c = true ∧ c.toNat < 128 ∧ c ∉ ['=', ':', '"'] := by
  have hsigns : ∀ c ∈ ['=', ':', '"'], Octets.isUnreserved c = false ∧ c ≠ '+' ∧ c ≠ '%' := by decide
  obtain ⟨hlow, hhigh, hseparator, -⟩ := Octets.toNat_of_mem_encodeFormText h
  have hne : c ≠ '&' := fun h => hseparator (h ▸ rfl)
  have hblank := Text.isBlank_of_printable ⟨hlow, hhigh⟩
  refine ⟨by simp [isValueChar, hne, hblank], by omega, fun hmem => ?_⟩
  obtain ⟨hunreserved, hplus, hpercent⟩ := hsigns c hmem
  rcases Octets.mem_encodeFormText h with h | h | h
  · rw [h] at hunreserved
    cases hunreserved
  · exact hplus h
  · exact hpercent h

theorem withoutParameters_encodeField (f : String × String) :
    withoutParameters (encodeField f) = redactedField f := by
  have hchars : ∀ cs, ∀ c ∈ encodeFormText cs, isValueChar c = true :=
    fun cs c hc => (facts_of_mem_encodeFormText hc).1
  have hsign : ∀ cs, '=' ∉ encodeFormText cs :=
    fun cs hc => (facts_of_mem_encodeFormText hc).2.2 (by decide)
  have hascii : ∀ cs, ∀ c ∈ encodeFormText cs, c.toNat < 128 :=
    fun cs c hc => (facts_of_mem_encodeFormText hc).2.1
  unfold withoutParameters encodeField redactedField
  rw [rules_take]
  dsimp only
  by_cases hnil : encodeFormText f.2.toList = []
  · rw [hnil, applyAll_kept (fun p hp => hp) (hsign _) List.not_mem_nil (Or.inl rfl)]
    simp
  · by_cases hsecret : isSecretLabel (encodeFormText f.1.toList) = true
    · rw [applyAll_hidden (fun p hp => hp) (hchars _) (hsign _) ⟨hnil, hchars _⟩ (hsign _)
        ((isSecretLabel_iff (hascii _)).1 hsecret)]
      simp [hsecret, hnil]
    · have hkept : ∀ p ∈ parameters, ¬ EndsIn p.1 p.2 none (encodeFormText f.1.toList) :=
        fun p hp hends => hsecret ((isSecretLabel_iff (hascii _)).2 ⟨p, hp, hends⟩)
      rw [applyAll_kept (fun p hp => hp) (hsign _) (hsign _) (Or.inr hkept)]
      simp [hsecret]

theorem withoutParameters_joinWith (fields : List (List Char)) :
    withoutParameters (joinWith '&' fields) = joinWith '&' (fields.map withoutParameters) := by
  have hfold : ∀ ps : List (String × Bool), (∀ p ∈ ps, p ∈ parameters) → ∀ fields,
      applyAll (ps.map fun p => .parameter p.1 p.2) (joinWith '&' fields) =
        joinWith '&' (fields.map (applyAll (ps.map fun p => .parameter p.1 p.2))) := by
    intro ps hps
    induction ps with
    | nil =>
      intro fields
      have hid : applyAll [] = id := rfl
      rw [List.map_nil, hid, List.map_id]
      rfl
    | cons p ps ih =>
      intro fields
      have havoids := avoids_of_endsValue p.2 (labels_of_mem (hps p List.mem_cons_self))
        (show isValueChar '&' = false by decide)
      rw [List.map_cons, applyAll_cons, apply_parameter_joinWith havoids,
        ih fun p hp => hps p (List.mem_cons_of_mem _ hp), List.map_map]
      rfl
  exact hfold parameters (fun p hp => hp) fields

theorem withoutParameters_encodeForm (fields : List (String × String)) :
    withoutParameters (encodeForm fields).toList = joinWith '&' (fields.map redactedField) := by
  unfold encodeForm
  have hfields : fields.map (withoutParameters ∘ encodeField) = fields.map redactedField := by
    refine List.map_congr_left fun f _ => ?_
    rw [Function.comp_apply, withoutParameters_encodeField]
  rw [String.toList_ofList, withoutParameters_joinWith, List.map_map, hfields]

theorem mem_joinWith {separator x : Char} {parts : List (List Char)}
    (h : x ∈ joinWith separator parts) : x = separator ∨ ∃ part ∈ parts, x ∈ part := by
  fun_induction joinWith separator parts with
  | case1 => cases h
  | case2 part => exact Or.inr ⟨part, List.mem_cons_self, h⟩
  | case3 part next parts ih =>
    rcases List.mem_append.1 h with h | h
    · exact Or.inr ⟨part, List.mem_cons_self, h⟩
    · rcases List.mem_cons.1 h with rfl | h
      · exact Or.inl rfl
      · obtain h | ⟨part', hpart', h⟩ := ih h
        · exact Or.inl h
        · exact Or.inr ⟨part', List.mem_cons_of_mem _ hpart', h⟩

/-- A redacted form holds no colon, no quote and no white space. -/
theorem facts_of_mem_redactedFields {fields : List (String × String)} {c : Char}
    (h : c ∈ joinWith '&' (fields.map redactedField)) : c ∉ [':', '"'] ∧ isBlank c = false := by
  have hfixed : ∀ c ∈ '&' :: '=' :: mark, c ∉ [':', '"'] ∧ isBlank c = false := by decide
  have hencoded : ∀ cs, ∀ c ∈ encodeFormText cs, c ∉ [':', '"'] ∧ isBlank c = false := by
    intro cs c hc
    obtain ⟨hchar, -, hsigns⟩ := facts_of_mem_encodeFormText hc
    refine ⟨fun hmem => hsigns (List.mem_cons_of_mem _ hmem), ?_⟩
    unfold isValueChar at hchar
    rw [Bool.and_eq_true_iff, Bool.not_eq_true'] at hchar
    exact hchar.2
  rcases mem_joinWith h with rfl | ⟨field, hfield, hc⟩
  · exact hfixed _ List.mem_cons_self
  · obtain ⟨f, -, rfl⟩ := List.mem_map.1 hfield
    unfold redactedField at hc
    dsimp only at hc
    rcases List.mem_append.1 hc with hc | hc
    · exact hencoded _ c hc
    · rcases List.mem_cons.1 hc with rfl | hc
      · exact hfixed _ (by decide)
      · split at hc
        · exact hfixed c (List.mem_cons_of_mem _ (List.mem_cons_of_mem _ hc))
        · exact hencoded _ c hc

/-- No credentials stand in a text without white space. -/
theorem apply_credentials_of_no_blank {scheme : String} {cs : List Char}
    (h : ∀ c ∈ cs, isBlank c = false) : (Rule.credentials scheme).apply cs = cs := by
  refine replace_eq_self fun u c v hcs => ?_
  have hv : ∀ x ∈ c :: v, isBlank x = false := fun x hx => h x (hcs ▸ List.mem_append_right u hx)
  simp only [Rule.find, findCredentials]
  split
  · rfl
  · split
    · rename_i b rest hrest
      rw [hv b ((suffix_of_afterName? hrest).subset List.mem_cons_self)]
      rfl
    · rfl

end LoginCallback.Redaction

namespace LoginCallback

/-- Redaction replaces the values of the secret fields of a form and changes nothing else. -/
theorem redact_encodeForm (fields : List (String × String)) :
    redact (Octets.encodeForm fields) =
      String.ofList (Octets.joinWith '&' (fields.map Redaction.redactedField)) := by
  have hself : ∀ r ∈ Redaction.rules.drop 6,
      r.apply (Octets.joinWith '&' (fields.map Redaction.redactedField)) =
        Octets.joinWith '&' (fields.map Redaction.redactedField) := by
    have hkinds : ∀ r ∈ Redaction.rules.drop 6, ∀ name wordStart, r ≠ .parameter name wordStart := by
      simp [Redaction.rules]
    intro r hr
    cases r with
    | parameter name wordStart => exact absurd rfl (hkinds _ hr name wordStart)
    | header scheme =>
      exact Redaction.apply_header_eq_self fun hc =>
        (Redaction.facts_of_mem_redactedFields hc).1 (by decide)
    | credentials scheme =>
      exact Redaction.apply_credentials_of_no_blank fun c hc =>
        (Redaction.facts_of_mem_redactedFields hc).2
    | line name =>
      exact Redaction.apply_line_eq_self fun hc =>
        (Redaction.facts_of_mem_redactedFields hc).1 (by decide)
    | field name =>
      exact Redaction.apply_field_eq_self fun hc =>
        (Redaction.facts_of_mem_redactedFields hc).1 (by decide)
  rw [Redaction.redact_eq_withoutParameters, Redaction.withoutParameters_encodeForm,
    Redaction.applyAll_eq_self hself]

end LoginCallback
