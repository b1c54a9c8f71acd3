import LoginCallback.Proofs.Exchange.Names
import LoginCallback.Proofs.Exchange.Running
import Mathlib.Data.List.Infix

/-!
# Secret fields in running text

Redaction puts the mark in the place of the value of a secret field, whatever the value is
(`redact_framed`), if the rules for running text leave the quotes of the value (`Held`) and the
quote before the name does not end another field of that name (`EndsField`). The rules for fields
find a field by its four quotes, and so leave the fields with other names. Redaction brings no name
into a text (`lacks_applyAll`), so it is enough that the name does not occur before the field.
-/

namespace LoginCallback.Redaction

open LoginCallback.Text (isBlank)

/-! ## Fields -/

theorem length_of_afterName? {ks cs rest : List Char} (h : afterName? ks cs = some rest) :
    cs.length = ks.length + rest.length := by
  induction ks generalizing cs with
  | nil => rw [Option.some.inj h, List.length_nil, Nat.zero_add]
  | cons k ks ih =>
    cases cs with
    | nil => cases h
    | cons c cs =>
      rw [afterName?] at h
      split at h
      · rw [List.length_cons, List.length_cons, ih h]
        omega
      · cases h

theorem afterName?_symbol {k : Char} (hk : k ∈ ['=', ':', '"']) (c : Char) (v : List Char) :
    afterName? [k] (c :: v) = if c = k then some v else none := by
  simp only [afterName?, isCaseOf_symbol hk]

theorem afterName?_symbol_append {k : Char} {a : List Char} (hne : a ≠ []) (v : List Char) :
    afterName? [k] (a ++ v) = (afterName? [k] a).map (· ++ v) := by
  obtain ⟨c, a, rfl⟩ := List.exists_cons_of_ne_nil hne
  simp only [List.cons_append, afterName?]
  split <;> rfl

theorem afterName?_nil {ks : List Char} (hne : ks ≠ []) : afterName? ks [] = none := by
  obtain ⟨k, ks, rfl⟩ := List.exists_cons_of_ne_nil hne
  rfl

/-- What follows a colon and a quote, each behind blanks. -/
def afterColon? (cs : List Char) : Option (List Char) :=
  (afterName? [':'] (dropBlank cs)).bind fun rest => afterName? ['"'] (dropBlank rest)

theorem afterColon?_of_ne {w : List Char} (hw : ∀ c ∈ w.head?, isBlank c = false ∧ c ≠ ':') :
    afterColon? w = none := by
  cases w with
  | nil => rfl
  | cons c w =>
    obtain ⟨hblank, hc⟩ := hw c rfl
    have hdrop : dropBlank (c :: w) = c :: w := List.dropWhile_cons_of_neg (by simp [hblank])
    rw [afterColon?, hdrop, afterName?_symbol (by decide), if_neg hc]
    rfl

/-- A quote is not the one behind a colon, if no colon stands before it. -/
theorem afterColon?_append {u : List Char} (h : NoColonAtEnd u) (v : List Char) :
    afterColon? (u ++ '"' :: v) = (afterColon? u).map (· ++ '"' :: v) := by
  have hquote : isBlank '"' = false := by decide
  unfold afterColon?
  rw [dropBlank_append hquote]
  cases hdrop : dropBlank u with
  | nil =>
    rw [List.nil_append, afterName?_symbol (by decide), if_neg (by decide)]
    rfl
  | cons c rest =>
    rw [List.cons_append, afterName?_symbol (by decide), afterName?_symbol (by decide)]
    split
    · rename_i hc
      have hsuffix : ':' :: rest <:+ u := by
        rw [← hc, ← hdrop]
        exact List.dropWhile_suffix isBlank
      obtain ⟨t, ht⟩ := hsuffix
      obtain ⟨d, hd, hblank⟩ := h t rest ht.symm
      have hne : dropBlank rest ≠ [] := by
        unfold dropBlank
        rw [Ne, List.dropWhile_eq_nil_iff]
        intro hall
        rw [hall d hd] at hblank
        cases hblank
      rw [Option.bind_some, Option.bind_some, dropBlank_append hquote, afterName?_symbol_append hne]
    · rfl

theorem afterField?_of_ne {name : List Char} {c : Char} (hc : c ≠ '"') (v : List Char) :
    afterField? name (c :: v) = none := by
  unfold afterField?
  rw [afterName?_symbol (by decide), if_neg hc]
  rfl

theorem afterField?_quote (name v : List Char) :
    afterField? name ('"' :: v) = (afterName? name v).bind fun rest =>
      (afterName? ['"'] rest).bind fun rest => (afterColon? rest).map (v.take name.length, ·) := by
  unfold afterField? afterColon?
  rw [afterName?_symbol (by decide), if_pos rfl]
  simp only [Option.bind_eq_bind, Option.bind_some, Option.pure_def, Option.map_eq_bind,
    Option.bind_assoc]
  rfl

/-- A field that begins before a quote. Its first three quotes stand before that quote too, since
neither a colon before it nor blanks and a colon behind it make it part of the beginning. -/
theorem afterField?_append {name : List Char} (hname : ∀ k ∈ name, isCaseOf k '"' = false)
    {a : List Char} (hne : a ≠ []) (hcolon : NoColonAtEnd a) {w : List Char}
    (hw : ∀ c ∈ w.head?, isBlank c = false ∧ c ≠ ':') :
    afterField? name (a ++ '"' :: w) =
      (afterField? name a).map fun x => (x.1, x.2 ++ '"' :: w) := by
  obtain ⟨c, a, rfl⟩ := List.exists_cons_of_ne_nil hne
  by_cases hc : c = '"'
  · subst hc
    rw [List.cons_append, afterField?_quote, afterField?_quote, afterName?_append hname]
    cases hrest : afterName? name a with
    | none => rfl
    | some rest =>
      have hlength := length_of_afterName? hrest
      simp only [Option.map_some, Option.bind_some]
      cases rest with
      | nil =>
        rw [List.nil_append, afterName?_symbol (by decide), if_pos rfl, Option.bind_some,
          afterColon?_of_ne hw]
        rfl
      | cons d rest =>
        rw [afterName?_symbol_append (List.cons_ne_nil d rest)]
        cases hquote : afterName? ['"'] (d :: rest) with
        | none => rfl
        | some rest' =>
          have hsuffix := (suffix_of_afterName? hquote).trans (suffix_of_afterName? hrest)
          have hcolon' := hcolon.suffix (hsuffix.trans (List.suffix_cons _ _))
          simp only [Option.map_some, Option.bind_some]
          rw [afterColon?_append hcolon', List.take_append_of_le_length (by omega)]
          cases afterColon? rest' <;> rfl
  · rw [List.cons_append, afterField?_of_ne hc, afterField?_of_ne hc]
    rfl

/-- What is found of a field whose value starts at `rest`. -/
def fieldHit (cs written rest : List Char) : Option Hit :=
  let value := rest.takeWhile (· != '"')
  if value.isEmpty || value.length = rest.length then none
  else some ⟨'"' :: written ++ "\": \"".toList ++ mark ++ ['"'],
    cs.length - rest.length + value.length + 1⟩

theorem find_field (name : String) (before : Option Char) (cs : List Char) :
    (Rule.field name).find before cs =
      (afterField? name.toList cs).bind fun x => fieldHit cs x.1 x.2 := rfl

theorem shown_of_field {other : String} {before : Option Char} {cs : List Char} {hit : Hit}
    (h : (Rule.field other).find before cs = some hit) : ∃ v n, cs = '"' :: v ∧
      hit.shown = ('"' :: v).take (n + 1) ++ '"' :: (": \"[REDACTED]".toList ++ ['"']) := by
  rw [find_field] at h
  obtain ⟨x, hx, hhit⟩ := Option.bind_eq_some_iff.1 h
  obtain ⟨v, rfl⟩ : ∃ v, cs = '"' :: v := by
    cases cs with
    | nil => cases hx
    | cons c v =>
      by_cases hc : c = '"'
      · exact ⟨v, by rw [hc]⟩
      · rw [afterField?_of_ne hc] at hx
        cases hx
  have hwritten : x.1 = v.take other.toList.length := by
    rw [afterField?_quote] at hx
    obtain ⟨rest, -, hx⟩ := Option.bind_eq_some_iff.1 hx
    obtain ⟨rest', -, hx⟩ := Option.bind_eq_some_iff.1 hx
    obtain ⟨value, -, rfl⟩ := Option.map_eq_some_iff.1 hx
    rfl
  have hshown : ∀ written : List Char, '"' :: written ++ "\": \"".toList ++ mark ++ ['"'] =
      '"' :: written ++ '"' :: (": \"[REDACTED]".toList ++ ['"']) := by
    intro written
    simp only [List.cons_append, List.append_assoc]
    rfl
  refine ⟨v, other.toList.length, rfl, ?_⟩
  unfold fieldHit at hhit
  dsimp only at hhit
  split at hhit
  · cases hhit
  · rw [← Option.some.inj hhit, List.take_succ_cons, ← hwritten]
    exact hshown x.1

theorem shown_field (name : String) (b : Option Char) (a : List Char) (hit : Hit)
    (h : (Rule.field name).find b a = some hit) : ∃ w, hit.shown = w ++ [']', '"'] := by
  obtain ⟨v, n, -, hshown⟩ := shown_of_field h
  exact ⟨('"' :: v).take (n + 1) ++ '"' :: ": \"[REDACTED".toList, by rw [hshown]; simp⟩

theorem suffix_of_afterField? {name cs : List Char} {x : List Char × List Char}
    (h : afterField? name cs = some x) : x.2 <:+ cs := by
  unfold afterField? at h
  obtain ⟨r₀, h₀, h⟩ := Option.bind_eq_some_iff.1 h
  obtain ⟨r₁, h₁, h⟩ := Option.bind_eq_some_iff.1 h
  obtain ⟨r₂, h₂, h⟩ := Option.bind_eq_some_iff.1 h
  obtain ⟨r₃, h₃, h⟩ := Option.bind_eq_some_iff.1 h
  obtain ⟨r₄, h₄, h⟩ := Option.bind_eq_some_iff.1 h
  obtain rfl := Option.some.inj h
  have hvalue := (suffix_of_afterName? h₄).trans (List.dropWhile_suffix isBlank)
  have hcolon := (suffix_of_afterName? h₃).trans (List.dropWhile_suffix isBlank)
  exact ((hvalue.trans hcolon).trans (suffix_of_afterName? h₂)).trans
    ((suffix_of_afterName? h₁).trans (suffix_of_afterName? h₀))

theorem size_field (name : String) (b : Option Char) (a : List Char) (hit : Hit)
    (h : (Rule.field name).find b a = some hit) : hit.size ≤ a.length := by
  rw [find_field] at h
  obtain ⟨x, hx, hhit⟩ := Option.bind_eq_some_iff.1 h
  have hrest := (suffix_of_afterField? hx).length_le
  have hvalue := (List.takeWhile_prefix (· != '"') (l := x.2)).length_le
  unfold fieldHit at hhit
  dsimp only at hhit
  split at hhit
  · cases hhit
  · rename_i hopen
    have hne : ¬ (x.2.takeWhile (· != '"')).length = x.2.length := by
      intro heq
      exact hopen (by simp [heq])
    obtain rfl := Option.some.inj hhit
    dsimp only
    omega

/-- A field whose value ends before a quote, or with it. -/
theorem fieldHit_append (a written rest w : List Char) :
    fieldHit (a ++ '"' :: w) written (rest ++ '"' :: w) =
      if (rest.takeWhile (· != '"')).isEmpty then none
      else some ⟨'"' :: written ++ "\": \"".toList ++ mark ++ ['"'],
        a.length - rest.length + (rest.takeWhile (· != '"')).length + 1⟩ := by
  have hvalue : (rest ++ '"' :: w).takeWhile (· != '"') = rest.takeWhile (· != '"') := by
    rw [List.takeWhile_append]
    split
    · rename_i hall
      rw [List.takeWhile_cons_of_neg (by simp), List.append_nil]
      exact ((List.takeWhile_prefix _).eq_of_length hall).symm
    · rfl
  have hle := (List.takeWhile_prefix (· != '"') (l := rest)).length_le
  have hshort : ¬ (rest.takeWhile (· != '"')).length = (rest ++ '"' :: w).length := by
    rw [List.length_append, List.length_cons]
    omega
  unfold fieldHit
  dsimp only
  rw [hvalue]
  simp only [hshort, decide_false, Bool.or_false]
  rw [List.length_append, List.length_append, Nat.add_sub_add_right]

/-! ### The rules for other fields -/

theorem head_of_suffix_append {a x y : List Char} (h : a <:+ x ++ y) :
    a <:+ y ∨ ∃ c t, a = c :: t ∧ c ∈ x := by
  induction x with
  | nil => exact Or.inl h
  | cons c x ih =>
    rcases List.suffix_cons_iff.1 h with rfl | h
    · exact Or.inr ⟨c, x ++ y, rfl, List.mem_cons_self⟩
    · exact (ih h).imp_right fun ⟨d, t, ha, hd⟩ => ⟨d, t, ha, List.mem_cons_of_mem c hd⟩

theorem secretFields_facts {name : String} (h : name ∈ secretFields) :
    name.toList ≠ [] ∧ ∀ c ∈ ['"', ':', ',', '\x7b', '\x7d', '='], ∀ k ∈ name.toList,
      isCaseOf k c = false := by
  revert name
  decide

/-- A symbol that cannot stand inside a field, or the end of the text. -/
def Stops (v : List Char) : Prop := ∀ c ∈ v.head?, c = ',' ∨ c = '\x7d'

theorem Behind.stops {v : List Char} (h : Behind v) : Stops v := by
  obtain ⟨c, w, hc, rfl⟩ := h
  intro d hd
  exact Option.some.inj hd ▸ hc

theorem afterName?_of_stops {name : String} (hname : name ∈ secretFields) {v : List Char}
    (hv : Stops v) : afterName? name.toList v = none := by
  obtain ⟨hne, havoids⟩ := secretFields_facts hname
  cases v with
  | nil => exact afterName?_nil hne
  | cons c v =>
    exact afterName?_of_avoids hne (havoids c (by rcases hv c rfl with rfl | rfl <;> simp)) v

theorem afterColon?_of_stops {v : List Char} (hv : Stops v) : afterColon? v = none := by
  refine afterColon?_of_ne fun c hc => ?_
  rcases hv c hc with rfl | rfl
  · exact ⟨by decide, by decide⟩
  · exact ⟨by decide, by decide⟩

/-- The quote before the value begins no field, since the quote behind the value would be the one
behind its name. -/
theorem afterField?_value {name : String} (hname : name ∈ secretFields) {value : List Char}
    (hvalue : '"' ∉ value) {v : List Char} (hv : Stops v) :
    afterField? name.toList ('"' :: (value ++ '"' :: v)) = none := by
  rw [afterField?_quote, afterName?_append ((secretFields_facts hname).2 '"' (by simp))]
  cases h : afterName? name.toList value with
  | none => rfl
  | some rest =>
    cases rest with
    | nil =>
      simp only [Option.map_some, Option.bind_some, List.nil_append]
      rw [afterName?_symbol (by decide), if_pos rfl, Option.bind_some, afterColon?_of_stops hv]
      rfl
    | cons c rest =>
      have hc : c ≠ '"' := by
        rintro rfl
        exact hvalue ((suffix_of_afterName? h).subset List.mem_cons_self)
      simp only [Option.map_some, Option.bind_some, List.cons_append]
      rw [afterName?_symbol (by decide), if_neg hc]
      rfl

/-- No field begins behind the first quote of a field. -/
theorem afterField?_inside {other name : String} (ho : other ∈ secretFields)
    (hname : name ∈ secretFields) {value : List Char} (hvalue : '"' ∉ value) {a : List Char}
    (hne : a ≠ []) (ha : a <:+ opening name ++ (value ++ ['"'])) {v : List Char} (hv : Stops v) :
    afterField? other.toList (a ++ v) = none := by
  obtain ⟨hother, havoids⟩ := secretFields_facts ho
  have hletter : ∀ c ∈ name.toList, c ≠ '"' := by
    rintro c hc rfl
    have hcase := (secretFields_facts hname).2 '"' (by simp) '"' hc
    exact absurd hcase (by decide)
  have hcolon : ∀ w, afterField? other.toList ('"' :: ':' :: w) = none := by
    intro w
    rw [afterField?_quote, afterName?_of_avoids hother (havoids ':' (by simp))]
    rfl
  -- one case for each quote, and the characters between them
  unfold opening at ha
  rw [List.append_assoc] at ha
  rcases head_of_suffix_append ha with ha | ⟨c, t, rfl, hc⟩
  · rcases List.suffix_cons_iff.1 ha with rfl | ha
    · exact hcolon _
    rcases List.suffix_cons_iff.1 ha with rfl | ha
    · exact afterField?_of_ne (by decide) _
    rcases List.suffix_cons_iff.1 ha with rfl | ha
    · exact afterField?_of_ne (by decide) _
    rcases List.suffix_cons_iff.1 ha with rfl | ha
    · have hself := afterField?_value ho hvalue hv
      simpa using hself
    have hbehind : a <:+ value ++ ['"'] := ha
    rcases head_of_suffix_append hbehind with ha | ⟨c, t, rfl, hc⟩
    · rcases List.suffix_cons_iff.1 ha with rfl | ha
      · rw [List.cons_append, List.nil_append, afterField?_quote, afterName?_of_stops ho hv]
        rfl
      · exact absurd (List.suffix_nil.1 ha) hne
    · exact afterField?_of_ne (fun h => hvalue (h ▸ hc)) _
  · exact afterField?_of_ne (hletter c hc) _

theorem head?_opening {name : String} (hname : name ∈ secretFields) (v : List Char) :
    ∀ c ∈ (opening name ++ v).head?, isBlank c = false ∧ c ≠ ':' := by
  have hall : ∀ name ∈ secretFields, ∀ c ∈ name.toList, isBlank c = false ∧ c ≠ ':' := by decide
  intro c hc
  obtain ⟨d, ds, hds⟩ := List.exists_cons_of_ne_nil (secretFields_facts hname).1
  rw [opening, hds] at hc
  refine hall name hname c ?_
  rw [hds, ← Option.some.inj hc]
  exact List.mem_cons_self

/-- A field that begins before a quote is found, or not, whatever follows the quote. -/
theorem find_field_append {other : String} (ho : other ∈ secretFields) {a : List Char} (hne : a ≠ [])
    (hcolon : NoColonAtEnd a) {w : List Char} (hw : ∀ c ∈ w.head?, isBlank c = false ∧ c ≠ ':')
    (before : Option Char) : (Rule.field other).find before (a ++ '"' :: w) =
      (Rule.field other).find before (a ++ ['"']) := by
  have havoids : ∀ k ∈ other.toList, isCaseOf k '"' = false :=
    (secretFields_facts ho).2 '"' (by simp)
  have hend : ∀ c ∈ ([] : List Char).head?, isBlank c = false ∧ c ≠ ':' := by simp
  rw [find_field, find_field, afterField?_append havoids hne hcolon hw,
    afterField?_append havoids hne hcolon hend]
  cases afterField? other.toList a with
  | none => rfl
  | some x =>
    simp only [Option.map_some, Option.bind_some]
    rw [fieldHit_append, fieldHit_append]

/-- The quote before a name begins no field with another name. -/
theorem afterField?_other {other name : String} (ho : other ∈ secretFields)
    (hname : name ∈ secretFields) (hne : other ≠ name) (v : List Char) :
    afterField? other.toList ('"' :: (opening name ++ v)) = none := by
  have hnames : ∀ other ∈ secretFields, ∀ name ∈ secretFields, other ≠ name →
      afterName? other.toList name.toList = none := by decide
  have hsplit : opening name ++ v = name.toList ++ '"' :: (':' :: ' ' :: '"' :: v) := by
    simp [opening]
  rw [afterField?_quote, hsplit, afterName?_append ((secretFields_facts ho).2 '"' (by simp)),
    hnames other ho name hname hne]
  rfl

/-- A rule for another field works on what stands before the field, the quote included, and on what
stands behind it. -/
theorem apply_other {other name : String} (ho : other ∈ secretFields) (hname : name ∈ secretFields)
    (hne : other ≠ name) {u : List Char} (hu : NoColonAtEnd u) {value : List Char}
    (hvalue : '"' ∉ value) {behind : List Char} (hbehind : Behind behind) :
    (Rule.field other).apply ((u ++ ['"']) ++ (opening name ++ (value ++ '"' :: behind))) =
      (Rule.field other).apply (u ++ ['"']) ++ (opening name ++ (value ++ '"' ::
        replace (Rule.field other).find 0 (some '"') behind)) := by
  have hfront : ∀ before a, a ≠ [] → a <:+ u ++ ['"'] →
      (Rule.field other).find before (a ++ (opening name ++ (value ++ '"' :: behind))) =
        (Rule.field other).find before a := by
    intro before a hane ha
    rcases List.suffix_concat_iff.1 ha with rfl | ⟨a, rfl, hsuffix⟩
    · exact absurd rfl hane
    · rw [List.append_assoc, List.singleton_append]
      by_cases hanil : a = []
      · subst hanil
        have hquote : afterField? other.toList ['"'] = none := by
          rw [afterField?_quote, afterName?_nil (secretFields_facts ho).1]
          rfl
        rw [List.nil_append, List.nil_append, find_field, find_field,
          afterField?_other ho hname hne, hquote]
        rfl
      · exact find_field_append ho hanil (hu.suffix hsuffix) (head?_opening hname _) before
  have hinside : ∀ v, Stops v → ∀ before a, a ≠ [] → a <:+ opening name ++ (value ++ ['"']) →
      (Rule.field other).find before (a ++ v) = none := by
    intro v hv before a hane ha
    rw [find_field, afterField?_inside ho hname hvalue hane ha hv]
    rfl
  have halone : ∀ before a, a ≠ [] → a <:+ opening name ++ (value ++ ['"']) →
      (Rule.field other).find before a = none := by
    intro before a hane ha
    have hnone := hinside [] (by simp [Stops]) before a hane ha
    rwa [List.append_nil] at hnone
  have hself : replace (Rule.field other).find 0 (some '"') (opening name ++ (value ++ ['"'])) =
      opening name ++ (value ++ ['"']) :=
    replace_eq_self fun x c v hx => halone _ (c :: v) (List.cons_ne_nil c v) ⟨x, hx.symm⟩
  have hseam : ∀ before a, a ≠ [] → a <:+ opening name ++ (value ++ ['"']) →
      (Rule.field other).find before (a ++ behind) = (Rule.field other).find before a := by
    intro before a hane ha
    rw [hinside behind hbehind.stops before a hane ha, halone before a hane ha]
  have hsplit : opening name ++ (value ++ '"' :: behind) =
      (opening name ++ (value ++ ['"'])) ++ behind := by simp
  have hlast : lastOf (some '"') (opening name ++ (value ++ ['"'])) = some '"' := by
    rw [← List.append_assoc, lastOf_concat]
  unfold Rule.apply
  rw [replace_append (size_field other) hfront (Nat.zero_le _), lastOf_concat, hsplit,
    replace_append (size_field other) hseam (Nat.zero_le _), hself, hlast]
  simp

section

variable {name : String} {front t t' : List Char}

theorem Framed.other (hname : name ∈ secretFields) {other : String} (ho : other ∈ secretFields)
    (hne : other ≠ name) (h : Framed Opens name [] front t t') :
    Framed Opens name [] ((Rule.field other).apply front) ((Rule.field other).apply t)
      ((Rule.field other).apply t') := by
  rcases h with rfl | ⟨hopens, value, value', behind, rfl, rfl, hvalue, hvalue', hbehind⟩
  · exact Or.inl rfl
  · obtain ⟨u, rfl, hu⟩ := hopens
    have hquote : ((Rule.field other).apply (u ++ ['"'])).getLast? = some '"' := by
      unfold Rule.apply
      rcases @replace_tail (Rule.field other).find 0 none (u ++ ['"']) with
        heq | ⟨x, b, a, hit, v, hf, hv, heq⟩
      · rw [heq]
        exact List.getLast?_concat
      · obtain ⟨w, hw⟩ := shown_field other b a hit hf
        rw [heq, hw]
        rcases List.suffix_concat_iff.1 hv with rfl | ⟨v, rfl, -⟩
        · simp
        · rw [← List.append_assoc, ← List.append_assoc]
          exact List.getLast?_concat
    have hshown : ∀ b a hit, (Rule.field other).find b a = some hit →
        ∃ w, hit.shown = w ++ [']'] ∨ hit.shown = w ++ [']', '"'] := by
      intro b a hit hf
      obtain ⟨w, hw⟩ := shown_field other b a hit hf
      exact ⟨w, Or.inr hw⟩
    refine Or.inr ⟨Opens.scan hshown ⟨u, rfl, hu⟩ hquote, value, value', _,
      apply_other ho hname hne hu hvalue.quote hbehind,
      apply_other ho hname hne hu hvalue'.quote hbehind, hvalue, hvalue', hbehind.scan ?_ _⟩
    intro b c w hc
    rw [find_field, afterField?_of_ne (by rcases hc with rfl | rfl <;> decide)]
    rfl

/-! ### The rule for the field itself -/

/-- A colon among blanks. -/
def isColon (c : List Char) : Bool :=
  (dropBlank c).head? == some ':' && (dropBlank c).tail.all isBlank

theorem afterColon?_piece {c : List Char} (hc : '"' ∉ c) (z : List Char) :
    afterColon? (c ++ '"' :: z) = if isColon c then some z else none := by
  have hquote : isBlank '"' = false := by decide
  have hmem : '"' ∉ dropBlank c := fun h => hc ((List.dropWhile_suffix isBlank).subset h)
  unfold afterColon? isColon
  rw [dropBlank_append hquote]
  cases hdrop : dropBlank c with
  | nil =>
    rw [List.nil_append, afterName?_symbol (by decide), if_neg (by decide)]
    rfl
  | cons d rest =>
    rw [hdrop, List.mem_cons, not_or] at hmem
    rw [List.cons_append, afterName?_symbol (by decide), List.head?_cons, List.tail_cons]
    by_cases hd : d = ':'
    · have hblanks : rest.all isBlank = true ↔ dropBlank rest = [] :=
        List.all_eq_true.trans List.dropWhile_eq_nil_iff.symm
      simp only [hd, if_true, Option.bind_some, beq_self_eq_true, Bool.true_and, hblanks]
      rw [dropBlank_append hquote]
      cases hrest : dropBlank rest with
      | nil => rw [List.nil_append, afterName?_symbol (by decide), if_pos rfl, if_pos rfl]
      | cons e rest' =>
        have he : e ≠ '"' := by
          rintro rfl
          have hsuffix : '"' :: rest' <:+ rest := hrest ▸ List.dropWhile_suffix isBlank
          exact hmem.2 (hsuffix.subset List.mem_cons_self)
        rw [List.cons_append, afterName?_symbol (by decide), if_neg he,
          if_neg (List.cons_ne_nil e rest')]
    · have hne : (some d == some ':') = false := by simpa using hd
      rw [if_neg hd, Option.bind_none, hne, Bool.false_and, if_neg Bool.false_ne_true]

theorem afterName?_quote (hname : name ∈ secretFields) {n : List Char} (hn : '"' ∉ n) (z : List Char) :
    (afterName? name.toList (n ++ '"' :: z)).bind (afterName? ['"']) =
      if Spells name.toList n then some z else none := by
  rw [afterName?_append ((secretFields_facts hname).2 '"' (by simp))]
  by_cases hspells : Spells name.toList n
  · have hself : afterName? name.toList n = some [] :=
      afterName?_eq_some.2 ⟨n, hspells, (List.append_nil n).symm⟩
    rw [if_pos hspells, hself, Option.map_some, Option.bind_some, List.nil_append,
      afterName?_symbol (by decide), if_pos rfl]
  · rw [if_neg hspells]
    cases hrest : afterName? name.toList n with
    | none => rfl
    | some rest =>
      cases rest with
      | nil =>
        obtain ⟨key, hkey, rfl⟩ := afterName?_eq_some.1 hrest
        rw [List.append_nil] at hspells
        exact absurd hkey hspells
      | cons d rest =>
        have hd : d ≠ '"' := by
          rintro rfl
          exact hn ((suffix_of_afterName? hrest).subset List.mem_cons_self)
        rw [Option.map_some, Option.bind_some, List.cons_append, afterName?_symbol (by decide),
          if_neg hd]

theorem afterField?_quoted (hname : name ∈ secretFields) {n : List Char} (hn : '"' ∉ n)
    (z : List Char) : afterField? name.toList ('"' :: (n ++ '"' :: z)) =
      if Spells name.toList n then (afterColon? z).map (n, ·) else none := by
  rw [afterField?_quote, ← Option.bind_assoc, afterName?_quote hname hn]
  by_cases hspells : Spells name.toList n
  · rw [if_pos hspells, if_pos hspells, Option.bind_some, hspells.length_eq, List.take_left]
  · rw [if_neg hspells, if_neg hspells, Option.bind_none]

theorem takeWhile_piece {p : List Char} (hp : '"' ∉ p) : p.takeWhile (· != '"') = p := by
  refine List.takeWhile_eq_self_iff.2 fun d hd => ?_
  have hne : d ≠ '"' := fun h => hp (h ▸ hd)
  simpa using hne

/-- The rule finds a field at the quote before its name, however it is written. -/
theorem find_field_quoted (hname : name ∈ secretFields) {n c v : List Char}
    (hquotes : ∀ p ∈ [n, c, v], '"' ∉ p) (hspells : Spells name.toList n) (hcolon : isColon c = true)
    (hvalue : v ≠ []) (z : List Char) (before : Option Char) :
    (Rule.field name).find before ('"' :: (n ++ '"' :: (c ++ '"' :: (v ++ '"' :: z)))) =
      some ⟨'"' :: (n ++ "\": \"".toList ++ mark ++ ['"']),
        ('"' :: (n ++ '"' :: (c ++ '"' :: v))).length + 1⟩ := by
  simp only [List.mem_cons, List.not_mem_nil, or_false, forall_eq_or_imp, forall_eq] at hquotes
  obtain ⟨hn, hc, hv⟩ := hquotes
  have hfield : afterField? name.toList ('"' :: (n ++ '"' :: (c ++ '"' :: (v ++ '"' :: z)))) =
      some (n, v ++ '"' :: z) := by
    rw [afterField?_quoted hname hn, if_pos hspells, afterColon?_piece hc, if_pos hcolon,
      Option.map_some]
  have hsplit : '"' :: (n ++ '"' :: (c ++ '"' :: (v ++ '"' :: z))) =
      ('"' :: (n ++ '"' :: (c ++ '"' :: v))) ++ '"' :: z := by simp
  rw [find_field, hfield, Option.bind_some, hsplit, fieldHit_append, takeWhile_piece hv,
    if_neg (by simp [hvalue])]
  simp only [List.length_cons, List.length_append, List.cons_append, Option.some.injEq,
    Hit.mk.injEq, true_and]
  omega

/-- A field of this name ends with the text. -/
def EndsField (name : String) (cs : List Char) : Prop :=
  ∃ a written value, a <:+ cs ∧ afterField? name.toList a = some (written, value ++ ['"']) ∧
    '"' ∉ value

/-- If the quote before the name does not end another field of that name, it does not change what is
found before it. -/
theorem find_own_front (hname : name ∈ secretFields) {u : List Char} (hu : NoColonAtEnd u)
    (hend : ¬ EndsField name (u ++ ['"'])) {w : List Char}
    (hw : ∀ c ∈ w.head?, isBlank c = false ∧ c ≠ ':') (before : Option Char) {a : List Char}
    (hne : a ≠ []) (ha : a <:+ u) :
    (Rule.field name).find before (a ++ '"' :: w) = (Rule.field name).find before a := by
  have havoids : ∀ k ∈ name.toList, isCaseOf k '"' = false :=
    (secretFields_facts hname).2 '"' (by simp)
  have hcolon := hu.suffix ha
  rw [find_field, find_field, afterField?_append havoids hne hcolon hw]
  cases hfield : afterField? name.toList a with
  | none => rfl
  | some x =>
    have hinside : '"' ∈ x.2 := by
      by_contra hopen
      have hends : afterField? name.toList (a ++ ['"']) = some (x.1, x.2 ++ ['"']) := by
        rw [afterField?_append havoids hne hcolon (by simp), hfield]
        rfl
      exact hend ⟨a ++ ['"'], x.1, x.2, List.suffix_concat_iff.2 (Or.inr ⟨a, rfl, ha⟩), hends, hopen⟩
    have hshort : ¬ (x.2.takeWhile (· != '"')).length = x.2.length := by
      intro heq
      have hall := (List.takeWhile_prefix (· != '"') (l := x.2)).eq_of_length heq
      have hquote := List.takeWhile_eq_self_iff.1 hall '"' hinside
      simp at hquote
    simp only [Option.map_some, Option.bind_some]
    rw [fieldHit_append]
    unfold fieldHit
    dsimp only
    simp only [hshort, decide_false, Bool.or_false]

/-- The rule finds the field at the quote before its name. -/
theorem find_own (hname : name ∈ secretFields) {value : List Char} (hne : value ≠ [])
    (hvalue : '"' ∉ value) (behind : List Char) (before : Option Char) :
    (Rule.field name).find before (('"' :: (opening name ++ (value ++ ['"']))) ++ behind) =
      some ⟨'"' :: (opening name ++ (mark ++ ['"'])),
        0 + ('"' :: (opening name ++ (value ++ ['"']))).length⟩ := by
  have hself : ∀ name ∈ secretFields, Spells name.toList name.toList ∧ '"' ∉ name.toList := by decide
  obtain ⟨hspells, hletters⟩ := hself name hname
  have hquotes : ∀ p ∈ [name.toList, ": ".toList, value], '"' ∉ p := by
    simp only [List.forall_mem_cons]
    exact ⟨hletters, by decide, hvalue, by simp⟩
  have hfind := find_field_quoted hname hquotes hspells (by decide) hne behind before
  have hsplit : ('"' :: (opening name ++ (value ++ ['"']))) ++ behind =
      '"' :: (name.toList ++ '"' :: (": ".toList ++ '"' :: (value ++ '"' :: behind))) := by
    simp [opening]
  have hcolon : ": ".toList.length = 2 := rfl
  rw [hsplit, hfind]
  simp only [opening, List.length_cons, List.length_append, List.length_nil, List.append_assoc,
    hcolon, Option.some.injEq, Hit.mk.injEq]
  exact ⟨rfl, by omega⟩

/-- The rule for the field puts the mark in the place of the value. -/
theorem apply_own (hname : name ∈ secretFields) {u : List Char} (hu : NoColonAtEnd u)
    (hend : ¬ EndsField name (u ++ ['"'])) {value : List Char} (hne : value ≠ [])
    (hvalue : '"' ∉ value) (behind : List Char) :
    (Rule.field name).apply ((u ++ ['"']) ++ (opening name ++ (value ++ '"' :: behind))) =
      (Rule.field name).apply u ++ ('"' :: (opening name ++ (mark ++ '"' ::
        replace (Rule.field name).find 0 (some '"') behind))) := by
  have hseam : ∀ before a, a ≠ [] → a <:+ u →
      (Rule.field name).find before (a ++ '"' :: (opening name ++ (value ++ '"' :: behind))) =
        (Rule.field name).find before a :=
    fun before a hane ha => find_own_front hname hu hend (head?_opening hname _) before hane ha
  have hsplit : (u ++ ['"']) ++ (opening name ++ (value ++ '"' :: behind)) =
      u ++ '"' :: (opening name ++ (value ++ '"' :: behind)) := by simp
  have hsplit' : '"' :: (opening name ++ (value ++ '"' :: behind)) =
      ('"' :: (opening name ++ (value ++ ['"']))) ++ behind := by simp
  have hlast : ∀ before, lastOf before ('"' :: (opening name ++ (value ++ ['"']))) = some '"' := by
    intro before
    rw [← List.append_assoc, ← List.cons_append, lastOf_concat]
  unfold Rule.apply
  rw [hsplit, replace_append (size_field name) hseam (Nat.zero_le _) none, hsplit',
    replace_front (List.cons_ne_nil _ _) (find_own hname hne hvalue behind _), hlast]
  simp

/-- The rules that are applied before the rule for a field. -/
def rulesBefore (name : String) : List Rule :=
  running ++ (secretFields.takeWhile (· != name)).map .field

theorem framed_fields (hname : name ∈ secretFields) {others : List String}
    (ho : ∀ other ∈ others, other ∈ secretFields ∧ other ≠ name)
    (h : Framed Opens name [] front t t') :
    Framed Opens name [] (applyAll (others.map .field) front) (applyAll (others.map .field) t)
      (applyAll (others.map .field) t') := by
  induction others generalizing front t t' with
  | nil => exact h
  | cons other others ih =>
    obtain ⟨hother, hne⟩ := ho other List.mem_cons_self
    exact ih (fun o h => ho o (List.mem_cons_of_mem other h)) (h.other hname hother hne)

/-- What redaction leaves of a text with a secret field does not depend on its value. -/
theorem redact_framed (hname : name ∈ secretFields) (hfront : Sealed front)
    (hend : ¬ EndsField name (applyAll (rulesBefore name) front)) {value value' : List Char}
    (hvalue : Held running value) (hvalue' : Held running value') {behind : List Char}
    (hbehind : Behind behind) :
    applyAll rules (front ++ (opening name ++ (value ++ '"' :: behind))) =
      applyAll rules (front ++ (opening name ++ (value' ++ '"' :: behind))) := by
  obtain ⟨later, hlater⟩ : ∃ later,
      secretFields = secretFields.takeWhile (· != name) ++ name :: later := by
    simp only [secretFields, List.mem_cons, List.not_mem_nil, or_false] at hname
    rcases hname with rfl | rfl | rfl | rfl <;> exact ⟨_, rfl⟩
  have hothers : ∀ other ∈ secretFields.takeWhile (· != name),
      other ∈ secretFields ∧ other ≠ name := by
    intro other ho
    refine ⟨(List.takeWhile_prefix _).subset ho, ?_⟩
    simpa using List.mem_takeWhile_imp ho
  have hrules : rules = rulesBefore name ++ .field name :: later.map .field := by
    rw [rules_eq, hlater, List.map_append, List.map_cons, rulesBefore, List.append_assoc]
  have hframed : Framed Sealed name running front
      (front ++ (opening name ++ (value ++ '"' :: behind)))
      (front ++ (opening name ++ (value' ++ '"' :: behind))) :=
    Or.inr ⟨hfront, value, value', behind, rfl, rfl, hvalue, hvalue', hbehind⟩
  have hbefore := framed_fields hname hothers (framed_running hname hframed)
  rw [← applyAll_append, ← applyAll_append, ← applyAll_append] at hbefore
  rw [hrules, applyAll_append, applyAll_append, applyAll_cons, applyAll_cons]
  refine congrArg (applyAll (later.map .field)) ?_
  rcases hbefore with heq | ⟨⟨u, hu, hcolon⟩, left, left', behind', ht, ht', hleft, hleft', -⟩
  · exact congrArg _ heq
  · rw [← rulesBefore] at hu ht ht'
    rw [hu] at hend ht ht'
    rw [ht, ht', apply_own hname hcolon hend hleft.ne_nil hleft.quote,
      apply_own hname hcolon hend hleft'.ne_nil hleft'.quote]

/-! ### Texts without the name -/

/-- A name occurs nowhere in a text, in any case. -/
def Lacks (name : String) (cs : List Char) : Prop := ∀ a, a <:+ cs → afterName? name.toList a = none

theorem Lacks.suffix {cs v : List Char} (h : Lacks name cs) (hv : v <:+ cs) : Lacks name v :=
  fun a ha => h a (ha.trans hv)

theorem Lacks.take {cs : List Char} (h : Lacks name cs) (n : Nat) : Lacks name (cs.take n) := by
  intro a ha
  rw [Option.eq_none_iff_forall_ne_some]
  intro rest hrest
  obtain ⟨t, ht⟩ := ha
  have hwhole := h (a ++ cs.drop n) ⟨t, by rw [← List.append_assoc, ht, List.take_append_drop]⟩
  rw [afterName?_append_of_some hrest] at hwhole
  cases hwhole

/-- A character that is not part of the name separates two texts. -/
theorem Lacks.append {d : Char} (hne : name.toList ≠ []) (hd : ∀ k ∈ name.toList, isCaseOf k d = false)
    {u v : List Char} (hu : Lacks name u) (hv : Lacks name v) : Lacks name (u ++ d :: v) := by
  intro a ha
  induction u with
  | nil =>
    rcases List.suffix_cons_iff.1 ha with rfl | ha
    · exact afterName?_of_avoids hne hd v
    · exact hv a ha
  | cons c u ih =>
    rcases List.suffix_cons_iff.1 ha with rfl | ha
    · have hsplit := afterName?_append hd (c :: u) v
      rw [hu _ List.suffix_rfl] at hsplit
      exact hsplit
    · exact ih (hu.suffix (List.suffix_cons c u)) ha

/-- The beginning of `cs`, and what may follow: a character that is not part of the name and a text
without the name. -/
def Fronted (name : String) (cs t : List Char) : Prop :=
  ∃ n rest, t = cs.take n ++ rest ∧ ∀ d w, rest = d :: w →
    (∀ k ∈ name.toList, isCaseOf k d = false) ∧ Lacks name w

theorem Fronted.lacks (hne : name.toList ≠ []) {cs t : List Char} (h : Fronted name cs t)
    (hcs : Lacks name cs) : Lacks name t := by
  obtain ⟨n, rest, rfl, hrest⟩ := h
  cases rest with
  | nil =>
    rw [List.append_nil]
    exact hcs.take n
  | cons d w =>
    obtain ⟨hd, hw⟩ := hrest d w rfl
    exact (hcs.take n).append hne hd hw

/-- A hit shows the beginning of what it covers and then a text without the name, in between and
behind it characters that are not part of the name. -/
def Veils (name : String) (find : Option Char → List Char → Option Hit) : Prop :=
  ∀ before cs hit, find before cs = some hit → ∃ n d w d', hit.shown = cs.take n ++ d :: (w ++ [d']) ∧
    (∀ k ∈ name.toList, isCaseOf k d = false) ∧ (∀ k ∈ name.toList, isCaseOf k d' = false) ∧
    Lacks name w

/-- A scan that veils the name brings it into no text. -/
theorem fronted_replace {find : Option Char → List Char → Option Hit} (hfind : Veils name find)
    (hne : name.toList ≠ []) {cs : List Char} (h : Lacks name cs) (skip : Nat) (before : Option Char) :
    Fronted name (cs.drop skip) (replace find skip before cs) := by
  induction cs generalizing skip before with
  | nil => exact ⟨0, [], by simp [replace], by simp⟩
  | cons c cs ih =>
    have hcs := h.suffix (List.suffix_cons c cs)
    cases skip with
    | succ skip => exact ih hcs skip (some c)
    | zero =>
      cases hhit : find before (c :: cs) with
      | none =>
        obtain ⟨n, rest, heq, hrest⟩ := ih hcs 0 (some c)
        exact ⟨n + 1, rest, by rw [replace_cons_of_none hhit, heq]; rfl, hrest⟩
      | some hit =>
        obtain ⟨n, d, w, d', hshown, hd, hd', hw⟩ := hfind before (c :: cs) hit hhit
        have hbehind := (ih hcs (hit.size - 1) (some c)).lacks hne
          (hcs.suffix (List.drop_suffix _ _))
        refine ⟨n, d :: (w ++ d' :: replace find (hit.size - 1) (some c) cs), ?_, ?_⟩
        · rw [replace_cons_of_some hhit, hshown]
          simp
        · intro x y hxy
          obtain ⟨rfl, rfl⟩ := List.cons.inj hxy
          exact ⟨hd, hw.append hne hd' hbehind⟩

/-- The mark brackets its word, and a rule for a field keeps the quotes around the other name. -/
theorem veils_rule (hname : name ∈ secretFields) (r : Rule) : Veils name r.find := by
  have hneutral : ∀ name ∈ secretFields, ∀ d ∈ ['[', ']', '"'], ∀ k ∈ name.toList,
      isCaseOf k d = false := by decide
  have hword : ∀ name ∈ secretFields, ∀ a ∈ "REDACTED".toList.tails,
      afterName? name.toList a = none := by decide
  have hvalue : ∀ name ∈ secretFields, ∀ a ∈ ": \"[REDACTED]".toList.tails,
      afterName? name.toList a = none := by decide
  have hneutral' := hneutral name hname
  intro before cs hit hhit
  by_cases hrunning : r.isRunning = true
  · obtain ⟨n, m, -, -, rfl⟩ := Rule.marks hrunning before cs hit hhit
    exact ⟨n, '[', "REDACTED".toList, ']', rfl, hneutral' '[' (by simp), hneutral' ']' (by simp),
      fun a ha => hword name hname a ((List.mem_tails _ _).2 ha)⟩
  · cases r with
    | field other =>
      obtain ⟨v, n, rfl, hwritten⟩ := shown_of_field hhit
      exact ⟨n + 1, '"', ": \"[REDACTED]".toList, '"', hwritten, hneutral' '"' (by simp),
        hneutral' '"' (by simp), fun a ha => hvalue name hname a ((List.mem_tails _ _).2 ha)⟩
    | _ => exact absurd rfl hrunning

/-- Redaction brings no name into a text. -/
theorem lacks_applyAll (hname : name ∈ secretFields) (rs : List Rule) {cs : List Char}
    (h : Lacks name cs) : Lacks name (applyAll rs cs) := by
  have hne := (secretFields_facts hname).1
  induction rs generalizing cs with
  | nil => exact h
  | cons r rs ih =>
    have happly : Lacks name (r.apply cs) :=
      (fronted_replace (veils_rule hname r) hne h 0 none).lacks hne h
    exact ih happly

theorem Lacks.not_endsField {cs : List Char} (h : Lacks name cs) : ¬ EndsField name cs := by
  rintro ⟨a, written, value, ha, hfield, -⟩
  cases a with
  | nil => cases hfield
  | cons c v =>
    by_cases hc : c = '"'
    · subst hc
      rw [afterField?_quote, h v ((List.suffix_cons _ v).trans ha)] at hfield
      cases hfield
    · rw [afterField?_of_ne hc] at hfield
      cases hfield

end

end LoginCallback.Redaction
