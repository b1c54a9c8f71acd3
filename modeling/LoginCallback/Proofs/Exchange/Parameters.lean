import LoginCallback.Octets.Form
import LoginCallback.Proofs.Exchange.Names
import Mathlib.Data.List.Induction

/-!
# Parameters in running text

The rules for parameters work on a text word by word, words being what stands between white space
and `&` (`scan_parameter_append`). In a word, a rule looks for its name and the sign behind it
(`Named`). If they stand in a label, the value behind the label is replaced, whatever it is
(`scan_of_named`), and otherwise the label stays (`scan_of_not_named`). So of two texts that differ
in the value of a secret parameter the same is left, wherever the parameter stands and whatever else
the values look like (`redact_parameter_congr`): another rule leaves the label and a value behind
it, or it has covered the value already (`Differs.apply`).
-/

namespace LoginCallback.Redaction

open LoginCallback.Text (isBlank isWord)

/-! ## Words -/

section

variable {name : String} {wordStart : Bool} {d : Char}

/-- A value ends at a separator, which is written again. -/
theorem scan_parameter_append (hd : (Rule.parameter name wordStart).Avoids d)
    (hpart : isValueChar d = false) (before : Option Char) (u v : List Char) :
    replace (Rule.parameter name wordStart).find 0 before (u ++ d :: v) =
      replace (Rule.parameter name wordStart).find 0 before u ++
        d :: replace (Rule.parameter name wordStart).find 0 (some d) v := by
  have hname : ∀ a : List Char, afterName? (name.toList ++ ['=']) (a ++ d :: v) =
      (afterName? (name.toList ++ ['=']) a).map (· ++ d :: v) := fun a => afterName?_append hd a v
  have hvalue : ∀ rest : List Char, (rest ++ d :: v).takeWhile isValueChar =
      (rest ++ []).takeWhile isValueChar := by
    intro rest
    rw [List.takeWhile_append, List.takeWhile_append, List.takeWhile_cons]
    simp [hpart]
  have hseam : ∀ before a, a ≠ [] → a <:+ u →
      (Rule.parameter name wordStart).find before (a ++ d :: v) =
        (Rule.parameter name wordStart).find before a := by
    intro before a _ _
    simp only [Rule.find]
    split
    · rfl
    · rw [hname]
      cases afterName? (name.toList ++ ['=']) a with
      | none => rfl
      | some rest =>
        have hhit := hitOf_congr (a := a) (congrArg List.length (hvalue rest))
        rw [List.append_nil, List.append_nil] at hhit
        exact hhit
  have hnone : ∀ before, (Rule.parameter name wordStart).find before (d :: v) = none := by
    intro before
    have hd := hname []
    rw [List.nil_append] at hd
    have hempty : afterName? (name.toList ++ ['=']) [] = none := by
      cases name.toList <;> rfl
    simp only [Rule.find, hd, hempty, Option.map_none, ite_self]
  rw [replace_append (Rule.marks rfl).size_le hseam (Nat.zero_le _), replace_cons_of_none (hnone _)]

/-- Of what stands before a text only counts whether it is part of a word. -/
theorem scan_parameter_congr {before before' : Option Char}
    (h : before.any isWord = before'.any isWord) (cs : List Char) :
    replace (Rule.parameter name wordStart).find 0 before cs =
      replace (Rule.parameter name wordStart).find 0 before' cs := by
  cases cs with
  | nil => rfl
  | cons c cs =>
    have hfind : (Rule.parameter name wordStart).find before (c :: cs) =
        (Rule.parameter name wordStart).find before' (c :: cs) := by
      simp only [Rule.find, h]
    rw [replace, replace, hfind]

/-- The fields of a form are scanned each by itself. -/
theorem apply_parameter_joinWith (hd : (Rule.parameter name wordStart).Avoids '&')
    (fields : List (List Char)) :
    (Rule.parameter name wordStart).apply (Octets.joinWith '&' fields) =
      Octets.joinWith '&' (fields.map (Rule.parameter name wordStart).apply) := by
  fun_induction Octets.joinWith '&' fields with
  | case1 => rfl
  | case2 field => rfl
  | case3 field next fields ih =>
    have hword : (some '&').any isWord = (none : Option Char).any isWord := by decide
    have hrest : replace (Rule.parameter name wordStart).find 0 (some '&')
        (Octets.joinWith '&' (next :: fields)) =
          (Rule.parameter name wordStart).apply (Octets.joinWith '&' (next :: fields)) :=
      scan_parameter_congr hword _
    unfold Rule.apply at ih hrest ⊢
    rw [scan_parameter_append hd rfl, hrest, ih]
    rfl

/-- Whether a label is the name of a parameter is seen at the sign behind it. -/
theorem afterName?_label {ks : List Char} (hks : ∀ k ∈ ks, isCaseOf k '=' = false)
    (label value : List Char) : afterName? (ks ++ ['=']) (label ++ '=' :: value) =
      (afterName? (ks ++ ['=']) (label ++ ['='])).map (· ++ value) := by
  induction ks generalizing label with
  | nil =>
    cases label with
    | nil => rfl
    | cons c label =>
      by_cases hc : isCaseOf '=' c = true
      · simp [afterName?, hc]
      · simp [afterName?, hc]
  | cons k ks ih =>
    have hrest := ih fun k' hk' => hks k' (List.mem_cons_of_mem k hk')
    cases label with
    | nil =>
      have hk := hks k List.mem_cons_self
      simp [afterName?, hk]
    | cons c label =>
      by_cases hc : isCaseOf k c = true
      · simpa [afterName?, hc] using hrest label
      · simp [afterName?, hc]

end

/-! ## Labels -/

/-- The name of a parameter, of printable characters other than the signs of a form. -/
structure Labels (name : String) : Prop where
  ne_nil : name.toList ≠ []
  printable : ∀ k ∈ name.toList, 33 ≤ k.toNat ∧ k.toNat ≤ 126
  sign : ∀ k ∈ name.toList, isCaseOf k '=' = false
  separator : ∀ k ∈ name.toList, isCaseOf k '&' = false

/-- The label ends in the name, in any letter case. If the name is to start a word, no character of
a word stands before it. -/
def EndsIn (name : String) (wordStart : Bool) (before : Option Char) (label : List Char) : Prop :=
  ∃ a key, label = a ++ key ∧ Spells name.toList key ∧
    (wordStart = true → (lastOf before a).any isWord = false)

/-- The name and the sign are read at the front of the label with the sign. -/
def Reads (name : String) (wordStart : Bool) (before : Option Char) (label : List Char) : Prop :=
  (wordStart && before.any isWord) = false ∧
    (afterName? (name.toList ++ ['=']) (label ++ ['='])).isSome

/-- The name and the sign stand somewhere in the label with the sign. -/
def Named (name : String) (wordStart : Bool) : Option Char → List Char → Prop
  | _, [] => False
  | before, c :: label =>
    Reads name wordStart before (c :: label) ∨ Named name wordStart (some c) label

section

variable {name : String} {wordStart : Bool} {before : Option Char} {label value : List Char}

theorem named_of_endsIn (hname : Labels name) (h : EndsIn name wordStart before label) :
    Named name wordStart before label := by
  obtain ⟨a, key, rfl, hkey, hstart⟩ := h
  induction a generalizing before with
  | nil =>
    cases key with
    | nil =>
      have hlength := hkey.length_eq
      exact absurd (List.length_eq_zero_iff.1 hlength) hname.ne_nil
    | cons c key =>
      refine Or.inl ⟨?_, ?_⟩
      · cases wordStart with
        | false => rfl
        | true => exact hstart rfl
      · rw [Option.isSome_iff_exists]
        exact ⟨[], afterName?_eq_some.2 ⟨_, (spells_concat (by decide)).2 ⟨_, rfl, hkey⟩, by simp⟩⟩
  | cons c a ih => exact Or.inr (ih hstart)

/-- In a label without the sign, the name stands at the end. -/
theorem endsIn_of_named (hsign : '=' ∉ label) (h : Named name wordStart before label) :
    EndsIn name wordStart before label := by
  induction label generalizing before with
  | nil => cases h
  | cons c label ih =>
    rcases h with ⟨hstart, hsome⟩ | h
    · obtain ⟨rest, hrest⟩ := Option.isSome_iff_exists.1 hsome
      obtain ⟨key', hkey', heq⟩ := afterName?_eq_some.1 hrest
      obtain ⟨key, rfl, hkey⟩ := (spells_concat (by decide)).1 hkey'
      rw [List.append_assoc, List.singleton_append] at heq
      obtain ⟨hlabel, -, -⟩ := (List.append_cons_inj_of_notMem hsign List.not_mem_nil).1 heq
      refine ⟨[], key, hlabel, hkey, fun hword => ?_⟩
      rwa [hword, Bool.true_and] at hstart
    · obtain ⟨a, key, rfl, hkey, hstart⟩ := ih (fun hmem => hsign (List.mem_cons_of_mem c hmem)) h
      exact ⟨c :: a, key, rfl, hkey, hstart⟩

/-- What a rule finds in front of a sign is decided by the label. -/
theorem find_label (hname : Labels name) (before : Option Char) (label value : List Char) :
    (Rule.parameter name wordStart).find before (label ++ '=' :: value) =
      if wordStart && before.any isWord then none
      else (afterName? (name.toList ++ ['=']) (label ++ ['='])).bind fun rest =>
        hitOf isValueChar (label ++ '=' :: value) (rest ++ value) := by
  simp only [Rule.find]
  rw [afterName?_label hname.sign]
  cases afterName? (name.toList ++ ['=']) (label ++ ['=']) <;> rfl

theorem find_sign (hname : Labels name) (before : Option Char) (value : List Char) :
    (Rule.parameter name wordStart).find before ('=' :: value) = none := by
  have hnone : afterName? (name.toList ++ ['=']) ['='] = none := by
    obtain ⟨k, ks, hks⟩ := List.exists_cons_of_ne_nil hname.ne_nil
    have hk := hname.sign k (hks ▸ List.mem_cons_self)
    rw [hks, List.cons_append, afterName?, if_neg (by simp [hk])]
  have hfind := @find_label _ wordStart hname before [] value
  rwa [List.nil_append, List.nil_append, hnone, Option.bind_none, ite_self] at hfind

theorem find_label_of_not_reads (hname : Labels name) (h : ¬ Reads name wordStart before label)
    (value : List Char) :
    (Rule.parameter name wordStart).find before (label ++ '=' :: value) = none := by
  rw [find_label hname]
  split
  · rfl
  · rename_i hstart
    rw [Bool.not_eq_true] at hstart
    have hafter : afterName? (name.toList ++ ['=']) (label ++ ['=']) = none := by
      rw [← Option.not_isSome_iff_eq_none]
      exact fun hsome => h ⟨hstart, hsome⟩
    rw [hafter, Option.bind_none]

/-- If the name stands in the label, the value is replaced as a whole. -/
theorem scan_of_named (hname : Labels name) (hlabel : ∀ c ∈ label, isValueChar c = true)
    (h : Named name wordStart before label) :
    ∃ p, p <+: label ++ ['='] ∧ '=' ∈ p ∧ ∀ value, value ≠ [] → (∀ c ∈ value, isValueChar c = true) →
      replace (Rule.parameter name wordStart).find 0 before (label ++ '=' :: value) = p ++ mark := by
  induction label generalizing before with
  | nil => cases h
  | cons c label ih =>
    by_cases hhere : Reads name wordStart before (c :: label)
    · obtain ⟨hstart, hsome⟩ := hhere
      obtain ⟨rest, hrest⟩ := Option.isSome_iff_exists.1 hsome
      obtain ⟨key, hkey, heq⟩ := afterName?_eq_some.1 hrest
      refine ⟨key, ⟨rest, heq.symm⟩, ?_, fun value hne hvalue => ?_⟩
      · obtain ⟨key', rfl, -⟩ := (spells_concat (by decide)).1 hkey
        simp
      · have hsplit : c :: label ++ '=' :: value = key ++ (rest ++ value) := by
          rw [← List.append_assoc, ← heq]
          simp
        have hall : (rest ++ value).takeWhile isValueChar = rest ++ value := by
          refine List.takeWhile_eq_self_iff.2 fun x hx => ?_
          rcases List.mem_append.1 hx with hx | hx
          · have hmem : x ∈ c :: label ++ ['='] := heq ▸ List.mem_append_right key hx
            rcases List.mem_append.1 hmem with hmem | hmem
            · exact hlabel x hmem
            · rw [List.mem_singleton.1 hmem]
              decide
          · exact hvalue x hx
        have hempty : ¬ (rest ++ value).length = 0 := by
          simp [hne]
        have hfind : (Rule.parameter name wordStart).find before (c :: label ++ '=' :: value) =
            some ⟨key ++ mark, (c :: label ++ '=' :: value).length⟩ := by
          rw [find_label hname, hstart, if_neg Bool.false_ne_true, hrest, Option.bind_some]
          unfold hitOf hitAfter
          rw [hall, if_neg hempty, hsplit, List.length_append, Nat.add_sub_cancel, List.take_left]
        exact replace_whole (by simp) hfind
    · obtain ⟨p, hp, hsign, hscan⟩ := ih (fun x hx => hlabel x (List.mem_cons_of_mem c hx))
        (h.resolve_left hhere)
      refine ⟨c :: p, List.cons_prefix_cons.2 ⟨rfl, hp⟩, List.mem_cons_of_mem c hsign,
        fun value hne hvalue => ?_⟩
      have hnone := find_label_of_not_reads hname hhere value
      rw [List.cons_append] at hnone ⊢
      rw [replace_cons_of_none hnone, hscan value hne hvalue, List.cons_append]

/-- If the name does not stand in the label, the rule goes on behind the sign. -/
theorem scan_of_not_named (hname : Labels name) (h : ¬ Named name wordStart before label)
    (value : List Char) :
    replace (Rule.parameter name wordStart).find 0 before (label ++ '=' :: value) =
      label ++ '=' :: replace (Rule.parameter name wordStart).find 0 (some '=') value := by
  induction label generalizing before with
  | nil => exact replace_cons_of_none (find_sign hname before value)
  | cons c label ih =>
    obtain ⟨hhere, hrest⟩ := not_or.1 h
    have hnone := find_label_of_not_reads hname hhere value
    rw [List.cons_append] at hnone ⊢
    rw [replace_cons_of_none hnone, ih hrest, List.cons_append]

end

/-! ## The secret parameters -/

/-- The names of the secret parameters, and whether they start a word. -/
def parameters : List (String × Bool) := [
  ("client_secret", false), ("code", true), ("state", true), ("access_token", false),
  ("refresh_token", false), ("id_token", false)]

/-- The text that the rules for parameters leave. -/
def withoutParameters (cs : List Char) : List Char := applyAll (rules.take 6) cs

theorem rules_take : rules.take 6 = parameters.map fun p => .parameter p.1 p.2 := rfl

theorem labels_of_mem {p : String × Bool} (hp : p ∈ parameters) : Labels p.1 := by
  have hall : ∀ p ∈ parameters, p.1.toList ≠ [] ∧ ∀ k ∈ p.1.toList, (33 ≤ k.toNat ∧ k.toNat ≤ 126) ∧
      isCaseOf k '=' = false ∧ isCaseOf k '&' = false := by decide
  obtain ⟨hne, hchars⟩ := hall p hp
  exact ⟨hne, fun k hk => (hchars k hk).1, fun k hk => (hchars k hk).2.1,
    fun k hk => (hchars k hk).2.2⟩

theorem redact_eq_withoutParameters (text : String) :
    redact text = String.ofList (applyAll (rules.drop 6) (withoutParameters text.toList)) := by
  unfold withoutParameters
  rw [← applyAll_append, List.take_append_drop, redact_eq]

theorem redact_congr {text text' : String}
    (h : withoutParameters text.toList = withoutParameters text'.toList) :
    redact text = redact text' := by
  rw [redact_eq_withoutParameters, redact_eq_withoutParameters, h]

/-! ### Around a word -/

/-- A value of a parameter. -/
structure IsValue (value : List Char) : Prop where
  ne_nil : value ≠ []
  chars : ∀ c ∈ value, isValueChar c = true

/-- The character, if there is one, ends a value. -/
def EndsValue (c? : Option Char) : Prop := ∀ c ∈ c?, isValueChar c = false

section

variable {name : String} {wordStart : Bool}

/-- What ends a value does not belong to a name. -/
theorem avoids_of_endsValue (wordStart : Bool) (hname : Labels name) {d : Char}
    (hd : isValueChar d = false) : (Rule.parameter name wordStart).Avoids d := by
  have hcases : d = '&' ∨ isBlank d = true := by
    unfold isValueChar at hd
    simpa [or_iff_not_imp_left] using hd
  intro k hk
  rcases List.mem_append.1 hk with hk | hk
  · rcases hcases with rfl | hblank
    · exact hname.separator k hk
    · exact isCaseOf_of_isBlank (hname.printable k hk) hblank
  · obtain rfl := List.mem_singleton.1 hk
    rcases hcases with rfl | hblank
    · decide
    · exact isCaseOf_of_isBlank (by decide) hblank

theorem IsValue.scan {value : List Char} (h : IsValue value) (before : Option Char) :
    IsValue (replace (Rule.parameter name wordStart).find 0 before value) := by
  have hmarks : Marks (Rule.parameter name wordStart).find := Rule.marks rfl
  have hmark : ∀ c ∈ mark, isValueChar c = true := by decide
  exact ⟨replace_ne_nil hmarks before h.ne_nil,
    fun c hc => (mem_replace hmarks hc).elim (h.chars c) (hmark c)⟩

/-- The text before a word is scanned by itself, and its last character stays. -/
theorem scan_front (wordStart : Bool) (hname : Labels name) {front : List Char}
    (hfront : EndsValue front.getLast?) :
    ∃ front', EndsValue front'.getLast? ∧ lastOf none front' = lastOf none front ∧
      ∀ w, replace (Rule.parameter name wordStart).find 0 none (front ++ w) =
        front' ++ replace (Rule.parameter name wordStart).find 0 (lastOf none front) w := by
  rcases List.eq_nil_or_concat' front with rfl | ⟨u, d, rfl⟩
  · exact ⟨[], hfront, rfl, fun w => rfl⟩
  · have hd : isValueChar d = false := hfront d List.getLast?_concat
    refine ⟨replace (Rule.parameter name wordStart).find 0 none u ++ [d], ?_, ?_, fun w => ?_⟩
    · rw [List.getLast?_concat]
      rwa [List.getLast?_concat] at hfront
    · rw [lastOf_concat, lastOf_concat]
    · rw [List.append_assoc, List.singleton_append,
        scan_parameter_append (avoids_of_endsValue _ hname hd) hd, lastOf_concat, List.append_assoc,
        List.singleton_append]

/-- The text behind a word is scanned by itself, and its first character stays. -/
theorem scan_behind (wordStart : Bool) (hname : Labels name) {behind : List Char}
    (hbehind : EndsValue behind.head?) :
    ∃ behind', EndsValue behind'.head? ∧
      ∀ before w, replace (Rule.parameter name wordStart).find 0 before (w ++ behind) =
        replace (Rule.parameter name wordStart).find 0 before w ++ behind' := by
  cases behind with
  | nil => exact ⟨[], hbehind, fun before w => by rw [List.append_nil, List.append_nil]⟩
  | cons d v =>
    have hd : isValueChar d = false := hbehind d rfl
    exact ⟨d :: replace (Rule.parameter name wordStart).find 0 (some d) v, hbehind,
      fun before w => scan_parameter_append (avoids_of_endsValue _ hname hd) hd before w v⟩

end

/-! ### Two texts -/

/-- The texts are the same, or they are so but for a value behind a label that ends in the name. -/
def Differs (name : String) (wordStart : Bool) (t t' : List Char) : Prop :=
  t = t' ∨ ∃ front label value value' behind,
    t = front ++ ((label ++ '=' :: value) ++ behind) ∧
    t' = front ++ ((label ++ '=' :: value') ++ behind) ∧
    EndsValue front.getLast? ∧ EndsValue behind.head? ∧ (∀ c ∈ label, isValueChar c = true) ∧
    EndsIn name wordStart (lastOf none front) label ∧ IsValue value ∧ IsValue value'

section

variable {name : String} {wordStart : Bool} {t t' : List Char}

/-- The rule for the name leaves the same of both texts. -/
theorem Differs.apply_eq (hname : Labels name) (h : Differs name wordStart t t') :
    (Rule.parameter name wordStart).apply t = (Rule.parameter name wordStart).apply t' := by
  rcases h with rfl | ⟨front, label, value, value', behind, rfl, rfl, hfront, hbehind, hlabel, hends,
    hvalue, hvalue'⟩
  · rfl
  · obtain ⟨p, -, -, hscan⟩ := scan_of_named hname hlabel (named_of_endsIn hname hends)
    obtain ⟨front', -, -, hfront⟩ := scan_front wordStart hname hfront
    obtain ⟨behind', -, hbehind⟩ := scan_behind wordStart hname hbehind
    unfold Rule.apply
    rw [hfront, hfront, hbehind, hbehind, hscan _ hvalue.ne_nil hvalue.chars,
      hscan _ hvalue'.ne_nil hvalue'.chars]

/-- A rule for a parameter. If it finds its name in the label, it covers the values. -/
theorem Differs.apply {other : String} {otherStart : Bool} (hother : Labels other)
    (h : Differs name wordStart t t') :
    Differs name wordStart ((Rule.parameter other otherStart).apply t)
      ((Rule.parameter other otherStart).apply t') := by
  rcases h with rfl | ⟨front, label, value, value', behind, rfl, rfl, hfront, hbehind, hlabel, hends,
    hvalue, hvalue'⟩
  · exact Or.inl rfl
  · obtain ⟨front', hfirst, hlast, hfront⟩ := scan_front otherStart hother hfront
    obtain ⟨behind', hnext, hbehind⟩ := scan_behind otherStart hother hbehind
    unfold Rule.apply
    rw [hfront, hfront, hbehind, hbehind]
    by_cases hnamed : Named other otherStart (lastOf none front) label
    · obtain ⟨p, -, -, hscan⟩ := scan_of_named hother hlabel hnamed
      rw [hscan _ hvalue.ne_nil hvalue.chars, hscan _ hvalue'.ne_nil hvalue'.chars]
      exact Or.inl rfl
    · rw [scan_of_not_named hother hnamed, scan_of_not_named hother hnamed]
      exact Or.inr ⟨front', label, _, _, behind', rfl, rfl, hfirst, hnext, hlabel, hlast ▸ hends,
        hvalue.scan _, hvalue'.scan _⟩

theorem Differs.withoutParameters_eq (hname : (name, wordStart) ∈ parameters)
    (h : Differs name wordStart t t') : withoutParameters t = withoutParameters t' := by
  have hfold : ∀ ps : List (String × Bool), (∀ p ∈ ps, p ∈ parameters) → (name, wordStart) ∈ ps →
      ∀ t t', Differs name wordStart t t' →
      applyAll (ps.map fun p => .parameter p.1 p.2) t =
        applyAll (ps.map fun p => .parameter p.1 p.2) t' := by
    intro ps hps hmem
    induction ps with
    | nil => cases hmem
    | cons p ps ih =>
      intro t t' h
      rw [List.map_cons, applyAll_cons, applyAll_cons]
      rcases List.mem_cons.1 hmem with rfl | hmem
      · rw [h.apply_eq (labels_of_mem hname)]
      · exact ih (fun p hp => hps p (List.mem_cons_of_mem _ hp)) hmem _ _
          (h.apply (labels_of_mem (hps p List.mem_cons_self)))
  unfold withoutParameters
  rw [rules_take]
  exact hfold parameters (fun p hp => hp) hname t t' h

end

/-- A text ends in a word, in front of which a value ends. -/
theorem exists_word (cs : List Char) :
    ∃ front word, cs = front ++ word ∧ EndsValue front.getLast? ∧
      ∀ c ∈ word, isValueChar c = true := by
  induction cs using List.reverseRecOn with
  | nil => exact ⟨[], [], rfl, by simp [EndsValue], by simp⟩
  | append_singleton cs c ih =>
    cases hc : isValueChar c with
    | false => exact ⟨cs ++ [c], [], (List.append_nil _).symm, by simp [EndsValue, hc], by simp⟩
    | true =>
      obtain ⟨front, word, rfl, hfront, hword⟩ := ih
      refine ⟨front, word ++ [c], List.append_assoc _ _ _, hfront, fun x hx => ?_⟩
      rcases List.mem_append.1 hx with hx | hx
      · exact hword x hx
      · rwa [List.mem_singleton.1 hx]

theorem Spells.isValueChar {name : String} (hname : Labels name) {key : List Char}
    (h : Spells name.toList key) : ∀ c ∈ key, isValueChar c = true := by
  intro c hc
  obtain ⟨k, hk, hcase⟩ := h.exists_of_mem hc
  by_contra hstop
  have havoids : (Rule.parameter name false).Avoids c :=
    avoids_of_endsValue _ hname (Bool.not_eq_true _ ▸ hstop)
  rw [havoids k (List.mem_append_left _ hk)] at hcase
  cases hcase

end LoginCallback.Redaction

namespace LoginCallback

open LoginCallback.Text (isBlank isWord)

/-- The value of a secret parameter does not show in what redaction leaves, whatever stands around
the parameter and in the value. -/
theorem redact_parameter_congr {name : String} {wordStart : Bool}
    (hname : (name, wordStart) ∈ Redaction.parameters) {before key value value' behind : String}
    (hkey : Redaction.Spells name.toList key.toList)
    (hstart : wordStart = true → before.toList.getLast?.any isWord = false)
    (hbehind : ∀ c ∈ behind.toList.head?, c = '&' ∨ isBlank c = true)
    (hvalue : value ≠ "" ∧ ∀ c ∈ value.toList, c ≠ '&' ∧ isBlank c = false)
    (hvalue' : value' ≠ "" ∧ ∀ c ∈ value'.toList, c ≠ '&' ∧ isBlank c = false) :
    redact (before ++ key ++ "=" ++ value ++ behind) =
      redact (before ++ key ++ "=" ++ value' ++ behind) := by
  have hlabels := Redaction.labels_of_mem hname
  obtain ⟨front, word, hbefore, hfront, hword⟩ := Redaction.exists_word before.toList
  have hnext : Redaction.EndsValue behind.toList.head? := by
    intro c hc
    rcases hbehind c hc with rfl | hc
    · rfl
    · simp [Redaction.isValueChar, hc]
  have hisValue : ∀ value : String, (value ≠ "" ∧ ∀ c ∈ value.toList, c ≠ '&' ∧ isBlank c = false) →
      Redaction.IsValue value.toList := by
    rintro value ⟨hne, hchars⟩
    exact ⟨fun hnil => hne (String.toList_eq_nil_iff.1 hnil),
      fun c hc => by simp [Redaction.isValueChar, hchars c hc]⟩
  have hlabel : ∀ c ∈ word ++ key.toList, Redaction.isValueChar c = true := by
    intro c hc
    rcases List.mem_append.1 hc with hc | hc
    · exact hword c hc
    · exact hkey.isValueChar hlabels c hc
  have hends : Redaction.EndsIn name wordStart (Redaction.lastOf none front)
      (word ++ key.toList) := by
    refine ⟨word, key.toList, rfl, hkey, ?_⟩
    rwa [← Redaction.lastOf_append, ← hbefore, Redaction.lastOf_none]
  have htext : ∀ value : String, (before ++ key ++ "=" ++ value ++ behind).toList =
      front ++ (((word ++ key.toList) ++ '=' :: value.toList) ++ behind.toList) := by
    intro value
    have hsign : "=".toList = ['='] := rfl
    simp [String.toList_append, hbefore, hsign]
  refine Redaction.redact_congr (Redaction.Differs.withoutParameters_eq hname (Or.inr ?_))
  exact ⟨front, word ++ key.toList, value.toList, value'.toList, behind.toList, htext value,
    htext value', hfront, hnext, hlabel, hends, hisValue value hvalue, hisValue value' hvalue'⟩

/-- A code in the value of a cookie, with the names of other secrets in its own values. -/
theorem redact_parameter_congr_in_cookie :
    Redaction.Spells "code".toList "Code".toList ∧
    redact ("Set-Cookie: a=1; " ++ "Code" ++ "=" ++ "1;access_token=2" ++ " Basic") =
      redact ("Set-Cookie: a=1; " ++ "Code" ++ "=" ++ "\"id_token\":\"2\"" ++ " Basic") := by
  have hname : ("code", true) ∈ Redaction.parameters := by decide
  have hkey : Redaction.Spells "code".toList "Code".toList := by decide
  have hbehind : ∀ c ∈ " Basic".toList.head?, c = '&' ∨ Text.isBlank c = true := by
    intro c hc
    obtain rfl := Option.some.inj hc
    decide
  exact ⟨hkey, redact_parameter_congr hname hkey (by decide) hbehind (by decide) (by decide)⟩

end LoginCallback
