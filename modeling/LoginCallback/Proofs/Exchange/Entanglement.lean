import LoginCallback.Proofs.Exchange.Pieces

/-!
# Entangled fields

The rule for a field leaves what it has written (`fixed_scanPieces`). The rule for another field,
applied later, may undo that. It takes away a field whose name it reads as a value, and the quote
that ended the value of this field is then free to begin another one:

    "access_token": "client_secret": "x"client_secret": "y"
    "access_token": "[REDACTED]": "[REDACTED]"client_secret": "y"

This needs two fields of the same name, the one at the value of the field with the later name, the
other at the quote behind its own value (`Entangles`). Without them all that the rules have written
stays (`fixed_scanAll`).
-/

namespace LoginCallback.Redaction

/-! ## Fixed pieces -/

theorem isField_eq_false {name : String} {n : List Char} {ps : List (List Char)}
    (h : ¬ Spells name.toList n) : isField name (n :: ps) = false := by
  match ps with
  | [] => rfl
  | [_] => rfl
  | [_, _] => rfl
  | c :: v :: w :: more => simp [isField, h]

theorem not_spells_colon {name : String} (hname : name ∈ secretFields) {c : List Char}
    (hc : isColon c = true) : ¬ Spells name.toList c := by
  have hmem : ':' ∈ c := by
    unfold isColon at hc
    rw [Bool.and_eq_true, beq_iff_eq] at hc
    exact (List.dropWhile_suffix Text.isBlank).subset (List.mem_of_head? hc.1)
  exact fun h => h.notMem ((secretFields_facts hname).2 ':' (by simp)) hmem

theorem isColon_shown : isColon ": ".toList = true := by decide

theorem not_spells_mark {name : String} (hname : name ∈ secretFields) :
    ¬ Spells name.toList mark := by
  revert name
  decide

theorem Spells.of_secretFields {name name' : String} (hname : name ∈ secretFields)
    (hname' : name' ∈ secretFields) {n : List Char} (h : Spells name.toList n)
    (h' : Spells name'.toList n) : name = name' := by
  have hascii : ∀ name ∈ secretFields, ∀ k ∈ name.toList, k.toNat < 128 := by decide
  exact String.toList_inj.1 (h.unique (hascii name hname) (hascii name' hname') h')

/-- The rule for the name leaves the pieces: the fields that it finds have the mark as value. -/
def Fixed (name : String) (ps : List (List Char)) : Prop := scanPieces name ps = ps

section

variable {name : String} {n : List Char} {ps : List (List Char)}

theorem fixed_cons (h : isField name (n :: ps) = false) : Fixed name (n :: ps) ↔ Fixed name ps := by
  unfold Fixed
  rw [scanPieces_cons h, List.cons_inj_right]

theorem fixed_of_isField {c v w : List Char} {more : List (List Char)}
    (h : isField name (n :: c :: v :: w :: more) = true) :
    Fixed name (n :: c :: v :: w :: more) ↔ c = ": ".toList ∧ v = mark ∧ Fixed name more := by
  unfold Fixed
  rw [scanPieces_of_isField h]
  simp only [List.cons.injEq, true_and]
  exact and_congr eq_comm (and_congr_left' eq_comm)

/-- What a rule writes stands behind the first piece. -/
theorem exists_scanPieces_cons (name : String) (n : List Char) (ps : List (List Char)) :
    ∃ ps', scanPieces name (n :: ps) = n :: ps' := by
  cases h : isField name (n :: ps) with
  | false => exact ⟨_, scanPieces_cons h⟩
  | true =>
    obtain ⟨n, c, v, w, more, heq⟩ := exists_of_isField h
    obtain ⟨rfl, rfl⟩ := List.cons.inj heq
    exact ⟨_, scanPieces_of_isField h⟩

/-- Whether a field begins at a piece does not depend on what a rule does behind it. -/
theorem isField_cons_scanPieces {other : String} (hother : other ∈ secretFields) :
    isField name (n :: scanPieces other ps) = isField name (n :: ps) := by
  cases ps with
  | nil => rfl
  | cons c ps =>
    cases hc : isField other (c :: ps) with
    | true =>
      -- the second piece is a name, and no colon
      obtain ⟨c, c', v, w, more, heq⟩ := exists_of_isField hc
      obtain ⟨rfl, rfl⟩ := List.cons.inj heq
      have hspells := (isField_iff.1 hc).1
      have hcolon : isColon c = false := by
        rw [← Bool.not_eq_true]
        exact fun h => not_spells_colon hother h hspells
      rw [scanPieces_of_isField hc]
      simp [isField, hcolon]
    | false =>
      rw [scanPieces_cons hc]
      cases ps with
      | nil => rfl
      | cons v ps =>
        cases hv : isField other (v :: ps) with
        | true =>
          obtain ⟨v, c', v', w, more, heq⟩ := exists_of_isField hv
          obtain ⟨rfl, rfl⟩ := List.cons.inj heq
          rw [scanPieces_of_isField hv]
          rfl
        | false =>
          rw [scanPieces_cons hv]
          cases ps with
          | nil => rfl
          | cons w ps =>
            obtain ⟨ps', hps'⟩ := exists_scanPieces_cons other w ps
            rw [hps']
            rfl

/-- A rule leaves what it has written. -/
theorem fixed_scanPieces (hname : name ∈ secretFields) (ps : List (List Char)) :
    Fixed name (scanPieces name ps) := by
  induction ps using pieces_induction name with
  | nil => rfl
  | field n c v w more h ih =>
    have hfield : isField name (n :: ": ".toList :: mark :: w :: scanPieces name more) = true :=
      isField_iff.2 ⟨(isField_iff.1 h).1, isColon_shown, mark_ne_nil⟩
    rw [scanPieces_of_isField h, fixed_of_isField hfield]
    exact ⟨rfl, rfl, ih⟩
  | other n ps h ih =>
    rw [scanPieces_cons h, fixed_cons]
    · exact ih
    · rw [isField_cons_scanPieces hname, h]

end

/-! ## Entangled names -/

/-- A field with the outer name has as its value the name of a field with the inner name, and the
quote that ends the value of this field begins another one with the inner name. -/
def Entangles (inner outer : String) (ps : List (List Char)) : Prop :=
  ∃ k < ps.length, isField outer (ps.drop k) = true ∧ isField inner (ps.drop (k + 2)) = true ∧
    isField inner (ps.drop (k + 5)) = true

instance (inner outer : String) (ps : List (List Char)) : Decidable (Entangles inner outer ps) :=
  inferInstanceAs (Decidable (∃ k < ps.length, _))

section

variable {inner outer : String} {ps : List (List Char)}

theorem Entangles.cons {p : List Char} (h : Entangles inner outer ps) :
    Entangles inner outer (p :: ps) := by
  obtain ⟨k, hk, hfields⟩ := h
  exact ⟨k + 1, Nat.succ_lt_succ hk, hfields⟩

/-- What the rule for the outer name does to pieces that the rule for the inner name leaves. -/
structure Keeps (inner outer : String) (ps : List (List Char)) : Prop where
  fixed : Fixed inner ps → Fixed inner (scanPieces outer ps)
  /-- The quote before the first piece may be the end of a value. -/
  tail : Fixed inner ps.tail → Fixed inner (scanPieces outer ps).tail

/-- A piece in front, which begins no field with the outer name. -/
theorem fixed_front (ho : outer ∈ secretFields) {w : List Char}
    (ih : ∀ qs : List (List Char), qs.length ≤ ps.length → ¬ Entangles inner outer qs →
      Keeps inner outer qs)
    (hfree : ¬ Entangles inner outer ps) (h : Fixed inner (w :: ps)) :
    Fixed inner (w :: scanPieces outer ps) := by
  cases hw : isField inner (w :: ps) with
  | false =>
    rw [fixed_cons hw] at h
    rw [fixed_cons ((isField_cons_scanPieces ho).trans hw)]
    exact (ih ps le_rfl hfree).fixed h
  | true =>
    obtain ⟨w, c, v, w', more, heq⟩ := exists_of_isField hw
    obtain ⟨rfl, rfl⟩ := List.cons.inj heq
    obtain ⟨rfl, rfl, hmore⟩ := (fixed_of_isField hw).1 h
    have hrest := (ih (w' :: more) (by simp only [List.length_cons]; omega)
      fun h => hfree h.cons.cons).tail hmore
    rw [scanPieces_cons (isField_eq_false (not_spells_colon ho isColon_shown)),
      scanPieces_cons (isField_eq_false (not_spells_mark ho))]
    obtain ⟨more', hmore'⟩ := exists_scanPieces_cons outer w' more
    rw [hmore'] at hrest ⊢
    have hfield : isField inner (w :: ": ".toList :: mark :: w' :: more') = true :=
      isField_iff.2 (isField_iff.1 hw)
    rw [fixed_of_isField hfield]
    exact ⟨rfl, rfl, hrest⟩

/-- What stands behind the value of a field with the outer name. -/
theorem fixed_behind (hi : inner ∈ secretFields) (ho : outer ∈ secretFields)
    {n c v w : List Char} {more : List (List Char)}
    (hn : isField outer (n :: c :: v :: w :: more) = true)
    (ih : ∀ qs : List (List Char), qs.length ≤ more.length → ¬ Entangles inner outer qs →
      Keeps inner outer qs)
    (hfree : ¬ Entangles inner outer (n :: c :: v :: w :: more))
    (h : Fixed inner (v :: w :: more)) : Fixed inner (w :: scanPieces outer more) := by
  cases hv : isField inner (v :: w :: more) with
  | false =>
    rw [fixed_cons hv] at h
    exact fixed_front ho ih (fun h => hfree h.cons.cons.cons.cons) h
  | true =>
    obtain ⟨v', c', u, w', more', heq⟩ := exists_of_isField hv
    simp only [List.cons.injEq] at heq
    obtain ⟨rfl, rfl, rfl⟩ := heq
    obtain ⟨rfl, rfl, hmore⟩ := (fixed_of_isField hv).1 h
    have hnext : isField inner (w' :: more') = false := by
      rw [← Bool.not_eq_true]
      exact fun hnext => hfree ⟨0, by simp, hn, hv, hnext⟩
    rw [scanPieces_cons (isField_eq_false (not_spells_mark ho)),
      fixed_cons (isField_eq_false (not_spells_colon hi isColon_shown)),
      fixed_cons (isField_eq_false (not_spells_mark hi))]
    refine (ih (w' :: more') (Nat.le_succ _) fun h => hfree ?_).fixed ((fixed_cons hnext).2 hmore)
    exact h.cons.cons.cons.cons.cons

/-- Without entangled fields a later rule leaves the pieces fixed. -/
theorem keeps_of_not_entangles (hi : inner ∈ secretFields) (ho : outer ∈ secretFields)
    (hne : inner ≠ outer) (hfree : ¬ Entangles inner outer ps) : Keeps inner outer ps := by
  induction hlength : ps.length using Nat.strong_induction_on generalizing ps with
  | _ l ih =>
    cases ps with
    | nil => exact ⟨id, id⟩
    | cons n ps =>
      rw [List.length_cons] at hlength
      have hshorter : ∀ qs : List (List Char), qs.length ≤ ps.length → ¬ Entangles inner outer qs →
          Keeps inner outer qs := fun qs hqs hfree => ih qs.length (by omega) hfree rfl
      cases hn : isField outer (n :: ps) with
      | false =>
        have hps : ¬ Entangles inner outer ps := fun h => hfree h.cons
        constructor
        · intro h
          rw [scanPieces_cons hn]
          exact fixed_front ho hshorter hps h
        · intro h
          rw [scanPieces_cons hn]
          exact (hshorter ps le_rfl hps).fixed h
      | true =>
        obtain ⟨n, c, v, w, more, heq⟩ := exists_of_isField hn
        obtain ⟨rfl, rfl⟩ := List.cons.inj heq
        obtain ⟨hspells, hcolon, -⟩ := isField_iff.1 hn
        have hname : ∀ qs, isField inner (n :: qs) = false := fun qs =>
          isField_eq_false fun h => hne (Spells.of_secretFields hi ho h hspells)
        -- behind the name, what the rule writes is no name, nor was what it takes away
        have htail : Fixed inner (c :: v :: w :: more) →
            Fixed inner (": ".toList :: mark :: w :: scanPieces outer more) := by
          intro h
          rw [fixed_cons (isField_eq_false (not_spells_colon hi hcolon))] at h
          rw [fixed_cons (isField_eq_false (not_spells_colon hi isColon_shown)),
            fixed_cons (isField_eq_false (not_spells_mark hi))]
          refine fixed_behind hi ho hn (fun qs hqs => hshorter qs ?_) hfree h
          simp only [List.length_cons]
          omega
        constructor
        · intro h
          rw [fixed_cons (hname _)] at h
          rw [scanPieces_of_isField hn, fixed_cons (hname _)]
          exact htail h
        · intro h
          rw [scanPieces_of_isField hn]
          exact htail h

end

/-! ## The rules for fields one after the other -/

/-- A piece, and what a rule may have written in its place. -/
def Rewritten (p p' : List Char) : Prop :=
  p' = p ∨ (isColon p = true ∧ p' = ": ".toList) ∨ (p ≠ [] ∧ p' = mark)

theorem forall₂_scanPieces (name : String) (ps : List (List Char)) :
    List.Forall₂ Rewritten ps (scanPieces name ps) := by
  induction ps using pieces_induction name with
  | nil => exact .nil
  | field n c v w more h ih =>
    obtain ⟨-, hcolon, hvalue⟩ := isField_iff.1 h
    rw [scanPieces_of_isField h]
    exact .cons (Or.inl rfl) (.cons (Or.inr (Or.inl ⟨hcolon, rfl⟩))
      (.cons (Or.inr (Or.inr ⟨hvalue, rfl⟩)) (.cons (Or.inl rfl) ih)))
  | other n ps h ih =>
    rw [scanPieces_cons h]
    exact .cons (Or.inl rfl) ih

theorem isField_of_rewritten {name : String} (hname : name ∈ secretFields) {ps ps' : List (List Char)}
    (hps : List.Forall₂ Rewritten ps ps') (h : isField name ps' = true) : isField name ps = true := by
  obtain ⟨n', c', v', w', more', rfl⟩ := exists_of_isField h
  obtain ⟨hspells, hcolon, hvalue⟩ := isField_iff.1 h
  cases hps with | @cons n _ _ _ hn hps
  cases hps with | @cons c _ _ _ hc hps
  cases hps with | @cons v _ _ _ hv hps
  cases hps with | @cons w _ more _ _ _
  have hmark : isColon mark = false := by decide
  refine isField_iff.2 ⟨?_, ?_, ?_⟩
  · rcases hn with rfl | ⟨-, rfl⟩ | ⟨-, rfl⟩
    · exact hspells
    · exact absurd hspells (not_spells_colon hname isColon_shown)
    · exact absurd hspells (not_spells_mark hname)
  · rcases hc with rfl | ⟨hc, -⟩ | ⟨-, rfl⟩
    · exact hcolon
    · exact hc
    · rw [hmark] at hcolon
      cases hcolon
  · rcases hv with rfl | ⟨hv, -⟩ | ⟨hv, -⟩
    · exact hvalue
    · rintro rfl
      cases hv
    · exact hv

/-- A rule entangles no fields. -/
theorem entangles_of_scanPieces {inner outer name : String} (hi : inner ∈ secretFields)
    (ho : outer ∈ secretFields) {ps : List (List Char)}
    (h : Entangles inner outer (scanPieces name ps)) : Entangles inner outer ps := by
  obtain ⟨k, hk, hfield, hvalue, hnext⟩ := h
  have hps := forall₂_scanPieces name ps
  rw [← hps.length_eq] at hk
  exact ⟨k, hk, isField_of_rewritten ho (List.forall₂_drop _ hps) hfield,
    isField_of_rewritten hi (List.forall₂_drop _ hps) hvalue,
    isField_of_rewritten hi (List.forall₂_drop _ hps) hnext⟩

/-- The pieces that the rules for these names leave, applied one after the other. -/
def scanAll (names : List String) (ps : List (List Char)) : List (List Char) :=
  names.foldl (fun ps name => scanPieces name ps) ps

/-- A field with a name has as its value one of the names before it. -/
def Entangled (ps : List (List Char)) : Prop :=
  ∃ outer ∈ secretFields, ∃ inner ∈ secretFields.takeWhile (· != outer), Entangles inner outer ps

instance (ps : List (List Char)) : Decidable (Entangled ps) :=
  inferInstanceAs (Decidable (∃ outer ∈ secretFields, ∃ inner ∈ _, _))

theorem entangled_of_scanPieces {name : String} {ps : List (List Char)}
    (h : Entangled (scanPieces name ps)) : Entangled ps := by
  obtain ⟨outer, ho, inner, hi, h⟩ := h
  have hinner := (List.takeWhile_prefix _).subset hi
  exact ⟨outer, ho, inner, hi, entangles_of_scanPieces hinner ho h⟩

/-- Without entangled fields, no rule finds anything but marks any more. -/
theorem fixed_scanAll {ps : List (List Char)} (hfree : ¬ Entangled ps) :
    ∀ name ∈ secretFields, Fixed name (scanAll secretFields ps) := by
  have hfold : ∀ (names done : List String) (ps : List (List Char)), done ++ names = secretFields →
      ¬ Entangled ps → (∀ name ∈ done, Fixed name ps) →
      ∀ name ∈ secretFields, Fixed name (scanAll names ps) := by
    have hnodup : secretFields.Nodup := by decide
    intro names
    induction names with
    | nil =>
      intro done ps hnames _ h name hname
      rw [List.append_nil] at hnames
      exact h name (hnames ▸ hname)
    | cons outer names ih =>
      intro done ps hnames hfree h
      have ho : outer ∈ secretFields := hnames ▸ List.mem_append_right done List.mem_cons_self
      refine ih (done ++ [outer]) (scanPieces outer ps) (by simp [← hnames])
        (fun h => hfree (entangled_of_scanPieces h)) fun inner hi => ?_
      rcases List.mem_append.1 hi with hi | hi
      · rw [← hnames, List.nodup_append] at hnodup
        have hdone : ∀ name ∈ done, name ≠ outer := fun name hname =>
          hnodup.2.2 name hname outer List.mem_cons_self
        have hbefore : inner ∈ secretFields.takeWhile (· != outer) := by
          rw [← hnames, List.takeWhile_append_of_pos (by simpa using hdone)]
          exact List.mem_append_left _ hi
        refine (keeps_of_not_entangles (hnames ▸ List.mem_append_left _ hi) ho (hdone inner hi)
          fun h => hfree ⟨outer, ho, inner, hbefore, h⟩).fixed (h inner hi)
      · rw [List.mem_singleton.1 hi]
        exact fixed_scanPieces ho ps
  exact hfold secretFields [] ps rfl hfree (by simp)

end LoginCallback.Redaction
