import LoginCallback.Octets.Form
import LoginCallback.Proofs.Exchange.Fields
import LoginCallback.Proofs.Exchange.Names

/-!
# Fields between the quotes of a text

The rules for fields see a text as the pieces between its quotes. A field is a name behind a quote,
then a colon among blanks and then the value, each in a piece of its own (`isField`). A rule writes
a colon, a space and the mark instead, goes on behind the quote that ends the value (`scanPieces`),
and leaves all else (`apply_field_quoted`). Facts about the fields of a text are thus facts about a
list of pieces, by induction along the fields in it (`pieces_induction`).
-/

namespace LoginCallback.Redaction

open LoginCallback.Text (isBlank)

/-! ## Pieces -/

/-- The pieces, each behind a quote. -/
def quoted (ps : List (List Char)) : List Char := ps.flatMap ('"' :: ·)

@[simp] theorem quoted_nil : quoted [] = [] := rfl

@[simp] theorem quoted_cons (p : List Char) (ps : List (List Char)) :
    quoted (p :: ps) = '"' :: (p ++ quoted ps) := rfl

/-- The pieces behind the quotes of a text. -/
def pieces (cs : List Char) : List (List Char) := (Octets.splitOn '"' cs).tail

/-- A text is what stands before its first quote, and the pieces behind the quotes. -/
theorem exists_pieces (cs : List Char) :
    ∃ p, '"' ∉ p ∧ (∀ x ∈ pieces cs, '"' ∉ x) ∧ cs = p ++ quoted (pieces cs) := by
  have hsplit : ∀ cs, ∃ p ps, Octets.splitOn '"' cs = p :: ps ∧ '"' ∉ p ∧ (∀ x ∈ ps, '"' ∉ x) ∧
      cs = p ++ quoted ps := by
    intro cs
    induction cs with
    | nil => exact ⟨[], [], rfl, by simp, by simp, rfl⟩
    | cons c cs ih =>
      obtain ⟨p, ps, hsplit, hp, hps, rfl⟩ := ih
      rw [Octets.splitOn, hsplit]
      by_cases hc : c = '"'
      · subst hc
        exact ⟨[], p :: ps, by simp, by simp, List.forall_mem_cons.2 ⟨hp, hps⟩, rfl⟩
      · exact ⟨c :: p, ps, by simp [hc], by simp [Ne.symm hc, hp], hps, rfl⟩
  obtain ⟨p, ps, hsplit, hp, hps, hcs⟩ := hsplit cs
  have hpieces : pieces cs = ps := by rw [pieces, hsplit, List.tail_cons]
  rw [hpieces]
  exact ⟨p, hp, hps, hcs⟩

/-- Whether the pieces begin with a field of that name, with a value and the quote that ends it. -/
def isField (name : String) : List (List Char) → Bool
  | n :: c :: v :: _ :: _ => decide (Spells name.toList n) && isColon c && !v.isEmpty
  | _ => false

/-- The pieces that the rule for a field leaves. -/
def scanPieces (name : String) : List (List Char) → List (List Char)
  | n :: c :: v :: w :: more =>
    if isField name (n :: c :: v :: w :: more) then
      n :: ": ".toList :: mark :: w :: scanPieces name more
    else n :: scanPieces name (c :: v :: w :: more)
  | ps => ps

section

variable {name : String}

theorem isField_iff {n c v w : List Char} {more : List (List Char)} :
    isField name (n :: c :: v :: w :: more) = true ↔
      Spells name.toList n ∧ isColon c = true ∧ v ≠ [] := by
  simp [isField, and_assoc]

theorem scanPieces_of_isField {n c v w : List Char} {more : List (List Char)}
    (h : isField name (n :: c :: v :: w :: more) = true) :
    scanPieces name (n :: c :: v :: w :: more) =
      n :: ": ".toList :: mark :: w :: scanPieces name more := by
  rw [scanPieces, if_pos h]

theorem scanPieces_cons {n : List Char} {ps : List (List Char)} (h : isField name (n :: ps) = false) :
    scanPieces name (n :: ps) = n :: scanPieces name ps := by
  match ps, h with
  | [], _ => rfl
  | [_], _ => rfl
  | [_, _], _ => rfl
  | c :: v :: w :: more, h => rw [scanPieces, if_neg (by simp [h])]

/-! ## The rule on pieces -/

theorem afterColon?_eq_none {c : List Char} (hc : '"' ∉ c) : afterColon? c = none := by
  unfold afterColon?
  cases hcolon : afterName? [':'] (dropBlank c) with
  | none => rfl
  | some rest =>
    refine afterName?_eq_none (by decide) List.mem_cons_self fun hmem => hc ?_
    have hsuffix := (suffix_of_afterName? hcolon).trans (List.dropWhile_suffix isBlank)
    exact hsuffix.subset ((List.dropWhile_suffix isBlank).subset hmem)

theorem find_of_isField (hname : name ∈ secretFields) {n c v w : List Char}
    {more : List (List Char)} (hquotes : ∀ p ∈ [n, c, v], '"' ∉ p)
    (h : isField name (n :: c :: v :: w :: more) = true) (before : Option Char) :
    (Rule.field name).find before (quoted (n :: c :: v :: w :: more)) =
      some ⟨quoted [n, ": ".toList, mark] ++ ['"'], (quoted [n, c, v]).length + 1⟩ := by
  obtain ⟨hspells, hcolon, hvalue⟩ := isField_iff.1 h
  have hfind := find_field_quoted hname hquotes hspells hcolon hvalue (w ++ quoted more) before
  simpa using hfind

theorem find_of_not_isField (hname : name ∈ secretFields) {n : List Char} {ps : List (List Char)}
    (hquotes : ∀ p ∈ n :: ps, '"' ∉ p) (h : isField name (n :: ps) = false) (before : Option Char) :
    (Rule.field name).find before (quoted (n :: ps)) = none := by
  rw [List.forall_mem_cons] at hquotes
  obtain ⟨hn, hps⟩ := hquotes
  rw [find_field]
  match ps, hps, h with
  | [], _, _ =>
    have hnone : ∀ rest, afterName? name.toList n = some rest → afterName? ['"'] rest = none :=
      fun rest hrest => afterName?_eq_none (by decide) List.mem_cons_self fun hmem =>
        hn ((suffix_of_afterName? hrest).subset hmem)
    rw [quoted_cons, quoted_nil, List.append_nil, afterField?_quote]
    cases hrest : afterName? name.toList n with
    | none => rfl
    | some rest =>
      rw [Option.bind_some, hnone rest hrest]
      rfl
  | [c], hps, _ =>
    rw [quoted_cons, quoted_cons, afterField?_quoted hname hn, quoted_nil, List.append_nil,
      afterColon?_eq_none (hps c List.mem_cons_self), Option.map_none, ite_self]
    rfl
  | c :: v :: rest, hps, h =>
    rw [List.forall_mem_cons, List.forall_mem_cons] at hps
    obtain ⟨hc, hv, -⟩ := hps
    rw [quoted_cons, quoted_cons, afterField?_quoted hname hn, quoted_cons, afterColon?_piece hc]
    by_cases hspells : Spells name.toList n
    · by_cases hcolon : isColon c = true
      · rw [if_pos hspells, if_pos hcolon, Option.map_some, Option.bind_some]
        cases rest with
        | nil =>
          rw [quoted_nil, List.append_nil]
          unfold fieldHit
          simp [takeWhile_piece hv]
        | cons w more =>
          have hempty : v = [] := by simpa [isField, hspells, hcolon] using h
          subst hempty
          have hsplit : '"' :: (n ++ '"' :: (c ++ '"' :: ([] ++ quoted (w :: more)))) =
              quoted [n, c, []] ++ '"' :: (w ++ quoted more) := by simp
          rw [hsplit]
          exact fieldHit_append (quoted [n, c, []]) n [] (w ++ quoted more)
      · rw [if_neg hcolon, Option.map_none, ite_self]
        rfl
    · rw [if_neg hspells]
      rfl

/-! ### Scans over pieces -/

theorem exists_of_isField {ps : List (List Char)} (h : isField name ps = true) :
    ∃ n c v w more, ps = n :: c :: v :: w :: more := by
  match ps, h with
  | n :: c :: v :: w :: more, _ => exact ⟨n, c, v, w, more, rfl⟩

/-- Induction along the fields that the rule finds. -/
@[elab_as_elim]
theorem pieces_induction (name : String) {motive : List (List Char) → Prop} (nil : motive [])
    (field : ∀ n c v w more, isField name (n :: c :: v :: w :: more) = true → motive more →
      motive (n :: c :: v :: w :: more))
    (other : ∀ n ps, isField name (n :: ps) = false → motive ps → motive (n :: ps)) :
    ∀ ps, motive ps := by
  intro ps
  induction hlength : ps.length using Nat.strong_induction_on generalizing ps with
  | _ l ih =>
    cases ps with
    | nil => exact nil
    | cons n ps =>
      rw [List.length_cons] at hlength
      cases h : isField name (n :: ps) with
      | false => exact other n ps h (ih ps.length (by omega) ps rfl)
      | true =>
        obtain ⟨n, c, v, w, more, heq⟩ := exists_of_isField h
        rw [heq] at h ⊢
        have hmore := congrArg List.length heq
        simp only [List.length_cons] at hmore
        exact field n c v w more h (ih more.length (by omega) more rfl)

/-- No field begins before a quote. -/
theorem replace_piece (name : String) {p : List Char} (hp : '"' ∉ p) (before : Option Char)
    (z : List Char) : replace (Rule.field name).find 0 before (p ++ z) =
      p ++ replace (Rule.field name).find 0 (lastOf before p) z := by
  induction p generalizing before with
  | nil => rfl
  | cons d p ih =>
    rw [List.mem_cons, not_or] at hp
    have hnone : (Rule.field name).find before (d :: (p ++ z)) = none := by
      rw [find_field, afterField?_of_ne (Ne.symm hp.1)]
      rfl
    rw [List.cons_append, replace_cons_of_none hnone, ih hp.2, lastOf_cons, List.cons_append]

theorem replace_quoted (hname : name ∈ secretFields) {ps : List (List Char)}
    (hps : ∀ p ∈ ps, '"' ∉ p) (before : Option Char) :
    replace (Rule.field name).find 0 before (quoted ps) = quoted (scanPieces name ps) := by
  induction ps using pieces_induction name generalizing before with
  | nil => rfl
  | field n c v w more h ih =>
    simp only [List.forall_mem_cons] at hps
    obtain ⟨hn, hc, hv, hw, hmore⟩ := hps
    have hsplit : quoted (n :: c :: v :: w :: more) =
        (quoted [n, c, v] ++ ['"']) ++ (w ++ quoted more) := by simp
    have hfound := find_of_isField hname (by simp [hn, hc, hv]) h before
    have hsize : (quoted [n, c, v]).length + 1 = 0 + (quoted [n, c, v] ++ ['"']).length := by
      rw [List.length_append, List.length_singleton, Nat.zero_add]
    rw [hsplit, hsize] at hfound
    rw [hsplit, replace_front (List.append_ne_nil_of_right_ne_nil _ (List.cons_ne_nil _ _)) hfound,
      replace_piece name hw, ih hmore, scanPieces_of_isField h]
    simp
  | other n ps h ih =>
    have hnone := find_of_not_isField hname hps h before
    rw [List.forall_mem_cons] at hps
    rw [quoted_cons] at hnone ⊢
    rw [replace_cons_of_none hnone, replace_piece name hps.1, ih hps.2, scanPieces_cons h,
      quoted_cons]

theorem apply_field_quoted (hname : name ∈ secretFields) {p : List Char} (hp : '"' ∉ p)
    {ps : List (List Char)} (hps : ∀ p ∈ ps, '"' ∉ p) :
    (Rule.field name).apply (p ++ quoted ps) = p ++ quoted (scanPieces name ps) := by
  unfold Rule.apply
  rw [replace_piece name hp, replace_quoted hname hps]

theorem mem_scanPieces {ps : List (List Char)} (hps : ∀ p ∈ ps, '"' ∉ p) :
    ∀ p ∈ scanPieces name ps, '"' ∉ p := by
  induction ps using pieces_induction name with
  | nil => exact hps
  | field n c v w more h ih =>
    simp only [List.forall_mem_cons] at hps
    obtain ⟨hn, hc, hv, hw, hmore⟩ := hps
    rw [scanPieces_of_isField h]
    simp only [List.forall_mem_cons]
    exact ⟨hn, by decide, by decide, hw, ih hmore⟩
  | other n ps h ih =>
    rw [List.forall_mem_cons] at hps
    rw [scanPieces_cons h, List.forall_mem_cons]
    exact ⟨hps.1, ih hps.2⟩

end

end LoginCallback.Redaction
