import LoginCallback.Callback.PathTemplate

/-!
# Paths of a path template

A template is cut at its placeholder (`parse_written`), and the path that it stands for with an
identifier gives the identifier back (`match?_path`), whatever the texts around it are and even if
the identifier ends like them.
-/

namespace LoginCallback.PathTemplate

/-- The template as it is written. -/
def written (t : PathTemplate) : List Char := t.before ++ (placeholder ++ t.after)

/-- The path that the template stands for with an identifier. -/
def path (t : PathTemplate) (id : List Char) : List Char := t.before ++ (id ++ t.after)

/-! ## Cutting -/

theorem afterBeginning?_append (beginning rest : List Char) :
    afterBeginning? beginning (beginning ++ rest) = some rest := by
  induction beginning with
  | nil => rfl
  | cons b bs ih =>
    rw [List.cons_append, afterBeginning?, beq_self_eq_true, if_pos rfl]
    exact ih

theorem afterBeginning?_placeholder_of_ne {c : Char} (h : c ≠ '\x7b') (cs : List Char) :
    afterBeginning? placeholder (c :: cs) = none := by
  show (if '\x7b' == c then _ else none) = none
  rw [if_neg]
  rw [beq_iff_eq]
  exact Ne.symm h

/-- The placeholder is found where no brace stands before it. -/
theorem cut?_append {before : List Char} (h : ∀ c ∈ before, c ≠ '\x7b') (after : List Char) :
    cut? (before ++ (placeholder ++ after)) = some (before, after) := by
  induction before with
  | nil =>
    show cut? (placeholder ++ after) = _
    have hcut := afterBeginning?_append placeholder after
    have hopen : placeholder ++ after = '\x7b' :: ("registration_id\x7d".toList ++ after) := rfl
    rw [hopen] at hcut ⊢
    rw [cut?, hcut]
  | cons c cs ih =>
    rw [List.cons_append, cut?, afterBeginning?_placeholder_of_ne (h c List.mem_cons_self),
      ih fun d hd => h d (List.mem_cons_of_mem _ hd)]
    rfl

/-- A text that can be parsed and has no brace before its placeholder is cut there. -/
theorem parse_written {text : String} {t u : PathTemplate} (h : ∀ c ∈ t.before, c ≠ '\x7b')
    (htext : text.toList = t.written) (hparse : parse text = .ok u) : u = t := by
  unfold parse at hparse
  rw [htext, written, cut?_append h] at hparse
  dsimp only at hparse
  split at hparse
  · cases hparse
  · split at hparse
    · cases hparse
    · exact (Except.ok.inj hparse).symm

/-! ## Matching -/

theorem beforeEnding?_append (cs ending : List Char) :
    beforeEnding? ending (cs ++ ending) = some cs := by
  unfold beforeEnding?
  rw [if_pos (List.isSuffixOf_iff_suffix.2 (List.suffix_append cs ending)), List.length_append,
    Nat.add_sub_cancel, List.take_left]

theorem isIdentifier_iff {id : List Char} : isIdentifier id = true ↔ id ≠ [] ∧ '/' ∉ id := by
  unfold isIdentifier
  cases id with
  | nil => simp
  | cons c cs =>
    simp only [List.isEmpty_cons, Bool.not_false, Bool.true_and, List.all_eq_true, bne_iff_ne]
    constructor
    · intro h
      exact ⟨List.cons_ne_nil _ _, fun hmem => h '/' hmem rfl⟩
    · rintro ⟨-, h⟩ x hx rfl
      exact h hx

/-- The path that a template stands for with an identifier gives the identifier back. -/
theorem match?_path (t : PathTemplate) {id : List Char} (h : isIdentifier id = true) :
    t.match? (t.path id) = some id := by
  have hwhole : t.whole? (t.path id) = some id := by
    unfold whole? path
    rw [afterBeginning?_append, Option.bind_some, beforeEnding?_append, Option.filter_some,
      if_pos h]
  unfold match?
  rw [hwhole]

end LoginCallback.PathTemplate
