import LoginCallback.Text.Blank

/-!
# The words of a text

The words of a text are the maximal runs of characters that end no word (`Runs`): nothing between
two words is lost but what ends them, and no two words are made one. Splitting a text at blanks
gives its words (`runs_words`), and a text has no others (`Runs.unique`).
-/

namespace LoginCallback.Text

/-- The maximal runs of characters that end no word, in their order. -/
inductive Runs (ends : Char → Bool) : List Char → List (List Char) → Prop where
  | nil : Runs ends [] []
  | skip {c : Char} {cs : List Char} {ws : List (List Char)} (hc : ends c = true)
      (h : Runs ends cs ws) : Runs ends (c :: cs) ws
  | word {w rest : List Char} {ws : List (List Char)} (hne : w ≠ [])
      (hw : ∀ c ∈ w, ends c = false) (hend : ∀ c ∈ rest.head?, ends c = true)
      (h : Runs ends rest ws) : Runs ends (w ++ rest) (w :: ws)

variable {ends : Char → Bool} {cs : List Char} {ws ws' : List (List Char)}

/-- A text that does not begin with an end begins with its first word. -/
theorem Runs.of_head {d : Char} {ds : List Char} (h : Runs ends cs ws) (hcs : cs = d :: ds)
    (hd : ends d = false) :
    ∃ w rest ws', ws = w :: ws' ∧ cs = w ++ rest ∧ (∀ c ∈ w, ends c = false) ∧
      (∀ c ∈ rest.head?, ends c = true) ∧ Runs ends rest ws' := by
  cases h with
  | nil => cases hcs
  | skip hc _ =>
    obtain ⟨rfl, -⟩ := List.cons.inj hcs
    rw [hd] at hc
    cases hc
  | word hne hw hend h => exact ⟨_, _, _, rfl, rfl, hw, hend, h⟩

/-- Splitting at blanks gives the words. -/
theorem runs_words (cs : List Char) : Runs isBlank cs (words cs) := by
  fun_induction words cs with
  | case1 => exact .nil
  | case2 c cs hc ih => exact .skip hc ih
  | case3 c hc => exact .word (w := [c]) (by simp) (by simpa using hc) (by simp) .nil
  | case4 c hc d ds hd ih =>
    exact .word (w := [c]) (by simp) (by simpa using hc) (by simpa using hd) ih
  | case5 c hc d ds hd hnone ih =>
    -- what follows begins with a word, so that there is one
    obtain ⟨w, rest, ws', hws, -⟩ := ih.of_head rfl (by simpa using hd)
    rw [hnone] at hws
    cases hws
  | case6 c hc d ds hd w ws hsome ih =>
    obtain ⟨w', rest, ws', hws, hcs, hw, hend, hrest⟩ := ih.of_head rfl (by simpa using hd)
    rw [hsome] at hws
    obtain ⟨rfl, rfl⟩ := List.cons.inj hws
    rw [hsome, hcs]
    exact .word (w := c :: w) (by simp) (List.forall_mem_cons.2 ⟨by simpa using hc, hw⟩) hend hrest

/-- A word is all of the text up to the first end. -/
theorem takeWhile_word {w rest : List Char} (hw : ∀ c ∈ w, ends c = false)
    (hend : ∀ c ∈ rest.head?, ends c = true) : (w ++ rest).takeWhile (!ends ·) = w := by
  have hrest : rest.takeWhile (!ends ·) = [] := by
    cases rest with
    | nil => rfl
    | cons c rest => simp [hend c (by simp)]
  rw [List.takeWhile_append_of_pos fun c hc => by simp [hw c hc], hrest, List.append_nil]

/-- A text has no two lists of words. -/
theorem Runs.unique {cs' : List Char} (h : Runs ends cs ws) (h' : Runs ends cs' ws')
    (hcs : cs = cs') : ws = ws' := by
  induction h generalizing cs' ws' with
  | nil =>
    cases h' with
    | nil => rfl
    | skip hc h' => cases hcs
    | word hne hw hend h' => exact absurd (List.append_eq_nil_iff.1 hcs.symm).1 hne
  | skip hc h ih =>
    cases h' with
    | nil => cases hcs
    | skip hc' h' => exact ih h' (List.cons.inj hcs).2
    | word hne hw hend h' =>
      obtain ⟨d, w, rfl⟩ := List.exists_cons_of_ne_nil hne
      obtain ⟨rfl, -⟩ := List.cons.inj hcs
      rw [hw _ (List.mem_cons_self ..)] at hc
      cases hc
  | word hne hw hend h ih =>
    obtain ⟨w', rest', ws', rfl, rfl, hw', hend', hrest'⟩ : ∃ w' rest' ws'', ws' = w' :: ws'' ∧
        cs' = w' ++ rest' ∧ (∀ c ∈ w', ends c = false) ∧ (∀ c ∈ rest'.head?, ends c = true) ∧
          Runs ends rest' ws'' := by
      obtain ⟨d, w, rfl⟩ := List.exists_cons_of_ne_nil hne
      exact h'.of_head hcs.symm (hw d (List.mem_cons_self ..))
    have hword := (takeWhile_word hw hend).symm.trans
      ((congrArg (List.takeWhile (!ends ·)) hcs).trans (takeWhile_word hw' hend'))
    subst hword
    rw [ih hrest' (List.append_cancel_left hcs)]

/-- Characters may be replaced by others as long as those that end no word stay. -/
theorem Runs.of_map {ends' : Char → Bool} {f : Char → Char} {cs' : List Char}
    (h : Runs ends cs' ws) (hcs : cs' = cs.map f) (hends : ∀ c, ends (f c) = ends' c)
    (hstay : ∀ c, ends' c = false → f c = c) : Runs ends' cs ws := by
  induction h generalizing cs with
  | nil =>
    obtain rfl := List.map_eq_nil_iff.1 hcs.symm
    exact .nil
  | skip hc h ih =>
    obtain ⟨d, ds, rfl, rfl, rfl⟩ := List.map_eq_cons_iff.1 hcs.symm
    exact .skip ((hends d).symm.trans hc) (ih rfl)
  | word hne hw hend h ih =>
    obtain ⟨v, rest, rfl, rfl, rfl⟩ := List.map_eq_append_iff.1 hcs.symm
    have hv : ∀ c ∈ v, ends' c = false := fun c hc =>
      (hends c).symm.trans (hw _ (List.mem_map_of_mem hc))
    have hsame : v.map f = v := by
      refine List.map_congr_left (fun c hc => hstay c (hv c hc)) |>.trans ?_
      exact List.map_id v
    rw [hsame] at hne ⊢
    refine .word hne hv (fun c hc => ?_) (ih rfl)
    rw [← hends]
    exact hend _ (by rw [List.head?_map]; exact Option.mem_map_of_mem f hc)

end LoginCallback.Text
