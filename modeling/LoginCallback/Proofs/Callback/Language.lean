import LoginCallback.Proofs.Callback.PathTemplate
import Mathlib.Data.List.TakeWhile

/-!
# The language of a path template

A text is a template exactly if it starts with a slash and the placeholder occurs in it once
(`parse_eq_ok`). A template matches the paths that it stands for with an identifier, and these paths
with a line end behind them; a path that can be read both ways is read without the line end
(`match?_eq_some`). That is what a search finds which first takes as many characters for the
identifier as it can, and gives them back one at a time (`match?_eq_search?`). Main statement:
`accepts_and_captures`.
-/

namespace LoginCallback.PathTemplate

/-! ## The placeholder in a text -/

theorem afterBeginning?_eq_some {beginning cs rest : List Char} :
    afterBeginning? beginning cs = some rest ↔ cs = beginning ++ rest := by
  constructor
  · intro h
    induction beginning generalizing cs with
    | nil => exact Option.some.inj h
    | cons b bs ih =>
      cases cs with
      | nil => cases h
      | cons c cs =>
        rw [afterBeginning?] at h
        split at h
        · rename_i hbc
          rw [ih h, beq_iff_eq.1 hbc, List.cons_append]
        · cases h
  · rintro rfl
    exact afterBeginning?_append beginning rest

theorem eq_of_cut? {cs before after : List Char} (h : cut? cs = some (before, after)) :
    cs = before ++ (placeholder ++ after) := by
  induction cs generalizing before with
  | nil => cases h
  | cons c cs ih =>
    rw [cut?] at h
    split at h
    · rename_i rest hrest
      cases h
      have hfront := afterBeginning?_eq_some.1 hrest
      exact hfront
    · obtain ⟨⟨before', after'⟩, hcut, heq⟩ := Option.map_eq_some_iff.1 h
      cases heq
      rw [List.cons_append, ← ih hcut]

theorem isSome_cut? (before after : List Char) :
    (cut? (before ++ (placeholder ++ after))).isSome = true := by
  induction before with
  | nil =>
    have hcut := afterBeginning?_append placeholder after
    have hopen : placeholder ++ after = '\x7b' :: ("registration_id\x7d".toList ++ after) := rfl
    rw [List.nil_append, hopen, cut?, ← hopen, hcut]
    rfl
  | cons c cs ih =>
    rw [List.cons_append, cut?]
    split
    · rfl
    · rwa [Option.isSome_map]

/-- The place where a text is cut is the first one. -/
theorem length_le_of_cut? {cs before after before' after' : List Char}
    (h : cut? cs = some (before, after)) (h' : cs = before' ++ (placeholder ++ after')) :
    before.length ≤ before'.length := by
  induction cs generalizing before before' with
  | nil => cases h
  | cons c cs ih =>
    rw [cut?] at h
    split at h
    · cases h
      exact Nat.zero_le _
    · rename_i hfront
      obtain ⟨⟨before₁, after₁⟩, hcut, heq⟩ := Option.map_eq_some_iff.1 h
      cases heq
      cases before' with
      | nil => rw [h', List.nil_append, afterBeginning?_append] at hfront; cases hfront
      | cons d ds => exact Nat.succ_le_succ (ih hcut (List.cons.inj h').2)

/-- Two occurrences of the placeholder do not overlap: its brace stands only at its front. -/
theorem exists_of_lt {before after before' after' : List Char}
    (h : before ++ (placeholder ++ after) = before' ++ (placeholder ++ after'))
    (hlt : before.length < before'.length) :
    ∃ between, after = between ++ (placeholder ++ after') := by
  rcases List.append_eq_append_iff.1 h with ⟨gap, rfl, hgap⟩ | ⟨gap, rfl, -⟩
  · rcases List.append_eq_append_iff.1 hgap with ⟨between, rfl, hbetween⟩ | ⟨rest, hrest, hafter⟩
    · exact ⟨between, hbetween⟩
    · cases gap with
      | nil => simp at hlt
      | cons g gap =>
        cases rest with
        | nil => exact ⟨[], hafter.symm⟩
        | cons x rest =>
          -- the second occurrence would begin inside the first one
          have hx : x = '\x7b' := (List.cons.inj hafter).1.symm
          have hname : "registration_id\x7d".toList = gap ++ x :: rest := (List.cons.inj hrest).2
          have hmem : '\x7b' ∈ "registration_id\x7d".toList := by
            rw [hname, hx]
            exact List.mem_append_right _ List.mem_cons_self
          exact absurd hmem (by decide)
  · rw [List.length_append] at hlt
    omega

/-- A text that holds the placeholder once is cut there. -/
theorem cut?_of_once {cs : List Char} {t : PathTemplate} (h : cs = t.written)
    (honly : ∀ u : PathTemplate, cs = u.written → u = t) : cut? cs = some (t.before, t.after) := by
  have hsome : (cut? cs).isSome = true := by
    rw [h]
    exact isSome_cut? t.before t.after
  obtain ⟨⟨before, after⟩, hcut⟩ := Option.isSome_iff_exists.1 hsome
  rw [hcut, ← honly ⟨before, after⟩ (eq_of_cut? hcut)]

/-- Behind the place where a text is cut the placeholder occurs once more, unless it occurs once. -/
theorem once_of_cut? {cs before after : List Char} (h : cut? cs = some (before, after))
    (hrest : cut? after = none) (u : PathTemplate) (hu : cs = u.written) : u = ⟨before, after⟩ := by
  have hcs := eq_of_cut? h
  rcases Nat.lt_or_ge before.length u.before.length with hlt | hge
  · obtain ⟨between, rfl⟩ := exists_of_lt (hcs.symm.trans hu) hlt
    have hsome := isSome_cut? between u.after
    rw [hrest] at hsome
    cases hsome
  · have hlength := Nat.le_antisymm (length_le_of_cut? h hu) hge
    obtain ⟨hbefore, htail⟩ := List.append_inj (hcs.symm.trans hu) hlength
    have hafter := List.append_cancel_left htail
    rw [hbefore, hafter]

theorem cut?_after_of_once {cs : List Char} {t : PathTemplate} (h : cs = t.written)
    (honly : ∀ u : PathTemplate, cs = u.written → u = t) : cut? t.after = none := by
  rw [Option.eq_none_iff_forall_not_mem]
  rintro ⟨between, after⟩ hcut
  have hafter := eq_of_cut? hcut
  have hlater : cs = written ⟨t.before ++ (placeholder ++ between), after⟩ := by
    rw [h, written, written, hafter]
    simp only [List.append_assoc]
  have hlength := congrArg (fun u => u.before.length) (honly _ hlater)
  simp only [List.length_append] at hlength
  have hplaceholder : placeholder.length = 17 := rfl
  omega

/-- A text is a template exactly if it starts with a slash and holds the placeholder once. -/
theorem parse_eq_ok {text : String} {t : PathTemplate} :
    parse text = .ok t ↔ text.toList.head? = some '/' ∧ text.toList = t.written ∧
      ∀ u : PathTemplate, text.toList = u.written → u = t := by
  unfold parse
  by_cases hslash : text.toList.head? = some '/'
  · rw [if_neg (by simp [hslash])]
    constructor
    · intro h
      cases hcut : cut? text.toList with
      | none =>
        rw [hcut] at h
        cases h
      | some parts =>
        obtain ⟨before, after⟩ := parts
        rw [hcut] at h
        dsimp only at h
        cases hrest : cut? after with
        | some _ =>
          rw [hrest] at h
          cases h
        | none =>
          rw [hrest] at h
          obtain rfl := Except.ok.inj h
          exact ⟨hslash, eq_of_cut? hcut, once_of_cut? hcut hrest⟩
    · rintro ⟨-, htext, honly⟩
      rw [cut?_of_once htext honly]
      dsimp only
      rw [cut?_after_of_once htext honly]
      rfl
  · rw [if_pos (by simpa using hslash)]
    exact ⟨fun h => (by cases h), fun h => absurd h.1 hslash⟩

/-! ## Matched paths -/

theorem beforeEnding?_eq_some {ending cs front : List Char} :
    beforeEnding? ending cs = some front ↔ cs = front ++ ending := by
  constructor
  · intro h
    unfold beforeEnding? at h
    split at h
    · rename_i hsuffix
      obtain ⟨front', rfl⟩ := List.isSuffixOf_iff_suffix.1 hsuffix
      rw [List.length_append, Nat.add_sub_cancel, List.take_left] at h
      rw [Option.some.inj h]
    · cases h
  · rintro rfl
    exact beforeEnding?_append front ending

variable {t : PathTemplate} {path id : List Char}

theorem whole?_eq_some : t.whole? path = some id ↔ (id ≠ [] ∧ '/' ∉ id) ∧ path = t.path id := by
  unfold whole? PathTemplate.path
  rw [Option.filter_eq_some_iff, isIdentifier_iff, Option.bind_eq_some_iff, and_comm]
  simp only [afterBeginning?_eq_some, beforeEnding?_eq_some, exists_eq_right]

theorem whole?_eq_none :
    t.whole? path = none ↔ ∀ id, id ≠ [] ∧ '/' ∉ id → path ≠ t.path id := by
  rw [Option.eq_none_iff_forall_not_mem]
  constructor
  · intro h id hid hpath
    exact h id (whole?_eq_some.2 ⟨hid, hpath⟩)
  · intro h id hwhole
    obtain ⟨hid, hpath⟩ := whole?_eq_some.1 hwhole
    exact h id hid hpath

/-- The path shows the identifier: as it stands, or else before a line end. An identifier is not
empty and has no slash. -/
inductive Captures (t : PathTemplate) (path id : List Char) : Prop where
  | whole (hid : id ≠ [] ∧ '/' ∉ id) (h : path = t.path id)
  | lineEnd (hid : id ≠ [] ∧ '/' ∉ id) (h : path = t.path id ++ ['\n'])
      (hnot : ∀ id', id' ≠ [] ∧ '/' ∉ id' → path ≠ t.path id')

theorem match?_eq_some : t.match? path = some id ↔ t.Captures path id := by
  unfold match?
  cases hwhole : t.whole? path with
  | some id' =>
    obtain ⟨hid', hpath⟩ := whole?_eq_some.1 hwhole
    constructor
    · intro h
      obtain rfl := Option.some.inj h
      exact .whole hid' hpath
    · rintro (⟨hid, h⟩ | ⟨-, -, hnot⟩)
      · exact hwhole.symm.trans (whole?_eq_some.2 ⟨hid, h⟩)
      · exact absurd hpath (hnot id' hid')
  | none =>
    have hnot := whole?_eq_none.1 hwhole
    dsimp only
    rw [Option.bind_eq_some_iff]
    constructor
    · rintro ⟨front, hfront, h⟩
      obtain ⟨hid, rfl⟩ := whole?_eq_some.1 h
      exact .lineEnd hid (beforeEnding?_eq_some.1 hfront) hnot
    · rintro (⟨hid, h⟩ | ⟨hid, h, -⟩)
      · exact absurd h (hnot id hid)
      · exact ⟨t.path id, beforeEnding?_eq_some.2 h, whole?_eq_some.2 ⟨hid, rfl⟩⟩

theorem isSome_match? : (t.match? path).isSome = true ↔
    ∃ id, (id ≠ [] ∧ '/' ∉ id) ∧ (path = t.path id ∨ path = t.path id ++ ['\n']) := by
  rw [Option.isSome_iff_exists]
  constructor
  · rintro ⟨id, h⟩
    rcases match?_eq_some.1 h with ⟨hid, h⟩ | ⟨hid, h, -⟩
    · exact ⟨id, hid, Or.inl h⟩
    · exact ⟨id, hid, Or.inr h⟩
  · rintro ⟨id, hid, h | h⟩
    · exact ⟨id, match?_eq_some.2 (.whole hid h)⟩
    · by_cases hwhole : ∃ id', (id' ≠ [] ∧ '/' ∉ id') ∧ path = t.path id'
      · obtain ⟨id', hid', h'⟩ := hwhole
        exact ⟨id', match?_eq_some.2 (.whole hid' h')⟩
      · exact ⟨id, match?_eq_some.2 (.lineEnd hid h fun id' hid' h' => hwhole ⟨id', hid', h'⟩)⟩

/-! ## Searching from the longest identifier down -/

/-- Where a path may end: at its end, or before a last line end. -/
def atEnd (cs : List Char) : Bool := cs == [] || cs == ['\n']

/-- The longest front of `cs`, of at most `n` characters, behind which the text `after` leads to the
end. -/
def longest? (after cs : List Char) : Nat → Option (List Char)
  | 0 => none
  | n + 1 =>
    if (afterBeginning? after (cs.drop (n + 1))).any atEnd then some (cs.take (n + 1))
    else longest? after cs n

/-- The identifier that a search finds which takes all characters up to the next slash, and gives
back the last one as long as the rest does not fit. -/
def search? (t : PathTemplate) (path : List Char) : Option (List Char) :=
  (afterBeginning? t.before path).bind fun rest =>
    longest? t.after rest (rest.takeWhile (· != '/')).length

/-- Behind `k` characters the text `after` leads to the end. -/
def Fits (after cs : List Char) (k : Nat) : Prop :=
  cs.drop k = after ∨ cs.drop k = after ++ ['\n']

theorem any_atEnd_iff {after cs : List Char} :
    (afterBeginning? after cs).any atEnd = true ↔ cs = after ∨ cs = after ++ ['\n'] := by
  rw [Option.any_eq_true]
  simp only [afterBeginning?_eq_some, atEnd, Bool.or_eq_true, beq_iff_eq]
  constructor
  · rintro ⟨rest, rfl, rfl | rfl⟩
    · exact Or.inl (List.append_nil after)
    · exact Or.inr rfl
  · rintro (rfl | rfl)
    · exact ⟨[], (List.append_nil _).symm, Or.inl rfl⟩
    · exact ⟨['\n'], rfl, Or.inr rfl⟩

theorem longest?_eq_some {after cs : List Char} {n : Nat} :
    longest? after cs n = some id ↔ ∃ k, 0 < k ∧ k ≤ n ∧ id = cs.take k ∧ Fits after cs k ∧
      ∀ j, k < j → j ≤ n → ¬ Fits after cs j := by
  induction n with
  | zero =>
    refine ⟨fun h => (by cases h), ?_⟩
    rintro ⟨k, hpos, hle, -⟩
    omega
  | succ n ih =>
    rw [longest?]
    by_cases hfits : Fits after cs (n + 1)
    · rw [if_pos (any_atEnd_iff.2 hfits)]
      constructor
      · intro h
        exact ⟨n + 1, Nat.succ_pos n, le_rfl, (Option.some.inj h).symm, hfits,
          fun j hj hj' => by omega⟩
      · rintro ⟨k, hpos, hle, rfl, -, hlast⟩
        rcases Nat.lt_or_ge k (n + 1) with hlt | hge
        · exact absurd hfits (hlast (n + 1) hlt le_rfl)
        · rw [Nat.le_antisymm hle hge]
    · rw [if_neg (fun h => hfits (any_atEnd_iff.1 h)), ih]
      constructor
      · rintro ⟨k, hpos, hle, hid, hk, hlast⟩
        refine ⟨k, hpos, Nat.le_succ_of_le hle, hid, hk, fun j hj hj' => ?_⟩
        rcases Nat.lt_or_ge j (n + 1) with hlt | hge
        · exact hlast j hj (Nat.lt_succ_iff.1 hlt)
        · rwa [Nat.le_antisymm hj' hge]
      · rintro ⟨k, hpos, hle, hid, hk, hlast⟩
        have hne : k ≠ n + 1 := by
          rintro rfl
          exact hfits hk
        exact ⟨k, hpos, by omega, hid, hk, fun j hj hj' => hlast j hj (Nat.le_succ_of_le hj')⟩

/-- The fronts without a slash are those of at most as many characters as stand before the first
slash. -/
theorem notMem_take_iff {cs : List Char} {k : Nat} (hk : k ≤ cs.length) :
    '/' ∉ cs.take k ↔ k ≤ (cs.takeWhile (· != '/')).length := by
  induction cs generalizing k with
  | nil => simp at hk; simp [hk]
  | cons c cs ih =>
    cases k with
    | zero => simp
    | succ k =>
      by_cases hc : c = '/'
      · simp [hc]
      · simp [hc, Ne.symm hc, ih (Nat.le_of_succ_le_succ hk)]

/-- At most one text of the two that lead to the end stands behind a given number of characters. -/
theorem Fits.length_add {after cs : List Char} {k : Nat} (h : Fits after cs k) (hk : k ≤ cs.length) :
    cs.length = k + after.length ∨ cs.length = k + after.length + 1 := by
  rcases h with h | h
  · have hlength := congrArg List.length h
    rw [List.length_drop] at hlength
    omega
  · have hlength := congrArg List.length h
    rw [List.length_drop, List.length_append, List.length_singleton] at hlength
    omega

theorem search?_eq_some : t.search? path = some id ↔ ∃ rest k, path = t.before ++ rest ∧
    id = rest.take k ∧ 0 < k ∧ k ≤ rest.length ∧ '/' ∉ rest.take k ∧ Fits t.after rest k ∧
      ∀ j, k < j → j ≤ rest.length → '/' ∉ rest.take j → ¬ Fits t.after rest j := by
  unfold search?
  rw [Option.bind_eq_some_iff]
  simp only [afterBeginning?_eq_some, longest?_eq_some]
  constructor
  · rintro ⟨rest, hpath, k, hpos, hrun, hid, hfits, hlast⟩
    have hk := hrun.trans (List.takeWhile_prefix _).length_le
    exact ⟨rest, k, hpath, hid, hpos, hk, (notMem_take_iff hk).2 hrun, hfits,
      fun j hj hlength hslash => hlast j hj ((notMem_take_iff hlength).1 hslash)⟩
  · rintro ⟨rest, k, hpath, hid, hpos, hk, hslash, hfits, hlast⟩
    refine ⟨rest, hpath, k, hpos, (notMem_take_iff hk).1 hslash, hid, hfits, fun j hj hrun => ?_⟩
    have hlength := hrun.trans (List.takeWhile_prefix _).length_le
    exact hlast j hj hlength ((notMem_take_iff hlength).2 hrun)

theorem match?_eq_search? (t : PathTemplate) (path : List Char) : t.match? path = t.search? path := by
  apply Option.ext
  intro id
  rw [match?_eq_some, search?_eq_some]
  constructor
  · rintro (⟨⟨hne, hslash⟩, h⟩ | ⟨⟨hne, hslash⟩, h, hnot⟩)
    · refine ⟨id ++ t.after, id.length, h, List.take_left.symm, List.length_pos_iff.2 hne, by simp,
        by simpa using hslash, Or.inl (by simp), fun j hj hlength _ hfits => ?_⟩
      have hsum := hfits.length_add hlength
      rw [List.length_append] at hsum
      omega
    · have hrest : path = t.before ++ (id ++ (t.after ++ ['\n'])) := by
        rw [h, PathTemplate.path, List.append_assoc, List.append_assoc]
      refine ⟨_, id.length, hrest, List.take_left.symm, List.length_pos_iff.2 hne, by simp,
        by simpa using hslash, Or.inr (by simp), fun j hj hlength hslash' hfits => ?_⟩
      -- more characters leave no room for the line end, and make the path one without it
      rcases hfits with hfits | hfits
      · refine hnot ((id ++ (t.after ++ ['\n'])).take j) ⟨?_, hslash'⟩ ?_
        · rw [Ne, List.take_eq_nil_iff, not_or]
          exact ⟨by omega, by simp⟩
        · rw [hrest]
          exact congrArg (t.before ++ ·)
            ((List.take_append_drop j _).symm.trans (congrArg (List.take j _ ++ ·) hfits))
      · have hsum := congrArg List.length hfits
        simp only [List.length_drop, List.length_append, List.length_singleton] at hsum hlength
        omega
  · rintro ⟨rest, k, rfl, rfl, hpos, hk, hslash, hfits, hlast⟩
    have hid : rest.take k ≠ [] ∧ '/' ∉ rest.take k := by
      refine ⟨?_, hslash⟩
      rw [Ne, ← List.length_eq_zero_iff, List.length_take_of_le hk]
      omega
    rcases hfits with hfits | hfits
    · refine .whole hid ?_
      rw [PathTemplate.path, ← hfits, List.take_append_drop]
    · refine .lineEnd hid ?_ ?_
      · rw [PathTemplate.path, List.append_assoc, List.append_assoc, ← hfits, List.take_append_drop]
      · rintro id' ⟨hne', hslash'⟩ hpath
        obtain rfl := List.append_cancel_left hpath
        -- the whole reading takes one character more, so that the search had found it first
        have hlength := congrArg List.length hfits
        simp only [List.length_drop, List.length_append, List.length_singleton] at hlength
        exact hlast id'.length (by omega) (by simp) (by simpa using hslash') (Or.inl (by simp))

/-! ## The language -/

/-- A text is accepted exactly if it starts with a slash and holds the placeholder once. A path is
matched exactly if it is the path of an identifier, not empty and without a slash, or such a path
with a line end behind it, and the first reading counts if there are both; it is the one that a
search from the longest identifier down finds. -/
theorem accepts_and_captures (text : String) :
    ((parse text).isOk = true ↔
      text.toList.head? = some '/' ∧ ∃! t : PathTemplate, text.toList = t.written) ∧
    ∀ t, parse text = .ok t → text.toList = t.written ∧ ∀ path : List Char,
      ((t.match? path).isSome = true ↔
        ∃ id, (id ≠ [] ∧ '/' ∉ id) ∧ (path = t.path id ∨ path = t.path id ++ ['\n'])) ∧
      (∀ id, t.match? path = some id ↔ t.Captures path id) ∧
      t.match? path = t.search? path := by
  refine ⟨?_, fun t ht => ⟨(parse_eq_ok.1 ht).2.1, fun path =>
    ⟨isSome_match?, fun id => match?_eq_some, match?_eq_search? t path⟩⟩⟩
  constructor
  · intro hok
    cases hparse : parse text with
    | error e =>
      rw [hparse] at hok
      cases hok
    | ok t =>
      obtain ⟨hslash, htext, honly⟩ := parse_eq_ok.1 hparse
      exact ⟨hslash, t, htext, honly⟩
  · rintro ⟨hslash, t, htext, honly⟩
    rw [parse_eq_ok.2 ⟨hslash, htext, honly⟩]
    rfl

/-- A path that ends in a line end: it belongs to the identifier where nothing else has to stand
behind that. -/
theorem captures_line_end :
    let t : PathTemplate := ⟨"/auth/".toList, []⟩
    parse "/auth/\x7bregistration_id\x7d" = .ok t ∧
      t.match? "/auth/acme\n".toList = some "acme\n".toList ∧
      t.Captures "/auth/acme\n".toList "acme\n".toList := by
  intro t
  have ht : parse "/auth/\x7bregistration_id\x7d" = .ok t := toOption_eq_some.1 (by decide +kernel)
  obtain ⟨-, hcaptures⟩ := accepts_and_captures "/auth/\x7bregistration_id\x7d"
  obtain ⟨-, hpath⟩ := hcaptures t ht
  obtain ⟨-, hmatch, -⟩ := hpath "/auth/acme\n".toList
  have hfound : t.match? "/auth/acme\n".toList = some "acme\n".toList := by decide +kernel
  exact ⟨ht, hfound, (hmatch _).1 hfound⟩

end LoginCallback.PathTemplate
