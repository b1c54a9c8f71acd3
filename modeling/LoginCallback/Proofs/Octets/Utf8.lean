import LoginCallback.Octets.Lenient

/-!
# The UTF-8 form of a text can be read

Every text is read from its UTF-8 form, by the strict reader (`toUtf8?_flatMap_ofChar`) and by the
one that repairs faults, which finds none (`toTextEscaped_flatMap_ofChar`).
-/

namespace LoginCallback.Octets

theorem toNat_lt (c : Char) : c.toNat < 0x110000 := by
  rcases c.valid with h | h
  · exact Nat.lt_trans h (by decide)
  · exact h.2

theorem not_surrogate (c : Char) : ¬ (0xD800 ≤ c.toNat ∧ c.toNat < 0xE000) := by
  have hvalid : c.toNat < 0xD800 ∨ 0xDFFF < c.toNat ∧ c.toNat < 0x110000 := c.valid
  omega

theorem lt_of_mem_ofChar {c : Char} {o : Nat} (h : o ∈ ofChar c) : o < 256 := by
  have hc := toNat_lt c
  unfold ofChar at h
  dsimp only at h
  split at h
  · simp at h
    omega
  · split at h
    · simp at h
      omega
    · split at h <;> simp at h <;> omega

theorem ofChar_ne_nil (c : Char) : ofChar c ≠ [] := by
  unfold ofChar
  dsimp only
  split
  · simp
  · split
    · simp
    · split <;> simp

/-! ## The strict reader -/

section

variable {lenient : Bool} {a b c d : Nat} {rest : List Nat}

/-! The reader looks at up to four octets before it goes on, so that it is not unfolded one octet at
a time: there is a lemma for each length of a character. -/

theorem toUtf8?_one (ha : a < 0x80) :
    toUtf8? lenient (a :: rest) = (toUtf8? lenient rest).map (Char.ofNat a :: ·) := by
  delta toUtf8?
  exact if_pos ha

theorem toUtf8?_two (ha : 0xC2 ≤ a ∧ a < 0xE0) (hb : isContinuation b = true) :
    toUtf8? lenient (a :: b :: rest) =
      (toUtf8? lenient rest).map (Char.ofNat ((a - 0xC0) * 64 + (b - 0x80)) :: ·) := by
  delta toUtf8?
  refine (if_neg (by omega)).trans ((if_neg (by simp [hb])).trans ?_)
  exact if_pos ha

theorem toUtf8?_three {x : Char} (ha : 0xE0 ≤ a ∧ a < 0xF0) (hb : isContinuation b = true)
    (hc : isContinuation c = true)
    (hmin : 0x800 ≤ (a - 0xE0) * 4096 + (b - 0x80) * 64 + (c - 0x80))
    (hx : charOf? lenient ((a - 0xE0) * 4096 + (b - 0x80) * 64 + (c - 0x80)) = some x) :
    toUtf8? lenient (a :: b :: c :: rest) = (toUtf8? lenient rest).map (x :: ·) := by
  delta toUtf8?
  refine (if_neg (by omega)).trans ((if_neg (by simp [hb])).trans ((if_neg (by omega)).trans ?_))
  refine (if_neg (by simp [hc])).trans ((if_pos ha).trans ((if_neg (by omega)).trans ?_))
  simp only [hx]

theorem toUtf8?_four (ha : 0xF0 ≤ a ∧ a < 0xF5) (hb : isContinuation b = true)
    (hc : isContinuation c = true) (hd : isContinuation d = true)
    (hmin : 0x10000 ≤ (a - 0xF0) * 262144 + (b - 0x80) * 4096 + (c - 0x80) * 64 + (d - 0x80))
    (hmax : (a - 0xF0) * 262144 + (b - 0x80) * 4096 + (c - 0x80) * 64 + (d - 0x80) < 0x110000) :
    toUtf8? lenient (a :: b :: c :: d :: rest) = (toUtf8? lenient rest).map (Char.ofNat
      ((a - 0xF0) * 262144 + (b - 0x80) * 4096 + (c - 0x80) * 64 + (d - 0x80)) :: ·) := by
  delta toUtf8?
  refine (if_neg (by omega)).trans ((if_neg (by simp [hb])).trans ((if_neg (by omega)).trans ?_))
  refine (if_neg (by simp [hc])).trans ((if_neg (by omega)).trans ?_)
  refine (if_neg (by simp [hd]; omega)).trans ?_
  exact if_neg (by simp; omega)

end

theorem isContinuation_add (k : Nat) : isContinuation (0x80 + k % 64) = true := by
  unfold isContinuation
  exact decide_eq_true (by omega)

/-- The strict reader takes one character after the other. -/
theorem toUtf8?_ofChar_append (lenient : Bool) (c : Char) (rest : List Nat) :
    toUtf8? lenient (ofChar c ++ rest) = (toUtf8? lenient rest).map (c :: ·) := by
  have hlt := toNat_lt c
  have hread : ∀ n, n = c.toNat → Char.ofNat n = c := by
    rintro n rfl
    exact Char.ofNat_toNat c
  unfold ofChar
  dsimp only
  split
  · rw [List.singleton_append, toUtf8?_one ‹_›, hread _ rfl]
  · split
    · rw [List.cons_append, List.singleton_append,
        toUtf8?_two (by omega) (isContinuation_add _), hread _ (by omega)]
    · split
      · have hvalue : (0xE0 + c.toNat / 4096 - 0xE0) * 4096 +
            (0x80 + c.toNat / 64 % 64 - 0x80) * 64 + (0x80 + c.toNat % 64 - 0x80) = c.toNat := by
          omega
        have hchar : charOf? lenient c.toNat = some c := by
          unfold charOf?
          rw [isSurrogate, decide_eq_false (not_surrogate c), if_neg (by simp), if_pos hlt,
            hread _ rfl]
        simp only [List.cons_append, List.nil_append]
        exact toUtf8?_three (by omega) (isContinuation_add _) (isContinuation_add _) (by omega)
          (by rw [hvalue, hchar])
      · simp only [List.cons_append, List.nil_append]
        rw [toUtf8?_four (by omega) (isContinuation_add _) (isContinuation_add _)
          (isContinuation_add _) (by omega) (by omega), hread _ (by omega)]

theorem toUtf8?_flatMap_ofChar (lenient : Bool) (cs : List Char) :
    toUtf8? lenient (cs.flatMap ofChar) = some cs := by
  induction cs with
  | nil => rfl
  | cons c cs ih => rw [List.flatMap_cons, toUtf8?_ofChar_append, ih, Option.map_some]

/-! ## The repairing reader -/

/-- Where a first octet announces as many as follow, and the next one is in its range, exactly these
belong to it. -/
theorem continuation_eq {lead low high b : Nat} (more rest : List Nat)
    (hlead : following lead = (more.length + 1, low, high)) (hlow : low ≤ b) (hhigh : b < high)
    (hmore : ∀ x ∈ more, isContinuation x = true) :
    continuation lead (b :: (more ++ rest)) = b :: more := by
  have htake : (more ++ rest).take more.length = more := List.take_left
  have hwhile : more.takeWhile isContinuation = more := by
    rw [← List.append_nil more, List.takeWhile_append_of_pos hmore]
    rfl
  unfold continuation
  rw [hlead]
  have hin : ¬ ((more.length + 1 == 0 || decide (b < low) || decide (high ≤ b)) = true) := by
    simp only [Bool.or_eq_true, beq_iff_eq, decide_eq_true_eq]
    omega
  simp only [if_neg hin, Nat.add_sub_cancel, htake, hwhile]

/-- A character beyond ASCII is a first octet and those that continue it. -/
theorem exists_lead {c : Char} (h : 0x80 ≤ c.toNat) :
    ∃ lead more, ofChar c = lead :: more ∧ 0x80 ≤ lead ∧ (following lead).1 ≠ 0 ∧
      ∀ rest, continuation lead (more ++ rest) = more := by
  have hlt := toNat_lt c
  have hvalid := not_surrogate c
  unfold ofChar
  dsimp only
  rw [if_neg (by omega)]
  split
  · have hlead : following (0xC0 + c.toNat / 64) = (1, 0x80, 0xC0) := by
      unfold following
      rw [if_neg (by omega), if_pos (by omega)]
    refine ⟨_, _, rfl, by omega, by rw [hlead]; simp, fun rest => ?_⟩
    exact continuation_eq [] rest hlead (by omega) (by omega) (by simp)
  · split
    · have hlead : ∃ low high, following (0xE0 + c.toNat / 4096) = (2, low, high) ∧
          low ≤ 0x80 + c.toNat / 64 % 64 ∧ 0x80 + c.toNat / 64 % 64 < high := by
        unfold following
        rw [if_neg (by omega), if_neg (by omega)]
        simp only [beq_iff_eq]
        split
        · exact ⟨_, _, rfl, by omega, by omega⟩
        · split
          · exact ⟨_, _, rfl, by omega, by omega⟩
          · rw [if_pos (by omega)]
            exact ⟨_, _, rfl, by omega, by omega⟩
      obtain ⟨low, high, hlead, hlow, hhigh⟩ := hlead
      refine ⟨_, _, rfl, by omega, by rw [hlead]; simp, fun rest => ?_⟩
      exact continuation_eq [_] rest hlead hlow hhigh (by simp [isContinuation_add])
    · have hlead : ∃ low high, following (0xF0 + c.toNat / 262144) = (3, low, high) ∧
          low ≤ 0x80 + c.toNat / 4096 % 64 ∧ 0x80 + c.toNat / 4096 % 64 < high := by
        unfold following
        rw [if_neg (by omega), if_neg (by omega), if_neg (by simp; omega), if_neg (by simp; omega),
          if_neg (by omega)]
        simp only [beq_iff_eq]
        split
        · exact ⟨_, _, rfl, by omega, by omega⟩
        · split
          · exact ⟨_, _, rfl, by omega, by omega⟩
          · rw [if_pos (by omega)]
            exact ⟨_, _, rfl, by omega, by omega⟩
      obtain ⟨low, high, hlead, hlow, hhigh⟩ := hlead
      refine ⟨_, _, rfl, by omega, by rw [hlead]; simp, fun rest => ?_⟩
      exact continuation_eq [_, _] rest hlead hlow hhigh (by simp [isContinuation_add])

/-- The repairing reader takes one character after the other. -/
theorem toTextWith_ofChar_append (repair : List Nat → List Char) (fuel : Nat) (c : Char)
    (rest : List Nat) :
    toTextWith repair (fuel + 1) (ofChar c ++ rest) = c :: toTextWith repair fuel rest := by
  by_cases h : c.toNat < 0x80
  · have hchar : ofChar c = [c.toNat] := by
      unfold ofChar
      exact if_pos h
    rw [hchar, List.singleton_append, toTextWith, if_pos h, Char.ofNat_toNat]
  · obtain ⟨lead, more, hchar, hlead, hfollowing, hmore⟩ := exists_lead (Nat.not_lt.1 h)
    have hstrict : toUtf8? false (lead :: more) = some [c] := by
      rw [← hchar, ← List.append_nil (ofChar c), toUtf8?_ofChar_append]
      rfl
    rw [hchar, List.cons_append, toTextWith, if_neg (by omega)]
    simp only [hmore rest, hstrict, List.drop_left, beq_iff_eq, hfollowing, if_false,
      List.singleton_append]

theorem toTextWith_flatMap_ofChar (repair : List Nat → List Char) (cs : List Char) {fuel : Nat}
    (h : (cs.flatMap ofChar).length ≤ fuel) : toTextWith repair fuel (cs.flatMap ofChar) = cs := by
  induction cs generalizing fuel with
  | nil => cases fuel <;> rfl
  | cons c cs ih =>
    have hlength : 0 < (ofChar c).length := List.length_pos_iff.2 (ofChar_ne_nil c)
    rw [List.flatMap_cons, List.length_append] at h
    obtain ⟨fuel, rfl⟩ : ∃ n, fuel = n + 1 := ⟨fuel - 1, by omega⟩
    rw [List.flatMap_cons, toTextWith_ofChar_append, ih (by omega)]

theorem toTextEscaped_flatMap_ofChar (cs : List Char) : toTextEscaped (cs.flatMap ofChar) = cs :=
  toTextWith_flatMap_ofChar _ cs (Nat.le_refl _)

end LoginCallback.Octets
