import LoginCallback.Text.Case

/-!
# The method in capitals

The capital form of a text can come from characters of any script: `ſ` and `s` have the same one. No
character beyond ASCII takes part in `GET`, however (`exists_notMem_upperChar`), so that the texts
which are `GET` in capitals are those which are `get` in the small letters of ASCII
(`upper_eq_get`).
-/

namespace LoginCallback.Text

/-- The code points of the letters of `GET`. -/
def getCodes : List Nat := [69, 71, 84]

theorem getCodes_pos : ∀ k ∈ getCodes, 0 < k := by decide

/-- No run of characters beyond ASCII is mapped to a letter of `GET`. -/
theorem upperRuns_apart : ∀ r ∈ upperRuns.toList, ∀ k ∈ getCodes,
    (k : Int) - r.2.2.2 < 128 ∨ (k : Int) - r.2.2.2 < r.1 ∨ (r.2.1 : Int) < k - r.2.2.2 := by
  decide +kernel

theorem mapRuns_notMem {n : Nat} (hn : 128 ≤ n) : mapRuns upperRuns n ∉ getCodes := by
  have hself : n ∉ getCodes := by
    intro h
    simp only [getCodes, List.mem_cons, List.not_mem_nil, or_false] at h
    omega
  unfold mapRuns
  split
  · rename_i r hr
    split
    · intro h
      have hrange := Array.find?_some hr
      simp only [Bool.and_eq_true, decide_eq_true_eq] at hrange
      have hapart := upperRuns_apart r (Array.mem_toList_iff.2 (Array.mem_of_find?_eq_some hr)) _ h
      have hpos := getCodes_pos _ h
      omega
    · exact hself
  · exact hself

theorem upperExpansions_apart :
    ∀ e ∈ upperExpansions, ∃ n ∈ e.2, Char.ofNat n ∉ getCodes.map Char.ofNat := by
  decide +kernel

theorem toNat_ofNat {n : Nat} (h : (Char.ofNat n).toNat ≠ 0) : (Char.ofNat n).toNat = n := by
  unfold Char.ofNat at h ⊢
  by_cases hn : n.isValidChar
  · rw [dif_pos hn]
    rfl
  · rw [dif_neg hn] at h
    exact absurd rfl h

/-- The capital form of a character beyond ASCII holds a character that does not stand in `GET`. -/
theorem exists_notMem_upperChar {c : Char} (h : 128 ≤ c.toNat) :
    ∃ x ∈ upperChar c, x ∉ ['G', 'E', 'T'] := by
  have hascii : ¬ c.val < 128 := by
    rw [UInt32.lt_iff_toNat_lt]
    exact Nat.not_lt.2 h
  have hletters : ∀ x : Char, x ∈ ['G', 'E', 'T'] → x ∈ getCodes.map Char.ofNat := by
    intro x hx
    simp only [List.mem_cons, List.not_mem_nil, or_false] at hx
    rcases hx with rfl | rfl | rfl <;> decide
  unfold upperChar
  rw [if_neg hascii]
  split
  · rename_i ns hns
    obtain ⟨l₁, l₂, hl, -⟩ := List.lookup_eq_some_iff.1 hns
    obtain ⟨n, hn, hapart⟩ := upperExpansions_apart (c.toNat, ns) (by rw [hl]; simp)
    exact ⟨Char.ofNat n, List.mem_map_of_mem hn, fun hx => hapart (hletters _ hx)⟩
  · refine ⟨_, List.mem_singleton_self _, fun hx => ?_⟩
    have hcode : (Char.ofNat (mapRuns upperRuns c.toNat)).toNat ∈ getCodes := by
      simp only [List.mem_cons, List.not_mem_nil, or_false] at hx
      rcases hx with hx | hx | hx <;> rw [hx] <;> decide
    have hne : (Char.ofNat (mapRuns upperRuns c.toNat)).toNat ≠ 0 := by
      intro hzero
      rw [hzero] at hcode
      simp [getCodes] at hcode
    rw [toNat_ofNat hne] at hcode
    exact mapRuns_notMem h hcode

theorem toNat_lt_of_toLower {c : Char} (h : c.toLower.toNat < 128) : c.toNat < 128 := by
  unfold Char.toLower at h
  split at h
  · rename_i hcapital
    have hle : c.toNat ≤ 90 := UInt32.le_iff_toNat_le.1 hcapital.2
    omega
  · exact h

/-- A letter of ASCII that has a letter of `GET` as its capital has the same small letter. -/
theorem toUpper_eq_iff {k c : Char} (hk : k ∈ ['G', 'E', 'T']) (hc : c.toNat < 128) :
    c.toUpper = k ↔ c.toLower = k.toLower := by
  have hall : ∀ n < 128, ∀ k ∈ ['G', 'E', 'T'],
      (Char.ofNat n).toUpper = k ↔ (Char.ofNat n).toLower = k.toLower := by decide +kernel
  have h := hall c.toNat hc k hk
  rwa [Char.ofNat_toNat] at h

theorem flatMap_upperChar {cs : List Char} (h : ∀ c ∈ cs, c.toNat < 128) :
    cs.flatMap upperChar = cs.map Char.toUpper := by
  induction cs with
  | nil => rfl
  | cons c cs ih =>
    rw [List.forall_mem_cons] at h
    have hascii : c.val < 128 := UInt32.lt_iff_toNat_lt.2 h.1
    rw [List.flatMap_cons, List.map_cons, ih h.2, upperChar, if_pos hascii, List.singleton_append]

/-- Capitals of ASCII letters, letter by letter. -/
theorem map_toUpper_eq_iff {ks cs : List Char} (hks : ∀ k ∈ ks, k ∈ ['G', 'E', 'T'])
    (h : ∀ c ∈ cs, c.toNat < 128) :
    cs.map Char.toUpper = ks ↔ cs.map Char.toLower = ks.map Char.toLower := by
  induction cs generalizing ks with
  | nil => cases ks <;> simp
  | cons c cs ih =>
    cases ks with
    | nil => simp
    | cons k ks =>
      rw [List.forall_mem_cons] at hks h
      rw [List.map_cons, List.map_cons, List.map_cons, List.cons.injEq, List.cons.injEq,
        toUpper_eq_iff hks.1 h.1, ih hks.2 h.2]

theorem upper_eq_get {s : String} : upper s = "GET" ↔ s.toLower = "get" := by
  have hupper : upper s = "GET" ↔ s.toList.flatMap upperChar = ['G', 'E', 'T'] := by
    rw [← String.toList_inj, upper, String.toList_ofList]
    rfl
  have hlower : s.toLower = "get" ↔ s.toList.map Char.toLower = ['g', 'e', 't'] := by
    show s.map Char.toLower = "get" ↔ _
    rw [← String.toList_inj, String.toList_map]
    rfl
  rw [hupper, hlower]
  constructor
  · intro h
    have hascii : ∀ c ∈ s.toList, c.toNat < 128 := by
      intro c hc
      rcases Nat.lt_or_ge c.toNat 128 with hlt | hge
      · exact hlt
      · obtain ⟨x, hx, hnot⟩ := exists_notMem_upperChar hge
        exact absurd (h ▸ List.mem_flatMap_of_mem hc hx) hnot
    rw [flatMap_upperChar hascii] at h
    exact (map_toUpper_eq_iff (by simp) hascii).1 h
  · intro h
    have hascii : ∀ c ∈ s.toList, c.toNat < 128 := by
      intro c hc
      have hmem : c.toLower ∈ ['g', 'e', 't'] := h ▸ List.mem_map_of_mem hc
      refine toNat_lt_of_toLower ?_
      simp only [List.mem_cons, List.not_mem_nil, or_false] at hmem
      rcases hmem with h | h | h <;> rw [h] <;> decide
    rw [flatMap_upperChar hascii]
    exact (map_toUpper_eq_iff (by simp) hascii).2 h

end LoginCallback.Text
