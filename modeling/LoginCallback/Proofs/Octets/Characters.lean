import LoginCallback.Octets.Base64
import LoginCallback.Octets.Form
import LoginCallback.Proofs.Octets.Utf8
import LoginCallback.Text.Blank

/-!
# The characters of encoded texts

Form encoding and base 64 write printable characters of ASCII only. An encoded text holds neither
the sign that separates the fields of a form nor the one that follows a name, and it is empty only
if the text is. A text of printable characters is one word.
-/

namespace LoginCallback

open LoginCallback.Text (isBlank)

/-- A statement about the characters of a list is decided for these, one after the other, and not
for all characters. -/
instance (priority := 1100) Text.decidableForallMem (p : Char → Prop) [DecidablePred p]
    (cs : List Char) : Decidable (∀ c ∈ cs, p c) := List.decidableBAll p cs

theorem Text.isBlank_of_printable {c : Char} (h : 33 ≤ c.toNat ∧ c.toNat ≤ 126) :
    isBlank c = false := by
  unfold isBlank
  have hlow : ¬ (9 ≤ c.toNat ∧ c.toNat ≤ 13) := by omega
  have hhigh : ¬ (28 ≤ c.toNat ∧ c.toNat ≤ 32) := by omega
  have hspace : ¬ (0x2000 ≤ c.toNat ∧ c.toNat ≤ 0x200A) := by omega
  simp only [hlow, hhigh, hspace, decide_false, Bool.false_or, Bool.or_false]
  simp only [Bool.or_eq_false_iff, beq_eq_false_iff_ne]
  omega

/-- A text without blanks is one word. -/
theorem Text.words_of_notBlank {cs : List Char} (hne : cs ≠ [])
    (h : ∀ c ∈ cs, isBlank c = false) : Text.words cs = [cs] := by
  induction cs with
  | nil => exact absurd rfl hne
  | cons c cs ih =>
    rw [List.forall_mem_cons] at h
    cases cs with
    | nil => simp [Text.words, h.1]
    | cons d ds =>
      have hd := h.2 d (List.mem_cons_self ..)
      rw [Text.words, ih (by simp) h.2]
      simp [h.1, hd]

namespace Octets

theorem toNat_of_isAlphanum {c : Char} (h : c.isAlphanum = true) :
    48 ≤ c.toNat ∧ c.toNat ≤ 122 ∧ c.toNat ≠ 61 := by
  have hrange : ∀ a b : Char, a.val ≤ c.val → c.val ≤ b.val →
      a.toNat ≤ c.toNat ∧ c.toNat ≤ b.toNat :=
    fun a b ha hb => ⟨UInt32.le_iff_toNat_le.1 ha, UInt32.le_iff_toNat_le.1 hb⟩
  have hdigit : '0'.toNat = 48 ∧ '9'.toNat = 57 := by decide
  have hcapital : 'A'.toNat = 65 ∧ 'Z'.toNat = 90 := by decide
  have hsmall : 'a'.toNat = 97 ∧ 'z'.toNat = 122 := by decide
  unfold Char.isAlphanum Char.isAlpha Char.isUpper Char.isLower Char.isDigit at h
  simp only [Bool.or_eq_true, decide_eq_true_eq, Bool.and_eq_true] at h
  rcases h with (h | h) | h
  all_goals
    have hbounds := hrange _ _ h.1 h.2
    omega

theorem mem_encodeFormChar {c x : Char} (h : x ∈ encodeFormChar c) :
    isUnreserved x = true ∨ x = '+' ∨ x = '%' := by
  have hhex : ∀ n < 16, isUnreserved (upperHex n) = true := by decide
  unfold encodeFormChar at h
  split at h
  · rename_i hunreserved
    obtain rfl := List.mem_singleton.1 h
    exact Or.inl hunreserved
  · split at h
    · exact Or.inr (Or.inl (List.mem_singleton.1 h))
    · obtain ⟨n, hn, hx⟩ := List.mem_flatMap.1 h
      have hoctet := lt_of_mem_ofChar hn
      unfold percent at hx
      simp only [List.mem_cons, List.not_mem_nil, or_false] at hx
      rcases hx with rfl | rfl | rfl
      · exact Or.inr (Or.inr rfl)
      · exact Or.inl (hhex (n / 16) (by omega))
      · exact Or.inl (hhex (n % 16) (by omega))

theorem mem_encodeFormText {cs : List Char} {x : Char} (h : x ∈ encodeFormText cs) :
    isUnreserved x = true ∨ x = '+' ∨ x = '%' := by
  obtain ⟨c, -, hx⟩ := List.mem_flatMap.1 h
  exact mem_encodeFormChar hx

/-- The characters of encoded texts neither end a value nor start one. -/
theorem toNat_of_mem_encodeFormText {cs : List Char} {x : Char} (h : x ∈ encodeFormText cs) :
    33 ≤ x.toNat ∧ x.toNat ≤ 126 ∧ x.toNat ≠ 38 ∧ x.toNat ≠ 61 := by
  rcases mem_encodeFormText h with hunreserved | rfl | rfl
  · unfold isUnreserved at hunreserved
    simp only [Bool.or_eq_true, beq_iff_eq] at hunreserved
    rcases hunreserved with (((halphanum | rfl) | rfl) | rfl) | rfl
    · have hbounds := toNat_of_isAlphanum halphanum
      omega
    all_goals decide
  · decide
  · decide

theorem encodeFormText_ne_nil {cs : List Char} (h : cs ≠ []) : encodeFormText cs ≠ [] := by
  obtain ⟨c, cs, rfl⟩ := List.exists_cons_of_ne_nil h
  have hchar : encodeFormChar c ≠ [] := by
    unfold encodeFormChar
    split
    · simp
    · split
      · simp
      · obtain ⟨o, os, hos⟩ := List.exists_cons_of_ne_nil (ofChar_ne_nil c)
        rw [hos, List.flatMap_cons]
        exact List.append_ne_nil_of_left_ne_nil (by simp [percent]) _
  unfold encodeFormText
  rw [List.flatMap_cons]
  exact List.append_ne_nil_of_left_ne_nil hchar _

theorem sixBits_of_le {n : Nat} (h : 63 ≤ n) : sixBits n = '/' := by
  unfold sixBits
  rw [if_neg (by omega), if_neg (by omega), if_neg (by omega), if_neg (by simp; omega)]

theorem toNat_sixBits (n : Nat) : 43 ≤ (sixBits n).toNat ∧ (sixBits n).toNat ≤ 122 := by
  rcases Nat.lt_or_ge n 63 with h | h
  · revert n
    decide
  · rw [sixBits_of_le h]
    decide

theorem toNat_of_mem_toBase64 {ns : List Nat} {x : Char} (h : x ∈ toBase64 ns) :
    43 ≤ x.toNat ∧ x.toNat ≤ 122 := by
  have hpad : 43 ≤ '='.toNat ∧ '='.toNat ≤ 122 := by decide
  fun_induction toBase64 ns with
  | case1 => cases h
  | case2 a =>
    simp only [List.mem_cons, List.not_mem_nil, or_false] at h
    rcases h with rfl | rfl | rfl | rfl
    · exact toNat_sixBits _
    · exact toNat_sixBits _
    · exact hpad
    · exact hpad
  | case3 a b =>
    simp only [List.mem_cons, List.not_mem_nil, or_false] at h
    rcases h with rfl | rfl | rfl | rfl
    · exact toNat_sixBits _
    · exact toNat_sixBits _
    · exact toNat_sixBits _
    · exact hpad
  | case4 a b c rest ih =>
    simp only [List.mem_cons] at h
    rcases h with rfl | rfl | rfl | rfl | h
    · exact toNat_sixBits _
    · exact toNat_sixBits _
    · exact toNat_sixBits _
    · exact toNat_sixBits _
    · exact ih h

theorem toBase64_ne_nil {ns : List Nat} (h : ns ≠ []) : toBase64 ns ≠ [] := by
  fun_cases toBase64 ns with
  | case1 => exact absurd rfl h
  | case2 | case3 | case4 => simp

theorem ofText_ne_nil {s : String} (h : s ≠ "") : ofText s ≠ [] := by
  have hloop : ∀ (n : Nat) (bs : ByteArray) (i : Nat) (r : List UInt8), bs.size - i = n → r ≠ [] →
      ByteArray.toList.loop bs i r ≠ [] := by
    intro n
    induction n with
    | zero =>
      intro bs i r hi hr
      unfold ByteArray.toList.loop
      rw [if_neg (by omega)]
      simpa using hr
    | succ n ih =>
      intro bs i r hi hr
      unfold ByteArray.toList.loop
      rw [if_pos (by omega)]
      exact ih bs (i + 1) _ (by omega) (List.cons_ne_nil _ _)
  have hsize : 0 < s.toUTF8.size := by
    have hbytes := mt String.utf8ByteSize_eq_zero_iff.1 h
    show 0 < s.toByteArray.size
    rw [String.size_toByteArray]
    omega
  have hoctets : s.toUTF8.toList ≠ [] := by
    unfold ByteArray.toList ByteArray.toList.loop
    rw [if_pos hsize]
    exact hloop _ _ _ _ rfl (List.cons_ne_nil _ _)
  unfold ofText
  simpa using hoctets

end Octets

end LoginCallback
