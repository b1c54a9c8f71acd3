import LoginCallback.Proofs.Octets.Characters

/-!
# Reading base 64

A strict reader: groups of four characters, with the filling in the last group only. It reads what
was written (`ofBase64?_toBase64`).
-/

namespace LoginCallback.Octets

/-- The six bits that a character stands for. -/
def sixBitsOf? (c : Char) : Option Nat :=
  if c.isUpper then some (c.toNat - 65)
  else if c.isLower then some (c.toNat - 71)
  else if c.isDigit then some (c.toNat + 4)
  else if c == '+' then some 62
  else if c == '/' then some 63
  else none

/-- The octets of two characters that are filled up with two signs. -/
def one? (a b : Char) : Option (List Nat) := do
  let m ← sixBitsOf? a
  let n ← sixBitsOf? b
  return [m * 4 + n / 16]

/-- The octets of three characters that are filled up with one sign. -/
def two? (a b c : Char) : Option (List Nat) := do
  let m ← sixBitsOf? a
  let n ← sixBitsOf? b
  let k ← sixBitsOf? c
  return [m * 4 + n / 16, n % 16 * 16 + k / 4]

/-- The octets of four characters. -/
def three? (a b c d : Char) : Option (List Nat) := do
  let m ← sixBitsOf? a
  let n ← sixBitsOf? b
  let k ← sixBitsOf? c
  let l ← sixBitsOf? d
  return [m * 4 + n / 16, n % 16 * 16 + k / 4, k % 4 * 64 + l]

/-- The octets that a text in base 64 writes. -/
def ofBase64? : List Char → Option (List Nat)
  | [] => some []
  | a :: b :: c :: d :: rest =>
    if rest.isEmpty && d == '=' then if c == '=' then one? a b else two? a b c
    else do return (← three? a b c d) ++ (← ofBase64? rest)
  | _ => none

theorem sixBitsOf?_sixBits {n : Nat} (h : n < 64) : sixBitsOf? (sixBits n) = some n := by
  have hall : ∀ n < 64, sixBitsOf? (sixBits n) = some n := by decide
  exact hall n h

theorem sixBits_ne_filling (n : Nat) : sixBits n ≠ '=' := by
  rcases Nat.lt_or_ge n 63 with h | h
  · revert n
    decide
  · rw [sixBits_of_le h]
    decide

/-- What was written is read again. -/
theorem ofBase64?_toBase64 {os : List Nat} (h : ∀ o ∈ os, o < 256) :
    ofBase64? (toBase64 os) = some os := by
  fun_induction toBase64 os with
  | case1 => rfl
  | case2 a =>
    have ha : a < 256 := h a (by simp)
    have hvalue : a / 4 * 4 + a % 4 * 16 / 16 = a := by omega
    simp only [ofBase64?, List.isEmpty_nil, beq_self_eq_true, Bool.and_self, if_true]
    rw [one?, sixBitsOf?_sixBits (by omega), sixBitsOf?_sixBits (by omega)]
    show some [a / 4 * 4 + a % 4 * 16 / 16] = _
    rw [hvalue]
  | case3 a b =>
    have ha : a < 256 := h a (by simp)
    have hb : b < 256 := h b (by simp)
    have hfirst : a / 4 * 4 + (a % 4 * 16 + b / 16) / 16 = a := by omega
    have hsecond : (a % 4 * 16 + b / 16) % 16 * 16 + b % 16 * 4 / 4 = b := by omega
    have hthird : (sixBits (b % 16 * 4) == '=') = false := by simpa using sixBits_ne_filling _
    simp only [ofBase64?, List.isEmpty_nil, beq_self_eq_true, Bool.and_self, if_true, hthird,
      Bool.false_eq_true, if_false]
    rw [two?, sixBitsOf?_sixBits (by omega), sixBitsOf?_sixBits (by omega),
      sixBitsOf?_sixBits (by omega)]
    show some [a / 4 * 4 + (a % 4 * 16 + b / 16) / 16,
      (a % 4 * 16 + b / 16) % 16 * 16 + b % 16 * 4 / 4] = _
    rw [hfirst, hsecond]
  | case4 a b c rest ih =>
    have ha : a < 256 := h a (by simp)
    have hb : b < 256 := h b (by simp)
    have hc : c < 256 := h c (by simp)
    have hrest : ∀ o ∈ rest, o < 256 := fun o ho => h o (by simp [ho])
    have hfirst : a / 4 * 4 + (a % 4 * 16 + b / 16) / 16 = a := by omega
    have hsecond : (a % 4 * 16 + b / 16) % 16 * 16 + (b % 16 * 4 + c / 64) / 4 = b := by omega
    have hthird : (b % 16 * 4 + c / 64) % 4 * 64 + c % 64 = c := by omega
    have hfourth : (sixBits (c % 64) == '=') = false := by simpa using sixBits_ne_filling _
    simp only [ofBase64?, hfourth, Bool.and_false, Bool.false_eq_true, if_false]
    rw [three?, sixBitsOf?_sixBits (by omega), sixBitsOf?_sixBits (by omega),
      sixBitsOf?_sixBits (by omega), sixBitsOf?_sixBits (by omega), ih hrest]
    show some ([a / 4 * 4 + (a % 4 * 16 + b / 16) / 16,
      (a % 4 * 16 + b / 16) % 16 * 16 + (b % 16 * 4 + c / 64) / 4,
      (b % 16 * 4 + c / 64) % 4 * 64 + c % 64] ++ rest) = _
    rw [hfirst, hsecond, hthird]
    rfl

theorem lt_of_mem_ofText {s : String} {o : Nat} (h : o ∈ ofText s) : o < 256 := by
  obtain ⟨u, -, rfl⟩ := List.mem_map.1 h
  exact u.toNat_lt

end LoginCallback.Octets
