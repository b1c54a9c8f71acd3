import LoginCallback.Json.Writer
import LoginCallback.Proofs.Octets.Characters

/-!
# The texts of JSON values

A written string holds printable characters of ASCII only, and no quote but those of the value,
which are escaped. A field of an object stands between what is written before it and behind it
(`write_field`).
-/

namespace LoginCallback.Json

open LoginCallback.Text.Quoted (hexDigit hexDigits)

/-! ## Strings -/

/-- A character that escapes are written with, the quote apart. -/
def IsEscape (x : Char) : Prop :=
  x = '\\' ∨ (48 ≤ x.toNat ∧ x.toNat ≤ 57) ∨ (97 ≤ x.toNat ∧ x.toNat ≤ 117)

theorem isEscape_of_mem_hexDigits {width n : Nat} {x : Char} (h : x ∈ hexDigits width n) :
    IsEscape x := by
  have hdigit : ∀ n < 16, (48 ≤ (hexDigit n).toNat ∧ (hexDigit n).toNat ≤ 57) ∨
      (97 ≤ (hexDigit n).toNat ∧ (hexDigit n).toNat ≤ 117) := by decide
  induction width generalizing n with
  | zero => cases h
  | succ width ih =>
    rcases List.mem_append.1 h with h | h
    · exact ih h
    · rw [List.mem_singleton.1 h]
      exact Or.inr (hdigit _ (Nat.mod_lt _ (by decide)))

theorem isEscape_of_mem_escapeUnit {n : Nat} {x : Char} (h : x ∈ escapeUnit n) : IsEscape x := by
  rcases List.mem_cons.1 h with rfl | h
  · exact Or.inl rfl
  · rcases List.mem_cons.1 h with rfl | h
    · exact Or.inr (Or.inr (by decide))
    · exact isEscape_of_mem_hexDigits h

/-- What is written of a character is the character itself, if it is printable, or an escape. -/
theorem mem_writeChar_cases {c x : Char} (h : x ∈ writeChar c) :
    (x = c ∧ 32 ≤ x.toNat ∧ x.toNat ≤ 126) ∨ IsEscape x := by
  have hpair : ∀ y ∈ ['n', 'r', 't', 'f', 'b'], ∀ x ∈ ['\\', y], IsEscape x := by
    unfold IsEscape
    decide
  unfold writeChar at h
  dsimp only at h
  split at h
  · rename_i hquote
    rcases List.mem_cons.1 h with rfl | h
    · exact Or.inr (Or.inl rfl)
    · obtain rfl := List.mem_singleton.1 h
      exact Or.inl ⟨(beq_iff_eq.1 hquote).symm, by decide⟩
  split at h
  · have hbackslash : x = '\\' := by simpa using h
    exact Or.inr (Or.inl hbackslash)
  split at h
  · exact Or.inr (hpair 'n' (by decide) x h)
  split at h
  · exact Or.inr (hpair 'r' (by decide) x h)
  split at h
  · exact Or.inr (hpair 't' (by decide) x h)
  split at h
  · exact Or.inr (hpair 'f' (by decide) x h)
  split at h
  · exact Or.inr (hpair 'b' (by decide) x h)
  split at h
  · rename_i hplain
    obtain rfl := List.mem_singleton.1 h
    have hbounds := of_decide_eq_true hplain
    exact Or.inl ⟨rfl, by omega⟩
  split at h
  · exact Or.inr (isEscape_of_mem_escapeUnit h)
  · rcases List.mem_append.1 h with h | h
    · exact Or.inr (isEscape_of_mem_escapeUnit h)
    · exact Or.inr (isEscape_of_mem_escapeUnit h)

theorem writeChar_ne_nil (c : Char) : writeChar c ≠ [] := by
  unfold writeChar
  dsimp only
  repeat' split
  all_goals simp [escapeUnit]

/-- What stands between the quotes of a written string. -/
def writeBody (s : String) : List Char := s.toList.flatMap writeChar

theorem writeString_eq (s : String) : writeString s = '"' :: (writeBody s ++ ['"']) := rfl

variable {s : String}

theorem writeBody_ne_nil (h : s ≠ "") : writeBody s ≠ [] := by
  obtain ⟨c, cs, hs⟩ := List.exists_cons_of_ne_nil (mt String.toList_eq_nil_iff.1 h)
  unfold writeBody
  rw [hs, List.flatMap_cons]
  exact List.append_ne_nil_of_left_ne_nil (writeChar_ne_nil c) _

theorem toNat_of_mem_writeBody {x : Char} (h : x ∈ writeBody s) : 32 ≤ x.toNat ∧ x.toNat ≤ 126 := by
  obtain ⟨c, -, hx⟩ := List.mem_flatMap.1 h
  rcases mem_writeChar_cases hx with ⟨-, hbounds⟩ | rfl | hbounds | hbounds
  · exact hbounds
  · decide
  all_goals omega

/-- A sign that no escape is written with is written for itself only. -/
theorem notMem_writeBody {d : Char} (hd : d ∈ ['"', '=', ':']) (h : d ∉ s.toList) :
    d ∉ writeBody s := by
  have hescape : ∀ d ∈ ['"', '=', ':'], ¬ IsEscape d := by
    unfold IsEscape
    decide
  intro hmem
  obtain ⟨c, hc, hx⟩ := List.mem_flatMap.1 hmem
  rcases mem_writeChar_cases hx with ⟨rfl, -⟩ | hx
  · exact h hc
  · exact hescape d hd hx

/-! ## Objects -/

/-- What stands before a field, behind the brace. -/
def writeBefore : Entries → List Char
  | [] => []
  | (k, v) :: es => writeString (keyText k) ++ ':' :: ' ' :: (write v ++ ',' :: ' ' :: writeBefore es)

/-- What stands behind a field. -/
def writeBehind : Entries → List Char
  | [] => ['\x7d']
  | e :: es => ',' :: ' ' :: (writeFields (e :: es) ++ ['\x7d'])

theorem writeFields_field (before after : Entries) (k v : Value) :
    writeFields (before ++ (k, v) :: after) ++ ['\x7d'] =
      writeBefore before ++
        (writeString (keyText k) ++ ':' :: ' ' :: (write v ++ writeBehind after)) := by
  induction before with
  | nil => cases after <;> simp [writeFields, writeBefore, writeBehind]
  | cons e before ih =>
    obtain ⟨key, value⟩ := e
    obtain ⟨e', rest, hrest⟩ : ∃ e' rest, before ++ (k, v) :: after = e' :: rest := by
      cases before with
      | nil => exact ⟨_, _, rfl⟩
      | cons e' before => exact ⟨_, _, rfl⟩
    rw [List.cons_append, hrest, writeFields, writeBefore]
    rw [hrest] at ih
    simp [ih]

/-- An object around one of its fields. -/
theorem write_field (before after : Entries) (k v : Value) :
    write (.mapping (before ++ (k, v) :: after)) =
      '\x7b' :: writeBefore before ++
        (writeString (keyText k) ++ ':' :: ' ' :: (write v ++ writeBehind after)) := by
  rw [write, List.cons_append, writeFields_field, List.cons_append]

/-- What stands before a field ends with a separator, unless the field is the first. -/
theorem writeBefore_cases (es : Entries) :
    writeBefore es = [] ∨ ∃ u, writeBefore es = u ++ [',', ' '] := by
  induction es with
  | nil => exact Or.inl rfl
  | cons e es ih =>
    obtain ⟨k, v⟩ := e
    refine Or.inr ?_
    rcases ih with h | ⟨u, h⟩
    · exact ⟨writeString (keyText k) ++ ':' :: ' ' :: write v, by simp [writeBefore, h]⟩
    · exact ⟨writeString (keyText k) ++ ':' :: ' ' :: (write v ++ ',' :: ' ' :: u),
        by simp [writeBefore, h]⟩

end LoginCallback.Json
