import LoginCallback.Proofs.Exchange.Replacement
import Mathlib.Data.List.Forall2

/-!
# Names in any letter case

A key spells a name if its characters are those of the name, one by one, in any case (`Spells`).
What the rules of redaction read at the front of a text is such a key (`afterName?_eq_some`). Blanks
are no case of a printable character, so names end before them (`isCaseOf_of_isBlank`), and among
the characters of ASCII the case is that of `Char.toLower` (`spells_iff_of_ascii`).
-/

namespace LoginCallback.Redaction

open LoginCallback.Text (isBlank)

/-! ## Cases of characters -/

theorem toLower_of_lt {c : Char} (h : 90 < c.toNat) : c.toLower = c := by
  unfold Char.toLower
  rw [dif_neg fun hupper => ?_]
  have hbound : c.toNat ≤ 90 := UInt32.le_iff_toNat_le.1 hupper.2
  omega

theorem isCaseOf_cases {k c : Char} (h : isCaseOf k c = true) : c.toLower = k ∨
    (k, c.toNat) ∈ [('i', 0x130), ('i', 0x131), ('s', 0x17F), ('k', 0x212A)] := by
  unfold isCaseOf foreignCases at h
  rw [Bool.or_eq_true, beq_iff_eq] at h
  refine h.imp_right fun h => ?_
  rw [List.lookup_cons, List.lookup_cons, List.lookup_cons, List.lookup_nil] at h
  split at h
  · rename_i hk
    rw [beq_iff_eq] at hk
    simpa [hk] using h
  · split at h
    · rename_i hk
      rw [beq_iff_eq] at hk
      simpa [hk] using h
    · split at h
      · rename_i hk
        rw [beq_iff_eq] at hk
        simpa [hk] using h
      · simp at h

/-- The foreign cases of a letter lie beyond ASCII. -/
theorem isCaseOf_of_ascii {k c : Char} (hc : c.toNat < 128) :
    isCaseOf k c = true ↔ c.toLower = k := by
  refine ⟨fun h => (isCaseOf_cases h).resolve_right fun hforeign => ?_, fun h => by simp [isCaseOf, h]⟩
  simp only [List.mem_cons, Prod.mk.injEq, List.not_mem_nil, or_false] at hforeign
  omega

/-- A character is a case of one ASCII character only. -/
theorem isCaseOf_unique {k k' c : Char} (hk : k.toNat < 128) (hk' : k'.toNat < 128)
    (h : isCaseOf k c = true) (h' : isCaseOf k' c = true) : k = k' := by
  have hlower : ∀ {k : Char}, k.toNat < 128 → 128 ≤ c.toNat → c.toLower ≠ k := by
    rintro k hk hc rfl
    rw [toLower_of_lt (by omega)] at hk
    omega
  have hforeign : ∀ {k : Char},
      (k, c.toNat) ∈ [('i', 0x130), ('i', 0x131), ('s', 0x17F), ('k', 0x212A)] → 128 ≤ c.toNat := by
    intro k hmem
    simp only [List.mem_cons, Prod.mk.injEq, List.not_mem_nil, or_false] at hmem
    omega
  rcases isCaseOf_cases h with h | h <;> rcases isCaseOf_cases h' with h' | h'
  · rw [← h, h']
  · exact absurd h (hlower hk (hforeign h'))
  · exact absurd h' (hlower hk' (hforeign h))
  · simp only [List.mem_cons, Prod.mk.injEq, List.not_mem_nil, or_false] at h h'
    rcases h with ⟨rfl, h⟩ | ⟨rfl, h⟩ | ⟨rfl, h⟩ | ⟨rfl, h⟩ <;>
      rcases h' with ⟨rfl, h'⟩ | ⟨rfl, h'⟩ | ⟨rfl, h'⟩ | ⟨rfl, h'⟩ <;>
      first | rfl | omega

/-- A blank is no case of a printable character. -/
theorem isCaseOf_of_isBlank {k d : Char} (hk : 33 ≤ k.toNat ∧ k.toNat ≤ 126) (hd : isBlank d = true) :
    isCaseOf k d = false := by
  rw [← Bool.not_eq_true]
  intro hcase
  have hprintable : ¬ (33 ≤ d.toNat ∧ d.toNat ≤ 126) := by
    intro h
    rw [Text.isBlank_of_printable h] at hd
    cases hd
  rcases isCaseOf_cases hcase with h | h
  · by_cases hlow : 90 < d.toNat
    · rw [toLower_of_lt hlow] at h
      exact hprintable (h ▸ hk)
    · have hself : d.toLower = d ∨ 33 ≤ d.toNat := by
        unfold Char.toLower
        split
        · rename_i hupper
          have hbound : 65 ≤ d.toNat := UInt32.le_iff_toNat_le.1 hupper.1
          exact Or.inr (by omega)
        · exact Or.inl rfl
      rcases hself with hself | hself
      · exact hprintable (hself ▸ h ▸ hk)
      · exact hprintable ⟨hself, by omega⟩
  · have hforeign : d.toNat = 0x130 ∨ d.toNat = 0x131 ∨ d.toNat = 0x17F ∨ d.toNat = 0x212A := by
      simp only [List.mem_cons, Prod.mk.injEq, List.not_mem_nil, or_false] at h
      omega
    unfold isBlank at hd
    rcases hforeign with h | h | h | h <;> simp [h] at hd

/-! ## Spellings of a name -/

/-- The key is the name, in any letter case. -/
def Spells (name key : List Char) : Prop := List.Forall₂ (fun k c => isCaseOf k c = true) name key

instance (name key : List Char) : Decidable (Spells name key) :=
  inferInstanceAs (Decidable (List.Forall₂ _ name key))

theorem Spells.length_eq {name key : List Char} (h : Spells name key) : name.length = key.length :=
  List.Forall₂.length_eq h

theorem Spells.exists_of_mem {name key : List Char} (h : Spells name key) {c : Char} (hc : c ∈ key) :
    ∃ k ∈ name, isCaseOf k c = true := by
  induction h with
  | nil => cases hc
  | cons hk _ ih =>
    rcases List.mem_cons.1 hc with rfl | hc
    · exact ⟨_, List.mem_cons_self, hk⟩
    · obtain ⟨k, hmem, hcase⟩ := ih hc
      exact ⟨k, List.mem_cons_of_mem _ hmem, hcase⟩

theorem Spells.notMem {name key : List Char} {c : Char} (h : Spells name key)
    (hname : ∀ k ∈ name, isCaseOf k c = false) : c ∉ key := by
  intro hmem
  obtain ⟨k, hk, hcase⟩ := h.exists_of_mem hmem
  rw [hname k hk] at hcase
  cases hcase

theorem Spells.unique {name name' key : List Char} (hname : ∀ k ∈ name, k.toNat < 128)
    (hname' : ∀ k ∈ name', k.toNat < 128) (h : Spells name key) (h' : Spells name' key) :
    name = name' := by
  induction h generalizing name' with
  | nil =>
    cases h'
    rfl
  | cons hk _ ih =>
    cases h' with
    | cons hk' h' =>
      rw [List.forall_mem_cons] at hname hname'
      rw [isCaseOf_unique hname.1 hname'.1 hk hk', ih hname.2 hname'.2 h']

theorem afterName?_eq_some {ks cs rest : List Char} :
    afterName? ks cs = some rest ↔ ∃ key, Spells ks key ∧ cs = key ++ rest := by
  induction ks generalizing cs with
  | nil =>
    refine ⟨fun h => ⟨[], List.Forall₂.nil, Option.some.inj h⟩, ?_⟩
    rintro ⟨key, hkey, rfl⟩
    rw [List.forall₂_nil_left_iff.1 hkey]
    rfl
  | cons k ks ih =>
    cases cs with
    | nil =>
      refine ⟨fun h => (by cases h), ?_⟩
      rintro ⟨key, hkey, h⟩
      cases hkey
      cases h
    | cons c cs =>
      rw [afterName?]
      split
      · rename_i hc
        rw [ih]
        constructor
        · rintro ⟨key, hkey, rfl⟩
          exact ⟨c :: key, List.Forall₂.cons hc hkey, rfl⟩
        · rintro ⟨key, hkey, h⟩
          cases hkey with
          | cons _ hkey =>
            obtain ⟨rfl, rfl⟩ := List.cons.inj h
            exact ⟨_, hkey, rfl⟩
      · rename_i hc
        refine ⟨fun h => (by cases h), ?_⟩
        rintro ⟨key, hkey, h⟩
        cases hkey with
        | cons hk _ =>
          obtain ⟨rfl, rfl⟩ := List.cons.inj h
          exact absurd hk hc

/-- A name and, behind it, a sign. -/
theorem spells_concat {name key : List Char} {sign : Char} (hsign : sign ∈ ['=', ':', '"']) :
    Spells (name ++ [sign]) key ↔ ∃ key', key = key' ++ [sign] ∧ Spells name key' := by
  constructor
  · intro h
    induction name generalizing key with
    | nil =>
      cases h with
      | cons hc hnil =>
        cases hnil
        exact ⟨[], by rw [(isCaseOf_symbol hsign).1 hc]; rfl, List.Forall₂.nil⟩
    | cons k name ih =>
      cases h with
      | cons hc h =>
        obtain ⟨key', rfl, hkey'⟩ := ih h
        exact ⟨_ :: key', rfl, List.Forall₂.cons hc hkey'⟩
  · rintro ⟨key', rfl, h⟩
    exact List.rel_append h (List.Forall₂.cons ((isCaseOf_symbol hsign).2 rfl) .nil)

theorem spells_iff_of_ascii {name key : List Char} (hkey : ∀ c ∈ key, c.toNat < 128) :
    Spells name key ↔ key.map Char.toLower = name := by
  induction key generalizing name with
  | nil =>
    rw [List.map_nil]
    exact List.forall₂_nil_right_iff.trans eq_comm
  | cons c key ih =>
    rw [List.forall_mem_cons] at hkey
    cases name with
    | nil => exact iff_of_false (fun h => by cases h) (fun h => by cases h)
    | cons k name =>
      rw [List.map_cons, List.cons.injEq, ← isCaseOf_of_ascii hkey.1, ← ih hkey.2]
      exact List.forall₂_cons

end LoginCallback.Redaction
