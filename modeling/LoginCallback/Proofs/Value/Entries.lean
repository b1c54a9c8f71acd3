import LoginCallback.Authorization.Request

/-!
# Entries of mappings

What is found under a text key after an entry is written or removed, what a record holds, and that
an authorization request is read back from the mapping that sessions keep (`read_toValue`). Only a
text equals a text (`sameScalar_text_right`), so a text key never meets a key of another kind.
-/

namespace LoginCallback

namespace Value

@[simp] theorem asInt?_text (s : String) : asInt? (.text s) = none := rfl

@[simp] theorem sameScalar_text_right (v : Value) (s : String) :
    sameScalar v (.text s) = true ↔ v = .text s := by
  cases v <;> simp [sameScalar]

@[simp] theorem sameScalar_text_left (s : String) (v : Value) :
    sameScalar (.text s) v = true ↔ v = .text s := by
  cases v with
  | text t => simp [sameScalar, @eq_comm _ s t]
  | _ => simp [sameScalar]

@[simp] theorem sameScalar_text_self (s : String) : sameScalar (.text s) (.text s) = true :=
  (sameScalar_text_right _ s).2 rfl

theorem sameScalar_text_eq_false {v : Value} {s : String} (h : v ≠ .text s) :
    sameScalar v (.text s) = false :=
  Bool.eq_false_iff.2 fun hs => h ((sameScalar_text_right v s).1 hs)

theorem same_text_right (v : Value) (s : String) : same v (.text s) = true ↔ v = .text s := by
  cases v <;> simp [same]

theorem truthy_text {s : String} (h : s ≠ "") : (Value.text s).truthy = true := by
  simp [truthy, h]

end Value

namespace Entries

theorem text?_insert_self (es : Entries) (k : String) (v : Value) :
    text? (insert es (.text k) v) k = some v := by
  unfold text? get?
  induction es with
  | nil => simp [insert]
  | cons e es ih =>
    obtain ⟨key, w⟩ := e
    by_cases h : Value.sameScalar key (.text k) = true
    · simp [insert, h]
    · simpa [insert, h] using ih

theorem text?_erase_self (es : Entries) (k : String) : text? (erase es (.text k)) k = none := by
  unfold text? get? erase
  rw [Option.map_eq_none_iff, List.find?_eq_none]
  intro e he
  have h := (List.mem_filter.1 he).2
  rw [Bool.not_eq_true'] at h
  exact Bool.eq_false_iff.1 h

/-- What is found under a text is an entry under that text. -/
theorem mem_of_text? {es : Entries} {k : String} {v : Value} (h : text? es k = some v) :
    (.text k, v) ∈ es := by
  obtain ⟨e, he, rfl⟩ := Option.map_eq_some_iff.1 h
  have hkey := List.find?_some he
  rw [Value.sameScalar_text_right] at hkey
  rw [← hkey]
  exact List.mem_of_find?_eq_some he

theorem erase_erase_self (es : Entries) (key : Value) : erase (erase es key) key = erase es key := by
  unfold erase
  rw [List.filter_filter]
  simp only [Bool.and_self]

/-- What else there is stays as it was when an entry is written. -/
theorem erase_insert_self (es : Entries) (k : String) (v : Value) :
    erase (insert es (.text k) v) (.text k) = erase es (.text k) := by
  unfold erase
  induction es with
  | nil => simp [insert]
  | cons e es ih =>
    obtain ⟨key, w⟩ := e
    by_cases h : Value.sameScalar key (.text k) = true
    · simp [insert, h]
    · simp [insert, h, ih]

theorem text?_erase_of_ne (es : Entries) {k k' : String} (h : k' ≠ k) :
    text? (erase es (.text k)) k' = text? es k' := by
  unfold text? get? erase
  rw [List.find?_filter]
  congr 2
  funext e
  by_cases hkey : e.1 = .text k'
  · have hne : (Value.text k').sameScalar (.text k) = false :=
      Value.sameScalar_text_eq_false (by simpa using h)
    simp [hkey, hne]
  · simp [Value.sameScalar_text_eq_false hkey]

theorem text?_insert_of_ne (es : Entries) {k k' : String} (h : k' ≠ k) (v : Value) :
    text? (insert es (.text k) v) k' = text? es k' := by
  rw [← text?_erase_of_ne _ h, erase_insert_self, text?_erase_of_ne _ h]

theorem mem_insert {es : Entries} {k : String} {v : Value} {e : Value × Value}
    (h : e ∈ insert es (.text k) v) : e ∈ es ∨ e = (.text k, v) := by
  induction es with
  | nil => exact Or.inr (List.mem_singleton.1 h)
  | cons e' es ih =>
    obtain ⟨key, w⟩ := e'
    unfold insert at h
    split at h
    · rename_i hkey
      obtain rfl := (Value.sameScalar_text_right key k).1 hkey
      exact (List.mem_cons.1 h).symm.imp_left (List.mem_cons_of_mem _)
    · rcases List.mem_cons.1 h with rfl | h
      · exact Or.inl List.mem_cons_self
      · exact (ih h).imp_left (List.mem_cons_of_mem _)

/-- The keys of the entries. -/
def keys (es : Entries) : List Value := es.map (·.1)

theorem text?_cons_self (k : String) (v : Value) (es : Entries) :
    text? ((.text k, v) :: es) k = some v := by
  simp [text?, get?]

theorem text?_cons_of_ne {key : Value} {k : String} (h : key ≠ .text k) (v : Value) (es : Entries) :
    text? ((key, v) :: es) k = text? es k := by
  simp [text?, get?, Value.sameScalar_text_eq_false h]

theorem text?_eq_none_iff {es : Entries} {k : String} : text? es k = none ↔ .text k ∉ keys es := by
  induction es with
  | nil => simp [text?, get?, keys]
  | cons e es ih =>
    obtain ⟨key, v⟩ := e
    by_cases h : key = .text k
    · subst h
      simp [text?_cons_self, keys]
    · rw [text?_cons_of_ne h, ih]
      simp [keys, Ne.symm h]

theorem mem_keys_insert {es : Entries} {k : String} {v key : Value} :
    key ∈ keys (insert es (.text k) v) ↔ key ∈ keys es ∨ key = .text k := by
  induction es with
  | nil => simp [insert, keys]
  | cons e es ih =>
    obtain ⟨own, w⟩ := e
    unfold insert
    split
    · rename_i hsame
      obtain rfl := (Value.sameScalar_text_right own k).1 hsame
      have hown : key = .text k → key ∈ keys ((.text k, w) :: es) := by
        rintro rfl
        exact List.mem_cons_self
      exact ⟨Or.inl, fun h => h.elim id hown⟩
    · simp only [keys, List.map_cons, List.mem_cons] at ih ⊢
      rw [ih, or_assoc]

theorem mem_keys_erase {es : Entries} {k : String} {key : Value} :
    key ∈ keys (erase es (.text k)) ↔ key ∈ keys es ∧ key ≠ .text k := by
  unfold keys erase
  simp only [List.mem_map, List.mem_filter, Bool.not_eq_true', Bool.eq_false_iff, ne_eq,
    Value.sameScalar_text_right]
  constructor
  · rintro ⟨e, ⟨he, hne⟩, rfl⟩
    exact ⟨⟨e, he, rfl⟩, hne⟩
  · rintro ⟨⟨e, he, rfl⟩, hne⟩
    exact ⟨e, ⟨he, hne⟩, rfl⟩

theorem nodup_keys_erase {es : Entries} {key : Value} (h : (keys es).Nodup) :
    (keys (erase es key)).Nodup :=
  (List.filter_sublist.map _).nodup h

theorem keys_insert_congr (es : Entries) (k : String) (v w : Value) :
    keys (insert es (.text k) v) = keys (insert es (.text k) w) := by
  induction es with
  | nil => rfl
  | cons e es ih =>
    obtain ⟨own, u⟩ := e
    unfold insert
    split
    · rfl
    · exact congrArg (own :: ·) ih

theorem nodup_keys_insert {es : Entries} (h : (keys es).Nodup) (k : String) (v : Value) :
    (keys (insert es (.text k) v)).Nodup := by
  induction es with
  | nil => simp [insert, keys]
  | cons e es ih =>
    obtain ⟨own, w⟩ := e
    obtain ⟨hown, hes⟩ := List.nodup_cons.1 h
    unfold insert
    split
    · exact h
    · rename_i hsame
      refine List.nodup_cons.2 ⟨fun hmem => ?_, ih hes⟩
      rcases mem_keys_insert.1 hmem with hmem | heq
      · exact hown hmem
      · exact hsame ((Value.sameScalar_text_right own k).2 heq)

/-- An entry that is there is replaced. -/
theorem mem_keys_insert_of_text? {es : Entries} {k : String} {v w key : Value}
    (h : text? es k = some v) : key ∈ keys (insert es (.text k) w) ↔ key ∈ keys es := by
  rw [mem_keys_insert, or_iff_left_of_imp]
  rintro rfl
  exact List.mem_map_of_mem (mem_of_text? h)

/-- A record holds each of its fields under its name. -/
theorem text?_record (fields : List (String × Value)) (k : String) :
    text? (fields.map fun f => (.text f.1, f.2)) k = fields.lookup k := by
  unfold text? get?
  induction fields with
  | nil => rfl
  | cons f fields ih =>
    obtain ⟨name, v⟩ := f
    by_cases h : name = k
    · simp [h]
    · have hk : (k == name) = false := by simpa using Ne.symm h
      rw [List.lookup_cons, hk, ← ih]
      simp [h]

end Entries

namespace Value

theorem item_record {fields : List (String × Value)} {k : String} {v : Value}
    (h : fields.lookup k = some v) : (record fields).item k = .ok v := by
  simp [record, item, Entries.text?_record, h]

theorem getD_record (fields : List (String × Value)) (k : String) (default : Value) :
    (record fields).getD k default = .ok ((fields.lookup k).getD default) := by
  rw [← Entries.text?_record]
  rfl

end Value

namespace AuthorizationRequest

/-- A request is read back from the mapping that sessions keep. -/
theorem read_toValue (r : AuthorizationRequest) : read r.toValue = .ok r := by
  rfl

end AuthorizationRequest

end LoginCallback
