import LoginCallback.Proofs.Value.Entries
import LoginCallback.Site.Session

/-!
# What sessions become between visits

A session comes back sorted. Sorting is stable, so what is found under a text is what was found
before (`text?_sortEntries`), and a value that came back comes back as it is from then on
(`kept_kept`). A session that came back is `Settled`: its keys are texts in order, and its values
come back as they are.
-/

namespace LoginCallback.Site

/-! ## Sorting -/

/-- The keys of a mapping are texts. -/
def TextKeys (es : Entries) : Prop := ∀ e ∈ es, e.1.isText = true

theorem inOrder_total (a b : Value × Value) : (inOrder a b || inOrder b a) = true := by
  simpa [inOrder] using String.le_total (Json.keyText a.1) (Json.keyText b.1)

theorem inOrder_trans (a b c : Value × Value) (hab : inOrder a b = true) (hbc : inOrder b c = true) :
    inOrder a c = true := by
  unfold inOrder at *
  simp only [decide_eq_true_eq] at *
  exact String.le_trans hab hbc

/-- An entry with the text that names it as its key. -/
def named (e : Value × Value) : Value × Value := (.text (Json.keyText e.1), e.2)

theorem named_of_isText {e : Value × Value} (h : e.1.isText = true) : named e = e := by
  obtain ⟨key, v⟩ := e
  cases key with
  | text k => rfl
  | null | bool | int | float | list | mapping | foreign => cases h

theorem map_named_of_textKeys {es : Entries} (h : TextKeys es) : es.map named = es :=
  (List.map_congr_left fun e he => named_of_isText (h e he)).trans (List.map_id es)

theorem sortEntries_eq_ok {es es' : Entries} (h : sortEntries es = .ok es') :
    es' = (es.mergeSort inOrder).map named := by
  unfold sortEntries at h
  split at h
  · cases h
  · exact (Except.ok.inj h).symm

theorem sortEntries_of_textKeys {es : Entries} (h : TextKeys es) :
    sortEntries es = .ok (es.mergeSort inOrder) := by
  have hnone : (es.zip (es.drop 1)).find? (fun p => p.1.1.isText != p.2.1.isText) = none := by
    refine List.find?_eq_none.2 fun p hp => ?_
    obtain ⟨hfirst, hsecond⟩ := List.of_mem_zip hp
    rw [h p.1 hfirst, h p.2 (List.mem_of_mem_drop hsecond)]
    simp
  have hsorted : TextKeys (es.mergeSort inOrder) := fun e he => h e (List.mem_mergeSort.1 he)
  unfold sortEntries
  rw [hnone]
  exact congrArg Except.ok (map_named_of_textKeys hsorted)

theorem textKeys_of_sortEntries {es es' : Entries} (h : sortEntries es = .ok es') :
    TextKeys es' := by
  rw [sortEntries_eq_ok h]
  intro e he
  obtain ⟨e', -, rfl⟩ := List.mem_map.1 he
  rfl

theorem pairwise_of_sortEntries {es es' : Entries} (h : sortEntries es = .ok es') :
    es'.Pairwise fun a b => inOrder a b = true := by
  rw [sortEntries_eq_ok h, List.pairwise_map]
  exact List.pairwise_mergeSort inOrder_trans inOrder_total es

/-- Where each value of a sorted mapping comes from. -/
theorem mem_of_sortEntries {es es' : Entries} (h : sortEntries es = .ok es') {e : Value × Value}
    (he : e ∈ es') : ∃ e' ∈ es, e'.2 = e.2 := by
  rw [sortEntries_eq_ok h] at he
  obtain ⟨e', he', rfl⟩ := List.mem_map.1 he
  exact ⟨e', List.mem_mergeSort.1 he', rfl⟩

theorem sortEntries_of_pairwise {es : Entries} (hkeys : TextKeys es)
    (h : es.Pairwise fun a b => inOrder a b = true) : sortEntries es = .ok es := by
  rw [sortEntries_of_textKeys hkeys, List.mergeSort_of_pairwise h]

/-- Entries of one name stay in their order. -/
theorem filter_mergeSort {es : Entries} {p : Value × Value → Bool}
    (hp : ∀ a b, p a = true → p b = true → inOrder a b = true) :
    (es.mergeSort inOrder).filter p = es.filter p := by
  have hpairwise : (es.filter p).Pairwise fun a b => inOrder a b = true :=
    List.pairwise_of_forall_mem_list fun a ha b hb =>
      hp a b (List.mem_filter.1 ha).2 (List.mem_filter.1 hb).2
  have hsublist : (es.filter p).Sublist ((es.mergeSort inOrder).filter p) := by
    have h := (List.sublist_mergeSort inOrder_trans inOrder_total hpairwise
      List.filter_sublist).filter p
    simpa only [List.filter_filter, Bool.and_self] using h
  have hlength := ((List.mergeSort_perm es inOrder).filter p).length_eq
  exact (hsublist.eq_of_length hlength.symm).symm

theorem text?_sortEntries {es es' : Entries} (hkeys : TextKeys es) (h : sortEntries es = .ok es')
    (k : String) : Entries.text? es' k = Entries.text? es k := by
  rw [sortEntries_of_textKeys hkeys] at h
  obtain rfl := Except.ok.inj h
  unfold Entries.text? Entries.get?
  rw [← List.head?_filter, ← List.head?_filter, filter_mergeSort]
  intro a b ha hb
  rw [Value.sameScalar_text_right] at ha hb
  simp [inOrder, ha, hb]

/-! ## Values that come back -/

/-- A value comes back as it is. -/
def Stable (v : Value) : Prop := kept v = .ok v

theorem kept_list_eq_ok {xs : List Value} {v : Value} :
    kept (.list xs) = .ok v ↔ ∃ ys, keptItems xs = .ok ys ∧ v = .list ys := by
  unfold kept
  cases keptItems xs with
  | error e => simp [Except.map]
  | ok ys => simp [Except.map, eq_comm]

theorem kept_mapping_eq_ok {es : Entries} {v : Value} : kept (.mapping es) = .ok v ↔
    ∃ es₁ es₂, keptEntries es = .ok es₁ ∧ sortEntries es₁ = .ok es₂ ∧ v = .mapping es₂ := by
  unfold kept
  constructor
  · intro h
    obtain ⟨es₁, hkept, h⟩ := bind_eq_ok.1 h
    obtain ⟨es₂, hsort, h⟩ := bind_eq_ok.1 h
    exact ⟨es₁, es₂, hkept, hsort, (Except.ok.inj h).symm⟩
  · rintro ⟨es₁, es₂, hkept, hsort, rfl⟩
    exact bind_eq_ok.2 ⟨es₁, hkept, bind_eq_ok.2 ⟨es₂, hsort, rfl⟩⟩

theorem keptItems_cons_eq_ok {x : Value} {xs ys : List Value} : keptItems (x :: xs) = .ok ys ↔
    ∃ y ys', kept x = .ok y ∧ keptItems xs = .ok ys' ∧ ys = y :: ys' := by
  rw [keptItems]
  constructor
  · intro h
    obtain ⟨y, hy, h⟩ := bind_eq_ok.1 h
    obtain ⟨ys', hys, h⟩ := bind_eq_ok.1 h
    exact ⟨y, ys', hy, hys, (Except.ok.inj h).symm⟩
  · rintro ⟨y, ys', hy, hys, rfl⟩
    exact bind_eq_ok.2 ⟨y, hy, bind_eq_ok.2 ⟨ys', hys, rfl⟩⟩

theorem keptEntries_cons_eq_ok {key v : Value} {es es' : Entries} :
    keptEntries ((key, v) :: es) = .ok es' ↔
      ∃ w es₁, kept v = .ok w ∧ keptEntries es = .ok es₁ ∧ es' = (key, w) :: es₁ := by
  rw [keptEntries]
  constructor
  · intro h
    obtain ⟨w, hw, h⟩ := bind_eq_ok.1 h
    obtain ⟨es₁, hes, h⟩ := bind_eq_ok.1 h
    exact ⟨w, es₁, hw, hes, (Except.ok.inj h).symm⟩
  · rintro ⟨w, es₁, hw, hes, rfl⟩
    exact bind_eq_ok.2 ⟨w, hw, bind_eq_ok.2 ⟨es₁, hes, rfl⟩⟩

theorem keptItems_of_stable {xs : List Value} (h : ∀ x ∈ xs, Stable x) : keptItems xs = .ok xs := by
  induction xs with
  | nil => rfl
  | cons x xs ih =>
    exact keptItems_cons_eq_ok.2
      ⟨x, xs, h x List.mem_cons_self, ih fun y hy => h y (List.mem_cons_of_mem x hy), rfl⟩

theorem keptEntries_of_stable {es : Entries} (h : ∀ e ∈ es, Stable e.2) :
    keptEntries es = .ok es := by
  induction es with
  | nil => rfl
  | cons e es ih =>
    exact keptEntries_cons_eq_ok.2
      ⟨e.2, es, h e List.mem_cons_self, ih fun f hf => h f (List.mem_cons_of_mem e hf), rfl⟩

mutual

/-- What came back comes back as it is from then on. -/
theorem kept_kept : ∀ {v w : Value}, kept v = .ok w → Stable w
  | .list xs, w, h => by
    obtain ⟨ys, hys, rfl⟩ := kept_list_eq_ok.1 h
    exact kept_list_eq_ok.2 ⟨ys, keptItems_of_stable (stable_of_keptItems hys), rfl⟩
  | .mapping es, w, h => by
    obtain ⟨es₁, es₂, hkept, hsort, rfl⟩ := kept_mapping_eq_ok.1 h
    have hstable := stable_of_keptEntries hkept
    have hvalues : ∀ e ∈ es₂, Stable e.2 := by
      intro e he
      obtain ⟨e', he', hvalue⟩ := mem_of_sortEntries hsort he
      rw [← hvalue]
      exact hstable e' he'
    exact kept_mapping_eq_ok.2 ⟨es₂, es₂, keptEntries_of_stable hvalues,
      sortEntries_of_pairwise (textKeys_of_sortEntries hsort) (pairwise_of_sortEntries hsort), rfl⟩
  | .null, w, h => by obtain rfl := Except.ok.inj h; exact h
  | .bool _, w, h => by obtain rfl := Except.ok.inj h; exact h
  | .int _, w, h => by obtain rfl := Except.ok.inj h; exact h
  | .float _, w, h => by obtain rfl := Except.ok.inj h; exact h
  | .text _, w, h => by obtain rfl := Except.ok.inj h; exact h
  | .foreign _, w, h => by obtain rfl := Except.ok.inj h; exact h

theorem stable_of_keptItems : ∀ {xs ys : List Value}, keptItems xs = .ok ys → ∀ y ∈ ys, Stable y
  | [], ys, h => by
    obtain rfl : [] = ys := Except.ok.inj h
    simp
  | x :: xs, ys, h => by
    obtain ⟨y, ys', hy, hys, rfl⟩ := keptItems_cons_eq_ok.1 h
    exact List.forall_mem_cons.2 ⟨kept_kept hy, stable_of_keptItems hys⟩

theorem stable_of_keptEntries : ∀ {es es' : List (Value × Value)}, keptEntries es = .ok es' →
    ∀ e ∈ es', Stable e.2
  | [], es', h => by
    obtain rfl : [] = es' := Except.ok.inj h
    simp
  | (key, v) :: es, es', h => by
    obtain ⟨w, es₁, hw, hes, rfl⟩ := keptEntries_cons_eq_ok.1 h
    exact List.forall_mem_cons.2 ⟨kept_kept hw, stable_of_keptEntries hes⟩

end

/-- Under each text is found what was found there before, as it comes back. -/
def Returns (es es' : Entries) : Prop :=
  ∀ k, Option.Rel (fun v w => kept v = .ok w) (Entries.text? es k) (Entries.text? es' k)

theorem Returns.of_some {es es' : Entries} (h : Returns es es') {k : String} {v : Value}
    (hv : Entries.text? es k = some v) : ∃ w, kept v = .ok w ∧ Entries.text? es' k = some w := by
  have hk := h k
  rw [hv] at hk
  cases hk' : Entries.text? es' k with
  | none =>
    rw [hk'] at hk
    cases hk
  | some w =>
    rw [hk'] at hk
    cases hk with
    | some hw => exact ⟨w, hw, rfl⟩

theorem Returns.of_none {es es' : Entries} (h : Returns es es') {k : String}
    (hk : Entries.text? es k = none) : Entries.text? es' k = none := by
  have hrel := h k
  rw [hk] at hrel
  cases hk' : Entries.text? es' k with
  | none => rfl
  | some w =>
    rw [hk'] at hrel
    cases hrel

theorem returns_keptEntries {es es' : Entries} (h : keptEntries es = .ok es') : Returns es es' := by
  induction es generalizing es' with
  | nil =>
    obtain rfl : [] = es' := Except.ok.inj h
    exact fun _ => .none
  | cons e es ih =>
    obtain ⟨w, es₁, hw, hes, rfl⟩ := keptEntries_cons_eq_ok.1 h
    intro k
    have ih := ih hes k
    unfold Entries.text? Entries.get? at ih ⊢
    rw [List.find?_cons, List.find?_cons]
    cases hkey : Value.sameScalar e.1 (.text k) with
    | false => simpa only [hkey] using ih
    | true => exact .some hw

/-- Where each entry comes from that came back. -/
theorem mem_of_keptEntries {es es' : Entries} (h : keptEntries es = .ok es') {e : Value × Value}
    (he : e ∈ es') : ∃ v, (e.1, v) ∈ es ∧ kept v = .ok e.2 := by
  induction es generalizing es' with
  | nil =>
    obtain rfl : [] = es' := Except.ok.inj h
    cases he
  | cons e' es ih =>
    obtain ⟨w, es₁, hw, hes, rfl⟩ := keptEntries_cons_eq_ok.1 h
    rcases List.mem_cons.1 he with rfl | he
    · exact ⟨e'.2, List.mem_cons_self, hw⟩
    · obtain ⟨v, hv, hkept⟩ := ih hes he
      exact ⟨v, List.mem_cons_of_mem _ hv, hkept⟩

theorem textKeys_keptEntries {es es' : Entries} (h : keptEntries es = .ok es')
    (hkeys : TextKeys es) : TextKeys es' := by
  intro e he
  obtain ⟨v, hv, -⟩ := mem_of_keptEntries h he
  have hkey := hkeys (e.1, v) hv
  exact hkey

theorem exists_keptEntries {es : Entries} (h : ∀ e ∈ es, ∃ w, kept e.2 = .ok w) :
    ∃ es', keptEntries es = .ok es' := by
  induction es with
  | nil => exact ⟨[], rfl⟩
  | cons e es ih =>
    obtain ⟨⟨w, hw⟩, hrest⟩ := List.forall_mem_cons.1 h
    obtain ⟨es', hes⟩ := ih hrest
    exact ⟨_, keptEntries_cons_eq_ok.2 ⟨w, es', hw, hes, rfl⟩⟩

theorem Returns.sorted {es es₁ es₂ : Entries} (h : Returns es es₁) (hkeys : TextKeys es₁)
    (hsort : sortEntries es₁ = .ok es₂) : Returns es es₂ := by
  intro k
  rw [text?_sortEntries hkeys hsort]
  exact h k

/-- A mapping of text keys comes back with text keys. -/
theorem returns_of_kept {es : Entries} (hkeys : TextKeys es) {v : Value}
    (h : kept (.mapping es) = .ok v) : ∃ es', v = .mapping es' ∧ TextKeys es' ∧ Returns es es' := by
  obtain ⟨es₁, es₂, hkept, hsort, rfl⟩ := kept_mapping_eq_ok.1 h
  exact ⟨es₂, rfl, textKeys_of_sortEntries hsort,
    (returns_keptEntries hkept).sorted (textKeys_keptEntries hkept hkeys) hsort⟩

/-- Where each entry of a mapping comes from that came back. -/
theorem mem_of_kept {es es' : Entries} (hkeys : TextKeys es)
    (h : kept (.mapping es) = .ok (.mapping es')) {e : Value × Value} (he : e ∈ es') :
    ∃ v, (e.1, v) ∈ es ∧ kept v = .ok e.2 := by
  obtain ⟨es₁, es₂, hkept, hsort, heq⟩ := kept_mapping_eq_ok.1 h
  obtain rfl := Value.mapping.inj heq
  rw [sortEntries_of_textKeys (textKeys_keptEntries hkept hkeys)] at hsort
  obtain rfl := Except.ok.inj hsort
  exact mem_of_keptEntries hkept (List.mem_mergeSort.1 he)

theorem exists_kept_mapping {es : Entries} (hkeys : TextKeys es)
    (h : ∀ e ∈ es, ∃ w, kept e.2 = .ok w) : ∃ v, kept (.mapping es) = .ok v := by
  obtain ⟨es₁, hkept⟩ := exists_keptEntries h
  exact ⟨_, kept_mapping_eq_ok.2 ⟨es₁, _, hkept,
    sortEntries_of_textKeys (textKeys_keptEntries hkept hkeys), rfl⟩⟩

/-! ## Sessions that come back -/

/-- The session came back: its keys are texts in order, and its values come back as they are. -/
structure Settled (s : Session) : Prop where
  keys : TextKeys s
  values : ∀ e ∈ s, Stable e.2
  ordered : s.Pairwise fun a b => inOrder a b = true

theorem keptSession_eq_ok {s s' : Session} :
    keptSession s = .ok s' ↔ ∃ es, keptEntries s = .ok es ∧ sortEntries es = .ok s' := by
  unfold keptSession
  constructor
  · intro h
    obtain ⟨es, hkept, hsort⟩ := bind_eq_ok.1 (ofValue_eq_ok.1 h)
    exact ⟨es, hkept, hsort⟩
  · rintro ⟨es, hkept, hsort⟩
    exact ofValue_eq_ok.2 (bind_eq_ok.2 ⟨es, hkept, hsort⟩)

/-- A session that is settled comes back as it is. -/
theorem Settled.keptSession_eq {s : Session} (h : Settled s) : keptSession s = .ok s :=
  keptSession_eq_ok.2 ⟨s, keptEntries_of_stable h.values, sortEntries_of_pairwise h.keys h.ordered⟩

theorem settled_nil : Settled [] := ⟨by simp [TextKeys], by simp, by simp⟩

theorem settled_of_keptSession {s s' : Session} (h : keptSession s = .ok s') : Settled s' := by
  obtain ⟨es, hkept, hsort⟩ := keptSession_eq_ok.1 h
  refine ⟨textKeys_of_sortEntries hsort, fun e he => ?_, pairwise_of_sortEntries hsort⟩
  obtain ⟨e', he', hvalue⟩ := mem_of_sortEntries hsort he
  rw [← hvalue]
  exact stable_of_keptEntries hkept e' he'

theorem returns_of_keptSession {s s' : Session} (hkeys : TextKeys s)
    (h : keptSession s = .ok s') : Returns s s' := by
  obtain ⟨es, hkept, hsort⟩ := keptSession_eq_ok.1 h
  exact (returns_keptEntries hkept).sorted (textKeys_keptEntries hkept hkeys) hsort

theorem exists_keptSession {s : Session} (hkeys : TextKeys s)
    (h : ∀ e ∈ s, ∃ w, kept e.2 = .ok w) : ∃ s', keptSession s = .ok s' := by
  obtain ⟨es, hkept⟩ := exists_keptEntries h
  exact ⟨_, keptSession_eq_ok.2 ⟨es, hkept,
    sortEntries_of_textKeys (textKeys_keptEntries hkept hkeys)⟩⟩

end LoginCallback.Site
