import LoginCallback.Exchange.Redaction
import LoginCallback.Proofs.Octets.Characters
import Mathlib.Data.List.TakeWhile

/-!
# Replacement from left to right

A rule of redaction scans a text once. What it does behind a seam does not depend on what stands
before it, if no hit reaches over the seam (`replace_append`), and a text in which nothing is found
stays as it is (`replace_eq_self`). For the rules on running text, which are all but those for JSON
fields, it is enough to know where the value of a hit starts: behind a name that does not contain
the character at the seam (`Rule.find_append`). Main statements: `Rule.scan_append_stop`, a value
ends where a character cannot belong to it, and `Rule.scan_append_closed`, a text whose last
character survives is scanned alike whatever follows.
-/

namespace LoginCallback.Redaction

open LoginCallback.Text (isBlank isWord)

/-! ## Scans -/

/-- The last character of a text, or what stands before it if it is empty. -/
def lastOf (before : Option Char) (cs : List Char) : Option Char := cs.foldl (fun _ c => some c) before

@[simp] theorem lastOf_nil (before : Option Char) : lastOf before [] = before := rfl

@[simp] theorem lastOf_cons (before : Option Char) (c : Char) (cs : List Char) :
    lastOf before (c :: cs) = lastOf (some c) cs := rfl

@[simp] theorem lastOf_concat (before : Option Char) (cs : List Char) (c : Char) :
    lastOf before (cs ++ [c]) = some c := by
  unfold lastOf
  rw [List.foldl_append]
  rfl

theorem lastOf_append (before : Option Char) (u v : List Char) :
    lastOf before (u ++ v) = lastOf (lastOf before u) v := List.foldl_append

theorem lastOf_none (cs : List Char) : lastOf none cs = cs.getLast? := by
  cases hlast : cs.getLast? with
  | none => rw [List.getLast?_eq_none_iff.1 hlast, lastOf_nil]
  | some c =>
    obtain ⟨u, rfl⟩ := List.getLast?_eq_some_iff.1 hlast
    exact lastOf_concat none u c

theorem mark_ne_nil : mark ≠ [] := by decide

theorem getLast?_mark : mark.getLast? = some ']' := by decide

section

variable {find : Option Char → List Char → Option Hit}

/-- The hits put the mark in the place of the last characters that they cover. -/
def Marks (find : Option Char → List Char → Option Hit) : Prop :=
  ∀ before cs hit, find before cs = some hit →
    ∃ n m, 0 < m ∧ n + m ≤ cs.length ∧ hit = ⟨cs.take n ++ mark, n + m⟩

theorem replace_cons_of_none {before : Option Char} {c : Char} {cs : List Char}
    (h : find before (c :: cs) = none) :
    replace find 0 before (c :: cs) = c :: replace find 0 (some c) cs := by
  rw [replace, h]

theorem replace_cons_of_some {before : Option Char} {c : Char} {cs : List Char} {hit : Hit}
    (h : find before (c :: cs) = some hit) :
    replace find 0 before (c :: cs) = hit.shown ++ replace find (hit.size - 1) (some c) cs := by
  rw [replace, h]

/-- Behind the characters that are skipped the scan goes on. -/
theorem replace_skip (skip : Nat) (before : Option Char) (u v : List Char) :
    replace find (skip + u.length) before (u ++ v) = replace find skip (lastOf before u) v := by
  induction u generalizing before with
  | nil => rfl
  | cons c u ih => exact ih (some c)

/-- A text that is skipped as a whole. -/
theorem replace_length (before : Option Char) (cs : List Char) :
    replace find cs.length before cs = [] := by
  have h : replace find (0 + cs.length) before (cs ++ []) = replace find 0 (lastOf before cs) [] :=
    replace_skip 0 before cs []
  rwa [List.append_nil, Nat.zero_add, replace] at h

/-- A hit at the front, which may reach into what follows. -/
theorem replace_front {before : Option Char} {u v shown : List Char} {skip : Nat} (hne : u ≠ [])
    (h : find before (u ++ v) = some ⟨shown, skip + u.length⟩) :
    replace find 0 before (u ++ v) = shown ++ replace find skip (lastOf before u) v := by
  obtain ⟨c, u, rfl⟩ := List.exists_cons_of_ne_nil hne
  have hsize : skip + (c :: u).length - 1 = skip + u.length := by
    rw [List.length_cons]
    omega
  rw [List.cons_append] at h ⊢
  rw [replace_cons_of_some h, hsize, replace_skip, lastOf_cons]

/-- A hit of the whole text. -/
theorem replace_whole {before : Option Char} {cs shown : List Char} (hne : cs ≠ [])
    (h : find before cs = some ⟨shown, cs.length⟩) : replace find 0 before cs = shown := by
  have hfound : find before (cs ++ []) = some ⟨shown, 0 + cs.length⟩ := by
    rwa [List.append_nil, Nat.zero_add]
  have hfront := replace_front hne hfound
  rwa [List.append_nil, replace, List.append_nil] at hfront

/-- A text in which nothing is found stays as it is. -/
theorem replace_eq_self {before : Option Char} {cs : List Char}
    (h : ∀ u c v, cs = u ++ c :: v → find (lastOf before u) (c :: v) = none) :
    replace find 0 before cs = cs := by
  induction cs generalizing before with
  | nil => rfl
  | cons c cs ih =>
    have hrest : ∀ u c' v, cs = u ++ c' :: v → find (lastOf (some c) u) (c' :: v) = none := by
      rintro u c' v rfl
      exact h (c :: u) c' v rfl
    have hhere : find before (c :: cs) = none := h [] c cs rfl
    rw [replace_cons_of_none hhere, ih hrest]

/-- A seam over which no hit reaches. -/
theorem replace_append (hsize : ∀ before cs hit, find before cs = some hit → hit.size ≤ cs.length)
    {u v : List Char}
    (h : ∀ before a, a ≠ [] → a <:+ u → find before (a ++ v) = find before a) {skip : Nat}
    (hskip : skip ≤ u.length) (before : Option Char) :
    replace find skip before (u ++ v) =
      replace find skip before u ++ replace find 0 (lastOf before u) v := by
  induction u generalizing skip before with
  | nil =>
    obtain rfl : skip = 0 := Nat.le_zero.1 hskip
    rfl
  | cons c u ih =>
    have hrest : ∀ before a, a ≠ [] → a <:+ u → find before (a ++ v) = find before a :=
      fun before a ha hs => h before a ha (hs.trans (List.suffix_cons c u))
    have hhere : find before (c :: (u ++ v)) = find before (c :: u) :=
      h before (c :: u) (List.cons_ne_nil c u) List.suffix_rfl
    cases skip with
    | succ skip => exact ih hrest (Nat.le_of_succ_le_succ hskip) (some c)
    | zero =>
      cases hf : find before (c :: u) with
      | none =>
        rw [replace_cons_of_none hf, List.cons_append, replace_cons_of_none (hhere.trans hf),
          ih hrest (Nat.zero_le _), lastOf_cons, List.cons_append]
      | some hit =>
        have hfits := hsize before _ hit hf
        have hskip' : hit.size - 1 ≤ u.length := by
          rw [List.length_cons] at hfits
          omega
        rw [replace_cons_of_some hf, List.cons_append, replace_cons_of_some (hhere.trans hf),
          ih hrest hskip', lastOf_cons, List.append_assoc]

/-- Behind what the last hit shows stands an end of the text; without a hit the text is as it
was. -/
theorem replace_tail (skip : Nat) (before : Option Char) (cs : List Char) :
    replace find skip before cs = cs.drop skip ∨
      ∃ u b a hit v, find b a = some hit ∧ v <:+ cs ∧
        replace find skip before cs = u ++ (hit.shown ++ v) := by
  induction cs generalizing skip before with
  | nil => exact Or.inl (by simp [replace])
  | cons c cs ih =>
    cases skip with
    | succ skip =>
      rcases ih skip (some c) with h | ⟨u, b, a, hit, v, hf, hv, h⟩
      · exact Or.inl h
      · exact Or.inr ⟨u, b, a, hit, v, hf, hv.trans (List.suffix_cons c cs), h⟩
    | zero =>
      cases hf : find before (c :: cs) with
      | none =>
        rw [replace_cons_of_none hf]
        rcases ih 0 (some c) with h | ⟨u, b, a, hit, v, hf', hv, h⟩
        · exact Or.inl (congrArg (c :: ·) h)
        · refine Or.inr ⟨c :: u, b, a, hit, v, hf', hv.trans (List.suffix_cons c cs), ?_⟩
          rw [h, List.cons_append]
      | some hit =>
        rw [replace_cons_of_some hf]
        rcases ih (hit.size - 1) (some c) with h | ⟨u, b, a, hit', v, hf', hv, h⟩
        · refine Or.inr ⟨[], before, c :: cs, hit, cs.drop (hit.size - 1), hf, ?_, by rw [h]; rfl⟩
          exact (List.drop_suffix _ _).trans (List.suffix_cons c cs)
        · refine Or.inr ⟨hit.shown ++ u, b, a, hit', v, hf', hv.trans (List.suffix_cons c cs), ?_⟩
          rw [h, List.append_assoc]

/-! ### Hits that show the mark -/

theorem Marks.size_le (h : Marks find) (before : Option Char) (cs : List Char) (hit : Hit)
    (hf : find before cs = some hit) : hit.size ≤ cs.length := by
  obtain ⟨n, m, -, hle, rfl⟩ := h before cs hit hf
  exact hle

theorem Marks.find_nil (h : Marks find) (before : Option Char) : find before [] = none := by
  cases hf : find before [] with
  | none => rfl
  | some hit =>
    obtain ⟨n, m, hpos, hle, -⟩ := h before [] hit hf
    rw [List.length_nil] at hle
    omega

/-- A hit keeps the first characters that it covers, and puts the mark for the others. -/
theorem Marks.exists_parts (h : Marks find) {before : Option Char} {cs : List Char} {hit : Hit}
    (hf : find before cs = some hit) : ∃ kept old rest, cs = kept ++ (old ++ rest) ∧ old ≠ [] ∧
      hit = ⟨kept ++ mark, kept.length + old.length⟩ := by
  obtain ⟨n, m, hpos, hle, rfl⟩ := h before cs hit hf
  have hkept : (cs.take n).length = n := by
    rw [List.length_take]
    omega
  have hold : ((cs.drop n).take m).length = m := by
    rw [List.length_take, List.length_drop]
    omega
  refine ⟨cs.take n, (cs.drop n).take m, (cs.drop n).drop m, ?_, ?_, ?_⟩
  · rw [List.take_append_drop, List.take_append_drop]
  · exact List.length_pos_iff.1 (by omega)
  · rw [hkept, hold]

theorem replace_ne_nil (hm : Marks find) (before : Option Char) {cs : List Char} (h : cs ≠ []) :
    replace find 0 before cs ≠ [] := by
  cases cs with
  | nil => exact absurd rfl h
  | cons c cs =>
    cases hf : find before (c :: cs) with
    | none =>
      rw [replace_cons_of_none hf]
      exact List.cons_ne_nil _ _
    | some hit =>
      obtain ⟨n, m, -, -, rfl⟩ := hm before _ hit hf
      rw [replace_cons_of_some hf]
      exact List.append_ne_nil_of_left_ne_nil
        (List.append_ne_nil_of_right_ne_nil _ mark_ne_nil) _

/-- Every character that is written is one of the text or of the mark. -/
theorem mem_replace (hm : Marks find) {skip : Nat} {before : Option Char} {cs : List Char} {x : Char}
    (h : x ∈ replace find skip before cs) : x ∈ cs ∨ x ∈ mark := by
  induction cs generalizing skip before with
  | nil =>
    unfold replace at h
    cases h
  | cons c cs ih =>
    cases skip with
    | succ skip => exact (ih h).imp_left (List.mem_cons_of_mem c)
    | zero =>
      cases hf : find before (c :: cs) with
      | none =>
        rw [replace_cons_of_none hf] at h
        rcases List.mem_cons.1 h with rfl | h
        · exact Or.inl List.mem_cons_self
        · exact (ih h).imp_left (List.mem_cons_of_mem c)
      | some hit =>
        obtain ⟨n, m, -, -, rfl⟩ := hm before _ hit hf
        rw [replace_cons_of_some hf] at h
        rcases List.mem_append.1 h with h | h
        · exact (List.mem_append.1 h).imp_left List.mem_of_mem_take
        · exact (ih h).imp_left (List.mem_cons_of_mem c)

/-- A character that the mark does not have is not written more often than it was there. -/
theorem count_replace_le (hm : Marks find) {x : Char} (hx : x ∉ mark) {skip : Nat}
    {before : Option Char} (cs : List Char) :
    (replace find skip before cs).count x ≤ (cs.drop skip).count x := by
  induction cs generalizing skip before with
  | nil => simp [replace]
  | cons c cs ih =>
    cases skip with
    | succ skip => exact ih
    | zero =>
      rw [List.drop_zero]
      cases hf : find before (c :: cs) with
      | none =>
        have hrest : (replace find 0 (some c) cs).count x ≤ cs.count x := ih
        rw [replace_cons_of_none hf, List.count_cons, List.count_cons]
        omega
      | some hit =>
        obtain ⟨n, m, hpos, -, rfl⟩ := hm before _ hit hf
        have hrest : (replace find (n + m - 1) (some c) cs).count x ≤
            ((c :: cs).drop (n + m)).count x := by
          obtain ⟨l, hl⟩ : ∃ l, n + m = l + 1 := ⟨n + m - 1, by omega⟩
          rw [hl]
          exact ih
        have htake : ((c :: cs).take n).count x ≤ ((c :: cs).take (n + m)).count x :=
          ((List.take_sublist_take_left (by omega)).count_le x)
        have hsplit : (c :: cs).count x =
            ((c :: cs).take (n + m)).count x + ((c :: cs).drop (n + m)).count x := by
          rw [← List.count_append, List.take_append_drop]
        rw [replace_cons_of_some hf, List.count_append, List.count_append,
          List.count_eq_zero.2 hx, hsplit]
        exact Nat.add_le_add htake hrest

/-- The last character is that of the text or that of the mark. -/
theorem getLast?_replace (hm : Marks find) (before : Option Char) {skip : Nat} {cs : List Char}
    (h : skip < cs.length) : (replace find skip before cs).getLast? = cs.getLast? ∨
      (replace find skip before cs).getLast? = some ']' := by
  have hlast : ∀ v : List Char, v <:+ cs → v ≠ [] → v.getLast? = cs.getLast? := by
    rintro v ⟨t, rfl⟩ hv
    rw [List.getLast?_append, List.getLast?_eq_some_getLast hv, Option.some_or]
  rcases replace_tail skip before cs with heq | ⟨u, b, a, hit, v, hf, hv, heq⟩
  · rw [heq]
    refine Or.inl (hlast _ (List.drop_suffix _ _) fun hnil => ?_)
    rw [List.drop_eq_nil_iff] at hnil
    omega
  · obtain ⟨n, m, -, -, rfl⟩ := hm b a hit hf
    rw [heq, List.getLast?_append, List.getLast?_append]
    cases v with
    | nil =>
      refine Or.inr ?_
      rw [List.getLast?_append, getLast?_mark]
      rfl
    | cons c v =>
      refine Or.inl ?_
      rw [← hlast _ hv (List.cons_ne_nil c v), List.getLast?_eq_some_getLast (List.cons_ne_nil c v)]
      rfl

/-- The first hit of a scan. -/
theorem replace_cases (hm : Marks find) (before : Option Char) (cs : List Char) :
    (∀ x y, cs = x ++ y → find (lastOf before x) y = none) ∨
      ∃ u kept old rest, cs = u ++ (kept ++ (old ++ rest)) ∧ old ≠ [] ∧
        (∀ x y, u = x ++ y → y ≠ [] →
          find (lastOf before x) (y ++ (kept ++ (old ++ rest))) = none) ∧
        find (lastOf before u) (kept ++ (old ++ rest)) =
          some ⟨kept ++ mark, kept.length + old.length⟩ ∧
        replace find 0 before cs =
          u ++ (kept ++ (mark ++ replace find 0 (lastOf (lastOf before u) (kept ++ old)) rest)) := by
  induction cs generalizing before with
  | nil =>
    refine Or.inl fun x y heq => ?_
    obtain ⟨rfl, rfl⟩ := List.append_eq_nil_iff.1 heq.symm
    exact hm.find_nil _
  | cons c cs ih =>
    cases hfind : find before (c :: cs) with
    | some hit =>
      obtain ⟨kept, old, rest, heq, hne, rfl⟩ := hm.exists_parts hfind
      rw [heq] at hfind ⊢
      have hfront : find before ((kept ++ old) ++ rest) =
          some ⟨kept ++ mark, 0 + (kept ++ old).length⟩ := by
        rw [List.append_assoc, Nat.zero_add, List.length_append]
        exact hfind
      have hscan := replace_front (by simp [hne]) hfront
      rw [List.append_assoc, List.append_assoc] at hscan
      exact Or.inr ⟨[], kept, old, rest, rfl, hne, by simp, hfind, hscan⟩
    | none =>
      rcases ih (some c) with hnone | ⟨u, kept, old, rest, rfl, hne, hnone, hhit, hscan⟩
      · refine Or.inl fun x y heq => ?_
        cases x with
        | nil =>
          rw [List.nil_append] at heq
          rwa [← heq]
        | cons d x =>
          obtain ⟨rfl, rfl⟩ := List.cons.inj heq
          exact hnone x y rfl
      · refine Or.inr ⟨c :: u, kept, old, rest, rfl, hne, fun x y heq hy => ?_, hhit, ?_⟩
        · cases x with
          | nil =>
            rw [List.nil_append] at heq
            rw [← heq]
            exact hfind
          | cons d x =>
            obtain ⟨rfl, rfl⟩ := List.cons.inj heq
            exact hnone x y rfl hy
        · rw [replace_cons_of_none hfind, hscan]
          rfl

/-- If the last character survives a hit at the front, the hit does not cover it. -/
theorem survives_hit (hm : Marks find) {d : Char} (hmark : d ≠ ']') {before : Option Char} {c : Char}
    {u : List Char} {hit : Hit} (hf : find before (c :: (u ++ [d])) = some hit)
    (h : (hit.shown ++ replace find (hit.size - 1) (some c) (u ++ [d])).getLast? = some d) :
    hit.size ≤ (c :: u).length ∧
      (replace find (hit.size - 1) (some c) (u ++ [d])).getLast? = some d := by
  obtain ⟨n, m, hpos, hle, rfl⟩ := hm before _ hit hf
  have hlength : (u ++ [d]).length = u.length + 1 := List.length_append
  rw [List.length_cons, hlength] at hle
  dsimp only at h ⊢
  have hshort : n + m ≤ u.length + 1 := by
    by_contra hlong
    have hcovered : (u ++ [d]).length = n + m - 1 := by omega
    rw [← hcovered, replace_length, List.append_nil, List.getLast?_append, getLast?_mark] at h
    exact hmark (Option.some.inj h).symm
  have hskip : n + m - 1 < (u ++ [d]).length := by omega
  refine ⟨hshort, ?_⟩
  rw [List.getLast?_append] at h
  rcases getLast?_replace hm (some c) hskip with hlast | hlast
  · rw [hlast, List.getLast?_concat]
  · rw [hlast] at h
    exact absurd (Option.some.inj h).symm hmark

/-- If the last character survives, and what is found before it does not depend on what follows,
then the scan before it does not either. -/
theorem replace_append_closed (hm : Marks find) {d : Char} (hmark : d ≠ ']') {v : List Char}
    (hfind : ∀ before a, (∀ hit ∈ find before (a ++ [d]), hit.size ≤ a.length) →
      find before (a ++ d :: v) = find before (a ++ [d])) {skip : Nat} {before : Option Char}
    {u : List Char} (h : (replace find skip before (u ++ [d])).getLast? = some d) :
    replace find skip before (u ++ d :: v) =
      replace find skip before (u ++ [d]) ++ replace find 0 (some d) v := by
  induction u generalizing skip before with
  | nil =>
    cases skip with
    | succ skip =>
      rw [List.nil_append, replace] at h
      unfold replace at h
      cases h
    | zero =>
      have hnone : find before [d] = none := by
        cases hf : find before [d] with
        | none => rfl
        | some hit =>
          obtain ⟨n, m, hpos, hle, rfl⟩ := hm before _ hit hf
          rw [List.nil_append, replace_cons_of_some hf, replace, List.append_nil,
            List.getLast?_append, getLast?_mark] at h
          exact absurd (Option.some.inj h).symm hmark
      have hv : find before ([] ++ d :: v) = find before ([] ++ [d]) :=
        hfind before [] (by rw [List.nil_append, hnone]; simp)
      rw [List.nil_append, List.nil_append, hnone] at hv
      rw [List.nil_append, List.nil_append, replace_cons_of_none hv, replace_cons_of_none hnone]
      rfl
  | cons c u ih =>
    cases skip with
    | succ skip => exact ih h
    | zero =>
      rw [List.cons_append] at h
      have hv := hfind before (c :: u)
      rw [List.cons_append, List.cons_append] at hv
      rw [List.cons_append, List.cons_append]
      cases hf : find before (c :: (u ++ [d])) with
      | none =>
        rw [hf] at hv
        have hne : replace find 0 (some c) (u ++ [d]) ≠ [] := replace_ne_nil hm _ (by simp)
        rw [replace_cons_of_none hf, List.getLast?_cons_of_ne_nil hne] at h
        rw [replace_cons_of_none hf, replace_cons_of_none (hv (by simp)), ih h, List.cons_append]
      | some hit =>
        rw [hf] at hv
        rw [replace_cons_of_some hf] at h
        obtain ⟨hsize, hrest⟩ := survives_hit hm hmark hf h
        have hhit : ∀ hit' ∈ some hit, hit'.size ≤ (c :: u).length :=
          fun hit' h => Option.some.inj h ▸ hsize
        rw [replace_cons_of_some hf, replace_cons_of_some (hv hhit), ih hrest, List.append_assoc]

end

/-! ## Names -/

/-- A character between the capital and the small letters, or before both, has no other case. -/
theorem toLower_eq_iff {k c : Char} (hk : k.toNat < 97) (hk' : k.toNat < 65 ∨ 90 < k.toNat) :
    c.toLower = k ↔ c = k := by
  unfold Char.toLower
  split
  · rename_i h
    have hcapital : 65 ≤ c.toNat ∧ c.toNat ≤ 90 :=
      ⟨UInt32.le_iff_toNat_le.1 h.1, UInt32.le_iff_toNat_le.1 h.2⟩
    have hsmall : (c.val + ('a'.val - 'A'.val)).toNat = c.toNat + 32 := by
      rw [UInt32.toNat_add]
      have hdiff : ('a'.val - 'A'.val).toNat = 32 := rfl
      rw [hdiff]
      show (c.toNat + 32) % 2 ^ 32 = _
      omega
    refine iff_of_false (fun he => ?_) (fun he => ?_)
    · have hnat := congrArg Char.toNat he
      change (c.val + ('a'.val - 'A'.val)).toNat = k.toNat at hnat
      omega
    · rw [he] at hcapital
      omega
  · rfl

theorem isCaseOf_symbol {k c : Char} (hk : k ∈ ['=', ':', '"']) : isCaseOf k c = true ↔ c = k := by
  have hforeign : foreignCases.lookup k = none := by
    revert k
    decide
  have hcode : k.toNat < 97 ∧ (k.toNat < 65 ∨ 90 < k.toNat) := by
    revert k
    decide
  unfold isCaseOf
  rw [hforeign]
  simp [toLower_eq_iff hcode.1 hcode.2]

/-- A name with a symbol does not stand in a text without the symbol. -/
theorem afterName?_eq_none {ks cs : List Char} {k : Char} (hsymbol : k ∈ ['=', ':', '"'])
    (hk : k ∈ ks) (h : k ∉ cs) : afterName? ks cs = none := by
  induction ks generalizing cs with
  | nil => cases hk
  | cons k' ks ih =>
    cases cs with
    | nil => rfl
    | cons c cs =>
      unfold afterName?
      split
      · rename_i hc
        rcases List.mem_cons.1 hk with rfl | hk
        · rw [isCaseOf_symbol hsymbol] at hc
          exact absurd (hc ▸ List.mem_cons_self) h
        · exact ih hk fun hcs => h (List.mem_cons_of_mem c hcs)
      · rfl

theorem afterName?_append {ks : List Char} {d : Char} (hd : ∀ k ∈ ks, isCaseOf k d = false)
    (a v : List Char) : afterName? ks (a ++ d :: v) = (afterName? ks a).map (· ++ d :: v) := by
  induction ks generalizing a with
  | nil => rfl
  | cons k ks ih =>
    have hks := ih fun k' hk' => hd k' (List.mem_cons_of_mem k hk')
    cases a with
    | nil =>
      have hk := hd k List.mem_cons_self
      simp [afterName?, hk]
    | cons c a =>
      by_cases hc : isCaseOf k c = true
      · simpa [afterName?, hc] using hks a
      · simp [afterName?, hc]

theorem afterName?_of_avoids {ks : List Char} {c : Char} (hne : ks ≠ [])
    (hc : ∀ k ∈ ks, isCaseOf k c = false) (v : List Char) : afterName? ks (c :: v) = none := by
  obtain ⟨k, ks, rfl⟩ := List.exists_cons_of_ne_nil hne
  rw [afterName?, if_neg (by simp [hc k List.mem_cons_self])]

theorem afterName?_append_of_some {ks a rest : List Char} (h : afterName? ks a = some rest)
    (v : List Char) : afterName? ks (a ++ v) = some (rest ++ v) := by
  induction ks generalizing a with
  | nil =>
    obtain rfl := Option.some.inj h
    rfl
  | cons k ks ih =>
    cases a with
    | nil => cases h
    | cons c a =>
      rw [afterName?] at h
      rw [List.cons_append, afterName?]
      split at h
      · rename_i hc
        rw [if_pos hc, ih h]
      · cases h

theorem suffix_of_afterName? {ks cs rest : List Char} (h : afterName? ks cs = some rest) :
    rest <:+ cs := by
  induction ks generalizing cs with
  | nil =>
    obtain rfl := Option.some.inj h
    exact List.suffix_rfl
  | cons k ks ih =>
    cases cs with
    | nil => cases h
    | cons c cs =>
      unfold afterName? at h
      split at h
      · exact (ih h).trans (List.suffix_cons c cs)
      · cases h

theorem length_afterName?_le {ks cs rest : List Char} (h : afterName? ks cs = some rest) :
    rest.length ≤ cs.length := (suffix_of_afterName? h).length_le

theorem length_dropBlank_le (cs : List Char) : (dropBlank cs).length ≤ cs.length :=
  (List.dropWhile_suffix isBlank).length_le

theorem dropBlank_append {d : Char} (hd : isBlank d = false) (a v : List Char) :
    dropBlank (a ++ d :: v) = dropBlank a ++ d :: v := by
  unfold dropBlank
  induction a with
  | nil => simp [hd]
  | cons c a ih =>
    by_cases hc : isBlank c = true
    · simpa [hc] using ih
    · simp [hc]

theorem lineValue_append {d : Char} (hd : isBlank d = false) (a v : List Char) :
    lineValue (a ++ d :: v) = dropBlank a ++ d :: v := by
  have hne : dropBlank a ++ d :: v ≠ [] := by simp
  unfold lineValue
  rw [dropBlank_append hd]
  split
  · contradiction
  · rfl

theorem length_lineValue_le (rest : List Char) : (lineValue rest).length ≤ rest.length := by
  unfold lineValue
  split
  · have hsplit := congrArg List.length
      (List.takeWhile_append_dropWhile (p := isLineEnd) (l := rest.reverse))
    have hhead : (rest.reverse.dropWhile isLineEnd).head?.toList.length ≤
        (rest.reverse.dropWhile isLineEnd).length := by
      cases rest.reverse.dropWhile isLineEnd <;> simp
    rw [List.length_append, List.length_reverse] at hsplit
    rw [List.length_append, List.length_reverse]
    omega
  · exact length_dropBlank_le rest

/-! ## Rules on running text -/

/-- A scheme and at least one blank, with the blanks that follow. -/
def afterScheme? (scheme : String) (cs : List Char) : Option (List Char) :=
  match afterName? scheme.toList cs with
  | some (b :: rest) => if isBlank b then some (dropBlank rest) else none
  | _ => none

namespace Rule

/-- A rule on running text: what it finds ends with the value. -/
def isRunning : Rule → Bool
  | field _ => false
  | _ => true

/-- The characters of values. -/
def isPart : Rule → Char → Bool
  | parameter _ _ => isValueChar
  | header _ => (!isBlank ·)
  | credentials _ => (!isBlank ·)
  | line _ => (!isLineEnd ·)
  | field _ => (· != '"')

/-- The characters that a rule looks for. -/
def letters : Rule → List Char
  | parameter name _ => name.toList ++ ['=']
  | header scheme => "authorization:".toList ++ scheme.toList
  | credentials scheme => scheme.toList
  | line name => name.toList ++ [':']
  | field name => '"' :: ':' :: name.toList

/-- The rule does not look for the character. -/
def Avoids (r : Rule) (d : Char) : Prop := ∀ k ∈ r.letters, isCaseOf k d = false

instance (r : Rule) (d : Char) : Decidable (r.Avoids d) :=
  inferInstanceAs (Decidable (∀ k ∈ r.letters, isCaseOf k d = false))

/-- Where the value starts that a rule finds at the front of a text, if it is not blank. -/
def begin? (r : Rule) (before : Option Char) (cs : List Char) : Option (List Char) :=
  match r with
  | parameter name wordStart =>
    if wordStart && before.any isWord then none else afterName? (name.toList ++ ['=']) cs
  | header scheme =>
    (afterName? "authorization:".toList cs).bind fun rest => afterScheme? scheme (dropBlank rest)
  | credentials scheme => if before.isSome then none else afterScheme? scheme cs
  | line name => (afterName? (name.toList ++ [':']) cs).map dropBlank
  | field _ => none

end Rule

/-! ### Hits of a value -/

theorem marks_hitOf {p : Char → Bool} {cs rest : List Char} {hit : Hit}
    (hrest : rest.length ≤ cs.length) (h : hitOf p cs rest = some hit) :
    ∃ n m, 0 < m ∧ n + m ≤ cs.length ∧ hit = ⟨cs.take n ++ mark, n + m⟩ := by
  unfold hitOf hitAfter at h
  have hvalue : (rest.takeWhile p).length ≤ rest.length := (List.takeWhile_prefix p).length_le
  split at h
  · cases h
  · exact ⟨_, _, by omega, by omega, (Option.some.inj h).symm⟩

theorem hitOf_congr {p : Char → Bool} {a rest v v' : List Char}
    (h : ((rest ++ v).takeWhile p).length = ((rest ++ v').takeWhile p).length) :
    hitOf p (a ++ v) (rest ++ v) = hitOf p (a ++ v') (rest ++ v') := by
  have htake : ∀ w : List Char, (a ++ w).take ((a ++ w).length - (rest ++ w).length) =
      a.take (a.length - rest.length) := by
    intro w
    rw [List.length_append, List.length_append, Nat.add_sub_add_right,
      List.take_append_of_le_length (Nat.sub_le _ _)]
  have hlen : ∀ w : List Char, (a ++ w).length - (rest ++ w).length = a.length - rest.length := by
    intro w
    rw [List.length_append, List.length_append, Nat.add_sub_add_right]
  unfold hitOf hitAfter
  rw [h, htake, htake, hlen, hlen]

/-- The hit of a value is the same whatever follows a character that it does not reach. -/
theorem hitOf_append_closed {p : Char → Bool} {d : Char} (hd : p d = true) {a rest : List Char}
    (hrest : rest.length ≤ a.length)
    (h : ∀ hit ∈ hitOf p (a ++ [d]) (rest ++ [d]), hit.size ≤ a.length) (v : List Char) :
    hitOf p (a ++ d :: v) (rest ++ d :: v) = hitOf p (a ++ [d]) (rest ++ [d]) := by
  refine hitOf_congr ?_
  rw [List.takeWhile_append, List.takeWhile_append]
  by_cases hall : (rest.takeWhile p).length = rest.length
  · exfalso
    have hvalue : ((rest ++ [d]).takeWhile p).length = rest.length + 1 := by
      rw [List.takeWhile_append, if_pos hall]
      simp [hd]
    unfold hitOf hitAfter at h
    rw [hvalue, if_neg (Nat.succ_ne_zero _)] at h
    have hsize := h _ rfl
    simp only [List.length_append, List.length_singleton] at hsize
    omega
  · rw [if_neg hall, if_neg hall]

namespace Rule

variable {r : Rule} {d : Char}

theorem suffix_of_begin? {before : Option Char} {cs rest : List Char}
    (h : r.begin? before cs = some rest) : rest <:+ cs := by
  have hscheme : ∀ {scheme : String} {cs rest : List Char}, afterScheme? scheme cs = some rest →
      rest <:+ cs := by
    intro scheme cs rest h
    unfold afterScheme? at h
    split at h
    · rename_i b rest' hname
      split at h
      · obtain rfl := Option.some.inj h
        have hblanks := (List.dropWhile_suffix isBlank).trans (List.suffix_cons b rest')
        exact hblanks.trans (suffix_of_afterName? hname)
      · cases h
    · cases h
  cases r with
  | parameter name wordStart =>
    simp only [begin?] at h
    split at h
    · cases h
    · exact suffix_of_afterName? h
  | header scheme =>
    obtain ⟨rest', hname, h⟩ := Option.bind_eq_some_iff.1 h
    exact ((hscheme h).trans (List.dropWhile_suffix isBlank)).trans (suffix_of_afterName? hname)
  | credentials scheme =>
    simp only [begin?] at h
    split at h
    · cases h
    · exact hscheme h
  | line name =>
    obtain ⟨rest', hname, rfl⟩ := Option.map_eq_some_iff.1 h
    exact (List.dropWhile_suffix isBlank).trans (suffix_of_afterName? hname)
  | field name => cases h

theorem length_begin?_le {before : Option Char} {cs rest : List Char}
    (h : r.begin? before cs = some rest) : rest.length ≤ cs.length := (suffix_of_begin? h).length_le

theorem findCredentials_append {scheme : String} (hd : ∀ k ∈ scheme.toList, isCaseOf k d = false)
    (hb : isBlank d = false) (cs a v : List Char) :
    findCredentials scheme cs (a ++ d :: v) =
      (afterScheme? scheme a).bind fun rest => hitOf (!isBlank ·) cs (rest ++ d :: v) := by
  unfold findCredentials afterScheme?
  rw [afterName?_append hd]
  cases hname : afterName? scheme.toList a with
  | none => rfl
  | some rest =>
    cases rest with
    | nil => simp [hb]
    | cons b rest =>
      by_cases hblank : isBlank b = true
      · simp [hblank, dropBlank_append hb]
      · simp [hblank]

/-- What a rule finds before a character that it does not look for and that is not blank. -/
theorem find_append (hr : r.isRunning = true) (hd : r.Avoids d) (hb : isBlank d = false)
    (before : Option Char) (a v : List Char) :
    r.find before (a ++ d :: v) =
      (r.begin? before a).bind fun rest => hitOf r.isPart (a ++ d :: v) (rest ++ d :: v) := by
  cases r with
  | parameter name wordStart =>
    simp only [find, begin?, isPart]
    split
    · rfl
    · have hname : ∀ k ∈ name.toList ++ ['='], isCaseOf k d = false := hd
      rw [afterName?_append hname]
      cases afterName? (name.toList ++ ['=']) a <;> rfl
  | header scheme =>
    have hname : ∀ k ∈ "authorization:".toList, isCaseOf k d = false :=
      fun k hk => hd k (List.mem_append_left _ hk)
    have hscheme : ∀ k ∈ scheme.toList, isCaseOf k d = false :=
      fun k hk => hd k (List.mem_append_right _ hk)
    simp only [find, begin?, isPart]
    rw [afterName?_append hname]
    cases afterName? "authorization:".toList a with
    | none => rfl
    | some rest =>
      simp only [Option.map_some, Option.bind_some]
      rw [dropBlank_append hb, findCredentials_append hscheme hb]
  | credentials scheme =>
    simp only [find, begin?, isPart]
    split
    · rfl
    · exact findCredentials_append hd hb _ a v
  | line name =>
    simp only [find, begin?, isPart]
    have hname : ∀ k ∈ name.toList ++ [':'], isCaseOf k d = false := hd
    rw [afterName?_append hname]
    cases afterName? (name.toList ++ [':']) a with
    | none => rfl
    | some rest =>
      simp only [Option.map_some, Option.bind_some]
      rw [lineValue_append hb]
  | field name => cases hr

theorem marks (hr : r.isRunning = true) : Marks r.find := by
  have hcredentials : ∀ {scheme : String} {cs from' : List Char} {hit : Hit},
      from'.length ≤ cs.length → findCredentials scheme cs from' = some hit →
      ∃ n m, 0 < m ∧ n + m ≤ cs.length ∧ hit = ⟨cs.take n ++ mark, n + m⟩ := by
    intro scheme cs from' hit hle h
    unfold findCredentials at h
    split at h
    · rename_i b rest hname
      split at h
      · have hrest := length_afterName?_le hname
        have hdrop := length_dropBlank_le rest
        rw [List.length_cons] at hrest
        exact marks_hitOf (by omega) h
      · cases h
    · cases h
  intro before cs hit h
  cases r with
  | parameter name wordStart =>
    simp only [find] at h
    split at h
    · cases h
    · split at h
      · rename_i rest hname
        exact marks_hitOf (length_afterName?_le hname) h
      · cases h
  | header scheme =>
    simp only [find] at h
    split at h
    · rename_i rest hname
      exact hcredentials (Nat.le_trans (length_dropBlank_le rest) (length_afterName?_le hname)) h
    · cases h
  | credentials scheme =>
    simp only [find] at h
    split at h
    · cases h
    · exact hcredentials le_rfl h
  | line name =>
    simp only [find] at h
    split at h
    · rename_i rest hname
      exact marks_hitOf (Nat.le_trans (length_lineValue_le rest) (length_afterName?_le hname)) h
    · cases h
  | field name => cases hr

/-! ### Scans behind a seam -/

/-- A value ends at a character that cannot belong to it. -/
theorem scan_append_stop (hr : r.isRunning = true) (hd : r.Avoids d) (hb : isBlank d = false)
    {v : List Char} (hv : ∀ c ∈ v.head?, r.isPart c = false) (before : Option Char) (u : List Char) :
    replace r.find 0 before (u ++ d :: v) =
      replace r.find 0 before (u ++ [d]) ++ replace r.find 0 (some d) v := by
  have hseam : ∀ before a, a ≠ [] → a <:+ u ++ [d] → r.find before (a ++ v) = r.find before a := by
    intro before a ha hs
    obtain ⟨a, rfl⟩ : ∃ a', a = a' ++ [d] := by
      rcases List.suffix_concat_iff.1 hs with rfl | ⟨t, rfl, -⟩
      · exact absurd rfl ha
      · exact ⟨t, rfl⟩
    rw [List.append_assoc, List.singleton_append, find_append hr hd hb, find_append hr hd hb]
    refine Option.bind_congr fun rest _ => hitOf_congr ?_
    have hstop : (d :: v).takeWhile r.isPart = [d].takeWhile r.isPart := by
      cases v with
      | nil => rfl
      | cons c v =>
        have hc := hv c rfl
        simp only [List.takeWhile_cons, List.takeWhile_nil, hc]
        rfl
    rw [List.takeWhile_append, List.takeWhile_append, hstop]
  have h := replace_append (marks hr).size_le hseam (Nat.zero_le _) before
  rwa [lastOf_concat, List.append_assoc, List.singleton_append] at h

/-- What a rule finds is the same whatever follows a character that it does not reach. -/
theorem find_append_closed (hr : r.isRunning = true) (hd : r.Avoids d) (hb : isBlank d = false)
    (hpart : r.isPart d = true) (v : List Char) (before : Option Char) (a : List Char)
    (hsize : ∀ hit ∈ r.find before (a ++ [d]), hit.size ≤ a.length) :
    r.find before (a ++ d :: v) = r.find before (a ++ [d]) := by
  rw [find_append hr hd hb] at hsize ⊢
  rw [find_append hr hd hb]
  cases hbegin : r.begin? before a with
  | none => rfl
  | some rest =>
    rw [hbegin] at hsize
    exact hitOf_append_closed hpart (length_begin?_le hbegin) hsize v

/-- If the last character survives, the scan before it does not depend on what follows. -/
theorem scan_append_closed (hr : r.isRunning = true) (hd : r.Avoids d) (hb : isBlank d = false)
    (hpart : r.isPart d = true) (hmark : d ≠ ']') {before : Option Char} {u : List Char}
    (h : (replace r.find 0 before (u ++ [d])).getLast? = some d) (v : List Char) :
    replace r.find 0 before (u ++ d :: v) =
      replace r.find 0 before (u ++ [d]) ++ replace r.find 0 (some d) v :=
  replace_append_closed (marks hr) hmark (find_append_closed hr hd hb hpart v) h

end Rule

/-! ## Rules one after the other -/

/-- The text once rules have been applied, one after the other. -/
def applyAll (rs : List Rule) (cs : List Char) : List Char := rs.foldl (fun cs r => r.apply cs) cs

theorem redact_eq (text : String) :
    redact text = String.ofList (applyAll rules text.toList) := rfl

theorem applyAll_cons (r : Rule) (rs : List Rule) (cs : List Char) :
    applyAll (r :: rs) cs = applyAll rs (r.apply cs) := rfl

theorem applyAll_append (rs rs' : List Rule) (cs : List Char) :
    applyAll (rs ++ rs') cs = applyAll rs' (applyAll rs cs) := List.foldl_append

theorem applyAll_eq_self {rs : List Rule} {cs : List Char} (h : ∀ r ∈ rs, r.apply cs = cs) :
    applyAll rs cs = cs := by
  unfold applyAll
  induction rs with
  | nil => rfl
  | cons r rs ih =>
    rw [List.foldl_cons, h r List.mem_cons_self]
    exact ih fun r' hr' => h r' (List.mem_cons_of_mem r hr')

end LoginCallback.Redaction
