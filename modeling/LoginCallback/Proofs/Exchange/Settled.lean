import LoginCallback.Proofs.Exchange.Parameters
import LoginCallback.Proofs.Exchange.Running
import Mathlib.Data.List.Infix

/-!
# Settled texts

A text is settled for a rule if every hit in it, wherever it begins, shows what it covers
(`Settled`). The rule leaves such a text (`Settled.apply_eq`). That a rule leaves its own result,
and a later rule does not change this, is proved for the rules on running text together
(`settled_replace`). A hit puts the mark between what stands before the value, where every value is
the mark already (`Firm`), and the character that ends the value, which ends the values of the
earlier rules as well since the rules come in the order of their reach (`Rule.reach`).
-/

namespace LoginCallback.Redaction

open LoginCallback.Text (isBlank isWord)

/-! ## Settled texts -/

/-- Every hit in the text shows what it covers. -/
def Settled (r : Rule) (before : Option Char) (cs : List Char) : Prop :=
  ∀ u v hit, cs = u ++ v → r.find (lastOf before u) v = some hit → hit.shown = v.take hit.size

section

variable {r : Rule} {before : Option Char}

theorem Settled.suffix {u v : List Char} (h : Settled r before (u ++ v)) :
    Settled r (lastOf before u) v := by
  rintro u' v' hit rfl hfind
  rw [← lastOf_append] at hfind
  exact h (u ++ u') v' hit (List.append_assoc _ _ _).symm hfind

theorem settled_append {u v : List Char}
    (hu : ∀ x y hit, u = x ++ y → y ≠ [] → r.find (lastOf before x) (y ++ v) = some hit →
      hit.shown = (y ++ v).take hit.size)
    (hv : Settled r (lastOf before u) v) : Settled r before (u ++ v) := by
  intro x w hit heq hfind
  rcases List.append_eq_append_iff.1 heq with ⟨a, rfl, rfl⟩ | ⟨a, rfl, rfl⟩
  · rw [lastOf_append] at hfind
    exact hv a w hit rfl hfind
  · cases a with
    | nil =>
      rw [List.append_nil] at hv
      exact hv [] v hit rfl hfind
    | cons c a => exact hu x (c :: a) hit rfl (List.cons_ne_nil c a) hfind

/-- A rule leaves a settled text. -/
theorem Settled.replace_eq (hr : r.isRunning = true) {cs : List Char} (h : Settled r before cs)
    (skip : Nat) : replace r.find skip before cs = cs.drop skip := by
  induction cs generalizing skip before with
  | nil => simp [replace]
  | cons c cs ih =>
    have hrest : Settled r (some c) cs := Settled.suffix (u := [c]) h
    cases skip with
    | succ skip => exact ih hrest skip
    | zero =>
      cases hfind : r.find before (c :: cs) with
      | none => rw [replace_cons_of_none hfind, ih hrest, List.drop_zero, List.drop_zero]
      | some hit =>
        have hshown := h [] (c :: cs) hit rfl hfind
        obtain ⟨n, m, hpos, -, rfl⟩ := Rule.marks hr before _ hit hfind
        obtain ⟨l, hl⟩ : ∃ l, n + m = l + 1 := ⟨n + m - 1, by omega⟩
        dsimp only at hshown
        rw [replace_cons_of_some hfind, ih hrest]
        dsimp only
        rw [hshown, hl, List.take_succ_cons, Nat.add_sub_cancel, List.cons_append,
          List.take_append_drop, List.drop_zero]

theorem Settled.apply_eq (hr : r.isRunning = true) {cs : List Char} (h : Settled r none cs) :
    r.apply cs = cs := h.replace_eq hr 0

end

/-! ## Where values begin -/

theorem dropBlank_append_of_ne {a : List Char} (h : dropBlank a ≠ []) (z : List Char) :
    dropBlank (a ++ z) = dropBlank a ++ z := by
  unfold dropBlank at h ⊢
  rw [List.dropWhile_append]
  rw [← List.isEmpty_eq_false_iff] at h
  rw [h]
  rfl

theorem afterScheme?_append {scheme : String} {a y : List Char} (h : afterScheme? scheme a = some y)
    (hy : y ≠ []) (z : List Char) : ∃ c rest, afterName? scheme.toList (a ++ z) = some (c :: rest) ∧
      isBlank c = true ∧ dropBlank rest = y ++ z := by
  unfold afterScheme? at h
  split at h
  · rename_i c rest hname
    split at h
    · rename_i hblank
      obtain rfl := Option.some.inj h
      exact ⟨c, rest ++ z, afterName?_append_of_some hname z, hblank, dropBlank_append_of_ne hy z⟩
    · cases h
  · cases h

theorem findCredentials_of_begin {scheme : String} {a y : List Char}
    (h : afterScheme? scheme a = some y) (hy : y ≠ []) (cs z : List Char) :
    findCredentials scheme cs (a ++ z) = hitOf (!isBlank ·) cs (y ++ z) := by
  obtain ⟨c, rest, hname, hblank, hrest⟩ := afterScheme?_append h hy z
  unfold findCredentials
  rw [hname]
  dsimp only
  rw [if_pos hblank, hrest]

/-- A value that begins inside a text is the same one whatever follows the text. -/
theorem Rule.find_of_begin {r : Rule} {before : Option Char} {a y : List Char}
    (h : r.begin? before a = some y) (hy : y ≠ []) (z : List Char) :
    r.find before (a ++ z) = hitOf r.isPart (a ++ z) (y ++ z) := by
  cases r with
  | parameter name wordStart =>
    simp only [begin?] at h
    simp only [find, isPart]
    split at h
    · cases h
    · rename_i hstart
      rw [if_neg hstart, afterName?_append_of_some h z]
  | header scheme =>
    obtain ⟨rest, hname, h⟩ := Option.bind_eq_some_iff.1 h
    have hne : dropBlank rest ≠ [] := by
      intro hnil
      rw [hnil] at h
      unfold afterScheme? at h
      cases hscheme : scheme.toList <;> simp [hscheme, afterName?] at h
    simp only [find, isPart]
    rw [afterName?_append_of_some hname z]
    dsimp only
    rw [dropBlank_append_of_ne hne, findCredentials_of_begin h hy]
  | credentials scheme =>
    simp only [begin?] at h
    simp only [find, isPart]
    split at h
    · cases h
    · rename_i hstart
      rw [if_neg hstart, findCredentials_of_begin h hy]
  | line name =>
    obtain ⟨rest, hname, rfl⟩ := Option.map_eq_some_iff.1 h
    have hvalue : lineValue (rest ++ z) = dropBlank rest ++ z := by
      unfold lineValue
      rw [dropBlank_append_of_ne hy]
      split
      · rename_i hnil
        exact absurd (List.append_eq_nil_iff.1 hnil).1 hy
      · rfl
    simp only [find, isPart]
    rw [afterName?_append_of_some hname z]
    dsimp only
    rw [hvalue]
  | field name => cases h

/-! ### Hits that show what they cover -/

theorem hitOf_eq (p : Char → Bool) (kept w : List Char) :
    hitOf p (kept ++ w) w =
      if w.takeWhile p = [] then none
      else some ⟨kept ++ mark, kept.length + (w.takeWhile p).length⟩ := by
  unfold hitOf hitAfter
  rw [List.length_append, Nat.add_sub_cancel, List.take_left]
  simp only [List.length_eq_zero_iff]

/-- A hit shows what it covers if the value is the mark. -/
theorem shows_iff (p : Char → Bool) (kept w : List Char) :
    (∀ hit, hitOf p (kept ++ w) w = some hit → hit.shown = (kept ++ w).take hit.size) ↔
      w.takeWhile p = [] ∨ w.takeWhile p = mark := by
  have hvalue : w.take (w.takeWhile p).length = w.takeWhile p :=
    (List.prefix_iff_eq_take.1 (List.takeWhile_prefix p)).symm
  rw [hitOf_eq]
  by_cases hnil : w.takeWhile p = []
  · simp [hnil]
  · simp only [hnil, if_false, Option.some.injEq, forall_eq', false_or]
    rw [List.take_length_add_append, List.append_cancel_left_eq, hvalue]
    exact eq_comm

theorem takeWhile_append_of_ne {p : Char → Bool} {y : List Char} (h : y.takeWhile p ≠ y)
    (z : List Char) : (y ++ z).takeWhile p = y.takeWhile p := by
  rw [List.takeWhile_append, if_neg fun heq => h ((List.takeWhile_prefix p).eq_of_length heq)]

/-! ### Texts before a value -/

/-- Every value that begins in the text, and not at its end, also ends in it, and is empty or the
mark. -/
def Firm (r : Rule) (before : Option Char) (a : List Char) : Prop :=
  ∀ x w y, a = x ++ w → r.begin? (lastOf before x) w = some y → y ≠ [] →
    y.takeWhile r.isPart ≠ y ∧ (y.takeWhile r.isPart = [] ∨ y.takeWhile r.isPart = mark)

section

variable {r : Rule} {before : Option Char} {a : List Char}

/-- The text before a character that the mark does not have, in a settled text. -/
theorem firm_of_settled {z : List Char} (h : Settled r before (a ++ z)) {c : Char}
    (hlast : a.getLast? = some c) (hmark : c ∉ mark) : Firm r before a := by
  rintro x w y rfl hbegin hy
  obtain ⟨kept, rfl⟩ := Rule.suffix_of_begin? hbegin
  have hfind := Rule.find_of_begin hbegin hy z
  rw [List.append_assoc] at hfind
  have hshown : ∀ hit, hitOf r.isPart (kept ++ (y ++ z)) (y ++ z) = some hit →
      hit.shown = (kept ++ (y ++ z)).take hit.size := by
    intro hit hhit
    exact h x _ hit (by simp) (hfind.trans hhit)
  rw [shows_iff] at hshown
  by_cases hall : y.takeWhile r.isPart = y
  · exfalso
    rw [List.takeWhile_append, if_pos (by rw [hall])] at hshown
    rcases hshown with hnil | heq
    · exact hy (List.append_eq_nil_iff.1 hnil).1
    · have hmem : c ∈ y := by
        rw [← List.append_assoc, List.getLast?_append_of_ne_nil _ hy] at hlast
        exact List.mem_of_getLast? hlast
      exact hmark (heq ▸ List.mem_append_left _ hmem)
  · rw [takeWhile_append_of_ne hall] at hshown
    exact ⟨hall, hshown⟩

/-- What stands in front of a value, up to the value. -/
structure Opening (r : Rule) (kept : List Char) : Prop where
  last : ∃ c, kept.getLast? = some c ∧ c ∉ mark
  /-- Nothing begins inside it. -/
  once : ∀ before x w, kept = x ++ w → x ≠ [] → r.begin? (lastOf before x) w = none

/-- The text up to the first hit. -/
theorem firm_of_unfound {u kept z : List Char} {size : Nat}
    (hnone : ∀ x w, u = x ++ w → w ≠ [] → r.find (lastOf before x) (w ++ (kept ++ z)) = none)
    (hfind : r.find (lastOf before u) (kept ++ z) = some ⟨kept ++ mark, size⟩)
    (hopening : Opening r kept) : Firm r before (u ++ kept) := by
  have hstart : ∀ y, r.begin? (lastOf before u) kept = some y → y = [] := by
    intro y hbegin
    by_contra hy
    obtain ⟨front, rfl⟩ := Rule.suffix_of_begin? hbegin
    rw [Rule.find_of_begin hbegin hy z, List.append_assoc, hitOf_eq] at hfind
    split at hfind
    · cases hfind
    · have hlength := congrArg (fun hit => hit.shown.length) (Option.some.inj hfind)
      have hpos := List.length_pos_iff.2 hy
      simp only [List.length_append] at hlength
      omega
  intro x w y heq hbegin hy
  rcases List.append_eq_append_iff.1 heq with ⟨v, rfl, rfl⟩ | ⟨v, rfl, rfl⟩
  · cases v with
    | nil =>
      rw [List.append_nil] at hbegin
      exact absurd (hstart y hbegin) hy
    | cons c v =>
      have hopen := hopening.once (lastOf before u) (c :: v) w rfl (List.cons_ne_nil c v)
      rw [← lastOf_append, hbegin] at hopen
      cases hopen
  · cases v with
    | nil =>
      rw [List.append_nil] at hstart
      exact absurd (hstart y hbegin) hy
    | cons c v =>
      obtain ⟨front, hfront⟩ := Rule.suffix_of_begin? hbegin
      have hhere := hnone x (c :: v) rfl (List.cons_ne_nil c v)
      rw [← List.append_assoc, Rule.find_of_begin hbegin hy z, ← hfront, List.append_assoc,
        hitOf_eq] at hhere
      split at hhere
      · rename_i hvoid
        have hall : y.takeWhile r.isPart ≠ y := by
          intro hall
          rw [List.takeWhile_append, if_pos (by rw [hall])] at hvoid
          exact hy (List.append_eq_nil_iff.1 hvoid).1
        rw [takeWhile_append_of_ne hall] at hvoid
        exact ⟨hall, Or.inl hvoid⟩
      · cases hhere

end

/-! ### The mark -/

theorem Rule.begin?_of_none {r : Rule} {cs : List Char} (h : r.begin? none cs = none)
    (before : Option Char) : r.begin? before cs = none := by
  cases r with
  | parameter name wordStart =>
    simp only [begin?, Option.any_none, Bool.and_false, Bool.false_eq_true, if_false] at h ⊢
    rw [h, ite_self]
  | header scheme => exact h
  | credentials scheme =>
    simp only [begin?, Option.isSome_none, Bool.false_eq_true, if_false] at h ⊢
    rw [h, ite_self]
  | line name => exact h
  | field name => rfl

section

variable {r : Rule} {before : Option Char}

/-- A bracket or a quote is no part of what a rule on running text looks for, and part of values. -/
theorem running_facts (hr : r ∈ running) : r.isRunning = true ∧
    (∀ d ∈ ['[', ']', '"'], r.Avoids d ∧ r.isPart d = true ∧ isBlank d = false) ∧
    ∀ c ∈ mark, r.isPart c = true := by
  revert r
  decide

/-- Nothing is found in the mark. -/
theorem find_mark (hr : r ∈ running) {x y : List Char} (hmark : mark = x ++ y) (hy : y ≠ [])
    (before : Option Char) (z : List Char) : r.find before (y ++ z) = none := by
  have hall : ∀ r ∈ running, ∀ w ∈ "[REDACTED".toList.tails, r.begin? none w = none := by
    decide +kernel
  have hsuffix : y <:+ "[REDACTED".toList ++ [']'] := ⟨x, hmark.symm⟩
  obtain ⟨hrunning, hsigns, -⟩ := running_facts hr
  obtain ⟨havoids, -, hblank⟩ := hsigns ']' (by simp)
  rcases List.suffix_concat_iff.1 hsuffix with rfl | ⟨w, rfl, hw⟩
  · exact absurd rfl hy
  · have hnone := hall r hr w ((List.mem_tails _ _).2 hw)
    rw [List.append_assoc, List.singleton_append, Rule.find_append hrunning havoids hblank,
      Rule.begin?_of_none hnone, Option.bind_none]

/-- A value becomes the mark. -/
theorem settled_of_firm (hr : r ∈ running) {a rest : List Char} (ha : Firm r before a)
    (hstop : ∀ c ∈ rest.head?, r.isPart c = false) (hrest : Settled r (some ']') rest) :
    Settled r before (a ++ (mark ++ rest)) := by
  obtain ⟨hrunning, hsigns, hpart⟩ := running_facts hr
  obtain ⟨havoids, -, hblank⟩ := hsigns '[' (by simp)
  refine settled_append (fun x w hit heq hw hfind => ?_)
    (settled_append (fun x w hit heq hw hfind => ?_) hrest)
  · have hmark : mark ++ rest = '[' :: ("REDACTED]".toList ++ rest) := rfl
    rw [hmark, Rule.find_append hrunning havoids hblank, ← hmark] at hfind
    obtain ⟨y, hbegin, hhit⟩ := Option.bind_eq_some_iff.1 hfind
    obtain ⟨kept, rfl⟩ := Rule.suffix_of_begin? hbegin
    rw [List.append_assoc] at hhit ⊢
    refine (shows_iff r.isPart kept (y ++ (mark ++ rest))).2 ?_ hit hhit
    by_cases hy : y = []
    · subst hy
      have hvalue : rest.takeWhile r.isPart = [] := by
        cases rest with
        | nil => rfl
        | cons c rest => rw [List.takeWhile_cons_of_neg (by simp [hstop c rfl])]
      have hmark := List.takeWhile_eq_self_iff.2 hpart
      rw [List.nil_append, List.takeWhile_append, if_pos (by rw [hmark]), hvalue, List.append_nil]
      exact Or.inr rfl
    · obtain ⟨hall, hvalue⟩ := ha x _ y heq hbegin hy
      rwa [takeWhile_append_of_ne hall]
  · rw [find_mark hr heq hw] at hfind
    cases hfind

/-- What stands before a quote stays settled whatever follows the quote. -/
theorem Settled.before_quote (hr : r ∈ running) {a z z' : List Char}
    (h : Settled r before (a ++ '"' :: z)) (h' : Settled r (lastOf before a) ('"' :: z')) :
    Settled r before (a ++ '"' :: z') := by
  obtain ⟨hrunning, hsigns, -⟩ := running_facts hr
  obtain ⟨havoids, hpart, hblank⟩ := hsigns '"' (by simp)
  have hquote : '"' ∉ mark := by decide
  refine settled_append (fun x w hit heq hw hfind => ?_) h'
  subst heq
  rw [Rule.find_append hrunning havoids hblank] at hfind
  obtain ⟨y, hbegin, hhit⟩ := Option.bind_eq_some_iff.1 hfind
  obtain ⟨kept, rfl⟩ := Rule.suffix_of_begin? hbegin
  rw [List.append_assoc] at hhit ⊢
  refine (shows_iff r.isPart kept (y ++ '"' :: z')).2 ?_ hit hhit
  have hvalue := (shows_iff r.isPart kept (y ++ '"' :: z)).1 fun hit hhit => by
    refine h x _ hit (by simp) ?_
    rw [← List.append_assoc, Rule.find_append hrunning havoids hblank, hbegin, Option.bind_some,
      List.append_assoc]
    exact hhit
  by_cases hall : y.takeWhile r.isPart = y
  · exfalso
    rw [List.takeWhile_append, if_pos (by rw [hall]), List.takeWhile_cons_of_pos hpart] at hvalue
    rcases hvalue with hnil | heq
    · simp at hnil
    · exact hquote (heq ▸ by simp)
  · rw [takeWhile_append_of_ne hall] at hvalue ⊢
    exact hvalue

end

/-! ### What stands in front of a value -/

theorem getLast?_blanks {b : Char} {blanks : List Char} (hb : isBlank b = true)
    (hblanks : ∀ c ∈ blanks, isBlank c = true) (u : List Char) :
    ∃ c, (u ++ b :: blanks).getLast? = some c ∧ c ∉ mark := by
  have hmark : ∀ c ∈ mark, isBlank c = false := by decide
  have hlast : ∀ c ∈ b :: blanks, isBlank c = true := List.forall_mem_cons.2 ⟨hb, hblanks⟩
  have hne : b :: blanks ≠ [] := List.cons_ne_nil b blanks
  refine ⟨(b :: blanks).getLast hne, ?_, fun hmem => ?_⟩
  · rw [List.getLast?_append_of_ne_nil _ hne, List.getLast?_eq_some_getLast hne]
  · have hblank := hlast _ (List.getLast_mem hne)
    rw [hmark _ hmem] at hblank
    cases hblank

section

variable {name key : List Char} {sign : Char}

/-- A name with its sign is not read again inside a text that begins with it, if the sign does not
follow. -/
theorem afterName?_inside (hsign : sign ∈ ['=', ':', '"'])
    (hname : ∀ k ∈ name, isCaseOf k sign = false) (hkey : Spells name key) {rest x w : List Char}
    (hrest : sign ∉ rest) (heq : key ++ sign :: rest = x ++ w) (hx : x ≠ []) :
    afterName? (name ++ [sign]) w = none := by
  rw [Option.eq_none_iff_forall_ne_some]
  intro z hz
  obtain ⟨read, hread, rfl⟩ := afterName?_eq_some.1 hz
  obtain ⟨key', rfl, hkey'⟩ := (spells_concat hsign).1 hread
  have hsplit : key ++ sign :: rest = (x ++ key') ++ sign :: z := by
    rw [heq]
    simp
  obtain ⟨rfl, -, -⟩ := (List.append_cons_inj_of_notMem (hkey.notMem hname) hrest).1 hsplit
  have hlength := hkey.length_eq.symm.trans hkey'.length_eq
  have hpos := List.length_pos_iff.2 hx
  rw [List.length_append] at hlength
  omega

end

theorem exists_blanks (rest : List Char) :
    ∃ blanks, rest = blanks ++ dropBlank rest ∧ ∀ c ∈ blanks, isBlank c = true :=
  ⟨rest.takeWhile isBlank, List.takeWhile_append_dropWhile.symm, fun _ hc => List.mem_takeWhile_imp hc⟩

theorem exists_blanks_lineValue (rest : List Char) :
    ∃ blanks, rest = blanks ++ lineValue rest ∧ ∀ c ∈ blanks, isBlank c = true := by
  obtain ⟨blanks, heq, hblanks⟩ := exists_blanks rest
  unfold lineValue
  split
  · rename_i hnil
    rw [hnil, List.append_nil] at heq
    have hsplit : rest =
        (rest.reverse.dropWhile isLineEnd).reverse ++ (rest.reverse.takeWhile isLineEnd).reverse := by
      rw [← List.reverse_append, List.takeWhile_append_dropWhile, List.reverse_reverse]
    refine ⟨(rest.reverse.dropWhile isLineEnd).tail.reverse, ?_, fun c hc => hblanks c ?_⟩
    · conv_lhs => rw [hsplit]
      cases rest.reverse.dropWhile isLineEnd with
      | nil => rfl
      | cons c cs => simp
    · have hmem := (List.dropWhile_suffix isLineEnd).subset
        (List.mem_of_mem_tail (List.mem_reverse.1 hc))
      rwa [← heq, ← List.mem_reverse]
  · exact ⟨blanks, heq, hblanks⟩

theorem exists_credentials {scheme : String} {cs from' : List Char} {hit : Hit}
    (h : findCredentials scheme cs from' = some hit) :
    ∃ key b blanks w, from' = key ++ b :: (blanks ++ w) ∧ Spells scheme.toList key ∧
      isBlank b = true ∧ (∀ c ∈ blanks, isBlank c = true) ∧ hitOf (!isBlank ·) cs w = some hit := by
  unfold findCredentials at h
  split at h
  · rename_i b rest hname
    split at h
    · rename_i hb
      obtain ⟨key, hkey, rfl⟩ := afterName?_eq_some.1 hname
      obtain ⟨blanks, hrest, hblanks⟩ := exists_blanks rest
      exact ⟨key, b, blanks, dropBlank rest, by rw [← hrest], hkey, hb, hblanks, h⟩
    · cases h
  · cases h

theorem running_cases {r : Rule} (hr : r ∈ running) :
    (∃ p ∈ parameters, r = .parameter p.1 p.2) ∨ (∃ s ∈ ["bearer", "basic"], r = .header s) ∨
      (∃ s ∈ ["bearer", "basic"], r = .credentials s) ∨
      ∃ n ∈ ["cookie", "set-cookie"], r = .line n := by
  have hrunning : running = (parameters.map fun p => .parameter p.1 p.2) ++
      ["bearer", "basic"].map .header ++ ["bearer", "basic"].map .credentials ++
      ["cookie", "set-cookie"].map .line := rfl
  rw [hrunning, List.mem_append, List.mem_append, List.mem_append, or_assoc, or_assoc] at hr
  simp only [List.mem_map] at hr
  rcases hr with ⟨p, hp, rfl⟩ | ⟨s, hs, rfl⟩ | ⟨s, hs, rfl⟩ | ⟨n, hn, rfl⟩
  · exact Or.inl ⟨p, hp, rfl⟩
  · exact Or.inr (Or.inl ⟨s, hs, rfl⟩)
  · exact Or.inr (Or.inr (Or.inl ⟨s, hs, rfl⟩))
  · exact Or.inr (Or.inr (Or.inr ⟨n, hn, rfl⟩))

theorem notMem_blanks {c : Char} (hc : isBlank c = false) {blanks : List Char}
    (hblanks : ∀ c ∈ blanks, isBlank c = true) : c ∉ blanks := by
  intro hmem
  rw [hblanks c hmem] at hc
  cases hc

theorem opening_parameter {name : String} {wordStart : Bool} {key : List Char}
    (hname : ∀ k ∈ name.toList, isCaseOf k '=' = false) (hkey : Spells name.toList key) :
    Opening (.parameter name wordStart) (key ++ ['=']) where
  last := ⟨'=', by simp, by decide⟩
  once before x w heq hx := by
    rw [Rule.begin?, afterName?_inside (by decide) hname hkey List.not_mem_nil heq hx, ite_self]

theorem opening_header {scheme : String} {key blanks key' blanks' : List Char} {b : Char}
    (hscheme : ∀ k ∈ scheme.toList, isCaseOf k ':' = false)
    (hkey : Spells "authorization".toList key) (hblanks : ∀ c ∈ blanks, isBlank c = true)
    (hkey' : Spells scheme.toList key') (hb : isBlank b = true)
    (hblanks' : ∀ c ∈ blanks', isBlank c = true) :
    Opening (.header scheme) (key ++ ':' :: (blanks ++ (key' ++ b :: blanks'))) where
  last := by
    have hlast := getLast?_blanks hb hblanks' (key ++ ':' :: (blanks ++ key'))
    simpa using hlast
  once before x w heq hx := by
    have hauthorization : "authorization:".toList = "authorization".toList ++ [':'] := by decide
    have hletters : ∀ k ∈ "authorization".toList, isCaseOf k ':' = false := by decide
    have hrest : ':' ∉ blanks ++ (key' ++ b :: blanks') := by
      simp only [List.mem_append, not_or]
      exact ⟨notMem_blanks (by decide) hblanks, hkey'.notMem hscheme,
        notMem_blanks (by decide) (List.forall_mem_cons.2 ⟨hb, hblanks'⟩)⟩
    rw [Rule.begin?, hauthorization, afterName?_inside (by decide) hletters hkey hrest heq hx,
      Option.bind_none]

theorem opening_credentials {scheme : String} {key blanks : List Char} {b : Char}
    (hb : isBlank b = true) (hblanks : ∀ c ∈ blanks, isBlank c = true) :
    Opening (.credentials scheme) (key ++ b :: blanks) where
  last := getLast?_blanks hb hblanks key
  once before x w heq hx := by
    obtain ⟨u, c, rfl⟩ := (List.eq_nil_or_concat' x).resolve_left hx
    simp only [Rule.begin?, lastOf_concat, Option.isSome_some, if_true]

theorem opening_line {name : String} {key blanks : List Char}
    (hname : ∀ k ∈ name.toList, isCaseOf k ':' = false) (hkey : Spells name.toList key)
    (hblanks : ∀ c ∈ blanks, isBlank c = true) : Opening (.line name) (key ++ ':' :: blanks) where
  last := by
    cases blanks with
    | nil => exact ⟨':', by simp, by decide⟩
    | cons b blanks =>
      rw [List.forall_mem_cons] at hblanks
      have hlast := getLast?_blanks hblanks.1 hblanks.2 (key ++ [':'])
      simpa using hlast
  once before x w heq hx := by
    have hrest := notMem_blanks (c := ':') (by decide) hblanks
    rw [Rule.begin?, afterName?_inside (by decide) hname hkey hrest heq hx, Option.map_none]

/-- What is found in front of a value. -/
theorem exists_opening {r : Rule} (hr : r ∈ running) {before : Option Char} {cs : List Char}
    {hit : Hit} (h : r.find before cs = some hit) :
    ∃ kept w, cs = kept ++ w ∧ Opening r kept ∧ hitOf r.isPart cs w = some hit := by
  have hnames : ∀ name ∈ ["bearer", "basic"] ++ ["cookie", "set-cookie"], ∀ k ∈ name.toList,
      isCaseOf k ':' = false := by decide
  rcases running_cases hr with ⟨⟨name, wordStart⟩, hp, rfl⟩ | ⟨scheme, hs, rfl⟩ |
    ⟨scheme, hs, rfl⟩ | ⟨name, hn, rfl⟩
  · simp only [Rule.find] at h
    split at h
    · cases h
    · split at h
      · rename_i w hw
        obtain ⟨front, hfront, rfl⟩ := afterName?_eq_some.1 hw
        obtain ⟨key, rfl, hkey⟩ := (spells_concat (by decide)).1 hfront
        exact ⟨_, w, rfl, opening_parameter (labels_of_mem hp).sign hkey, h⟩
      · cases h
  · simp only [Rule.find] at h
    split at h
    · rename_i rest hrest
      have hauthorization : "authorization:".toList = "authorization".toList ++ [':'] := by decide
      rw [hauthorization] at hrest
      obtain ⟨front, hfront, rfl⟩ := afterName?_eq_some.1 hrest
      obtain ⟨key, rfl, hkey⟩ := (spells_concat (by decide)).1 hfront
      obtain ⟨blanks, heq, hblanks⟩ := exists_blanks rest
      obtain ⟨key', b, blanks', w, heq', hkey', hb, hblanks', hhit⟩ := exists_credentials h
      refine ⟨key ++ ':' :: (blanks ++ (key' ++ b :: blanks')), w, ?_, ?_, hhit⟩
      · rw [heq, heq']
        simp
      · exact opening_header (hnames scheme (List.mem_append_left _ hs)) hkey hblanks hkey' hb hblanks'
    · cases h
  · simp only [Rule.find] at h
    split at h
    · cases h
    · obtain ⟨key, b, blanks, w, rfl, -, hb, hblanks, hhit⟩ := exists_credentials h
      exact ⟨key ++ b :: blanks, w, by simp, opening_credentials hb hblanks, hhit⟩
  · simp only [Rule.find] at h
    split at h
    · rename_i rest hrest
      obtain ⟨front, hfront, rfl⟩ := afterName?_eq_some.1 hrest
      obtain ⟨key, rfl, hkey⟩ := (spells_concat (by decide)).1 hfront
      obtain ⟨blanks, heq, hblanks⟩ := exists_blanks_lineValue rest
      refine ⟨key ++ ':' :: blanks, lineValue rest, ?_, ?_, h⟩
      · conv_lhs => rw [heq]
        simp
      · exact opening_line (hnames name (List.mem_append_right _ hn)) hkey hblanks
    · cases h

/-! ## Rules on running text -/

theorem isPart_cases {r : Rule} (hr : r ∈ running) {d : Char} (hd : r.isPart d = false) :
    d = '&' ∨ isBlank d = true := by
  rcases running_cases hr with ⟨p, -, rfl⟩ | ⟨s, -, rfl⟩ | ⟨s, -, rfl⟩ | ⟨n, -, rfl⟩
  · simpa [Rule.isPart, isValueChar, or_iff_not_imp_left] using hd
  · exact Or.inr (by simpa [Rule.isPart] using hd)
  · exact Or.inr (by simpa [Rule.isPart] using hd)
  · have hend : d = '\r' ∨ d = '\n' := by
      simpa [Rule.isPart, isLineEnd, or_iff_not_imp_left] using hd
    rcases hend with rfl | rfl <;> exact Or.inr (by decide)

section

variable {r : Rule} {before : Option Char}

/-- Where a value ends, no name begins. -/
theorem avoids_of_ends (hr : r ∈ running) {d : Char} (hd : d = '&' ∨ isBlank d = true) :
    r.Avoids d := by
  have hletters : ∀ r ∈ running, ∀ k ∈ r.letters,
      (33 ≤ k.toNat ∧ k.toNat ≤ 126) ∧ isCaseOf k '&' = false := by decide
  intro k hk
  obtain ⟨hprintable, hseparator⟩ := hletters r hr k hk
  rcases hd with rfl | hblank
  · exact hseparator
  · exact isCaseOf_of_isBlank hprintable hblank

/-- Where no name begins, the character before does not matter. -/
theorem Settled.congr_before (hr : r ∈ running) {before' : Option Char} {cs : List Char}
    (hcs : ∀ c ∈ cs.head?, r.Avoids c) (h : Settled r before cs) : Settled r before' cs := by
  intro u v hit heq hfind
  cases u with
  | cons c u => exact h (c :: u) v hit heq hfind
  | nil =>
    rw [List.nil_append] at heq
    subst heq
    cases cs with
    | nil =>
      rw [(Rule.marks (running_facts hr).1).find_nil] at hfind
      cases hfind
    | cons d cs =>
      rw [find_of_avoids hr (hcs d rfl)] at hfind
      cases hfind

theorem opening_of_find (hr : r ∈ running) {kept old rest : List Char}
    (h : r.find before (kept ++ (old ++ rest)) = some ⟨kept ++ mark, kept.length + old.length⟩) :
    Opening r kept ∧ ∀ c ∈ rest.head?, r.isPart c = false := by
  obtain ⟨kept', w, heq, hopening, hhit⟩ := exists_opening hr h
  rw [heq, hitOf_eq] at hhit
  split at hhit
  · cases hhit
  · have hfound := Option.some.inj hhit
    obtain rfl := List.append_cancel_right (congrArg Hit.shown hfound)
    obtain rfl := List.append_cancel_left heq
    have hsize := congrArg Hit.size hfound
    dsimp only at hsize
    have hold : (old ++ rest).takeWhile r.isPart = old := by
      have hprefix : (old ++ rest).takeWhile r.isPart <+: old ++ rest := List.takeWhile_prefix _
      rw [List.prefix_iff_eq_take.1 hprefix, Nat.add_left_cancel hsize, List.take_left]
    refine ⟨hopening, fun c hc => ?_⟩
    rw [List.takeWhile_append] at hold
    split at hold
    · cases rest with
      | nil => cases hc
      | cons d rest =>
        obtain rfl := Option.some.inj hc
        have hnil : (d :: rest).takeWhile r.isPart = [] := List.append_right_eq_self.1 hold
        by_contra hpart
        rw [List.takeWhile_cons_of_pos (by simpa using hpart)] at hnil
        cases hnil
    · rename_i hlength
      exact absurd (congrArg List.length hold) hlength

/-- A rule on running text leaves a text that is settled for it, and for the rules before it, of
which the values end wherever its own end. -/
theorem settled_replace {q : Rule} (hq : q ∈ running) (hr : r ∈ running)
    (hstop : ∀ c, q.isPart c = false → r.isPart c = false) {cs : List Char}
    (h : r = q ∨ Settled r before cs) : Settled r before (replace q.find 0 before cs) := by
  have hmarks := Rule.marks (running_facts hq).1
  induction hn : cs.length using Nat.strong_induction_on generalizing before cs with
  | _ n ih =>
    rcases replace_cases hmarks before cs with
      hnone | ⟨u, kept, old, rest, rfl, hne, hnone, hhit, hscan⟩
    · have hself : replace q.find 0 before cs = cs :=
        replace_eq_self fun x c v heq => hnone x (c :: v) heq
      rw [hself]
      rcases h with rfl | h
      · intro x v hit heq hfind
        rw [hnone x v heq] at hfind
        cases hfind
      · exact h
    · obtain ⟨hopening, hnext⟩ := opening_of_find hq hhit
      have hfirm : Firm r before (u ++ kept) := by
        rcases h with rfl | h
        · exact firm_of_unfound hnone hhit hopening
        · obtain ⟨c, hlast, hmark⟩ := hopening.last
          rw [← List.append_assoc] at h
          refine firm_of_settled h ?_ hmark
          rw [List.getLast?_append, hlast, Option.some_or]
      obtain ⟨b, hb⟩ : ∃ b, lastOf (lastOf before u) (kept ++ old) = some b := by
        obtain ⟨old', b, rfl⟩ := (List.eq_nil_or_concat' old).resolve_left hne
        exact ⟨b, by rw [← List.append_assoc, lastOf_concat]⟩
      have hhead : (replace q.find 0 (some b) rest).head? = rest.head? := by
        cases rest with
        | nil => rfl
        | cons d rest =>
          have hd := isPart_cases hq (hnext d rfl)
          rw [replace_cons_of_none (find_of_avoids hq (avoids_of_ends hq hd) rest)]
          rfl
      have hrest : Settled r (some b) (replace q.find 0 (some b) rest) := by
        refine ih rest.length ?_ ?_ rfl
        · have hpos := List.length_pos_iff.2 hne
          simp only [List.length_append] at hn
          omega
        · refine h.imp_right fun h => ?_
          rw [← hb, ← lastOf_append]
          refine Settled.suffix ?_
          simpa using h
      rw [hscan, hb, ← List.append_assoc]
      refine settled_of_firm hr hfirm (fun c hc => hstop c (hnext c (hhead ▸ hc))) ?_
      refine hrest.congr_before hr fun c hc => avoids_of_ends hr ?_
      exact isPart_cases hq (hnext c (hhead ▸ hc))

end

/-! ### The rules one after the other -/

/-- How far the values of a rule reach: to white space or `&`, to white space, to the end of the
line. -/
def Rule.reach : Rule → Nat
  | parameter _ _ => 0
  | header _ => 1
  | credentials _ => 1
  | line _ => 2
  | field _ => 3

theorem Rule.isPart_of_reach {r q : Rule} (hq : q.isRunning = true) (h : r.reach ≤ q.reach) {c : Char}
    (hc : q.isPart c = false) : r.isPart c = false := by
  have hline : isLineEnd c = true → isBlank c = true := by
    intro hend
    have hcases : c = '\r' ∨ c = '\n' := by simpa [isLineEnd, or_iff_not_imp_left] using hend
    rcases hcases with rfl | rfl <;> decide
  have hvalue : isBlank c = true → isValueChar c = false := by
    intro hblank
    simp [isValueChar, hblank]
  cases r <;> cases q <;> simp_all [reach, isPart, isRunning]

/-- Once the rules on running text have been applied, the text is settled for all of them. -/
theorem settled_running (cs : List Char) : ∀ r ∈ running, Settled r none (applyAll running cs) := by
  have hfold : ∀ (rs done : List Rule) (cs : List Char), done ++ rs = running →
      (∀ r ∈ done, Settled r none cs) → ∀ r ∈ running, Settled r none (applyAll rs cs) := by
    have horder : running.Pairwise fun r q => r.reach ≤ q.reach := by decide
    intro rs
    induction rs with
    | nil =>
      intro done cs hrs h r hr
      rw [List.append_nil] at hrs
      exact h r (hrs ▸ hr)
    | cons q rs ih =>
      intro done cs hrs h
      have hq : q ∈ running := hrs ▸ List.mem_append_right done List.mem_cons_self
      rw [applyAll_cons]
      refine ih (done ++ [q]) (q.apply cs) (by simp [← hrs]) fun r hr => ?_
      rcases List.mem_append.1 hr with hr | hr
      · have hle : r.reach ≤ q.reach := by
          rw [← hrs, List.pairwise_append] at horder
          exact horder.2.2 r hr q List.mem_cons_self
        exact settled_replace hq (hrs ▸ List.mem_append_left _ hr)
          (fun c hc => Rule.isPart_of_reach (running_facts hq).1 hle hc) (Or.inr (h r hr))
      · rw [List.mem_singleton.1 hr]
        exact settled_replace hq hq (fun c hc => hc) (Or.inl rfl)
  exact hfold running [] cs rfl (by simp)

end LoginCallback.Redaction
