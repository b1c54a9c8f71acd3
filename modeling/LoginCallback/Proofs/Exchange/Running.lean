import LoginCallback.Proofs.Exchange.Replacement

/-!
# Running text around a field

A text holds a field `"name": "value"` with a secret name. The rules for running text, which come
before those for fields, work on the pieces between the quotes one by one, as long as they leave the
quotes. They do not reach the quote before the name, but for a line rule that finds a header before
the field; then its hit covers the field. They leave the quote behind the value if the value is
`Held`. So two texts that differ only in the value stay so, or become equal (`framed_running`).
-/

namespace LoginCallback.Redaction

open LoginCallback.Text (isBlank)

/-- The rules for running text. -/
def running : List Rule := rules.take 12

/-- The names of the fields with secret values. -/
def secretFields : List String := ["client_secret", "access_token", "refresh_token", "id_token"]

theorem rules_eq : rules = running ++ secretFields.map .field := rfl

/-- A name and what stands between it and the value, behind the first quote. -/
def opening (name : String) : List Char := name.toList ++ ['"', ':', ' ', '"']

/-! ## What the rules look for -/

/-- Nothing is found at a character that a rule does not look for. -/
theorem find_of_avoids {r : Rule} (hr : r ∈ running) {before : Option Char} {d : Char}
    (hd : r.Avoids d) (v : List Char) : r.find before (d :: v) = none := by
  have hkind : ∀ r ∈ running, r.isRunning = true ∧ r.letters ≠ [] := by decide
  obtain ⟨hrunning, hne⟩ := hkind r hr
  cases r with
  | parameter name wordStart =>
    have hnone : afterName? (name.toList ++ ['=']) (d :: v) = none := afterName?_of_avoids hne hd v
    simp only [Rule.find, hnone, ite_self]
  | header scheme =>
    have hnone : afterName? "authorization:".toList (d :: v) = none :=
      afterName?_of_avoids (by decide) (fun k hk => hd k (List.mem_append_left _ hk)) v
    simp only [Rule.find, hnone]
  | credentials scheme =>
    have hnone : afterName? scheme.toList (d :: v) = none := afterName?_of_avoids hne hd v
    simp only [Rule.find, findCredentials, hnone, ite_self]
  | line name =>
    have hnone : afterName? (name.toList ++ [':']) (d :: v) = none := afterName?_of_avoids hne hd v
    simp only [Rule.find, hnone]
  | field name => cases hrunning

/-! ## Pieces -/

section

variable {r : Rule}

theorem running_quote (hr : r ∈ running) :
    r.isRunning = true ∧ r.Avoids '"' ∧ r.isPart '"' = true := by
  revert r
  decide

theorem replace_opening {name : String} (hname : name ∈ secretFields) (hr : r ∈ running) :
    replace r.find 0 (some '"') (opening name) = opening name := by
  have hall : ∀ name ∈ secretFields, ∀ r ∈ running,
      replace r.find 0 (some '"') (opening name) = opening name := by decide +kernel
  exact hall name hname r hr

/-- A rule works on the text up to a quote and on the rest, if it leaves the quote. -/
theorem scan_quote (hr : r ∈ running) {before : Option Char} {front : List Char}
    (hfront : front.getLast? = some '"')
    (h : (replace r.find 0 before front).getLast? = some '"') (v : List Char) :
    replace r.find 0 before (front ++ v) =
      replace r.find 0 before front ++ replace r.find 0 (some '"') v := by
  obtain ⟨hrunning, havoids, hpart⟩ := running_quote hr
  obtain ⟨u, rfl⟩ := List.getLast?_eq_some_iff.1 hfront
  rw [List.append_assoc, List.singleton_append]
  exact Rule.scan_append_closed hrunning havoids (by decide) hpart (by decide) h v

/-- A rule works on what stands before a field, on its value and on what stands behind it. -/
theorem apply_framed (hr : r ∈ running) {name : String} (hname : name ∈ secretFields)
    {front value behind : List Char} (hfront : front.getLast? = some '"')
    (hleft : (r.apply front).getLast? = some '"')
    (hvalue : (replace r.find 0 (some '"') (value ++ ['"'])).getLast? = some '"') :
    r.apply (front ++ (opening name ++ (value ++ '"' :: behind))) =
      r.apply front ++ (opening name ++ (replace r.find 0 (some '"') (value ++ ['"']) ++
        replace r.find 0 (some '"') behind)) := by
  have hopening := replace_opening hname hr
  have hname' : (opening name).getLast? = some '"' := by simp [opening]
  have hopen : replace r.find 0 (some '"') (opening name ++ (value ++ '"' :: behind)) =
      replace r.find 0 (some '"') (opening name) ++
        replace r.find 0 (some '"') (value ++ '"' :: behind) :=
    scan_quote hr hname' (by rw [hopening]; exact hname') (value ++ '"' :: behind)
  have hclose := scan_quote hr List.getLast?_concat hvalue behind
  rw [List.append_assoc, List.singleton_append] at hclose
  unfold Rule.apply at hleft ⊢
  rw [scan_quote hr hfront hleft, hopen, hopening, hclose]

end

/-! ### Before the field -/

/-- A brace or a separator stands before the last quote. -/
def Sealed (front : List Char) : Prop :=
  front = ['\x7b', '"'] ∨ ∃ u c, (c = ',' ∨ c = ']') ∧ front = u ++ [c, ' ', '"']

theorem Sealed.getLast? {front : List Char} (h : Sealed front) : front.getLast? = some '"' := by
  rcases h with rfl | ⟨u, c, -, rfl⟩
  · rfl
  · simp

/-- No value of a parameter and no credentials reach over the blank before the last quote. -/
theorem Sealed.apply {front : List Char} (h : Sealed front) {r : Rule} (hr : r ∈ rules.take 10) :
    Sealed (r.apply front) := by
  have hkind : ∀ r ∈ rules.take 10, r.isRunning = true ∧ r.isPart ' ' = false ∧
      r.apply ['\x7b', '"'] = ['\x7b', '"'] ∧
      ∀ c ∈ [',', ']'], r.Avoids c ∧ isBlank c = false ∧
        replace r.find 0 (some c) [' ', '"'] = [' ', '"'] := by decide +kernel
  obtain ⟨hrunning, hblank, hbrace, hseparator⟩ := hkind r hr
  rcases h with rfl | ⟨u, c, hc, rfl⟩
  · exact Or.inl hbrace
  · obtain ⟨havoids, hc', hend⟩ := hseparator c (by simpa using hc)
    have hstop := Rule.scan_append_stop hrunning havoids hc' (v := [' ', '"'])
      (fun d hd => by rw [← Option.mem_some_iff.1 hd]; exact hblank) none u
    have hpos : 0 < (u ++ [c]).length := by simp
    have hlast := getLast?_replace (Rule.marks hrunning) none hpos
    rw [List.getLast?_concat] at hlast
    unfold Rule.apply
    rw [hstop, hend]
    rcases hlast with hlast | hlast
    · obtain ⟨u', hu'⟩ := List.getLast?_eq_some_iff.1 hlast
      exact Or.inr ⟨u', c, hc, by rw [hu']; simp⟩
    · obtain ⟨u', hu'⟩ := List.getLast?_eq_some_iff.1 hlast
      exact Or.inr ⟨u', ']', Or.inr rfl, by rw [hu']; simp⟩

/-- No colon stands at the end, blanks apart. -/
def NoColonAtEnd (u : List Char) : Prop := ∀ a b, u = a ++ ':' :: b → ∃ c ∈ b, isBlank c = false

theorem NoColonAtEnd.suffix {u v : List Char} (h : NoColonAtEnd u) (hv : v <:+ u) :
    NoColonAtEnd v := by
  obtain ⟨t, rfl⟩ := hv
  rintro a b rfl
  exact h (t ++ a) b (List.append_assoc _ _ _).symm

theorem NoColonAtEnd.append {d : Char} (hd : isBlank d = false) (hcolon : d ≠ ':') (u : List Char)
    {v : List Char} (hv : NoColonAtEnd v) : NoColonAtEnd (u ++ d :: v) := by
  intro a b h
  rcases List.append_eq_append_iff.1 h with ⟨w, rfl, hw⟩ | ⟨w, -, hw⟩
  · cases w with
    | nil => exact absurd (List.cons.inj hw).1 hcolon
    | cons c w =>
      exact hv w b (List.cons.inj hw).2
  · cases w with
    | nil => exact absurd (List.cons.inj hw).1.symm hcolon
    | cons c w =>
      obtain ⟨rfl, rfl⟩ := List.cons.inj hw
      exact ⟨d, by simp, hd⟩

/-- Where the last quote of a text starts a field: no colon stands before it. -/
def Opens (front : List Char) : Prop := ∃ u, front = u ++ ['"'] ∧ NoColonAtEnd u

theorem Sealed.opens {front : List Char} (h : Sealed front) : Opens front := by
  have hblank : NoColonAtEnd [' '] := by
    intro a b h
    have hmem : ':' ∈ [' '] := h ▸ by simp
    exact absurd hmem (by decide)
  rcases h with rfl | ⟨u, c, hc, rfl⟩
  · refine ⟨['\x7b'], rfl, ?_⟩
    exact NoColonAtEnd.append (by decide) (by decide) [] (fun a b h => by simp at h)
  · refine ⟨u ++ [c, ' '], by simp, ?_⟩
    rcases hc with rfl | rfl
    · exact hblank.append (by decide) (by decide) u
    · exact hblank.append (by decide) (by decide) u

/-- A scan that leaves the quote, and of which the hits show the mark at their end, leaves no colon
before it. -/
theorem Opens.scan {find : Option Char → List Char → Option Hit} {front : List Char}
    (hshown : ∀ b a hit, find b a = some hit →
      ∃ w, hit.shown = w ++ [']'] ∨ hit.shown = w ++ [']', '"'])
    (h : Opens front) (hleft : (replace find 0 none front).getLast? = some '"') :
    Opens (replace find 0 none front) := by
  obtain ⟨u, rfl, hu⟩ := h
  rcases @replace_tail find 0 none (u ++ ['"']) with heq | ⟨x, b, a, hit, v, hf, hv, heq⟩
  · rw [heq]
    exact ⟨u, rfl, hu⟩
  · have hempty : NoColonAtEnd [] := fun a b h => by simp at h
    obtain ⟨w, hw⟩ := hshown b a hit hf
    rw [heq] at hleft ⊢
    rcases List.suffix_concat_iff.1 hv with rfl | ⟨v, rfl, hsuffix⟩
    · rcases hw with hw | hw
      · rw [hw] at hleft
        simp at hleft
      · refine ⟨x ++ (w ++ [']']), by rw [hw]; simp, ?_⟩
        rw [← List.append_assoc]
        exact hempty.append (by decide) (by decide) (x ++ w)
    · refine ⟨x ++ (hit.shown ++ v), by simp, ?_⟩
      have hv' := hu.suffix hsuffix
      rcases hw with hw | hw
      · have happend := hv'.append (d := ']') (by decide) (by decide) (x ++ w)
        rw [hw]
        simpa using happend
      · have happend := hv'.append (d := '"') (by decide) (by decide) (x ++ (w ++ [']']))
        rw [hw]
        simpa using happend

/-! ### A header before the field -/

theorem replace_line_congr {name : String} (skip : Nat) (before before' : Option Char)
    (cs : List Char) : replace (Rule.line name).find skip before cs =
      replace (Rule.line name).find skip before' cs := by
  cases cs with
  | nil => rfl
  | cons c cs => cases skip <;> rfl

/-- What a line rule finds before a character that is neither blank nor a line end: a value that
ends before the character, or one that covers it and what follows up to the end of the line. -/
theorem find_line_cases {name : String} {d : Char} (hd : (Rule.line name).Avoids d)
    (hb : isBlank d = false) (hend : isLineEnd d = false) (before : Option Char) (a : List Char) :
    (∃ found, (∀ hit ∈ found, hit.size ≤ a.length) ∧
        ∀ v, (Rule.line name).find before (a ++ d :: v) = found) ∨
      ∃ shown, ∀ w v, (∀ c ∈ w, isLineEnd c = false) →
        (Rule.line name).find before (a ++ d :: (w ++ v)) =
          some ⟨shown, (v.takeWhile (!isLineEnd ·)).length + (a ++ d :: w).length⟩ := by
  have hfind : ∀ v, (Rule.line name).find before (a ++ d :: v) =
      ((Rule.line name).begin? before a).bind fun rest =>
        hitOf (!isLineEnd ·) (a ++ d :: v) (rest ++ d :: v) :=
    fun v => Rule.find_append rfl hd hb before a v
  cases hbegin : (Rule.line name).begin? before a with
  | none =>
    refine Or.inl ⟨none, by simp, fun v => ?_⟩
    rw [hfind, hbegin]
    rfl
  | some rest =>
    have hrest := Rule.length_begin?_le hbegin
    by_cases hall : (rest.takeWhile (!isLineEnd ·)).length = rest.length
    · refine Or.inr ⟨a.take (a.length - rest.length) ++ mark, fun w v hw => ?_⟩
      have hvalue : (rest ++ d :: (w ++ v)).takeWhile (!isLineEnd ·) =
          rest ++ d :: (w ++ v.takeWhile (!isLineEnd ·)) := by
        have hw' : w.takeWhile (!isLineEnd ·) = w :=
          List.takeWhile_eq_self_iff.2 fun c hc => by simp [hw c hc]
        rw [List.takeWhile_append, if_pos hall, List.takeWhile_cons_of_pos (by simp [hend]),
          List.takeWhile_append, hw', if_pos rfl]
      rw [hfind, hbegin, Option.bind_some]
      unfold hitOf hitAfter
      have hplace : (a ++ d :: (w ++ v)).length - (rest ++ d :: (w ++ v)).length =
          a.length - rest.length := by
        rw [List.length_append, List.length_append, Nat.add_sub_add_right]
      rw [hvalue, hplace, if_neg (by simp), List.take_append_of_le_length (Nat.sub_le _ _)]
      simp only [Option.some.injEq, Hit.mk.injEq, true_and, List.length_append, List.length_cons]
      omega
    · refine Or.inl ⟨hitOf (!isLineEnd ·) (a ++ [d]) (rest ++ [d]), fun hit hhit => ?_, fun v => ?_⟩
      · have hvalue := (List.takeWhile_prefix (!isLineEnd ·) (l := rest)).length_le
        unfold hitOf hitAfter at hhit
        rw [List.takeWhile_append, if_neg hall] at hhit
        split at hhit
        · cases hhit
        · obtain rfl := Option.some.inj hhit
          simp only [List.length_append, List.length_singleton]
          omega
      · rw [hfind, hbegin, Option.bind_some]
        refine hitOf_congr ?_
        rw [List.takeWhile_append, List.takeWhile_append, if_neg hall, if_neg hall]

/-- A hit that covers the rest of the line shows nothing of it. -/
theorem replace_line_covered {name : String} {d : Char} {before : Option Char} {a shown : List Char}
    (hshown : ∀ w v, (∀ c ∈ w, isLineEnd c = false) →
      (Rule.line name).find before (a ++ d :: (w ++ v)) =
        some ⟨shown, (v.takeWhile (!isLineEnd ·)).length + (a ++ d :: w).length⟩)
    {w w' : List Char} (hw : ∀ c ∈ w, isLineEnd c = false) (hw' : ∀ c ∈ w', isLineEnd c = false)
    (v : List Char) : replace (Rule.line name).find 0 before (a ++ d :: (w ++ v)) =
      replace (Rule.line name).find 0 before (a ++ d :: (w' ++ v)) := by
  have hfront : ∀ w, (∀ c ∈ w, isLineEnd c = false) →
      replace (Rule.line name).find 0 before (a ++ d :: (w ++ v)) =
        shown ++ replace (Rule.line name).find (v.takeWhile (!isLineEnd ·)).length none v := by
    intro w hw
    have hsplit : a ++ d :: (w ++ v) = (a ++ d :: w) ++ v := by simp
    rw [hsplit, replace_front (by simp) (hsplit ▸ hshown w v hw), replace_line_congr _ _ none]
  rw [hfront w hw, hfront w' hw']

/-- If a line rule does not leave the last character, its hit covers what follows up to the end of
the line. -/
theorem scan_line_covers {name : String} {d : Char} (hd : (Rule.line name).Avoids d)
    (hb : isBlank d = false) (hend : isLineEnd d = false) {w w' : List Char}
    (hw : ∀ c ∈ w, isLineEnd c = false) (hw' : ∀ c ∈ w', isLineEnd c = false) (v : List Char)
    {u : List Char} {skip : Nat} {before : Option Char} (hskip : skip ≤ u.length)
    (h : (replace (Rule.line name).find skip before (u ++ [d])).getLast? ≠ some d) :
    replace (Rule.line name).find skip before (u ++ d :: (w ++ v)) =
      replace (Rule.line name).find skip before (u ++ d :: (w' ++ v)) := by
  induction u generalizing skip before with
  | nil =>
    obtain rfl : skip = 0 := Nat.le_zero.1 hskip
    rcases find_line_cases hd hb hend before [] with ⟨found, hsize, hfound⟩ | ⟨shown, hshown⟩
    · cases found with
      | none =>
        exfalso
        rw [List.nil_append, replace_cons_of_none (hfound []), replace] at h
        exact h rfl
      | some hit =>
        obtain ⟨n, m, hpos, -, rfl⟩ := Rule.marks rfl before _ hit (hfound [])
        have hempty := hsize _ rfl
        simp only [List.length_nil] at hempty
        omega
    · exact replace_line_covered hshown hw hw' v
  | cons c u ih =>
    cases skip with
    | succ skip => exact ih (Nat.le_of_succ_le_succ hskip) h
    | zero =>
      rcases find_line_cases hd hb hend before (c :: u) with ⟨found, hsize, hfound⟩ | ⟨shown, hshown⟩
      · have hhere : ∀ v, (Rule.line name).find before (c :: (u ++ d :: v)) = found := hfound
        cases found with
        | none =>
          have hne : replace (Rule.line name).find 0 (some c) (u ++ [d]) ≠ [] :=
            replace_ne_nil (Rule.marks rfl) _ (by simp)
          rw [List.cons_append, replace_cons_of_none (hhere []), List.getLast?_cons_of_ne_nil hne] at h
          rw [List.cons_append, List.cons_append, replace_cons_of_none (hhere _),
            replace_cons_of_none (hhere _), ih (Nat.zero_le _) h]
        | some hit =>
          have hfits := hsize hit rfl
          rw [List.length_cons] at hfits
          rw [List.cons_append, replace_cons_of_some (hhere [])] at h
          rw [List.cons_append, List.cons_append, replace_cons_of_some (hhere _),
            replace_cons_of_some (hhere _), ih (by omega) fun hlast => h ?_]
          rw [List.getLast?_append, hlast, Option.some_or]
      · exact replace_line_covered hshown hw hw' v

/-! ### The value and what stands behind it -/

/-- A value that rules for running text leave between its quotes. -/
structure Held (rs : List Rule) (value : List Char) : Prop where
  ne_nil : value ≠ []
  quote : '"' ∉ value
  line : ∀ c ∈ value, isLineEnd c = false
  closed : (applyAll rs ('"' :: (value ++ ['"']))).getLast? = some '"'

theorem apply_quote {r : Rule} (hr : r ∈ running) (cs : List Char) :
    r.apply ('"' :: cs) = '"' :: replace r.find 0 (some '"') cs := by
  have hall : ∀ r ∈ running, r.apply ['"'] = ['"'] := by decide +kernel
  have hself : replace r.find 0 none ['"'] = ['"'] := hall r hr
  have hscan : replace r.find 0 none (['"'] ++ cs) =
      replace r.find 0 none ['"'] ++ replace r.find 0 (some '"') cs :=
    scan_quote hr rfl (by rw [hself]; rfl) cs
  rwa [hself] at hscan

/-- The rules do not bring a quote back that they have not left. -/
theorem getLast?_of_applyAll {rs : List Rule} (hrs : ∀ r ∈ rs, r ∈ running) {cs : List Char}
    (hne : cs ≠ []) (h : (applyAll rs cs).getLast? = some '"') : cs.getLast? = some '"' := by
  induction rs generalizing cs with
  | nil => exact h
  | cons r rs ih =>
    have hmarks := Rule.marks (running_quote (hrs r List.mem_cons_self)).1
    have hlast := ih (fun r hr => hrs r (List.mem_cons_of_mem _ hr)) (replace_ne_nil hmarks none hne) h
    rcases getLast?_replace hmarks none (List.length_pos_iff.2 hne) with heq | heq
    · rw [← heq, hlast]
    · rw [heq] at hlast
      exact absurd (Option.some.inj hlast) (by decide)

theorem Held.step {r : Rule} {rs : List Rule} (hr : ∀ r' ∈ r :: rs, r' ∈ running)
    {value : List Char} (h : Held (r :: rs) value) :
    ∃ left, replace r.find 0 (some '"') (value ++ ['"']) = left ++ ['"'] ∧ Held rs left := by
  have hmarks := Rule.marks (running_quote (hr r List.mem_cons_self)).1
  have hclosed := h.closed
  rw [applyAll_cons, apply_quote (hr r List.mem_cons_self)] at hclosed
  have hlast := getLast?_of_applyAll (fun r' hr' => hr r' (List.mem_cons_of_mem _ hr'))
    (List.cons_ne_nil _ _) hclosed
  rw [List.getLast?_cons_of_ne_nil (replace_ne_nil hmarks (some '"') (by simp))] at hlast
  obtain ⟨left, hleft⟩ := List.getLast?_eq_some_iff.1 hlast
  refine ⟨left, hleft, ?_, ?_, ?_, by rwa [hleft] at hclosed⟩
  · rintro rfl
    have hlength := congrArg List.length hleft
    rcases @replace_tail r.find 0 (some '"') (value ++ ['"']) with
      heq | ⟨u, b, a, hit, v, hf, -, heq⟩
    · have hpos := List.length_pos_iff.2 h.ne_nil
      rw [heq] at hlength
      simp only [List.drop_zero, List.length_append, List.length_singleton, List.length_nil] at hlength
      omega
    · obtain ⟨n, m, -, -, rfl⟩ := hmarks b a hit hf
      have hmark : mark.length = 10 := by decide
      rw [heq] at hlength
      simp only [List.length_append, List.length_singleton, List.length_nil] at hlength
      omega
  · have hcount : (replace r.find 0 (some '"') (value ++ ['"'])).count '"' ≤
        ((value ++ ['"']).drop 0).count '"' := count_replace_le hmarks (by decide) (value ++ ['"'])
    rw [hleft, List.drop_zero, List.count_append, List.count_append,
      List.count_eq_zero.2 h.quote] at hcount
    exact List.count_eq_zero.1 (by omega)
  · intro c hc
    have hmem : c ∈ replace r.find 0 (some '"') (value ++ ['"']) := by
      rw [hleft]
      exact List.mem_append_left _ hc
    have hfixed : ∀ c ∈ '"' :: mark, isLineEnd c = false := by decide
    rcases mem_replace hmarks hmem with hmem | hmem
    · rcases List.mem_append.1 hmem with hmem | hmem
      · exact h.line c hmem
      · exact hfixed c (List.mem_singleton.1 hmem ▸ List.mem_cons_self)
    · exact hfixed c (List.mem_cons_of_mem _ hmem)

/-- A comma or a brace at the front. -/
def Behind (v : List Char) : Prop := ∃ c w, (c = ',' ∨ c = '\x7d') ∧ v = c :: w

theorem Behind.scan {find : Option Char → List Char → Option Hit}
    (hfind : ∀ b c w, c = ',' ∨ c = '\x7d' → find b (c :: w) = none) {v : List Char} (h : Behind v)
    (before : Option Char) : Behind (replace find 0 before v) := by
  obtain ⟨c, w, hc, rfl⟩ := h
  exact ⟨c, _, hc, replace_cons_of_none (hfind before c w hc)⟩

theorem find_behind {r : Rule} (hr : r ∈ running) (before : Option Char) (c : Char) (w : List Char)
    (hc : c = ',' ∨ c = '\x7d') : r.find before (c :: w) = none := by
  have hall : ∀ r ∈ running, ∀ c ∈ [',', '\x7d'], r.Avoids c := by decide
  exact find_of_avoids hr (hall r hr c (by simpa using hc)) w

/-! ### The rules one after the other -/

/-- The texts are the same, or they are so but for the value of a field, behind the same front. -/
def Framed (P : List Char → Prop) (name : String) (rs : List Rule) (front t t' : List Char) : Prop :=
  t = t' ∨ (P front ∧ ∃ value value' behind,
    t = front ++ (opening name ++ (value ++ '"' :: behind)) ∧
    t' = front ++ (opening name ++ (value' ++ '"' :: behind)) ∧
    Held rs value ∧ Held rs value' ∧ Behind behind)

section

variable {name : String} {rs : List Rule} {front t t' : List Char}

theorem Framed.of_sealed (h : Framed Sealed name rs front t t') : Framed Opens name rs front t t' :=
  h.imp_right fun ⟨hfront, h⟩ => ⟨hfront.opens, h⟩

/-- One of the rules for running text, if it leaves the quote before the name. -/
theorem framed_apply (hname : name ∈ secretFields) {r : Rule} (hr : ∀ r' ∈ r :: rs, r' ∈ running)
    {P Q : List Char → Prop} (hP : P front → front.getLast? = some '"')
    (hleft : P front → (r.apply front).getLast? = some '"' ∧ Q (r.apply front))
    (h : Framed P name (r :: rs) front t t') :
    Framed Q name rs (r.apply front) (r.apply t) (r.apply t') := by
  rcases h with rfl | ⟨hfront, value, value', behind, rfl, rfl, hvalue, hvalue', hbehind⟩
  · exact Or.inl rfl
  · have hrunning := hr r List.mem_cons_self
    obtain ⟨hquote, hQ⟩ := hleft hfront
    obtain ⟨left, heq, hheld⟩ := hvalue.step hr
    obtain ⟨left', heq', hheld'⟩ := hvalue'.step hr
    have happly : ∀ {value left : List Char},
        replace r.find 0 (some '"') (value ++ ['"']) = left ++ ['"'] →
        r.apply (front ++ (opening name ++ (value ++ '"' :: behind))) =
          r.apply front ++ (opening name ++ (left ++ '"' :: replace r.find 0 (some '"') behind)) := by
      intro value left heq
      rw [apply_framed hrunning hname (hP hfront) hquote (by rw [heq]; exact List.getLast?_concat),
        heq]
      simp
    exact Or.inr ⟨hQ, left, left', replace r.find 0 (some '"') behind, happly heq, happly heq', hheld,
      hheld', hbehind.scan (find_behind hrunning) _⟩

theorem shown_of_marks {find : Option Char → List Char → Option Hit} (hm : Marks find)
    (b : Option Char) (a : List Char) (hit : Hit) (h : find b a = some hit) :
    ∃ w, hit.shown = w ++ [']'] ∨ hit.shown = w ++ [']', '"'] := by
  obtain ⟨n, m, -, -, rfl⟩ := hm b a hit h
  obtain ⟨w, hw⟩ := List.getLast?_eq_some_iff.1 getLast?_mark
  exact ⟨a.take n ++ w, Or.inl (by rw [hw, List.append_assoc])⟩

/-- A rule for a header line. If it does not leave the quote, it covers the values. -/
theorem framed_line (hname : name ∈ secretFields) {header : String}
    (hr : ∀ r' ∈ Rule.line header :: rs, r' ∈ running)
    (h : Framed Opens name (Rule.line header :: rs) front t t') :
    Framed Opens name rs ((Rule.line header).apply front) ((Rule.line header).apply t)
      ((Rule.line header).apply t') := by
  have hrunning := hr _ List.mem_cons_self
  by_cases hleft : ((Rule.line header).apply front).getLast? = some '"'
  · refine framed_apply hname hr (fun hopens => ?_) (fun hopens => ?_) h
    · obtain ⟨u, rfl, -⟩ := hopens
      exact List.getLast?_concat
    · exact ⟨hleft, hopens.scan (shown_of_marks (Rule.marks rfl)) hleft⟩
  · rcases h with rfl | ⟨⟨u, rfl, -⟩, value, value', behind, rfl, rfl, hvalue, hvalue', -⟩
    · exact Or.inl rfl
    · have hopening : ∀ name ∈ secretFields, ∀ c ∈ opening name, isLineEnd c = false := by decide
      have hline : ∀ {rs value}, Held rs value → ∀ c ∈ opening name ++ value, isLineEnd c = false := by
        intro rs value hvalue c hc
        rcases List.mem_append.1 hc with hc | hc
        · exact hopening name hname c hc
        · exact hvalue.line c hc
      have hcovers := scan_line_covers (running_quote hrunning).2.1 (by decide) (by decide)
        (hline hvalue) (hline hvalue') ('"' :: behind) (Nat.zero_le _) hleft
      refine Or.inl ?_
      have hsplit : ∀ value, (u ++ ['"']) ++ (opening name ++ (value ++ '"' :: behind)) =
          u ++ '"' :: ((opening name ++ value) ++ '"' :: behind) := by
        intro value
        simp
      rw [hsplit, hsplit]
      exact hcovers

theorem framed_applyAll {P : List Char → Prop} {rest : List Rule}
    (hstep : ∀ r ∈ rs, ∀ {rest front t t'}, (∀ r' ∈ r :: rest, r' ∈ running) →
      Framed P name (r :: rest) front t t' →
        Framed P name rest (r.apply front) (r.apply t) (r.apply t'))
    (hrs : ∀ r ∈ rs ++ rest, r ∈ running) (h : Framed P name (rs ++ rest) front t t') :
    Framed P name rest (applyAll rs front) (applyAll rs t) (applyAll rs t') := by
  induction rs generalizing front t t' with
  | nil => exact h
  | cons r rs ih =>
    exact ih (fun r hr => hstep r (List.mem_cons_of_mem _ hr))
      (fun r hr => hrs r (List.mem_cons_of_mem _ hr)) (hstep r List.mem_cons_self hrs h)

/-- The rules for running text. -/
theorem framed_running (hname : name ∈ secretFields) (h : Framed Sealed name running front t t') :
    Framed Opens name [] (applyAll running front) (applyAll running t) (applyAll running t') := by
  have hsplit : running.take 10 ++ running.drop 10 = running := List.take_append_drop 10 running
  have htake : running.take 10 = rules.take 10 := rfl
  have hlines : ∀ r ∈ running.drop 10, ∃ header, r = .line header := by
    intro r hr
    have hmem : r = .line "cookie" ∨ r = .line "set-cookie" := by
      simpa [running, rules] using hr
    rcases hmem with rfl | rfl
    · exact ⟨_, rfl⟩
    · exact ⟨_, rfl⟩
  have hfirst : Framed Sealed name (running.drop 10) (applyAll (running.take 10) front)
      (applyAll (running.take 10) t) (applyAll (running.take 10) t') := by
    rw [← hsplit] at h
    refine framed_applyAll (fun r hr _ _ _ _ hrs h => ?_) (fun r hr => by rwa [hsplit] at hr) h
    rw [htake] at hr
    exact framed_apply hname hrs Sealed.getLast?
      (fun hsealed => ⟨(hsealed.apply hr).getLast?, hsealed.apply hr⟩) h
  have hlast : Framed Opens name [] (applyAll (running.drop 10) (applyAll (running.take 10) front))
      (applyAll (running.drop 10) (applyAll (running.take 10) t))
      (applyAll (running.drop 10) (applyAll (running.take 10) t')) := by
    refine framed_applyAll (fun r hr _ _ _ _ hrs h => ?_) (fun r hr => ?_)
      (by rw [List.append_nil]; exact hfirst.of_sealed)
    · obtain ⟨header, rfl⟩ := hlines r hr
      exact framed_line hname hrs h
    · rw [List.append_nil] at hr
      exact List.mem_of_mem_drop hr
  rwa [← applyAll_append, ← applyAll_append, ← applyAll_append, hsplit] at hlast

end

end LoginCallback.Redaction
