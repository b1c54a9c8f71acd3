import LoginCallback.Proofs.Octets.Form
import LoginCallback.Proofs.Site.Visit

/-!
# The page that shows a failure

A failed login leads to a page whose address carries the error code as one more parameter. The
query of that address (`queryOf`) is read as the parameters that the page had already and then the
code (`fields_targetOf`), whatever text the code is, so that it can neither change nor add another
one. Main statement: `failure_shown`.
-/

namespace LoginCallback

/-! ## Queries that are continued -/

namespace Octets

variable {separator : Char}

theorem splitOn_ne_nil (cs : List Char) : splitOn separator cs ≠ [] := by
  cases cs with
  | nil => simp [splitOn]
  | cons c cs =>
    unfold splitOn
    split
    · simp
    · split <;> simp

/-- The parts behind a separator come after those before it. -/
theorem splitOn_append_separator (front rest : List Char) :
    splitOn separator (front ++ separator :: rest) =
      splitOn separator front ++ splitOn separator rest := by
  induction front with
  | nil => simp [splitOn]
  | cons c front ih =>
    rw [List.cons_append, splitOn, splitOn, ih]
    split
    · rfl
    · obtain ⟨part, parts, hparts⟩ :=
        List.exists_cons_of_ne_nil (show splitOn separator front ≠ [] from splitOn_ne_nil front)
      rw [hparts]
      rfl

end Octets

namespace Url

variable {mark : Char} {front : List Char}

/-- A text without the mark in front is a part of what stands before it. -/
theorem cutAt_append_left (cs : List Char) (h : mark ∉ front) :
    cutAt mark (front ++ cs) = (front ++ (cutAt mark cs).1, (cutAt mark cs).2) := by
  have hall : ∀ c ∈ front, (c != mark) = true := by
    intro c hc
    rw [bne_iff_ne]
    rintro rfl
    exact h hc
  unfold cutAt
  rw [List.takeWhile_append_of_pos hall, List.dropWhile_append_of_pos hall]

theorem cutAt_of_not_mem {cs : List Char} (h : mark ∉ cs) : cutAt mark cs = (cs, []) := by
  have hcut := cutAt_append_left [] h
  simpa [cutAt] using hcut

/-- What does not count at the front of an address is no part of its query or its fragment. -/
theorem exists_leading (cs : List Char) :
    ∃ front, cs = front ++ cs.dropWhile isLeading ∧ '#' ∉ front ∧ '?' ∉ front := by
  have hleading : ∀ c ∈ cs.takeWhile isLeading, isLeading c = true :=
    fun c hc => List.mem_takeWhile_imp hc
  refine ⟨cs.takeWhile isLeading, List.takeWhile_append_dropWhile.symm, fun h => ?_, fun h => ?_⟩
  all_goals
    have hmark := hleading _ h
    revert hmark
    decide

/-- The scheme of an address ends before its query and its fragment begin. -/
theorem exists_scheme (cs : List Char) :
    ∃ front, cs = front ++ (splitScheme cs).2 ∧ '#' ∉ front ∧ '?' ∉ front := by
  unfold splitScheme
  split
  · rename_i first name mark rest hname hrest
    split
    · rename_i hscheme
      have hcs : cs = (first :: name) ++ mark :: rest := by
        rw [← hname, ← hrest, List.takeWhile_append_dropWhile]
      have hmark : mark = ':' := by
        have hhead := List.head_dropWhile_not (· != ':') (l := cs) (by rw [hrest]; simp)
        simpa [hrest] using hhead
      rw [Bool.and_eq_true, List.all_eq_true] at hscheme
      have hnone : ∀ c, c ∈ first :: name → c.isAlpha = true ∨ isSchemeChar c = true := by
        intro c hc
        rcases List.mem_cons.1 hc with rfl | hc
        · exact Or.inl hscheme.1
        · exact Or.inr (hscheme.2 c hc)
      refine ⟨(first :: name) ++ [mark], by simp [hcs], ?_, ?_⟩
      all_goals
        subst hmark
        rw [List.mem_append]
        rintro (h | h)
        · have hname := hnone _ h
          revert hname
          decide
        · simp at h
    · exact ⟨[], rfl, by simp, by simp⟩
  · exact ⟨[], rfl, by simp, by simp⟩

/-- So does its host. -/
theorem exists_host (cs : List Char) :
    ∃ front, cs = front ++ (splitHost cs).2 ∧ '#' ∉ front ∧ '?' ∉ front := by
  unfold splitHost
  split
  · rename_i rest
    have hnone : ∀ c ∈ rest.takeWhile (!endsHost ·), endsHost c = false := by
      intro c hc
      simpa using List.mem_takeWhile_imp hc
    refine ⟨'/' :: '/' :: rest.takeWhile (!endsHost ·), ?_, ?_, ?_⟩
    · simp [List.takeWhile_append_dropWhile]
    all_goals
      simp only [List.mem_cons, not_or]
      refine ⟨by decide, by decide, fun h => ?_⟩
      have hends := hnone _ h
      revert hends
      decide
  · exact ⟨[], rfl, by simp, by simp⟩

end Url

namespace Site

open LoginCallback.Octets

/-- The query of an address: what stands behind its first question mark, up to a fragment. -/
def queryOf (address : String) : String :=
  String.ofList (Url.cutAt '?' (Url.cutAt '#' address.toList).1).2

/-- The query is the one of the parts of the address. -/
theorem query_of_parts {address : String} {p : Url.Parts}
    (hplain : ∀ c ∈ address.toList, Url.isIgnored c = false) (h : Url.parts address = .ok p) :
    String.ofList p.query = queryOf address := by
  obtain ⟨leading, hleading, hfragment, hquery⟩ := Url.exists_leading address.toList
  obtain ⟨cs, hcs⟩ : ∃ cs, cs = address.toList.dropWhile Url.isLeading := ⟨_, rfl⟩
  have hkept : cs.filter (!Url.isIgnored ·) = cs := by
    refine List.filter_eq_self.2 fun c hc => ?_
    rw [hcs] at hc
    simp [hplain c ((List.dropWhile_suffix _).subset hc)]
  obtain ⟨scheme, hscheme, hfragment', hquery'⟩ := Url.exists_scheme cs
  obtain ⟨host, hhost, hfragment'', hquery''⟩ := Url.exists_host (Url.splitScheme cs).2
  unfold Url.parts at h
  rw [← hcs, hkept] at h
  obtain ⟨-, -, h⟩ := bind_eq_ok.1 h
  have hparts : (Url.cutAt '?' (Url.cutAt '#' (Url.splitHost (Url.splitScheme cs).2).2).1).2 =
      p.query := congrArg Url.Parts.query (Except.ok.inj h)
  unfold queryOf
  rw [← hparts]
  conv_rhs => rw [hleading, ← hcs, hscheme, hhost]
  simp only [Url.cutAt_append_left _ hfragment, Url.cutAt_append_left _ hfragment',
    Url.cutAt_append_left _ hfragment'', Url.cutAt_append_left _ hquery,
    Url.cutAt_append_left _ hquery', Url.cutAt_append_left _ hquery'']

namespace Visit

theorem fields_append (query more : String) :
    fields (query ++ "&" ++ more) = fields query ++ fields more := by
  unfold fields
  have hjoined : (query ++ "&" ++ more).toList = query.toList ++ '&' :: more.toList := by simp
  rw [hjoined, splitOn_append_separator, List.filter_append, List.map_append]

/-- The first field of a name is found whether or not later ones are left out. -/
theorem lookup_firsts (fs : List (String × String)) (name : String) :
    (firsts fs).lookup name = fs.lookup name := by
  have hfold : ∀ (fs : List (String × String)) (q : Query),
      (fs.foldl (fun q f => if (q.lookup f.1).isSome then q else q ++ [f]) q).lookup name =
        (q.lookup name).or (fs.lookup name) := by
    intro fs
    induction fs with
    | nil => simp
    | cons f fs ih =>
      obtain ⟨own, value⟩ := f
      intro q
      rw [List.foldl_cons, ih, List.lookup_cons]
      by_cases hname : name = own
      · subst hname
        cases hq : q.lookup name <;> simp [hq, List.lookup_append]
      · have hne : (name == own) = false := by simpa using hname
        cases q.lookup own <;> simp [hne, List.lookup_append, List.lookup_cons]
  exact hfold fs []

end Visit

/-! ## The target -/

variable {page : String}

/-- The query of a page is continued, or begun if there is none. -/
theorem queryOf_append (hpage : '#' ∉ page.toList) {more : String} (hmore : '#' ∉ more.toList) :
    queryOf (page ++ (if page.toList.contains '?' then "&" else "?") ++ more) =
      if page.toList.contains '?' then queryOf page ++ "&" ++ more else more := by
  unfold queryOf
  by_cases h : '?' ∈ page.toList
  · obtain ⟨front, query, hsplit, hfront⟩ := List.eq_append_cons_of_mem h
    have htarget : (page ++ "&" ++ more).toList = front ++ '?' :: (query ++ '&' :: more.toList) := by
      simp [hsplit]
    have hfragment : '#' ∉ (page ++ "&" ++ more).toList := by simp [hpage, hmore]
    simp only [List.contains_iff_mem.2 h, if_true]
    rw [Url.cutAt_of_not_mem hfragment, Url.cutAt_of_not_mem hpage, htarget, hsplit,
      Url.cutAt_append _ hfront, Url.cutAt_append _ hfront, ← String.toList_inj]
    simp
  · have hnot : page.toList.contains '?' = false := by simpa using h
    have htarget : (page ++ "?" ++ more).toList = page.toList ++ '?' :: more.toList := by simp
    have hfragment : '#' ∉ (page ++ "?" ++ more).toList := by simp [hpage, hmore]
    simp only [hnot, Bool.false_eq_true, if_false]
    rw [Url.cutAt_of_not_mem hfragment, htarget, Url.cutAt_append _ h, String.ofList_toList]

/-- A page without a query has no parameters. -/
theorem fields_queryOf_of_not_mem (h : '?' ∉ page.toList) : Visit.fields (queryOf page) = [] := by
  have hquery : queryOf page = "" := by
    unfold queryOf
    rw [Url.cutAt_of_not_mem]
    intro hmem
    exact h ((List.takeWhile_prefix _).subset hmem)
  rw [hquery]
  rfl

/-- The signs of the parameter do not begin a fragment. -/
theorem not_mem_encodeForm_error (code : String) : '#' ∉ (encodeForm [("error", code)]).toList := by
  rw [encodeForm_error, String.toList_append, List.mem_append]
  rintro (h | h)
  · revert h
    decide
  · rw [String.toList_ofList] at h
    have hsign := mem_encodeFormText h
    revert hsign
    decide

/-- The parameters of the target are those of the page and then the code. -/
theorem fields_targetOf (hpage : '#' ∉ page.toList) (code : String) :
    Visit.fields (queryOf (targetOf page code)) =
      Visit.fields (queryOf page) ++ [("error", code)] := by
  unfold targetOf
  rw [queryOf_append hpage (not_mem_encodeForm_error code)]
  by_cases h : '?' ∈ page.toList
  · rw [if_pos (List.contains_iff_mem.2 h), Visit.fields_append, Visit.fields_encodeForm]
  · rw [if_neg (by simpa using h), fields_queryOf_of_not_mem h, Visit.fields_encodeForm]
    rfl

/-- The page for failures shows the code of the target. -/
theorem json_login_of_query {fs : List (String × String)} {code : String}
    (hown : "error" ∉ fs.map (·.1)) {v : Visit} {c : Callback} (hv : v.callback = .ok c)
    (hquery : Visit.fields v.query = fs ++ [("error", code)]) (s : Session) :
    Page.login.json c s =
      .ok (.record [("authenticated", .bool false), ("error", .text code)]) := by
  have hnone : fs.lookup "error" = none := by
    rw [List.lookup_eq_none_iff]
    intro f hf
    rw [bne_iff_ne]
    intro hname
    exact hown (List.mem_map.2 ⟨f, hf, hname.symm⟩)
  have hcode : c.query.lookup "error" = some code := by
    obtain ⟨p, -, hv⟩ := bind_eq_ok.1 hv
    obtain ⟨base, -, hv⟩ := bind_eq_ok.1 hv
    obtain rfl := Except.ok.inj hv
    show (Visit.firsts (Visit.fields v.query)).lookup "error" = _
    rw [Visit.lookup_firsts, hquery, List.lookup_append, hnone]
    rfl
  show (Except.ok (Value.record [("authenticated", .bool false),
    ("error", ((c.query.lookup "error").map Value.text).getD .null)]) : Except Fault Value) = _
  rw [hcode]
  rfl

/-- How a failure is shown. The target of the page is the page itself, a separator, and one
parameter whose value is written with signs that neither end it nor leave the query. The query of
the target is read as the parameters of the page, which stay in front as they are, and then the
code; if the page has no parameter of that name, a visit with this query finds the code on the page
for failures. The handler forgets the principal and answers with a redirect to the target, if the
page is one line of text, and a target of ASCII without blanks is sent as it is, with that query. -/
theorem failure_shown (page code : String) (f : Failure) (hcode : f.code = .text code)
    (hfragment : '#' ∉ page.toList) (hown : "error" ∉ (Visit.fields (queryOf page)).map (·.1)) :
    ∃ value target, (∀ x ∈ value.toList, isUnreserved x = true ∨ x = '+' ∨ x = '%') ∧
      target = page ++ (if page.toList.contains '?' then "&" else "?") ++ "error=" ++ value ∧
      failureTarget (.text page) f.code = .ok target ∧
      Visit.fields (queryOf target) = Visit.fields (queryOf page) ++ [("error", code)] ∧
      (∀ (v : Visit) (c : Callback) (s : Session), v.query = queryOf target → v.callback = .ok c →
        Page.login.json c s =
          .ok (.record [("authenticated", .bool false), ("error", .text code)])) ∧
      ((∀ x ∈ page.toList, x ≠ '\n' ∧ x ≠ '\r') → ∀ {ε : Type} (h : Host ε),
        (turnAway (.text page) f).runOn h = (.ok { status := 302, location := some target },
          { h with session := h.session.erase (.text principalKey) })) ∧
      ((∀ x ∈ page.toList, x.toNat < 128 ∧ Text.isBlank x = false) →
        location target = .ok target ∧
        ∀ p, Url.parts target = .ok p → String.ofList p.query = queryOf target) := by
  have htarget : targetOf page code = page ++ (if page.toList.contains '?' then "&" else "?") ++
      "error=" ++ String.ofList (encodeFormText code.toList) := by
    unfold targetOf
    rw [encodeForm_error, String.append_assoc, String.append_assoc, String.append_assoc]
  have hfields := fields_targetOf hfragment code
  refine ⟨String.ofList (encodeFormText code.toList), targetOf page code, fun x hx => ?_, htarget,
    ?_, hfields, fun v c s hv hc => ?_, fun hline ε h => ?_, fun hpage => ?_⟩
  · rw [String.toList_ofList] at hx
    exact mem_encodeFormText hx
  · rw [hcode, failureTarget_text]
    rfl
  · exact json_login_of_query hown hc (hv ▸ hfields) s
  · rw [runOn_turnAway, hcode, failureTarget_text]
    refine Prod.ext (redirect_eq_ok fun x hx => ?_) rfl
    exact (mem_targetOf hx).elim (hline x) ne_lineBreak_of_printable
  · have hplain : ∀ x ∈ (targetOf page code).toList, x.toNat < 128 ∧ Text.isBlank x = false := by
      intro x hx
      rcases mem_targetOf hx with hx | hx
      · exact hpage x hx
      · exact ⟨by omega, Text.isBlank_of_printable hx⟩
    refine ⟨location_eq_self (targetOf_ne_empty page code) hplain, fun p hp => ?_⟩
    refine query_of_parts (fun x hx => ?_) hp
    have hblank := (hplain x hx).2
    unfold Url.isIgnored
    simp only [Bool.or_eq_false_iff, beq_eq_false_iff_ne]
    refine ⟨⟨?_, ?_⟩, ?_⟩ <;> rintro rfl <;> revert hblank <;> decide

/-- A code that looks like more parameters, a fragment and a header, on a page with a query. -/
theorem failure_shown_of_hostile_code :
    let page := "/login?next=%2Fhome"
    let code := "a&error=b#c%00 +é\r\nSet-Cookie: d"
    '#' ∉ page.toList ∧ "error" ∉ (Visit.fields (queryOf page)).map (·.1) ∧
      (∀ x ∈ page.toList, x.toNat < 128 ∧ Text.isBlank x = false) ∧
      ∃ target, failureTarget (.text page) (Failure.engine (.text code)).code = .ok target ∧
        Visit.fields (queryOf target) = [("next", "/home"), ("error", code)] ∧
        location target = .ok target := by
  intro page code
  have hfragment : '#' ∉ page.toList := by decide
  have hfields : Visit.fields (queryOf page) = [("next", "/home")] := by decide +kernel
  have hown : "error" ∉ (Visit.fields (queryOf page)).map (·.1) := by
    rw [hfields]
    decide
  have hplain : ∀ x ∈ page.toList, x.toNat < 128 ∧ Text.isBlank x = false := by decide
  obtain ⟨value, target, -, -, htarget, hquery, -, -, hsent⟩ :=
    failure_shown page code (Failure.engine (.text code)) rfl hfragment hown
  rw [hfields] at hquery
  exact ⟨hfragment, hown, hplain, target, htarget, hquery, (hsent hplain).1⟩

end Site

end LoginCallback
