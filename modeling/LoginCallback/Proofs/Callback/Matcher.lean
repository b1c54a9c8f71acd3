import LoginCallback.Callback.Matcher
import LoginCallback.Proofs.Session.Run
import LoginCallback.Proofs.Settings.Assembly
import LoginCallback.Proofs.Text.Case

/-!
# What a matcher recognises

A request is a callback if its method is `GET`, in letters of either case, and its path either
matches the template or is the path of the redirect address of a registration. The template comes
before the registrations, and of these the last one counts (`match?_of_build`). Main statement:
`build_recognises`.
-/

namespace LoginCallback

/-- The path of the redirect address of a registration, on no site, unless it is empty. -/
def Registration.redirectPath? [Platform] (r : Registration) : Option String :=
  (r.redirectUri "" >>= Url.path).toOption.filter (!·.isEmpty)

namespace Matcher

section

variable [Platform]

/-- The last registration whose redirect address has a path. -/
def lastDeclaring? (rs : List Registration) (path : String) : Option Registration :=
  (rs.filter fun r => r.redirectPath? == some path).getLast?

theorem lastDeclaring?_congr {rs rs' : List Registration} {path : String}
    (h : (rs.filter fun r => r.redirectPath? == some path) =
      rs'.filter fun r => r.redirectPath? == some path) :
    lastDeclaring? rs path = lastDeclaring? rs' path :=
  congrArg List.getLast? h

theorem isSome_lastDeclaring? {rs : List Registration} {path : String} {r : Registration}
    (hr : r ∈ rs) (hpath : r.redirectPath? = some path) : (lastDeclaring? rs path).isSome = true := by
  have hmem : r ∈ rs.filter fun r => r.redirectPath? == some path :=
    List.mem_filter.2 ⟨hr, by rw [hpath, beq_self_eq_true]⟩
  exact List.getLast?_isSome.2 (List.ne_nil_of_mem hmem)

theorem declaredPaths_cons {r : Registration} {rs : List Registration}
    {declared : List (String × Value)} (h : declaredPaths (r :: rs) = .ok declared) :
    ∃ path rest, r.redirectUri "" >>= Url.path = .ok path ∧ declaredPaths rs = .ok rest ∧
      declared = if path.isEmpty then rest else (path, r.id) :: rest := by
  rw [declaredPaths] at h
  obtain ⟨address, haddress, h⟩ := bind_eq_ok.1 h
  obtain ⟨path, hpath, h⟩ := bind_eq_ok.1 h
  obtain ⟨rest, hrest, h⟩ := bind_eq_ok.1 h
  exact ⟨path, rest, bind_eq_ok.2 ⟨address, haddress, hpath⟩, hrest, (Except.ok.inj h).symm⟩

/-- The entries of a path are those of the registrations that declare it, in their order. -/
theorem filter_declaredPaths {rs : List Registration} {declared : List (String × Value)}
    (h : declaredPaths rs = .ok declared) (path : String) :
    (declared.filter fun d => d.1 == path) =
      (rs.filter fun r => r.redirectPath? == some path).map fun r => (path, r.id) := by
  induction rs generalizing declared with
  | nil =>
    rw [declaredPaths] at h
    obtain rfl := Except.ok.inj h
    rfl
  | cons r rs ih =>
    obtain ⟨own, rest, hown, hrest, rfl⟩ := declaredPaths_cons h
    have hpath : r.redirectPath? = if own.isEmpty then none else some own := by
      rw [Registration.redirectPath?, hown]
      show (some own).filter _ = _
      rw [Option.filter_some]
      cases own.isEmpty <;> rfl
    rw [List.filter_cons, hpath]
    cases hempty : own.isEmpty with
    | true => simpa using ih hrest
    | false =>
      by_cases hsame : own = path
      · simp [hsame, ih hrest]
      · simp [hsame, ih hrest]

variable {template : String} {rs : List Registration} {m : Matcher}

theorem build_eq_ok (h : build (.text template) rs = .ok m) :
    PathTemplate.parse template = .ok m.template ∧ declaredPaths rs = .ok m.declared := by
  obtain ⟨t, ht, h⟩ := bind_eq_ok.1 h
  obtain ⟨declared, hdeclared, h⟩ := bind_eq_ok.1 h
  obtain rfl := Except.ok.inj h
  exact ⟨ht, hdeclared⟩

theorem declaring?_of_build (h : build (.text template) rs = .ok m) (path : String) :
    m.declaring? path = (lastDeclaring? rs path).map (·.id) := by
  rw [declaring?, ← List.getLast?_filter, filter_declaredPaths (build_eq_ok h).2,
    List.getLast?_map, Option.map_map]
  rfl

/-- What a matcher finds in a path: what the template does, or else the last registration that
declares the path. -/
def found? (t : PathTemplate) (rs : List Registration) (path : String) : Option Value :=
  match t.match? path.toList with
  | some id => some (.text (String.ofList id))
  | none => (lastDeclaring? rs path).map (·.id)

theorem match?_of_build (h : build (.text template) rs = .ok m) (method path : String) :
    m.match? method path =
      if method.toLower = "get" then (found? m.template rs path).map (⟨·, path⟩) else none := by
  unfold match?
  by_cases hget : method.toLower = "get"
  · have hupper := Text.upper_eq_get.2 hget
    rw [if_pos hget, if_neg (by simp [hupper]), declaring?_of_build h]
    unfold found?
    cases m.template.match? path.toList <;> rfl
  · have hupper : Text.upper method ≠ "GET" := fun h => hget (Text.upper_eq_get.1 h)
    rw [if_neg hget, if_pos (by simp [hupper])]

/-- Which requests a matcher recognises. Only requests with the method `GET` are; then the
identifier that the template finds in the path counts, whatever the registrations declare; then the
last registration in the order of the repository whose redirect address has the path, if there is
one. The redirect path of a registration is therefore always recognised, registrations of other
paths make no difference, and without registrations to go through only the template counts. -/
theorem build_recognises {repository : Repository} (hrs : Repository.ofList rs = .ok repository)
    (hbuild : build (.text template) repository.registrations = .ok m) (method path : String) :
    (method.toLower ≠ "get" → m.match? method path = none) ∧
    (method.toLower = "get" →
      (∀ id, m.template.match? path.toList = some id →
        m.match? method path = some ⟨.text (String.ofList id), path⟩) ∧
      (m.template.match? path.toList = none →
        m.match? method path = (lastDeclaring? rs path).map fun r => ⟨r.id, path⟩) ∧
      ∀ r ∈ rs, r.redirectPath? = some path → (m.match? method path).isSome = true) ∧
    PathTemplate.parse template = .ok m.template ∧
    (∀ rs' m', build (.text template) rs' = .ok m' →
      (rs'.filter fun r => r.redirectPath? == some path) =
        (rs.filter fun r => r.redirectPath? == some path) →
      m'.match? method path = m.match? method path) ∧
    ∃ m', build (.text template) [] = .ok m' ∧ m'.match? method path =
      if method.toLower = "get" then
        (m.template.match? path.toList).map fun id => ⟨.text (String.ofList id), path⟩
      else none := by
  obtain ⟨rfl, -⟩ := Repository.ofList_eq_ok hrs
  have hm := match?_of_build hbuild method path
  obtain ⟨htemplate, -⟩ := build_eq_ok hbuild
  refine ⟨fun hmethod => ?_, fun hmethod => ?_, htemplate, ?_, ?_⟩
  · rw [hm, if_neg hmethod]
  · rw [if_pos hmethod, found?] at hm
    refine ⟨fun id hid => ?_, fun hnone => ?_, fun r hr hpath => ?_⟩
    · rw [hm, hid]
      rfl
    · rw [hm, hnone, Option.map_map]
      rfl
    · rw [hm, Option.isSome_map]
      cases m.template.match? path.toList with
      | some id => rfl
      | none => rw [Option.isSome_map, isSome_lastDeclaring? hr hpath]
  · intro rs' m' hbuild' hsame
    obtain ⟨htemplate', -⟩ := build_eq_ok hbuild'
    have ht : m'.template = m.template := Except.ok.inj (htemplate'.symm.trans htemplate)
    rw [match?_of_build hbuild', hm, found?, found?, ht, lastDeclaring?_congr hsame]
  · have hempty : build (.text template) [] = .ok ⟨m.template, []⟩ :=
      bind_eq_ok.2 ⟨m.template, htemplate, rfl⟩
    refine ⟨_, hempty, ?_⟩
    rw [match?_of_build hempty, found?]
    cases m.template.match? path.toList <;> rfl

end

/-- Two registrations with the path `/cb`: the last one counts, for a method in small letters
too. -/
theorem build_recognises_last :
    let a := { Registration.ofId "a" with redirectTemplate := .text "/cb" }
    let b := { Registration.ofId "b" with redirectTemplate := .text "/cb" }
    ∃ repository m, Repository.ofList [a, b] = .ok repository ∧
      build (.text defaultTemplate) repository.registrations = .ok m ∧
      m.match? "get" "/cb" = some ⟨.text "b", "/cb"⟩ := by
  intro a b
  have hok : (Repository.ofList [a, b]).isOk = true := by decide +kernel
  cases hrs : Repository.ofList [a, b] with
  | error e =>
    rw [hrs] at hok
    cases hok
  | ok repository =>
    obtain ⟨hlist, -⟩ := Repository.ofList_eq_ok hrs
    have hok : (build (.text defaultTemplate) [a, b]).isOk = true := by decide +kernel
    cases hbuild : build (.text defaultTemplate) repository.registrations with
    | error e =>
      rw [← hlist, hbuild] at hok
      cases hok
    | ok m =>
      obtain ⟨-, hget, htemplate, -⟩ := build_recognises hrs hbuild "get" "/cb"
      obtain ⟨-, hdeclared, -⟩ := hget (Text.upper_eq_get.1 (by decide +kernel))
      have hparse : (PathTemplate.parse defaultTemplate).toOption.map
          (·.match? "/cb".toList) = some none := by decide +kernel
      rw [htemplate] at hparse
      have ha : a.redirectPath? = some "/cb" := by decide +kernel
      have hb : b.redirectPath? = some "/cb" := by decide +kernel
      refine ⟨repository, m, rfl, hbuild, (hdeclared (Option.some.inj hparse)).trans ?_⟩
      simp only [lastDeclaring?, List.filter_cons, ha, hb, beq_self_eq_true, if_true,
        List.filter_nil, List.getLast?_cons_cons, List.getLast?_singleton]
      rfl

/-- A blank at the front of the redirect address does not count, and the identifier may stand in it
by a member. -/
example : let path (template : String) :=
      ({ Registration.ofId "a" with redirectTemplate := .text template }).redirectPath?
    path " https://app.example.com/cb" = some "/cb" ∧
      path "/\x7bregistration_id.__class__.__name__\x7d" = some "/str" := by
  decide +kernel

end Matcher

end LoginCallback
