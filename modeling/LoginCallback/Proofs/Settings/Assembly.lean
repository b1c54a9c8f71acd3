import LoginCallback.Proofs.Callback.PathTemplate
import LoginCallback.Proofs.Template.Segment
import LoginCallback.Proofs.Value.Entries
import LoginCallback.Settings.Assembly

/-!
# What a configuration is assembled to

A repository holds the registrations of the configuration, no two of the same identifier, each with
its redirect template put in place (`ofConfig_eq_ok`).
-/

namespace LoginCallback

namespace Repository

/-- No registration has the identifier of an earlier one. -/
def Distinct (rs : List Registration) : Prop :=
  rs.Pairwise fun a b => Value.sameScalar a.id b.id = false

theorem add_eq_ok {known all : List Registration} {r : Registration} (h : add known r = .ok all) :
    all = known ++ [r] ∧ ∀ k ∈ known, Value.sameScalar k.id r.id = false := by
  unfold add Value.asKey at h
  cases hkey : r.id.hashable with
  | false =>
    rw [hkey] at h
    cases h
  | true =>
    rw [hkey] at h
    change (if known.any (fun k => Value.sameScalar k.id r.id) then throw _ else _ :
      Except Fault _) = _ at h
    split at h
    · cases h
    · rename_i hany
      refine ⟨(Except.ok.inj h).symm, fun k hk => Bool.eq_false_iff.2 fun hs => hany ?_⟩
      exact List.any_eq_true.2 ⟨k, hk, hs⟩

theorem foldlM_add {rs known all : List Registration} (hknown : Distinct known)
    (h : rs.foldlM add known = .ok all) : all = known ++ rs ∧ Distinct all := by
  induction rs generalizing known with
  | nil =>
    obtain rfl : known = all := Except.ok.inj h
    exact ⟨(List.append_nil known).symm, hknown⟩
  | cons r rs ih =>
    rw [List.foldlM_cons] at h
    obtain ⟨known', hadd, h⟩ := bind_eq_ok.1 h
    obtain ⟨rfl, hapart⟩ := add_eq_ok hadd
    have hknown' : Distinct (known ++ [r]) := by
      refine List.pairwise_append.2 ⟨hknown, List.pairwise_singleton _ _, fun k hk x hx => ?_⟩
      rw [List.mem_singleton.1 hx]
      exact hapart k hk
    obtain ⟨rfl, hall⟩ := ih hknown' h
    rw [List.append_assoc] at hall ⊢
    exact ⟨rfl, hall⟩

/-- A repository holds the registrations it is made of, and their identifiers differ. -/
theorem ofList_eq_ok {rs : List Registration} {repository : Repository}
    (h : ofList rs = .ok repository) :
    repository.registrations = rs ∧ Distinct repository.registrations := by
  obtain ⟨known, hfold, h⟩ := bind_eq_ok.1 h
  obtain ⟨hall, hdistinct⟩ := foldlM_add List.Pairwise.nil hfold
  change (if known.isEmpty then throw _ else _ : Except Fault _) = _ at h
  split at h
  · cases h
  · obtain rfl := Except.ok.inj h
    exact ⟨hall, hdistinct⟩

/-- A registration is found under its identifier. -/
theorem find?_of_mem {repository : Repository} (h : Distinct repository.registrations)
    {r : Registration} (hr : r ∈ repository.registrations) {id : String} (hid : r.id = .text id) :
    repository.find? (.text id) = some r := by
  unfold find?
  generalize repository.registrations = rs at h hr
  induction rs with
  | nil => cases hr
  | cons k rs ih =>
    obtain ⟨hk, hrest⟩ := List.pairwise_cons.1 h
    rcases List.mem_cons.1 hr with rfl | hr
    · rw [List.find?_cons_of_pos (by rw [hid]; exact Value.sameScalar_text_self id)]
    · have hapart := hk r hr
      rw [hid] at hapart
      rw [List.find?_cons_of_neg (by rw [hapart]; exact Bool.false_ne_true)]
      exact ih hrest hr

end Repository

/-! ## Assembling -/

namespace LoginParts

/-- What each element gives, in an order of its own. -/
theorem mem_of_mapM {α β : Type} {f : α → Except Fault β} {xs : List α} {ys : List β}
    (h : xs.mapM f = .ok ys) {x : α} (hx : x ∈ xs) : ∃ y ∈ ys, f x = .ok y := by
  have hmem : f x ∈ xs.map f := List.mem_map_of_mem hx
  rw [mapM_eq_ok.1 h] at hmem
  obtain ⟨y, hy, heq⟩ := List.mem_map.1 hmem
  exact ⟨y, hy, heq.symm⟩

variable [Platform] {c : LoginConfig} {store : Option RequestStore} {parts : LoginParts}

/-- How the parts are made, step by step. -/
theorem ofConfig_steps (h : ofConfig c store = .ok parts) :
    c.registrations.mapM (withCallbackPath c.login.callbackPath) =
        .ok parts.repository.registrations ∧
      Repository.ofList parts.repository.registrations = .ok parts.repository ∧
      (∀ s, store = some s → parts.store = s) ∧
      Matcher.build c.login.callbackPath parts.repository.registrations = .ok parts.matcher := by
  obtain ⟨registrations, hmap, h⟩ := bind_eq_ok.1 h
  obtain ⟨repository, hlist, h⟩ := bind_eq_ok.1 h
  obtain ⟨hrs, -⟩ := Repository.ofList_eq_ok hlist
  rw [← hrs] at hmap hlist
  cases store with
  | some s =>
    obtain ⟨s', hs', h⟩ := bind_eq_ok.1 h
    obtain ⟨m, hm, h⟩ := bind_eq_ok.1 h
    obtain rfl := Except.ok.inj h
    obtain rfl := Except.ok.inj hs'
    exact ⟨hmap, hlist, fun _ hs => Option.some.inj hs, hm⟩
  | none =>
    obtain ⟨_, -, h⟩ := bind_eq_ok.1 h
    obtain ⟨s, -, h⟩ := bind_eq_ok.1 h
    obtain ⟨m, hm, h⟩ := bind_eq_ok.1 h
    obtain rfl := Except.ok.inj h
    exact ⟨hmap, hlist, fun _ hs => (by cases hs), hm⟩

/-- Without another store the settings make one, which keeps its requests under the default key. -/
theorem store_of_settings (h : ofConfig c none = .ok parts) :
    ∃ s : SessionStore, parts.store = s.toRequestStore ∧ s.key = SessionStore.defaultKey := by
  obtain ⟨registrations, -, h⟩ := bind_eq_ok.1 h
  obtain ⟨repository, -, h⟩ := bind_eq_ok.1 h
  obtain ⟨s, hs, h⟩ := bind_eq_ok.1 h
  obtain ⟨s', hs', h⟩ := bind_eq_ok.1 h
  obtain ⟨m, -, h⟩ := bind_eq_ok.1 h
  obtain ⟨ttl, -, hs⟩ := bind_eq_ok.1 hs
  obtain ⟨limit, -, hs⟩ := bind_eq_ok.1 hs
  obtain rfl := Except.ok.inj hs
  obtain rfl := Except.ok.inj hs'
  obtain rfl := Except.ok.inj h
  exact ⟨_, rfl, rfl⟩

/-- The parts of a configuration: a repository of its registrations with their redirect templates in
place, and a matcher of its callback path. -/
theorem ofConfig_eq_ok (h : ofConfig c store = .ok parts) :
    c.registrations.mapM (withCallbackPath c.login.callbackPath) =
        .ok parts.repository.registrations ∧
      Repository.Distinct parts.repository.registrations ∧
      PathTemplate.ofValue c.login.callbackPath = .ok parts.matcher.template := by
  obtain ⟨hmap, hlist, -, hm⟩ := ofConfig_steps h
  obtain ⟨template, htemplate, hm⟩ := bind_eq_ok.1 hm
  obtain ⟨declared, -, hm⟩ := bind_eq_ok.1 hm
  rw [← Except.ok.inj hm]
  exact ⟨hmap, (Repository.ofList_eq_ok hlist).2, htemplate⟩

end LoginParts

end LoginCallback
