import LoginCallback.Exchange.Basic
import LoginCallback.Proofs.Exchange.Entanglement
import LoginCallback.Proofs.Exchange.Settled
import LoginCallback.Proofs.Octets.Form

/-!
# Redaction applied twice

A redacted text may hold another secret, which only a second redaction finds (`redact_redact_ne`).
It is a field that the first one could not see. The rules on running text find nothing more: once
they have been applied the text is settled for them (`settled_running`), and the rules for fields,
which come after them, keep it settled (`settled_scanPieces`). The rules for fields find nothing
more if no fields were entangled (`fixed_scanAll`). Then a redacted text stays as it is
(`redact_redact`).
-/

namespace LoginCallback

namespace Redaction

/-! ## Fields in settled texts -/

section

variable {r : Rule} {before : Option Char}

theorem exists_lastOf (c : Char) (cs : List Char) : ∃ b, lastOf (some c) cs = some b := by
  induction cs generalizing c with
  | nil => exact ⟨c, rfl⟩
  | cons d cs ih => exact ih d

/-- Nothing is found in a piece between quotes. -/
def Quiet (r : Rule) (p : List Char) : Prop :=
  ∀ x y, p = x ++ y → y ≠ [] → ∀ b z, r.find (some b) (y ++ '"' :: z) = none

theorem quiet_of_begin? (hr : r ∈ running) {p : List Char}
    (h : ∀ x y, p = x ++ y → ∀ b, r.begin? (some b) y = none) : Quiet r p := by
  intro x y heq _ b z
  obtain ⟨hrunning, hsigns, -⟩ := running_facts hr
  obtain ⟨havoids, -, hblank⟩ := hsigns '"' (by simp)
  rw [Rule.find_append hrunning havoids hblank, h x y heq b, Option.bind_none]

/-- A parameter or a header has its sign, and credentials begin a text. -/
theorem Rule.begin?_of_notMem {b : Char} {cs : List Char} (hparameter : '=' ∉ cs)
    (hheader : ':' ∉ cs) : r.begin? (some b) cs = none := by
  cases r with
  | parameter name wordStart =>
    rw [begin?, afterName?_eq_none (by decide) (by simp) hparameter, ite_self]
  | header scheme =>
    rw [begin?, afterName?_eq_none (k := ':') (by decide) (by decide) hheader, Option.bind_none]
  | credentials scheme => rfl
  | line name =>
    rw [begin?, afterName?_eq_none (by decide) (by simp) hheader, Option.map_none]
  | field name => rfl

theorem quiet_name (hr : r ∈ running) {name : String} (hname : name ∈ secretFields) {n : List Char}
    (h : Spells name.toList n) : Quiet r n := by
  have hparameter : '=' ∉ n := h.notMem ((secretFields_facts hname).2 '=' (by simp))
  have hheader : ':' ∉ n := h.notMem ((secretFields_facts hname).2 ':' (by simp))
  refine quiet_of_begin? hr ?_
  rintro x y rfl b
  exact Rule.begin?_of_notMem (fun h => hparameter (List.mem_append_right x h))
    fun h => hheader (List.mem_append_right x h)

theorem quiet_colon (hr : r ∈ running) : Quiet r ": ".toList := by
  have hall : ∀ r ∈ running, ∀ y ∈ ": ".toList.tails, r.begin? none y = none := by decide
  refine quiet_of_begin? hr fun x y heq b => Rule.begin?_of_none ?_ (some b)
  exact hall r hr y ((List.mem_tails _ _).2 ⟨x, heq.symm⟩)

theorem quiet_mark (hr : r ∈ running) : Quiet r mark :=
  fun _ _ heq hy b z => find_mark hr heq hy (some b) ('"' :: z)

theorem settled_quote (hr : r ∈ running) {before' : Option Char} {z : List Char}
    (h : Settled r before ('"' :: z)) : Settled r before' ('"' :: z) := by
  obtain ⟨havoids, -⟩ := (running_facts hr).2.1 '"' (by simp)
  exact h.congr_before hr fun c hc => Option.some.inj hc ▸ havoids

theorem settled_quoted_cons (hr : r ∈ running) {p q : List Char} {ps : List (List Char)}
    (hp : Quiet r p) (h : Settled r (some '"') (quoted (q :: ps))) :
    Settled r before (quoted (p :: q :: ps)) := by
  obtain ⟨havoids, -⟩ := (running_facts hr).2.1 '"' (by simp)
  rw [quoted_cons] at h
  rw [quoted_cons, quoted_cons, ← List.cons_append]
  refine settled_append (fun x y hit heq hy hfind => ?_) (settled_quote hr h)
  exfalso
  cases x with
  | nil =>
    rw [List.nil_append] at heq
    rw [← heq, List.cons_append, find_of_avoids hr havoids] at hfind
    cases hfind
  | cons c x =>
    obtain ⟨b, hb⟩ := exists_lastOf c x
    rw [lastOf_cons, hb, hp x y (List.cons.inj heq).2 hy b] at hfind
    cases hfind

/-- The rules for fields keep a text settled. -/
theorem settled_scanPieces (hr : r ∈ running) {name : String} (hname : name ∈ secretFields)
    {p : List Char} {ps : List (List Char)} (h : Settled r before (p ++ quoted ps)) :
    Settled r before (p ++ quoted (scanPieces name ps)) := by
  induction ps using pieces_induction name generalizing p before with
  | nil => exact h
  | field n c v w more hfield ih =>
    have hmore : Settled r (lastOf before (p ++ quoted [n, c, v])) (('"' :: w) ++ quoted more) := by
      refine Settled.suffix ?_
      simpa using h
    have hend : Settled r (some '"') (quoted (w :: scanPieces name more)) :=
      settled_quote hr (ih hmore)
    have hname : Quiet r n := quiet_name hr hname (isField_iff.1 hfield).1
    have hwritten : Settled r (lastOf before p)
        (quoted (n :: ": ".toList :: mark :: w :: scanPieces name more)) :=
      settled_quoted_cons hr hname (settled_quoted_cons hr (quiet_colon hr)
        (settled_quoted_cons hr (quiet_mark hr) hend))
    rw [scanPieces_of_isField hfield]
    exact h.before_quote hr hwritten
  | other n ps hfield ih =>
    rw [scanPieces_cons hfield, quoted_cons, ← List.cons_append, ← List.append_assoc]
    rw [quoted_cons, ← List.cons_append, ← List.append_assoc] at h
    exact ih h

end

/-! ## Redacted texts -/

/-- Fields of the text are entangled, once the rules on running text have been applied. -/
def EntangledText (text : String) : Prop := Entangled (pieces (applyAll running text.toList))

instance (text : String) : Decidable (EntangledText text) :=
  inferInstanceAs (Decidable (Entangled _))

theorem notMem_applyAll {x : Char} (hx : x ∉ mark) {rs : List Rule} (hrs : ∀ r ∈ rs, r ∈ running)
    {cs : List Char} (h : x ∉ cs) : x ∉ applyAll rs cs := by
  induction rs generalizing cs with
  | nil => exact h
  | cons r rs ih =>
    rw [List.forall_mem_cons] at hrs
    refine ih hrs.2 fun hmem => ?_
    exact (mem_replace (Rule.marks (running_facts hrs.1).1) hmem).elim h hx

/-- A text without quotes, such as an address or a form, has no fields. -/
theorem not_entangledText {text : String} (h : '"' ∉ text.toList) : ¬ EntangledText text := by
  have hpieces : pieces (applyAll running text.toList) = [] := by
    rw [pieces, Octets.splitOn_of_not_mem (notMem_applyAll (by decide) (fun _ h => h) h),
      List.tail_cons]
  unfold EntangledText
  rw [hpieces]
  decide

theorem applyAll_fields {names : List String} (hnames : ∀ name ∈ names, name ∈ secretFields)
    {p : List Char} (hp : '"' ∉ p) {ps : List (List Char)} (hps : ∀ x ∈ ps, '"' ∉ x) :
    applyAll (names.map .field) (p ++ quoted ps) = p ++ quoted (scanAll names ps) ∧
      ∀ x ∈ scanAll names ps, '"' ∉ x := by
  induction names generalizing ps with
  | nil => exact ⟨rfl, hps⟩
  | cons name names ih =>
    rw [List.forall_mem_cons] at hnames
    rw [List.map_cons, applyAll_cons, apply_field_quoted hnames.1 hp hps]
    exact ih hnames.2 (mem_scanPieces hps)

theorem toList_redact (text : String) : (redact text).toList =
    applyAll (secretFields.map .field) (applyAll running text.toList) := by
  rw [redact_eq, String.toList_ofList, rules_eq, applyAll_append]

theorem settled_scanAll {r : Rule} (hr : r ∈ running) {names : List String}
    (hnames : ∀ name ∈ names, name ∈ secretFields) {before : Option Char} {p : List Char}
    {ps : List (List Char)} (h : Settled r before (p ++ quoted ps)) :
    Settled r before (p ++ quoted (scanAll names ps)) := by
  induction names generalizing ps with
  | nil => exact h
  | cons name names ih =>
    rw [List.forall_mem_cons] at hnames
    exact ih hnames.2 (settled_scanPieces hr hnames.1 h)

/-- The rules on running text leave a redacted text. -/
theorem running_redact (text : String) :
    ∀ r ∈ running, r.apply (redact text).toList = (redact text).toList := by
  intro r hr
  obtain ⟨p, hp, hps, hcs⟩ := exists_pieces (applyAll running text.toList)
  have hsettled := settled_running text.toList r hr
  rw [hcs] at hsettled
  rw [toList_redact, hcs, (applyAll_fields (fun _ h => h) hp hps).1]
  exact (settled_scanAll hr (fun _ h => h) hsettled).apply_eq (running_facts hr).1

/-- Redaction leaves a redacted text, if no fields were entangled. -/
theorem redact_redact {text : String} (h : ¬ EntangledText text) :
    redact (redact text) = redact text := by
  obtain ⟨p, hp, hps, hcs⟩ := exists_pieces (applyAll running text.toList)
  obtain ⟨hfields, hquotes⟩ := applyAll_fields (fun _ h => h) hp hps
  have hself : applyAll rules (redact text).toList = (redact text).toList := by
    refine applyAll_eq_self fun r hr => ?_
    rw [rules_eq] at hr
    rcases List.mem_append.1 hr with hr | hr
    · exact running_redact text r hr
    · obtain ⟨name, hname, rfl⟩ := List.mem_map.1 hr
      have hfixed := fixed_scanAll h name hname
      rw [toList_redact, hcs, hfields, apply_field_quoted hname hp hquotes, hfixed]
  rw [redact_eq (redact text), hself, String.ofList_toList]

end Redaction

namespace Exchange

/-- The texts of an exchange that may hold secrets. -/
def texts (e : Exchange) : List String :=
  e.url :: ((e.requestHeaders ++ e.responseHeaders).map Prod.snd ++
    (e.requestBody.toList ++ e.responseBody.toList))

theorem redactHeaders_redactHeaders {hs : Headers}
    (h : ∀ x ∈ hs, redact (redact x.2) = redact x.2) :
    redactHeaders (redactHeaders hs) = redactHeaders hs := by
  unfold redactHeaders
  rw [List.map_map]
  refine List.map_congr_left fun x hx => ?_
  rw [Function.comp_apply, h x hx]

theorem redacted_redacted {e : Exchange} (h : ∀ text ∈ e.texts, redact (redact text) = redact text) :
    e.redacted.redacted = e.redacted := by
  simp only [texts, List.forall_mem_cons, List.forall_mem_append, List.forall_mem_map,
    Option.mem_toList] at h
  obtain ⟨hurl, ⟨hrequest, hresponse⟩, hbody, hbody'⟩ := h
  have hmap : ∀ body : Option String, (∀ text ∈ body, redact (redact text) = redact text) →
      (body.map redact).map redact = body.map redact := by
    rintro (_ | text) h
    · rfl
    · rw [Option.map_some, Option.map_some, h text rfl]
  unfold redacted
  simp only [hurl, redactHeaders_redactHeaders hrequest, redactHeaders_redactHeaders hresponse,
    hmap _ hbody, hmap _ hbody']

theorem logText_redacted {e : Exchange} (h : e.redacted.redacted = e.redacted) (level : Severity) :
    e.redacted.logText level false = e.logText level false := by
  have hshown : e.redacted.shown false = e.shown false := h
  unfold logText
  rw [hshown]

end Exchange

/-- A text in which no fields are entangled stays as it is when it is redacted again, and so does an
exchange of such texts, and what is written of it. In the others at most the rules for fields find
something more. -/
theorem redaction_settles :
    (∀ text, ∀ r ∈ Redaction.running, r.apply (redact text).toList = (redact text).toList) ∧
    (∀ text, ¬ Redaction.EntangledText text → redact (redact text) = redact text) ∧
    ∀ e : Exchange, (∀ text ∈ e.texts, ¬ Redaction.EntangledText text) →
      e.redacted.redacted = e.redacted ∧
      ∀ level, e.redacted.logText level false = e.logText level false := by
  refine ⟨Redaction.running_redact, fun _ => Redaction.redact_redact, fun e h => ?_⟩
  have htwice := Exchange.redacted_redacted fun text htext => Redaction.redact_redact (h text htext)
  exact ⟨htwice, Exchange.logText_redacted htwice⟩

theorem redaction_settles_reply :
    let reply := "\x7b\"access_token\": \"at1\", \"id_token\" : \"it1\", \"scope\": \"openid\"\x7d"
    let e : Exchange :=
      { id := "http_0001", timestamp := ⟨63839664000000000, some 0⟩, method := "POST"
        url := "https://id.example.com/token?state=s1", requestHeaders := [("Cookie", "sid=alice")]
        responseBody := some reply }
    (∀ text ∈ e.texts, ¬ Redaction.EntangledText text) ∧ redact (redact reply) = redact reply ∧
      e.redacted.redacted = e.redacted ∧
      e.redacted.logText Severity.trace false = e.logText Severity.trace false := by
  intro reply e
  have hreply : ¬ Redaction.EntangledText reply := by decide +kernel
  have htexts : ∀ text ∈ e.texts, ¬ Redaction.EntangledText text := by
    intro text htext
    have hcases : text = reply ∨ '"' ∉ text.toList := by
      revert text
      decide +kernel
    exact hcases.elim (fun h => h ▸ hreply) Redaction.not_entangledText
  obtain ⟨-, htext, hexchange⟩ := redaction_settles
  obtain ⟨htwice, hlog⟩ := hexchange e htexts
  exact ⟨htexts, htext reply hreply, htwice, hlog Severity.trace⟩

/-- What the first redaction leaves of this text holds a secret that it has not found. -/
theorem redact_redact_ne :
    let text := "\"access_token\": \"client_secret\": \"x\"client_secret\": \"y\""
    redact (redact text) ≠ redact text := by
  decide +kernel

end LoginCallback
