import LoginCallback.Template.Expand
import Mathlib.Data.List.TakeWhile

/-!
# Templates of texts and named fields

Most templates are plain texts with simple fields between them, `{name}`. Main statement:
`expand_written`, such a template expands to its texts, with the value of each field in its place.
-/

namespace LoginCallback.Template

/-- A part of a template: a text without braces, or a field that only names a value. -/
inductive Segment where
  | plain (text : List Char)
  | named (name : List Char)

namespace Segment

/-- A segment as it stands in the template. -/
def written : Segment → List Char
  | plain text => text
  | named name => '\x7b' :: (name ++ ['\x7d'])

/-- What takes the place of a segment. -/
def filled (values : List (String × String)) : Segment → List Char
  | plain text => text
  | named name => ((values.lookup (String.ofList name)).getD "").toList

/-- The characters that end a name or lead from it to a part of its value. -/
def endsName (c : Char) : Bool :=
  c == '\x7b' || c == '\x7d' || c == ':' || c == '!' || c == '[' || c == '.'

/-- A name that stands for a value by itself: it is no number and leads to no part of its value. -/
structure Simple (name : List Char) : Prop where
  chars : ∀ c ∈ name, endsName c = false
  head : ∃ c cs, name = c :: cs ∧ Decimal.digitValue? c = none

/-- A text has no braces; the value that a field names is given. -/
def Regular (values : List (String × String)) : Segment → Prop
  | plain text => ∀ c ∈ text, c ≠ '\x7b' ∧ c ≠ '\x7d'
  | named name => Simple name ∧ ∃ v, values.lookup (String.ofList name) = some v

/-- The pieces that a segment is cut into. -/
def pieces : Segment → List Piece
  | plain text => text.map .literal
  | named name => [.field ⟨name, none, [], false⟩]

end Segment

open Segment (endsName Simple)

/-! ## Cutting -/

theorem takeName_simple {name : List Char} (h : ∀ c ∈ name, endsName c = false) (rest : List Char) :
    takeName false (name ++ '\x7d' :: rest) = .ok (name, '\x7d', rest) := by
  induction name with
  | nil => rfl
  | cons c cs ih =>
    have hc := h c List.mem_cons_self
    simp only [endsName, Bool.or_eq_false_iff] at hc
    obtain ⟨⟨⟨⟨⟨hopen, hclose⟩, hcolon⟩, hmark⟩, hbracket⟩, -⟩ := hc
    have ih := ih fun d hd => h d (List.mem_cons_of_mem _ hd)
    rw [List.cons_append, takeName]
    simp only [hopen, hclose, hcolon, hmark, hbracket, Bool.or_self, Bool.false_eq_true, if_false,
      ih]
    rfl

theorem takeField_simple {name : List Char} (h : ∀ c ∈ name, endsName c = false)
    (rest : List Char) :
    takeField (name ++ '\x7d' :: rest) = .ok (⟨name, none, [], false⟩, rest) := by
  unfold takeField
  rw [takeName_simple h]
  rfl

theorem piecesFrom_literal {c : Char} (hopen : c ≠ '\x7b') (hclose : c ≠ '\x7d') (cs : List Char)
    (n : Nat) : piecesFrom (n + 1) (c :: cs) = .literal c :: piecesFrom n cs := by
  rw [piecesFrom.eq_def]
  simp only [beq_iff_eq, hopen, hclose, if_false]

theorem piecesFrom_field {cs rest : List Char} {f : Field} (hf : takeField cs = .ok (f, rest))
    (hopen : ∀ ds, cs ≠ '\x7b' :: ds) (n : Nat) :
    piecesFrom (n + 1) ('\x7b' :: cs) = .field f :: piecesFrom n rest := by
  rw [piecesFrom.eq_def]
  simp only [beq_iff_eq, Char.reduceEq, if_false, if_true]
  split
  · cases hf
  · exact absurd rfl (hopen _)
  · rw [hf]

theorem piecesFrom_plain {text : List Char} (h : ∀ c ∈ text, c ≠ '\x7b' ∧ c ≠ '\x7d')
    (rest : List Char) (n : Nat) :
    piecesFrom (n + text.length) (text ++ rest) = text.map .literal ++ piecesFrom n rest := by
  induction text with
  | nil => rfl
  | cons c cs ih =>
    obtain ⟨hopen, hclose⟩ := h c List.mem_cons_self
    rw [List.length_cons, ← Nat.add_assoc, List.cons_append, piecesFrom_literal hopen hclose,
      ih fun d hd => h d (List.mem_cons_of_mem _ hd)]
    rfl

theorem piecesFrom_named {name : List Char} (h : Simple name) (rest : List Char) (n : Nat) :
    piecesFrom (n + 1) ('\x7b' :: (name ++ '\x7d' :: rest)) =
      .field ⟨name, none, [], false⟩ :: piecesFrom n rest := by
  refine piecesFrom_field (takeField_simple h.chars rest) (fun ds hds => ?_) n
  obtain ⟨c, cs, rfl, -⟩ := h.head
  have hc := h.chars c List.mem_cons_self
  rw [(List.cons.inj hds).1] at hc
  cases hc

theorem pieces_written {values : List (String × String)} {segments : List Segment}
    (h : ∀ s ∈ segments, s.Regular values) :
    pieces (segments.flatMap Segment.written) = segments.flatMap Segment.pieces := by
  suffices hfuel : ∀ fuel, (segments.flatMap Segment.written).length ≤ fuel →
      piecesFrom fuel (segments.flatMap Segment.written) = segments.flatMap Segment.pieces from
    hfuel _ (Nat.le_succ _)
  induction segments with
  | nil =>
    intro fuel _
    cases fuel <;> rfl
  | cons s segments ih =>
    intro fuel hfuel
    have hs := h s List.mem_cons_self
    have ih := ih fun x hx => h x (List.mem_cons_of_mem _ hx)
    rw [List.flatMap_cons, List.length_append] at hfuel
    rw [List.flatMap_cons, List.flatMap_cons]
    cases s with
    | plain text =>
      change text.length + _ ≤ fuel at hfuel
      obtain ⟨n, rfl⟩ : ∃ n, fuel = n + text.length := ⟨fuel - text.length, by omega⟩
      show piecesFrom (n + text.length) (text ++ _) = _
      rw [piecesFrom_plain hs, ih n (by omega)]
      rfl
    | named name =>
      change (name ++ ['\x7d']).length + 1 + _ ≤ fuel at hfuel
      obtain ⟨n, rfl⟩ : ∃ n, fuel = n + 1 := ⟨fuel - 1, by omega⟩
      show piecesFrom (n + 1) ('\x7b' :: (name ++ ['\x7d'] ++ _)) = _
      rw [List.append_assoc, List.singleton_append, piecesFrom_named hs.1, ih n (by omega)]
      rfl

/-! ## Expanding -/

theorem asIndex_simple {name : List Char} (h : Simple name) : asIndex name = .ok none := by
  obtain ⟨c, cs, rfl, hc⟩ := h.head
  simp [asIndex, asIndex.go, hc]

/-- A name without an end is taken whole. -/
theorem takeWhile_simple {name : List Char} (h : ∀ c ∈ name, endsName c = false) :
    name.takeWhile (!isNameEnd ·) = name ∧ name.dropWhile (!isNameEnd ·) = [] := by
  have hall : ∀ c ∈ name, (!isNameEnd c) = true := by
    intro c hc
    have hends := h c hc
    simp only [endsName, Bool.or_eq_false_iff] at hends
    simp [isNameEnd, hends.1.2, hends.2]
  exact ⟨List.takeWhile_eq_self_iff.2 hall, List.dropWhile_eq_nil_iff.2 hall⟩

theorem lookup_texts (values : List (String × String)) (key : String) :
    (values.map fun x => (x.1, Value.text x.2)).lookup key = (values.lookup key).map .text := by
  induction values with
  | nil => rfl
  | cons x values ih =>
    rw [List.map_cons, List.lookup_cons, List.lookup_cons, ih]
    cases key == x.1 <;> rfl

theorem lookup_simple [Platform] {values : List (String × String)} {name : List Char} (h : Simple name)
    {v : String} (hv : values.lookup (String.ofList name) = some v) :
    lookup (values.map fun x => (x.1, .text x.2)) name = .ok (.text v) := by
  obtain ⟨htake, hdrop⟩ := takeWhile_simple h.chars
  have hne : name.isEmpty = false := by
    obtain ⟨c, cs, rfl, -⟩ := h.head
    rfl
  unfold lookup
  simp only [htake, hdrop, asIndex_simple h, hne, lookup_texts, hv, Option.map_some,
    Bool.false_eq_true, if_false]
  rfl

/-- What a piece of a template expands to. -/
def expandPiece [Platform] (given : List (String × Value)) (depth : Nat) : Piece → Except Fault String
  | .literal c => .ok (String.singleton c)
  | .malformed e => .error e
  | .field f => do
    let v ← convert (← lookup given f.name) f.conversion
    if f.nested then setValue v (← expandTo given depth f.setting).toList else setValue v f.setting

theorem expandTo_succ [Platform] (given : List (String × Value)) (depth : Nat) (cs : List Char) :
    expandTo given (depth + 1) cs =
      (pieces cs).mapM (expandPiece given depth) >>= fun parts => .ok (String.join parts) := by
  rw [expandTo]
  rfl

/-- The pieces of a text expand to its characters. -/
theorem mapM_literal [Platform] (given : List (String × Value)) (depth : Nat) (text : List Char) :
    (text.map Piece.literal).mapM (expandPiece given depth) =
      .ok (text.map String.singleton) := by
  induction text with
  | nil => rfl
  | cons c cs ih =>
    rw [List.map_cons, List.mapM_cons, ih]
    rfl

theorem flatMap_singleton (text : List Char) :
    (text.map String.singleton).flatMap String.toList = text := by
  induction text with
  | nil => rfl
  | cons c cs ih => rw [List.map_cons, List.flatMap_cons, ih, String.toList_singleton]; rfl

theorem expandPiece_named [Platform] {values : List (String × String)} {name : List Char}
    (h : Simple name) {v : String} (hv : values.lookup (String.ofList name) = some v) (depth : Nat) :
    expandPiece (values.map fun x => (x.1, .text x.2)) depth (.field ⟨name, none, [], false⟩) =
      .ok v := by
  simp only [expandPiece, lookup_simple h hv]
  rfl

theorem mapM_pieces [Platform] {values : List (String × String)} {segments : List Segment}
    (h : ∀ s ∈ segments, s.Regular values) (depth : Nat) :
    ∃ parts, (segments.flatMap Segment.pieces).mapM
        (expandPiece (values.map fun x => (x.1, .text x.2)) depth) = .ok parts ∧
      parts.flatMap String.toList = segments.flatMap (Segment.filled values) := by
  induction segments with
  | nil => exact ⟨[], rfl, rfl⟩
  | cons s segments ih =>
    have hs := h s List.mem_cons_self
    obtain ⟨parts, hparts, hchars⟩ := ih fun x hx => h x (List.mem_cons_of_mem _ hx)
    rw [List.flatMap_cons, List.flatMap_cons, List.mapM_append, hparts, ← hchars]
    cases s with
    | plain text =>
      refine ⟨text.map String.singleton ++ parts, ?_, ?_⟩
      · show (text.map Piece.literal).mapM _ >>= _ = _
        rw [mapM_literal]
        rfl
      · rw [List.flatMap_append, flatMap_singleton]
        rfl
    | named name =>
      obtain ⟨hname, v, hv⟩ := hs
      refine ⟨v :: parts, ?_, ?_⟩
      · show [Piece.field ⟨name, none, [], false⟩].mapM _ >>= _ = _
        rw [List.mapM_cons, expandPiece_named hname hv]
        rfl
      · rw [List.flatMap_cons, Segment.filled, hv]
        rfl

/-- A template of texts and named fields expands to the texts and the values of the fields. -/
theorem expand_written [Platform] {values : List (String × String)} {segments : List Segment}
    (h : ∀ s ∈ segments, s.Regular values) {template : String}
    (htemplate : template.toList = segments.flatMap Segment.written) :
    expand (values.map fun x => (x.1, .text x.2)) template =
      .ok (String.ofList (segments.flatMap (Segment.filled values))) := by
  obtain ⟨parts, hparts, hchars⟩ := mapM_pieces h 1
  have hjoin : String.join parts = String.ofList (segments.flatMap (Segment.filled values)) := by
    rw [← String.toList_inj, String.toList_join, hchars, String.toList_ofList]
  unfold expand
  rw [expandTo_succ, htemplate, pieces_written h, hparts, ← hjoin]
  rfl

end LoginCallback.Template
