import LoginCallback.Proofs.Octets.Characters
import LoginCallback.Site.Visit

/-!
# Fields are read as they were written

Whatever the names and values of a form hold, reading its encoded form gives them back, in their
order: no value can end its field, begin another one or change a name. Main statement:
`fields_encodeForm`.
-/

namespace LoginCallback

namespace Octets

/-! ## Joined parts -/

variable {separator : Char}

theorem splitOn_of_not_mem {cs : List Char} (h : separator ∉ cs) : splitOn separator cs = [cs] := by
  induction cs with
  | nil => rfl
  | cons c cs ih =>
    rw [splitOn, if_neg (by simpa using Ne.symm (List.ne_of_not_mem_cons h)),
      ih (List.not_mem_of_not_mem_cons h)]

/-- A part ends at the first separator. -/
theorem splitOn_append {part : List Char} (rest : List Char) (h : separator ∉ part) :
    splitOn separator (part ++ separator :: rest) = part :: splitOn separator rest := by
  induction part with
  | nil => simp [splitOn]
  | cons c part ih =>
    rw [List.cons_append, splitOn, if_neg (by simpa using Ne.symm (List.ne_of_not_mem_cons h)),
      ih (List.not_mem_of_not_mem_cons h)]

theorem splitOn_joinWith {parts : List (List Char)} (hne : parts ≠ [])
    (h : ∀ part ∈ parts, separator ∉ part) :
    splitOn separator (joinWith separator parts) = parts := by
  fun_induction joinWith separator parts with
  | case1 => exact absurd rfl hne
  | case2 part => exact splitOn_of_not_mem (h part (List.mem_singleton.2 rfl))
  | case3 part next parts ih =>
    rw [List.forall_mem_cons] at h
    rw [splitOn_append _ h.1, ih (by simp) h.2]

/-! ## Escapes -/

theorem hexValue?_upperHex {n : Nat} (h : n < 16) : hexValue? (upperHex n) = some n := by
  have hall : ∀ n < 16, hexValue? (upperHex n) = some n := by decide
  exact hall n h

theorem unescape_cons {c : Char} (h : c ≠ '%') (rest : List Char) :
    unescape (c :: rest) = ofChar c ++ unescape rest := by
  rw [unescape.eq_def]
  split <;> simp_all

theorem unescape_percent {o : Nat} (h : o < 256) (rest : List Char) :
    unescape (percent o ++ rest) = o :: unescape rest := by
  have hvalue : o / 16 * 16 + o % 16 = o := by omega
  show unescape ('%' :: upperHex (o / 16) :: upperHex (o % 16) :: rest) = _
  rw [unescape, hexValue?_upperHex (by omega), hexValue?_upperHex (by omega)]
  dsimp only
  rw [hvalue]

/-! ## Names and values -/

/-- What a reader makes of a plus sign. -/
def unplus (c : Char) : Char := if c == '+' then ' ' else c

theorem map_unplus_percent {o : Nat} (h : o < 256) : (percent o).map unplus = percent o := by
  have hhex : ∀ n < 16, unplus (upperHex n) = upperHex n := by decide
  show ['%', unplus (upperHex (o / 16)), unplus (upperHex (o % 16))] = _
  rw [hhex _ (by omega), hhex _ (by omega)]
  rfl

theorem unescape_flatMap_percent {os : List Nat} (h : ∀ o ∈ os, o < 256) (rest : List Char) :
    unescape ((os.flatMap percent).map unplus ++ rest) = os ++ unescape rest := by
  induction os with
  | nil => rfl
  | cons o os ih =>
    rw [List.forall_mem_cons] at h
    rw [List.flatMap_cons, List.map_append, map_unplus_percent h.1, List.append_assoc,
      unescape_percent h.1, ih h.2, List.cons_append]

theorem ne_of_isUnreserved {c : Char} (h : isUnreserved c = true) : c ≠ '+' ∧ c ≠ '%' := by
  constructor <;> rintro rfl <;> revert h <;> decide

/-- Behind the signs that stand for one character the reader goes on. -/
theorem unescape_encodeFormChar (c : Char) (rest : List Char) :
    unescape ((encodeFormChar c).map unplus ++ rest) = ofChar c ++ unescape rest := by
  unfold encodeFormChar
  split
  · rename_i hunreserved
    obtain ⟨hplus, hpercent⟩ := ne_of_isUnreserved hunreserved
    have hself : unplus c = c := if_neg (by simpa using hplus)
    rw [List.map_singleton, hself, List.singleton_append, unescape_cons hpercent]
  · split
    · rename_i hspace
      obtain rfl : c = ' ' := by simpa using hspace
      exact unescape_cons (by decide) rest
    · exact unescape_flatMap_percent (fun _ => lt_of_mem_ofChar) rest

theorem unescape_encodeFormText (cs : List Char) :
    unescape ((encodeFormText cs).map unplus) = cs.flatMap ofChar := by
  unfold encodeFormText
  induction cs with
  | nil => rfl
  | cons c cs ih =>
    rw [List.flatMap_cons, List.map_append, unescape_encodeFormChar, ih, List.flatMap_cons]

theorem not_mem_encodeFormText {cs : List Char} {separator : Char}
    (h : separator = '&' ∨ separator = '=') : separator ∉ encodeFormText cs := by
  intro hmem
  have hrange := toNat_of_mem_encodeFormText hmem
  rcases h with rfl | rfl
  · exact hrange.2.2.1 rfl
  · exact hrange.2.2.2 rfl

theorem not_mem_encodeField (f : String × String) : '&' ∉ encodeField f := by
  unfold encodeField
  rw [List.mem_append, List.mem_cons]
  rintro (h | h | h)
  · exact not_mem_encodeFormText (Or.inl rfl) h
  · exact absurd h (by decide)
  · exact not_mem_encodeFormText (Or.inl rfl) h

end Octets

/-- What stands before the first mark, and what stands behind it. -/
theorem Url.cutAt_append {mark : Char} {cs : List Char} (ds : List Char) (h : mark ∉ cs) :
    Url.cutAt mark (cs ++ mark :: ds) = (cs, ds) := by
  have hall : ∀ c ∈ cs, (c != mark) = true := by
    intro c hc
    simp only [bne_iff_ne]
    rintro rfl
    exact h hc
  unfold Url.cutAt
  rw [List.takeWhile_append_of_pos hall, List.dropWhile_append_of_pos hall]
  simp

namespace Site.Visit

open LoginCallback.Octets

theorem decodeField_encodeFormText (s : String) : decodeField (encodeFormText s.toList) = s := by
  show String.ofList (toTextEscaped (unescape ((encodeFormText s.toList).map unplus))) = s
  rw [unescape_encodeFormText, toTextEscaped_flatMap_ofChar, String.ofList_toList]

/-- The fields of an encoded form are those that were encoded. -/
theorem fields_encodeForm (fs : List (String × String)) : fields (encodeForm fs) = fs := by
  unfold fields encodeForm
  rw [String.toList_ofList]
  cases fs with
  | nil => rfl
  | cons f fs =>
    have hgiven : ((f :: fs).map encodeField).filter (!·.isEmpty) = (f :: fs).map encodeField := by
      refine List.filter_eq_self.2 fun field hfield => ?_
      obtain ⟨g, -, rfl⟩ := List.mem_map.1 hfield
      simp [encodeField]
    rw [splitOn_joinWith (by simp) (List.forall_mem_map.2 fun g _ => not_mem_encodeField g), hgiven,
      List.map_map]
    refine List.map_id'' (fun g => ?_) (f :: fs)
    show (decodeField (Url.cutAt '=' (encodeField g)).1,
      decodeField (Url.cutAt '=' (encodeField g)).2) = g
    rw [encodeField, Url.cutAt_append _ (not_mem_encodeFormText (Or.inr rfl)),
      decodeField_encodeFormText, decodeField_encodeFormText]

end Site.Visit

end LoginCallback
