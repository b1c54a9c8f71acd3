import LoginCallback.Value.Basic

/-!
# Equality of values

Mappings and lists are nested in values, so equality is decided by a test that walks through both
values at once (`alike`).
-/

namespace LoginCallback.Value

mutual

/-- Equality of values as they are: the kinds of numbers and the order of entries count. -/
def alike : Value → Value → Bool
  | null, null => true
  | bool a, bool b => a == b
  | int m, int n => m == n
  | float x, float y => decide (x = y)
  | text s, text t => s == t
  | list xs, list ys => alikeItems xs ys
  | mapping es, mapping fs => alikeEntries es fs
  | foreign f, foreign g => f == g
  | _, _ => false

def alikeItems : List Value → List Value → Bool
  | [], [] => true
  | x :: xs, y :: ys => alike x y && alikeItems xs ys
  | _, _ => false

def alikeEntries : List (Value × Value) → List (Value × Value) → Bool
  | [], [] => true
  | (k, v) :: es, (l, w) :: fs => (alike k l && alike v w) && alikeEntries es fs
  | _, _ => false

end

mutual

theorem alike_iff : ∀ a b : Value, alike a b = true ↔ a = b
  | null, b => by cases b <;> simp [alike]
  | bool _, b => by cases b <;> simp [alike]
  | int _, b => by cases b <;> simp [alike]
  | float _, b => by cases b <;> simp [alike]
  | text _, b => by cases b <;> simp [alike]
  | list xs, b => by cases b <;> simp [alike, alikeItems_iff xs]
  | mapping es, b => by cases b <;> simp [alike, alikeEntries_iff es]
  | foreign _, b => by cases b <;> simp [alike]

theorem alikeItems_iff : ∀ xs ys : List Value, alikeItems xs ys = true ↔ xs = ys
  | [], ys => by cases ys <;> simp [alikeItems]
  | x :: xs, ys => by cases ys <;> simp [alikeItems, alike_iff x, alikeItems_iff xs]

theorem alikeEntries_iff : ∀ es fs : List (Value × Value), alikeEntries es fs = true ↔ es = fs
  | [], fs => by cases fs <;> simp [alikeEntries]
  | (k, v) :: es, fs => by
    cases fs <;> simp [alikeEntries, alike_iff k, alike_iff v, alikeEntries_iff es, Prod.ext_iff]

end

instance : DecidableEq Value := fun a b => decidable_of_iff _ (alike_iff a b)

end LoginCallback.Value
