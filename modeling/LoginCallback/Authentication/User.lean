import LoginCallback.Fault

/-!
# Users

A user is what a provider tells about one, together with the attribute that names the user and the
authorities that the application grants. The naming attribute must be present.
-/

namespace LoginCallback

/-- The authority of every user who has logged in. -/
def roleUser : Value := .text "ROLE_USER"

structure User where
  attributes : Value
  nameKey : Value
  authorities : List Value

namespace User

/-- Whether a text occurs in another. -/
def occursIn (part whole : List Char) : Bool :=
  match whole with
  | [] => part.isEmpty
  | c :: cs => part.isPrefixOf (c :: cs) || occursIn part cs

/-- Whether the attributes have the key: mappings hold it, lists hold it as an item, texts hold it
as a part. -/
def hasAttribute (attributes key : Value) : Except Fault Bool :=
  match attributes with
  | .text s => match key with
    | .text k => .ok (occursIn k.toList s.toList)
    | k => .error (.keyInText k.kind)
  | v => ofValue (v.hasKey key)

/-- A user whose naming attribute is present. -/
def ofAttributes (attributes key : Value) (authorities : List Value := [roleUser]) :
    Except Fault User := do
  if ← hasAttribute attributes key then return { attributes, nameKey := key, authorities }
  else throw (.missingUserAttribute key)

/-- The item of a list at a position, which counts from the end if it is negative. -/
def itemAt (xs : List Value) (n : Int) : Except Value.Fault Value :=
  let i := if n < 0 then n + xs.length else n
  match if i < 0 then none else xs[i.toNat]? with
  | some x => .ok x
  | none => .error .listIndexRange

/-- The attribute under a key. -/
def attributeAt (attributes key : Value) : Except Value.Fault Value :=
  match attributes with
  | .mapping es => match Entries.get? es key with
    | some v => .ok v
    | none => .error (.missingKey key)
  | .list xs => match key with
    | .int n => itemAt xs n
    | .bool b => itemAt xs (if b then 1 else 0)
    | k => .error (.listIndex k.kind)
  | .text _ => .error .textIndex
  | v => .error (.notSubscriptable v.kind)

/-- The user's name: the text of the naming attribute. -/
def name (u : User) : Except Fault String := do
  return (← ofValue (attributeAt u.attributes u.nameKey)).display

end User

end LoginCallback
