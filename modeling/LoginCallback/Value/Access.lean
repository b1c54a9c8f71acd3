import LoginCallback.Value.Display

/-!
# Reading parts of values

Values come from outside and may have any kind. Each way of taking one apart states what it needs;
a value of another kind is refused with a cause of `Value.Fault`.
-/

namespace LoginCallback.Value

/-- Why a value could not be used as it was meant to be. -/
inductive Fault where
  /-- The kind has no such member. -/
  | noMember (kind member : String)
  | notIterable (kind : String)
  | notSubscriptable (kind : String)
  /-- A text was indexed by a name. -/
  | textIndex
  /-- A list was indexed by something other than an integer. -/
  | listIndex (kind : String)
  | textIndexRange
  | listIndexRange
  | unhashable (kind : String)
  | notContainer (kind : String)
  | unordered (left right : String)
  | missingKey (key : Value)
  /-- An item of a list of pairs is not a sequence. -/
  | itemNotSequence (index : Nat)
  /-- An item of a list of pairs has another length than two. -/
  | itemLength (index length : Nat)

def Fault.message : Fault → String
  | .noMember k a => "'" ++ k ++ "' object has no attribute '" ++ a ++ "'"
  | .notIterable k => "'" ++ k ++ "' object is not iterable"
  | .notSubscriptable k => "'" ++ k ++ "' object is not subscriptable"
  | .textIndex => "string indices must be integers, not 'str'"
  | .listIndex k => "list indices must be integers or slices, not " ++ k
  | .textIndexRange => "string index out of range"
  | .listIndexRange => "list index out of range"
  | .unhashable k => "unhashable type: '" ++ k ++ "'"
  | .notContainer k => "argument of type '" ++ k ++ "' is not iterable"
  | .unordered l r => "'<' not supported between instances of '" ++ l ++ "' and '" ++ r ++ "'"
  | .missingKey k => k.quoted
  | .itemNotSequence i =>
    "cannot convert dictionary update sequence element #" ++ toString i ++ " to a sequence"
  | .itemLength i n =>
    "dictionary update sequence element #" ++ toString i ++ " has length " ++ toString n
      ++ "; 2 is required"

/-- The entries of a mapping on which `operation` is called. -/
def entriesFor (operation : String) : Value → Except Fault Entries
  | mapping es => .ok es
  | v => .error (.noMember v.kind operation)

/-- The text on which `operation` is called. -/
def textFor (operation : String) : Value → Except Fault String
  | text s => .ok s
  | v => .error (.noMember v.kind operation)

/-- The entry under a text key, or the default. -/
def getD (v : Value) (key : String) (default : Value) : Except Fault Value := do
  return ((← v.entriesFor "get").text? key).getD default

/-- The entry under a text key, which must exist. -/
def item (v : Value) (key : String) : Except Fault Value :=
  match v with
  | mapping es => match Entries.text? es key with
    | some x => .ok x
    | none => .error (.missingKey (.text key))
  | text _ => .error .textIndex
  | list _ => .error (.listIndex "str")
  | v => .error (.notSubscriptable v.kind)

/-- The items of a value in order: of a text its characters, of a mapping its keys. -/
def items : Value → Except Fault (List Value)
  | list xs => .ok xs
  | text s => .ok (s.toList.map fun c => .text (String.singleton c))
  | mapping es => .ok (es.map (·.1))
  | v => .error (.notIterable v.kind)

/-- The value as a key. -/
def asKey (v : Value) : Except Fault Value :=
  if v.hashable then .ok v else .error (.unhashable v.kind)

def pairsOf (index : Nat) (found : Entries) : List Value → Except Fault Entries
  | [] => .ok found
  | x :: xs =>
    match x.items with
    | .error _ => .error (.itemNotSequence index)
    | .ok [k, v] => do pairsOf (index + 1) (found.insert (← k.asKey) v) xs
    | .ok ys => .error (.itemLength index ys.length)

/-- The value as a mapping: a mapping itself, or a list of pairs. -/
def toEntries : Value → Except Fault Entries
  | mapping es => .ok es
  | v => do pairsOf 0 [] (← v.items)

/-- Whether a text key occurs in the value. -/
def hasKey (v : Value) (key : Value) : Except Fault Bool :=
  match v with
  | mapping es => do return Entries.contains es (← key.asKey)
  | list xs => .ok (xs.any (same · key))
  | v => .error (.notContainer v.kind)

end LoginCallback.Value
