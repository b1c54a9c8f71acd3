import LoginCallback.Decimal.Binary

/-!
# Values

What configuration files, sessions and provider answers consist of. Mappings keep their entries in
the order of first insertion; keys are compared as values, so that numbers of equal size are one
key whatever their kind. Values of other kinds, such as dates, are only shown and compared.
-/

namespace LoginCallback

/-- A value of a kind that nothing here takes apart. -/
structure Foreign where
  kind : String
  display : String
  /-- The value as it is written inside a message. -/
  quoted : String
  /-- What tells two foreign values apart. -/
  identity : String
  deriving DecidableEq

inductive Value where
  | null
  | bool (b : Bool)
  | int (n : Int)
  | float (x : Float)
  | text (s : String)
  | list (items : List Value)
  | mapping (entries : List (Value × Value))
  | foreign (f : Foreign)
  deriving Inhabited

namespace Value

/-- The name of a value's kind in messages. -/
def kind : Value → String
  | null => "NoneType"
  | bool _ => "bool"
  | int _ => "int"
  | float _ => "float"
  | text _ => "str"
  | list _ => "list"
  | mapping _ => "dict"
  | foreign f => f.kind

/-- Whether a value counts as given: not null, false, zero or empty. -/
def truthy : Value → Bool
  | null => false
  | bool b => b
  | int n => n != 0
  | float x => x != 0.0
  | text s => !s.isEmpty
  | list xs => !xs.isEmpty
  | mapping es => !es.isEmpty
  | foreign _ => true

/-- Lists and mappings cannot be keys. -/
def hashable : Value → Bool
  | list _ => false
  | mapping _ => false
  | _ => true

def isText : Value → Bool
  | text _ => true
  | _ => false

def isNull : Value → Bool
  | null => true
  | _ => false

/-- The integer that a number is equal to, if there is one. -/
def asInt? : Value → Option Int
  | bool b => some (if b then 1 else 0)
  | int n => some n
  | float x =>
    match Decimal.parts x with
    | .finite negative m q _ =>
      let (num, den) := Decimal.ratio m q
      if num % den == 0 then some (if negative then -(num / den : Nat) else (num / den : Nat))
      else none
    | _ => none
  | _ => none

/-- Equality of scalars; numbers compare by size. -/
def sameScalar : Value → Value → Bool
  | null, null => true
  | text a, text b => a == b
  | float a, float b => a == b || a.toBits == b.toBits
  | foreign a, foreign b => a.identity == b.identity
  | a, b =>
    match a.asInt?, b.asInt? with
    | some m, some n => m == n
    | _, _ => false

mutual

/-- Equality of values: lists item by item, mappings regardless of order. -/
def same : Value → Value → Bool
  | list xs, list ys => sameItems xs ys
  | mapping es, mapping fs => es.length == fs.length && subsumed es fs
  | a, b => sameScalar a b

def sameItems : List Value → List Value → Bool
  | [], [] => true
  | x :: xs, y :: ys => same x y && sameItems xs ys
  | _, _ => false

/-- Every entry of the first list has an equal one in the second. -/
def subsumed : List (Value × Value) → List (Value × Value) → Bool
  | [], _ => true
  | (k, v) :: es, fs => fs.any (fun f => sameScalar k f.1 && same v f.2) && subsumed es fs

end

end Value

/-- The entries of a mapping, in insertion order. -/
abbrev Entries := List (Value × Value)

namespace Entries

def get? (es : Entries) (key : Value) : Option Value :=
  (es.find? fun e => Value.sameScalar e.1 key).map (·.2)

def text? (es : Entries) (key : String) : Option Value := get? es (.text key)

def contains (es : Entries) (key : Value) : Bool := es.any fun e => Value.sameScalar e.1 key

/-- A key that is present keeps its place and takes the new value; a new key comes last. -/
def insert : Entries → Value → Value → Entries
  | [], key, v => [(key, v)]
  | (k, w) :: es, key, v =>
    if Value.sameScalar k key then (k, v) :: es else (k, w) :: insert es key v

def erase (es : Entries) (key : Value) : Entries :=
  es.filter fun e => !Value.sameScalar e.1 key

def ofList (es : List (Value × Value)) : Entries :=
  es.foldl (fun m e => insert m e.1 e.2) []

end Entries

/-- A mapping of text keys. -/
def Value.record (fields : List (String × Value)) : Value :=
  .mapping (fields.map fun f => (.text f.1, f.2))

def Value.texts (ss : List String) : Value := .list (ss.map .text)

end LoginCallback
