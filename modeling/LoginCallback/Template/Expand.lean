import LoginCallback.Platform
import LoginCallback.Template.Setting

/-!
# Templates: expansion

A field names one of the given values, from which members `.name` and items `[key]` may be taken;
the result is converted and set. Which members there are, the platform says. Positional fields have
nothing to refer to.
-/

namespace LoginCallback.Template

/-- The number that a name consists of, if it is one. -/
def asIndex (cs : List Char) : Except Fault (Option Nat) :=
  if cs.isEmpty then .ok none
  else go 0 cs
where
  go (value : Nat) : List Char → Except Fault (Option Nat)
    | [] => .ok (some value)
    | c :: cs => match Decimal.digitValue? c with
      | some d =>
        if value * 10 + d > maxNumber then .error .tooManyDigits else go (value * 10 + d) cs
      | none => .ok none

/-- A step from a value to a part of it. -/
inductive Selector where
  | member (name : List Char)
  | item (key : List Char)
  | malformed (fault : Fault)

def isNameEnd (c : Char) : Bool := c == '.' || c == '['

/-- The steps written behind a name, over at most `fuel` characters. -/
def selectorsFrom : Nat → List Char → List Selector
  | 0, _ => []
  | _, [] => []
  | fuel + 1, c :: cs =>
    if c == '.' then
      .member (cs.takeWhile (!isNameEnd ·)) :: selectorsFrom fuel (cs.dropWhile (!isNameEnd ·))
    else if c == '[' then
      match cs.dropWhile (· != ']') with
      | [] => [.malformed .unclosedBracket]
      | _ :: rest => .item (cs.takeWhile (· != ']')) :: selectorsFrom fuel rest
    else [.malformed .afterBracket]

/-- The item of a value under a key, which is a position if it is a number. -/
def selectItem (v : Value) (key : List Char) : Except Fault Value := do
  if key.isEmpty then throw .emptyMember
  match v, ← asIndex key with
  | .text s, some i =>
    match s.toList[i]? with
    | some c => return .text (String.singleton c)
    | none => throw (.value .textIndexRange)
  | .list xs, some i =>
    match xs[i]? with
    | some x => return x
    | none => throw (.value .listIndexRange)
  | .mapping es, some i =>
    match Entries.get? es (.int i) with
    | some x => return x
    | none => throw (.value (.missingKey (.int i)))
  | v, _ => match v.item (String.ofList key) with
    | .ok x => return x
    | .error e => throw (.value e)

def select [Platform] (v : Value) : Selector → Except Fault Value
  | .member name =>
    if name.isEmpty then .error .emptyMember
    else match Platform.member? v (String.ofList name) with
      | some x => .ok x
      | none => .error (.value (.noMember v.kind (String.ofList name)))
  | .item key => selectItem v key
  | .malformed e => .error e

/-- The value that the name of a field stands for. -/
def lookup [Platform] (given : List (String × Value)) (name : List Char) : Except Fault Value := do
  let first := name.takeWhile (!isNameEnd ·)
  match ← asIndex first with
  | some i => throw (.noPositional i)
  | none =>
    if first.isEmpty then throw (.noPositional 0)
    let key := String.ofList first
    match given.lookup key with
    | none => throw (.value (.missingKey (.text key)))
    | some v =>
      (selectorsFrom (name.length + 1) (name.dropWhile (!isNameEnd ·))).foldlM select v

def convert (v : Value) : Option Char → Except Fault Value
  | none => .ok v
  | some 'r' => .ok (.text v.quoted)
  | some 's' => .ok (.text v.display)
  | some 'a' => .ok (.text (Text.Quoted.toAscii v.quoted))
  | some c => .error (.unknownConversion c)

/-- Expands a template whose settings may be nested `depth` deep. -/
def expandTo [Platform] (given : List (String × Value)) : Nat → List Char → Except Fault String
  | 0, _ => .error .tooDeep
  | depth + 1, cs => do
    let parts ← (pieces cs).mapM fun piece =>
      match piece with
      | .literal c => .ok (String.singleton c)
      | .malformed e => .error e
      | .field f => do
        let v ← convert (← lookup given f.name) f.conversion
        if f.nested then setValue v (← expandTo given depth f.setting).toList
        else setValue v f.setting
    return String.join parts

/-- Expands a template with the given values. A setting may hold fields, but not their settings. -/
def expand [Platform] (given : List (String × Value)) (template : String) : Except Fault String :=
  expandTo given 2 template.toList

end LoginCallback.Template
