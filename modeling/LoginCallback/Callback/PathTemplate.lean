import LoginCallback.Fault

/-!
# Path templates

The template of the callback path: an absolute path in which `{registration_id}` occurs exactly
once. It stands for a non-empty text without slashes. A path that ends in a line end also matches
without it, unless it matches as it is.
-/

namespace LoginCallback

/-- What stands before and after the identifier. -/
structure PathTemplate where
  before : List Char
  after : List Char
  deriving DecidableEq

namespace PathTemplate

def placeholder : List Char := "\x7bregistration_id\x7d".toList

/-- The rest of a text after a given beginning. -/
def afterBeginning? : List Char → List Char → Option (List Char)
  | [], cs => some cs
  | _ :: _, [] => none
  | b :: bs, c :: cs => if b == c then afterBeginning? bs cs else none

/-- What stands before and after the first occurrence of the placeholder. -/
def cut? : List Char → Option (List Char × List Char)
  | [] => none
  | c :: cs =>
    match afterBeginning? placeholder (c :: cs) with
    | some rest => some ([], rest)
    | none => (cut? cs).map fun (before, after) => (c :: before, after)

/-- The template that a text writes. -/
def parse (text : String) : Except Fault PathTemplate :=
  if text.toList.head? != some '/' then .error (.pathNotAbsolute text)
  else match cut? text.toList with
    | none => .error (.pathPlaceholder text)
    | some (before, after) =>
      if (cut? after).isSome then .error (.pathPlaceholder text) else .ok ⟨before, after⟩

/-- The template that a value writes; only a text can. -/
def ofValue (v : Value) : Except Fault PathTemplate := do
  parse (← LoginCallback.ofValue (v.textFor "startswith"))

/-- What is left of a text without a given ending. -/
def beforeEnding? (ending cs : List Char) : Option (List Char) :=
  if ending.isSuffixOf cs then some (cs.take (cs.length - ending.length)) else none

/-- An identifier that the placeholder may stand for. -/
def isIdentifier (cs : List Char) : Bool := !cs.isEmpty && cs.all (· != '/')

/-- The identifier in a path of exactly this form. -/
def whole? (t : PathTemplate) (path : List Char) : Option (List Char) :=
  ((afterBeginning? t.before path).bind (beforeEnding? t.after)).filter isIdentifier

/-- The identifier in a path. -/
def match? (t : PathTemplate) (path : List Char) : Option (List Char) :=
  match t.whole? path with
  | some id => some id
  | none => (beforeEnding? ['\n'] path).bind t.whole?

end PathTemplate

end LoginCallback
