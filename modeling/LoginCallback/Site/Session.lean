import LoginCallback.Json.Writer
import LoginCallback.Session.Store

/-!
# Sessions between visits

Between two visits a session is kept as a JSON text whose fields are sorted by name. So mappings
come back in the order of their keys, and keys that are no texts come back as texts.

That sessions are kept in this form is an assumption about the framework that the site is built
with.
-/

namespace LoginCallback.Site

/-- Whether the name of an entry is at most that of another. -/
def inOrder (a b : Value × Value) : Bool := decide (Json.keyText a.1 ≤ Json.keyText b.1)

/-- Entries sorted by name. Names of different kinds cannot be compared. -/
def sortEntries (es : Entries) : Except Value.Fault Entries :=
  match (es.zip (es.drop 1)).find? fun p => p.1.1.isText != p.2.1.isText with
  | some (a, b) => .error (.unordered b.1.kind a.1.kind)
  | none => .ok ((es.mergeSort inOrder).map fun (k, v) => (.text (Json.keyText k), v))

mutual

/-- A value as it comes back. -/
def kept (v : Value) : Except Value.Fault Value :=
  match v with
  | .list xs => (keptItems xs).map .list
  | .mapping es => do return .mapping (← sortEntries (← keptEntries es))
  | v => .ok v

def keptItems (vs : List Value) : Except Value.Fault (List Value) :=
  match vs with
  | [] => .ok []
  | x :: xs => do return (← kept x) :: (← keptItems xs)

def keptEntries (es : List (Value × Value)) : Except Value.Fault (List (Value × Value)) :=
  match es with
  | [] => .ok []
  | (k, v) :: es => do return (k, ← kept v) :: (← keptEntries es)

end

/-- A session as it comes back with the next visit. -/
def keptSession (s : Session) : Except Fault Session := ofValue do sortEntries (← keptEntries s)

end LoginCallback.Site
