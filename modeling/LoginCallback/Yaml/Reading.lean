import LoginCallback.Value.Basic
import LoginCallback.Yaml.Node
import LoginCallback.Yaml.Scalar

/-!
# Values of YAML texts

A tree becomes a value level by level, so of two faults the one nearer to the root is met first, and
of two on a level the one further to the front. Entries merged into a mapping come before its own,
which replace them.

That files are read so, from their layout (`Yaml.Layout`) to their values, is an assumption about
the library that reads the settings. Octets, sets and ordered mappings, which only a tag can ask for,
are left out: such a tag has no meaning here.
-/

namespace LoginCallback.Yaml

/-- A result, or a fault with the number of levels above it. -/
abbrev Made (α : Type) := Except (Nat × Fault) α

namespace Made

def fault {α : Type} (depth : Nat) (f : Fault) : Made α := .error (depth, f)

/-- The result, as part of something a level above. -/
def deeper {α : Type} (x : Made α) : Made α := x.mapError fun (n, f) => (n + 1, f)

/-- Both results, or the fault that is met first. -/
def both {α β : Type} : Made α → Made β → Made (α × β)
  | .ok a, .ok b => .ok (a, b)
  | .ok _, .error e => .error e
  | .error e, .ok _ => .error e
  | .error (m, f), .error (n, g) => .error (if n < m then (n, g) else (m, f))

def all {α : Type} : List (Made α) → Made (List α)
  | [] => .ok []
  | x :: xs => (both x (all xs)).map fun (a, as) => a :: as

end Made

/-- An entry of a mapping. -/
abbrev MadeEntry := Made Value × Made Value

/-- What has become of a node. -/
structure Built where
  value : Made Value
  /-- The entries of a mapping, whatever its tag. -/
  entries : Option (Except Fault (List MadeEntry)) := none
  /-- What the node contributes where it is merged into a mapping. -/
  merged : Except Fault (List MadeEntry) := .error .malformed

/-- The value of a scalar of which the text is known. -/
def scalarValue (tag : Tag) (text : List Char) : Made Value :=
  let at0 {α : Type} (x : Except Fault α) (f : α → Value) : Made Value :=
    (x.map f).mapError fun e => (0, e)
  match tag with
  | .null => .ok .null
  | .bool => at0 (Scalar.bool text) .bool
  | .int => at0 (Scalar.int text) .int
  | .float => at0 (Scalar.float text) .float
  | .moment => at0 (Scalar.moment text) .foreign
  | .text => .ok (.text (String.ofList text))
  | .sequence => .fault 1 .malformed
  | .mapping => .fault 1 .malformed
  | .merge => .fault 0 .malformed
  | .value => .fault 0 .malformed
  | .unknown => .fault 0 .malformed

/-- The value of a collection with the tag of a scalar, which must stand for one. -/
def standInValue (tag : Tag) (text : Option (List Char)) : Made Value :=
  match text with
  | some text => scalarValue tag text
  | none => if tag = .sequence || tag = .mapping then .fault 1 .malformed else .fault 0 .malformed

def listValue (items : List (Made Value)) : Made Value :=
  Made.deeper ((Made.all items).map Value.list)

def mappingValue (entries : Except Fault (List MadeEntry)) : Made Value :=
  match entries with
  | .error f => .fault 1 f
  | .ok es =>
    Made.deeper ((Made.all (es.map fun (k, v) => Made.both k v)).map fun es =>
      Value.mapping (Entries.ofList es))

/-- Lists and mappings cannot be keys. The key `=` is a text. -/
def keyValue (key : Node) (made : Made Value) : Made Value :=
  if key.tag = .sequence || key.tag = .mapping then .fault 0 .malformed
  else if key.tag = .value then match key with
    | .scalar _ text => .ok (.text (String.ofList text))
    | _ => .fault 0 .malformed
  else made

/-- The entries of a mapping from those of its nodes: what is merged comes first. -/
def gather (entries : List (Node × Built × Built)) : Except Fault (List MadeEntry) := do
  let merged ← (entries.filter (·.1.tag = .merge)).mapM fun (_, _, v) => v.merged
  let own := (entries.filter (·.1.tag ≠ .merge)).map fun (key, k, v) =>
    (keyValue key k.value, v.value)
  return merged.flatten ++ own

/-- What a sequence contributes where it is merged: the entries of its mappings, the last first. -/
def mergedItems (items : List Built) : Except Fault (List MadeEntry) := do
  let parts ← items.mapM fun b => b.entries.getD (.error .malformed)
  return parts.reverse.flatten

mutual

/-- The text that a node stands for: a mapping stands for the value of its key `=`. -/
def Node.text? : Node → Option (List Char)
  | .scalar _ text => some text
  | .sequence _ _ => none
  | .mapping _ es => entryText? es

def entryText? : List (Node × Node) → Option (List Char)
  | [] => none
  | (k, v) :: es => if k.tag = .value then v.text? else entryText? es

end

mutual

def Node.build : Node → Built
  | .scalar tag text => { value := scalarValue tag text }
  | .sequence tag items =>
    let built := buildItems items
    { value := if tag = .sequence then listValue (built.map (·.value)) else standInValue tag none
      merged := mergedItems built }
  | .mapping tag es =>
    let entries := gather (buildEntries es)
    { value := if tag = .mapping then mappingValue entries else standInValue tag (entryText? es)
      entries := some entries
      merged := entries }

def buildItems : List Node → List Built
  | [] => []
  | n :: ns => n.build :: buildItems ns

def buildEntries : List (Node × Node) → List (Node × Built × Built)
  | [] => []
  | (k, v) :: es => (k, k.build, v.build) :: buildEntries es

end

/-- The value that a text describes; an empty text describes none. -/
def read (text : List Char) : Except Fault Value := do
  match ← Node.ofText? text with
  | none => return .null
  | some n => n.build.value.mapError (·.2)

end LoginCallback.Yaml
