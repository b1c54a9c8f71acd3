import LoginCallback.Url.Punycode
import LoginCallback.Value.Basic

/-!
# What the program runs on

Some results depend on what lies outside: on the room that a run has on its stack, on the tables of
Unicode that say which host names are valid, and on the members of the objects behind values. A
`Platform` answers for these. Everything that is stated about the program holds on every platform.
-/

namespace LoginCallback

class Platform where
  /-- How many lists and mappings may be open at once while a JSON text is read. -/
  jsonDepth : Nat
  /-- The form in ASCII of a host name with other characters, if it is a valid name. -/
  hostToAscii? : List Char → Option (List Char)
  /-- The host name that one in ASCII stands for, or why it stands for none. -/
  hostOfAscii : List Char → Except String (List Char)
  /-- The member of a value that templates may show. -/
  member? : Value → String → Option Value

/-- The class of the values of a kind. -/
def Value.classNamed (kind : String) : Foreign :=
  let shown := "<class '" ++ kind ++ "'>"
  { kind := "type", display := shown, quoted := shown, identity := shown }

/-- A platform with the usual room on its stack that takes every label for a valid one. Of the
members it knows the class of a value and the name of that. -/
instance Platform.plain : Platform where
  jsonDepth := 970
  hostToAscii? host := some (Url.asciiHost host)
  hostOfAscii := Url.shownHost
  member? v name := match v, name with
    | v, "__class__" => some (.foreign (Value.classNamed v.kind))
    | .foreign f, "__name__" =>
      if f.kind == "type" then
        some (.text (String.ofList ((f.display.toList.drop 8).dropLast.dropLast)))
      else none
    | _, _ => none

end LoginCallback
