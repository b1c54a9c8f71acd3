import LoginCallback.Text.Blank

/-!
# Requests

What the login needs to know of a request to the application. Of a parameter that is given more
than once the first value counts.
-/

namespace LoginCallback

/-- Parameters of a request, in order. -/
abbrev Query := List (String × String)

structure Callback where
  method : String := "GET"
  path : String
  query : Query := []
  baseUrl : String := "http://localhost"

namespace Callback

/-- The address of a path on a site, without doubled slash between the two. -/
def address (baseUrl path : String) : String :=
  String.ofList (Text.dropTrailing '/' baseUrl.toList) ++ path

/-- The address of the request, without its parameters. -/
def url (c : Callback) : String := address c.baseUrl c.path

end Callback

end LoginCallback
