import LoginCallback.Registration.Basic

/-!
# The known registrations

A repository holds at least one registration and no two of the same identifier, in order.
-/

namespace LoginCallback

structure Repository where
  registrations : List Registration

namespace Repository

/-- Adds a registration under a new identifier. -/
def add (known : List Registration) (r : Registration) : Except Fault (List Registration) := do
  let id ← ofValue r.id.asKey
  if known.any fun k => Value.sameScalar k.id id then throw (.duplicateRegistration id)
  return known ++ [r]

def ofList (rs : List Registration) : Except Fault Repository := do
  let known ← rs.foldlM add []
  if known.isEmpty then throw .noRegistrations
  return ⟨known⟩

/-- The registration of an identifier. -/
def find? (repository : Repository) (id : Value) : Option Registration :=
  repository.registrations.find? fun r => Value.sameScalar r.id id

def size (repository : Repository) : Nat := repository.registrations.length

end Repository

end LoginCallback
