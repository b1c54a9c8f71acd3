import LoginCallback.Authentication.AccessToken
import LoginCallback.Registration.Basic

/-!
# Authorized clients

The access token that was issued last for a user of a registration, kept under the identifier of
the registration and the name of the user.
-/

namespace LoginCallback

/-- A registration authorized by a user, with the access token. -/
structure AuthorizedClient where
  registration : Registration
  principalName : String
  accessToken : AccessToken

/-- The known authorized clients, at most one under each key, in the order of their first entry. -/
structure Clients where
  entries : List AuthorizedClient := []

namespace Clients

/-- Whether a client is kept under a key. -/
def isAt (registrationId : Value) (principalName : String) (c : AuthorizedClient) : Bool :=
  Value.sameScalar c.registration.id registrationId && c.principalName == principalName

def put (client : AuthorizedClient) : List AuthorizedClient → List AuthorizedClient
  | [] => [client]
  | c :: cs =>
    if isAt client.registration.id client.principalName c then client :: cs else c :: put client cs

/-- Records a client in place of the one with the same key. -/
def save (clients : Clients) (client : AuthorizedClient) : Clients := ⟨put client clients.entries⟩

def load? (clients : Clients) (registrationId : Value) (principalName : String) :
    Option AuthorizedClient :=
  clients.entries.find? (isAt registrationId principalName)

def remove (clients : Clients) (registrationId : Value) (principalName : String) : Clients :=
  ⟨clients.entries.filter fun c => !isAt registrationId principalName c⟩

def size (clients : Clients) : Nat := clients.entries.length

end Clients

end LoginCallback
