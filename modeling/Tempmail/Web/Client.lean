import Tempmail.Api.TokenRoutes
import Tempmail.Lib.Flight
import Tempmail.Lib.Machine

set_option autoImplicit false

namespace Tempmail.Web

-- What fetch comes to: a body under a 2xx status, another status, or nothing
-- (no connection, a body that is no JSON).
inductive Answer (Body : Type) where
  | ok (body : Body)
  | refused (error : Api.HTTPException)
  | failed
deriving DecidableEq

structure Thrown where
  status : Option Nat
  detail : Option String
deriving DecidableEq

-- not_found_handler answers every 404 with one body.
def sentDetail (error : Api.HTTPException) : String := if error.statusCode = 404 then "Not found" else error.detail

-- A function of the api object, and which properties of the response it puts on
-- the error it throws.
def call {Body : Type} (status detail : Bool) : Answer Body → Except Thrown Body
  | .ok body => .ok body
  | .refused error => .error ⟨if status then some error.statusCode else none, if detail then some (sentDetail error) else none⟩
  | .failed => .error ⟨none, none⟩

structure SetupStatus where
  initialized : Bool
deriving DecidableEq

structure AddressInfo where
  email : String
deriving DecidableEq

structure AddressResponse where
  id : Store.Uuid
  email : String
  token : String
  createdAt : Int
  expiresAt : Int
deriving DecidableEq

structure PermanentResponse where
  email : String
  token : String
deriving DecidableEq

structure AddressCreate where
  username : Option String
  domain : Option String
deriving DecidableEq

def getSetupStatus : Answer SetupStatus → Except Thrown SetupStatus := call false false
def getDomains : Answer (List String) → Except Thrown (List String) := call false false
def getAddressInfo : Answer AddressInfo → Except Thrown AddressInfo := call false false
def createAddress : Answer AddressResponse → Except Thrown AddressResponse := call true false
def createPermanentAddress : Answer PermanentResponse → Except Thrown PermanentResponse := call true true
def listEmails : Answer Api.EmailListResponse → Except Thrown Api.EmailListResponse := call true true
def getEmail : Answer Api.EmailDetail → Except Thrown Api.EmailDetail := call true true
def deleteEmail : Answer Unit → Except Thrown Unit := call true true

def NotFound {Body : Type} (answer : Answer Body) : Prop := ∃ error, answer = .refused error ∧ error.statusCode = 404

-- An item of local storage, by what JSON.parse makes of it.
inductive Stored (Value : Type) where
  | value (value : Value)
  | unreadable
deriving DecidableEq

theorem call_ok_iff {Body : Type} (status detail : Bool) (answer : Answer Body) (body : Body) :
    call status detail answer = .ok body ↔ answer = .ok body := by
  cases answer <;> simp [call]

theorem ok_found {Body : Type} (body : Body) : ¬ NotFound (Answer.ok body) := by
  intro missing
  obtain ⟨error, refused, _⟩ := missing
  cases refused

theorem thrown_iff {Body : Type} (detail : Bool) (answer : Answer Body) (thrown : Thrown)
    (raised : call true detail answer = .error thrown) : thrown.status = some 404 ↔ NotFound answer := by
  cases answer with
  | ok body => cases raised
  | refused error =>
      cases raised
      simp [NotFound]
  | failed =>
      cases raised
      simp [NotFound]

theorem status_dropped {Body : Type} (detail : Bool) (answer : Answer Body) (thrown : Thrown)
    (raised : call false detail answer = .error thrown) : thrown.status = none := by
  cases answer with
  | ok body => cases raised
  | refused error =>
      cases raised
      rfl
  | failed =>
      cases raised
      rfl

end Tempmail.Web
