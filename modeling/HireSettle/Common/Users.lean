import HireSettle.Workflow.Table

/-! The columns of the user table that the modelled services read. -/
namespace HireSettle
open Workflow

inductive UserRole where
  | company | recruiter | arbiter | admin
  deriving DecidableEq, Repr

inductive ProofSlaAction where
  | autoApprove | escalateToAdmin
  deriving DecidableEq, Repr

-- what the user row holds for logging in
structure Credentials where
  passwordHash : Option String := none
  googleId : Option String := none
  failedLoginAttempts : Nat := 0
  lockedUntil : Option Nat := none
  totpEnabled : Bool := false
  totpSecret : Option String := none
  deriving DecidableEq, Repr

structure User where
  id : String
  role : UserRole := .company
  email : Option String := none
  stellarAddress : Option String := none
  deactivatedAt : Option Nat := none
  deletedAt : Option Nat := none
  proofSlaDays : Nat := 7
  proofSlaAction : ProofSlaAction := .escalateToAdmin
  createdAt : Nat := 0
  name : Option String := none
  planId : Option String := none
  credentials : Credentials := {}
  deriving DecidableEq, Repr

def UserRole.text : UserRole → String
  | .company => "COMPANY"
  | .recruiter => "RECRUITER"
  | .arbiter => "ARBITER"
  | .admin => "ADMIN"

instance : Keyed User String := ⟨User.id⟩

end HireSettle
