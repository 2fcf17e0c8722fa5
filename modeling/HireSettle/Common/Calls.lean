import HireSettle.Workflow.Process

/-! What every service method shares: the exceptions it can end in, with the
messages of the HTTP ones and P2002 and P2025 of the database among the others,
and what the environment decides about one awaited call: whether it throws, and
what it returns that the database does not determine (a ledger sequence, a
balance, a uuid, a hash). Lengths are counted in UTF-16 code units. -/
namespace HireSettle

inductive Exception where
  | badRequest (message : String)
  | unauthorized (message : String)
  | forbidden (message : String)
  | notFound (message : String)
  | conflict (message : String)
  | unprocessable (message : String)
  | tooManyRequests (message : String) (retryAfter : Int)
  | uniqueViolation
  | recordNotFound
  | database
  | jwt
  | stellar
  | typeError
  | syntaxError
  deriving DecidableEq, Repr

def isUniqueViolation : Exception → Bool
  | .uniqueViolation => true
  | _ => false

structure Answer where
  fails : Bool := false
  number : Int := 0
  text : String := ""
  deriving DecidableEq, Repr

-- `!!s`
def present (s : Option String) : Option String := s.filter (· ≠ "")

def utf16Length (s : String) : Nat := (s.toList.map (fun c => if c.toNat < 0x10000 then 1 else 2)).sum

end HireSettle
