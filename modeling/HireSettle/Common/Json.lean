import Mathlib

/-! JSON values and the conversions that JavaScript applies to them: `String`,
`Number`, `Boolean` and `BigInt`. Numbers are integers. How a text is read as a
number is left to the caller. -/
namespace HireSettle

inductive Json where
  | null
  | bool (value : Bool)
  | number (value : Int)
  | text (value : String)
  | array (items : List Json)
  | object (fields : List (String × Json))
  deriving Repr

namespace Json

mutual

def same : Json → Json → Bool
  | .null, .null => true
  | .bool a, .bool b => a = b
  | .number a, .number b => a = b
  | .text a, .text b => a = b
  | .array a, .array b => sameItems a b
  | .object a, .object b => sameFields a b
  | _, _ => false

def sameItems : List Json → List Json → Bool
  | [], [] => true
  | a :: as, b :: bs => a.same b && sameItems as bs
  | _, _ => false

def sameFields : List (String × Json) → List (String × Json) → Bool
  | [], [] => true
  | (k,a) :: as, (l,b) :: bs => k = l && a.same b && sameFields as bs
  | _, _ => false

end

mutual

theorem sameIff (a b : Json) : a.same b = true ↔ a = b := by
  cases a <;> cases b <;> simp [same]
  · exact sameItemsIff _ _
  · exact sameFieldsIff _ _

theorem sameItemsIff (a b : List Json) : sameItems a b = true ↔ a = b := by
  cases a with
  | nil => cases b <;> simp [sameItems]
  | cons x xs =>
    cases b with
    | nil => simp [sameItems]
    | cons y ys => simp [sameItems,sameIff x y,sameItemsIff xs ys]

theorem sameFieldsIff (a b : List (String × Json)) : sameFields a b = true ↔ a = b := by
  cases a with
  | nil => cases b <;> simp [sameFields]
  | cons x xs =>
    cases b with
    | nil => simp [sameFields]
    | cons y ys =>
      obtain ⟨k,x⟩ := x
      obtain ⟨l,y⟩ := y
      simp [sameFields,sameIff x y,sameFieldsIff xs ys]

end

instance : DecidableEq Json := fun a b => decidable_of_iff _ (sameIff a b)

mutual

-- `String(value)`
def toText : Json → String
  | .null => "null"
  | .bool true => "true"
  | .bool false => "false"
  | .number n => toString n
  | .text s => s
  | .array items => String.intercalate "," (joined items)
  | .object _ => "[object Object]"

-- the texts of a joined array, in which null is empty
def joined : List Json → List String
  | [] => []
  | .null :: rest => "" :: joined rest
  | item :: rest => item.toText :: joined rest

end

-- `Boolean(value)`
def truthy : Json → Bool
  | .null => false
  | .bool b => b
  | .number n => n ≠ 0
  | .text s => s ≠ ""
  | .array _ => true
  | .object _ => true

variable (read : String → Option Int)

-- `Number(value)`, where none is NaN
def toNumber : Json → Option Int
  | .null => some 0
  | .bool b => some (if b then 1 else 0)
  | .number n => some n
  | .text s => read s
  | .array items => read (toText (.array items))
  | .object _ => none

-- `BigInt(value)`, where none is a thrown error
def toBigInt : Json → Option Int
  | .null => none
  | .bool b => some (if b then 1 else 0)
  | .number n => some n
  | .text s => read s
  | .array items => read (toText (.array items))
  | .object _ => none

end Json

end HireSettle
