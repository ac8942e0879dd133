import ChaincodeConsole.Decimal.Binary64

/-!
JSON values. A number is a natural number below `2 ^ 64`, a negative one down to `-2 ^ 63`,
or a floating number. The members of an object that was read stand in the order of their
keys, each key once; a later member with the same key takes the place of the earlier.
-/
namespace ChaincodeConsole

inductive Number where
  | natural (n : Nat)
  | negative (n : Nat)
  | floating (x : Binary64)
  deriving DecidableEq, Repr, Inhabited

inductive Json where
  | null
  | bool (b : Bool)
  | number (n : Number)
  | string (s : String)
  | array (items : List Json)
  | object (members : List (String × Json))
  deriving Repr, Inhabited

namespace Json

mutual
def decEq : (x y : Json) → Decidable (x = y)
  | .null, .null => isTrue rfl
  | .bool a, .bool b => decidable_of_iff (a = b) (by simp)
  | .number a, .number b => decidable_of_iff (a = b) (by simp)
  | .string a, .string b => decidable_of_iff (a = b) (by simp)
  | .array a, .array b =>
    match decEqItems a b with
    | isTrue h => isTrue (by rw [h])
    | isFalse h => isFalse (by simpa using h)
  | .object a, .object b =>
    match decEqMembers a b with
    | isTrue h => isTrue (by rw [h])
    | isFalse h => isFalse (by simpa using h)
  | .null, .bool _ | .null, .number _ | .null, .string _ | .null, .array _ | .null, .object _
  | .bool _, .null | .bool _, .number _ | .bool _, .string _ | .bool _, .array _
  | .bool _, .object _ | .number _, .null | .number _, .bool _ | .number _, .string _
  | .number _, .array _ | .number _, .object _ | .string _, .null | .string _, .bool _
  | .string _, .number _ | .string _, .array _ | .string _, .object _ | .array _, .null
  | .array _, .bool _ | .array _, .number _ | .array _, .string _ | .array _, .object _
  | .object _, .null | .object _, .bool _ | .object _, .number _ | .object _, .string _
  | .object _, .array _ => isFalse (by simp)

def decEqItems : (x y : List Json) → Decidable (x = y)
  | [], [] => isTrue rfl
  | [], _ :: _ | _ :: _, [] => isFalse (by simp)
  | a :: r, b :: s =>
    match decEq a b, decEqItems r s with
    | isTrue h, isTrue t => isTrue (by rw [h, t])
    | isFalse h, _ => isFalse (by simp [h])
    | _, isFalse t => isFalse (by simp [t])

def decEqMembers : (x y : List (String × Json)) → Decidable (x = y)
  | [], [] => isTrue rfl
  | [], _ :: _ | _ :: _, [] => isFalse (by simp)
  | (k, a) :: r, (l, b) :: s =>
    match decEq a b, decEqMembers r s with
    | isTrue h, isTrue t => decidable_of_iff (k = l) (by simp [h, t])
    | isFalse h, _ => isFalse (by simp [h])
    | _, isFalse t => isFalse (by simp [t])
end

instance : DecidableEq Json := decEq

def insertMember (key : String) (value : Json) : List (String × Json) → List (String × Json)
  | [] => [(key, value)]
  | (k, v) :: r =>
    if key = k then (key, value) :: r
    else if key < k then (key, value) :: (k, v) :: r
    else (k, v) :: insertMember key value r

def member? (key : String) : List (String × Json) → Option Json
  | [] => none
  | (k, v) :: r => if k = key then some v else member? key r

def get? (key : String) : Json → Option Json
  | .object members => member? key members
  | _ => none

def asString? : Json → Option String
  | .string s => some s
  | _ => none

def empty : Json := .object []

def ofInt : Int → Json
  | .ofNat n => number (.natural n)
  | .negSucc n => number (.negative (n + 1))

def ofString? (s : Option String) : Json := (s.map string).getD null

end Json
end ChaincodeConsole
