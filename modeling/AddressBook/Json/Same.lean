import AddressBook.Json.Basic

/-!
When two values count as the same. Numbers are compared by what they amount to,
whatever their form, and truth values count as zero and one; the order of the
members of an object does not matter.
-/
namespace AddressBook.Json

/-- What a number amounts to. -/
inductive Amount where
  | fraction (num : Int) (den : Nat)
  | infinite (negative : Bool)
  | undefined

namespace Amount

/-- Whether two numbers amount to the same. -/
def same : Amount → Amount → Bool
  | fraction a b, fraction c d => a * d == c * b
  | infinite a, infinite b => a == b
  | undefined, undefined => true
  | _, _ => false

/-- What a real number amounts to. -/
def ofReal (x : Real) : Amount :=
  match x, x.ratio? with
  | _, some (num, den) => fraction num den
  | .infinite negative, none => infinite negative
  | _, none => undefined

/-- What a value amounts to, if it counts as a number. -/
def ofJson? : Json → Option Amount
  | .bool b => some (fraction (if b then 1 else 0) 1)
  | .int n => some (fraction n 1)
  | .real x => some (ofReal x)
  | _ => none

end Amount

mutual

/-- Whether two values count as the same. -/
def same : Json → Json → Bool
  | .null, .null => true
  | .text s, .text t => s == t
  | .array xs, .array ys => sameItems xs ys
  | .object ms, .object ns => ms.length == ns.length && sameMembers ms ns
  | v, w =>
    match Amount.ofJson? v, Amount.ofJson? w with
    | some a, some b => a.same b
    | _, _ => false

/-- Whether two lists hold the same values. -/
def sameItems : List Json → List Json → Bool
  | [], [] => true
  | v :: rest, w :: others => same v w && sameItems rest others
  | _, _ => false

/-- Whether an object has all of some members. -/
def sameMembers : List (Text × Json) → List (Text × Json) → Bool
  | [], _ => true
  | (name, v) :: rest, others =>
    match others.find? (·.1 == name) with
    | some (_, w) => same v w && sameMembers rest others
    | none => false

end

end AddressBook.Json
