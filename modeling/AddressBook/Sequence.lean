/-!
Lists without repetition, and lists in sorted order.
-/
namespace AddressBook

/-- The distinct entries of a list, each at its first place. -/
def distinct {α : Type} [BEq α] : List α → List α
  | [] => []
  | x :: rest => x :: (distinct rest).filter (· != x)

/-- A list with one more entry, put in front of the first that it may precede. -/
def insertSorted {α : Type} (before : α → α → Bool) (x : α) : List α → List α
  | [] => [x]
  | y :: rest => if before x y then x :: y :: rest else y :: insertSorted before x rest

/-- A list in sorted order; entries that may stand in either order keep theirs. -/
def sortList {α : Type} (before : α → α → Bool) (xs : List α) : List α :=
  xs.foldr (insertSorted before) []

end AddressBook
