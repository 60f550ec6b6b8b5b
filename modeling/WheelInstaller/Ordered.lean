/-! Collections kept in ascending order without repetition. -/

namespace WheelInstaller.Ordered

variable {α : Type}

/-- Adds an element at its place. An element that compares equal to one already there changes
nothing. -/
def insert (order : α → α → Ordering) (element : α) : List α → List α
  | [] => [element]
  | first :: rest =>
    match order element first with
    | .lt => element :: first :: rest
    | .eq => first :: rest
    | .gt => first :: insert order element rest

/-- The elements in order, the first of those that compare equal. -/
def ofList (order : α → α → Ordering) (elements : List α) : List α :=
  elements.foldl (fun sorted element => insert order element sorted) []

end WheelInstaller.Ordered
