/-!
# Splitting

* `splitWhere`: the stretches of a list between the elements that satisfy a test.
-/

namespace ProcessGraph.Text

/-- The stretches of a list between the elements that satisfy a test, empty ones included. -/
def splitWhere {α : Type} (p : α → Bool) : List α → List (List α)
  | [] => [[]]
  | a :: r =>
    if p a then [] :: splitWhere p r
    else
      match splitWhere p r with
      | [] => [[a]]
      | part :: rest => (a :: part) :: rest

end ProcessGraph.Text
