/-!
# The first of each name

`distinctBy key` keeps of each list the items whose key did not occur before, in their order.
-/

namespace ClientTraits

/-- The items whose key is neither in `seen` nor the key of an earlier item. -/
def keepNew {α : Type} (key : α → String) (seen : List String) : List α → List α
  | [] => []
  | a :: rest =>
    if key a ∈ seen then keepNew key seen rest
    else a :: keepNew key (key a :: seen) rest

/-- The items whose key is not the key of an earlier item. -/
def distinctBy {α : Type} (key : α → String) (items : List α) : List α :=
  keepNew key [] items

end ClientTraits
