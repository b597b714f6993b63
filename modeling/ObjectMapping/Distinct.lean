namespace ObjectMapping

/-- The items of a list in order, without those whose key occurs earlier. -/
def distinctBy {α κ : Type} [DecidableEq κ] (key : α → κ) : List α → List α
  | [] => []
  | a :: rest => a :: (distinctBy key rest).filter fun b => key b ≠ key a

end ObjectMapping
