/-!
# Cutting at separators

Lists of characters or bytes are cut at every occurrence of a separator, or at
the first one only.
-/

namespace FilterQuery.Text.Split

/-- Cut a list at every occurrence of a separator. -/
def splitAt {α : Type} [BEq α] (separator : α) : List α → List (List α)
  | [] => [[]]
  | item :: rest =>
      if item == separator then [] :: splitAt separator rest
      else
        match splitAt separator rest with
        | [] => [[item]]
        | first :: others => (item :: first) :: others

/-- Cut a list at the first occurrence of a separator; without one, nothing
follows. -/
def splitOnce {α : Type} [BEq α] (separator : α) (items : List α) :
    List α × List α :=
  (items.takeWhile (· != separator),
    (items.dropWhile (· != separator)).drop 1)

end FilterQuery.Text.Split
