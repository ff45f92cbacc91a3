/-!
# Variables in texts

A reference to a variable is a dollar sign with a name in braces.  `expandVariables`
replaces each reference by the value of its variable, in one pass from left to right.

* A name is not empty, and ends at the first closing brace;
* a reference to a variable that is not set stays as it is;
* what was put in is not looked at again.
-/

namespace FilterQuery

/-- The name of a reference, given what stands after the dollar sign, and what
follows the reference. -/
def reference? : List Char → Option (List Char × List Char)
  | '\x7b' :: rest =>
      let name := rest.takeWhile (· != '\x7d')
      match rest.dropWhile (· != '\x7d') with
      | [] => none
      | _ :: after => if name.isEmpty then none else some (name, after)
  | _ => none

theorem length_of_reference?
    {characters name after : List Char}
    (found : reference? characters = some (name, after)) :
    after.length < characters.length := by
  unfold reference? at found
  split at found
  · rename_i rest
    have shorter := (List.dropWhile_sublist (l := rest) (· != '\x7d')).length_le
    split at found
    · simp at found
    · rename_i rest' brace remaining equal
      rw [equal] at shorter
      simp only at found
      split at found
      · simp at found
      · simp only [Option.some.injEq, Prod.mk.injEq] at found
        rw [← found.2]
        simp only [List.length_cons] at shorter ⊢
        omega
  · simp at found

/-- A reference, written out. -/
def referenceText (name : List Char) : List Char :=
  '$' :: '\x7b' :: name ++ ['\x7d']

/-- Replace the references in a list of characters. -/
def expandCharacters (value? : String → Option String) :
    List Char → List Char
  | [] => []
  | character :: rest =>
      match _found : (if character = '$' then reference? rest else none) with
      | none => character :: expandCharacters value? rest
      | some (name, after) =>
          ((value? (String.ofList name)).map String.toList).getD
              (referenceText name) ++
            expandCharacters value? after
termination_by characters => characters.length
decreasing_by
  · simp
  · split at _found
    · exact Nat.lt_succ_of_lt (length_of_reference? _found)
    · simp at _found

/-- Replace the references to variables in a text. -/
def expandVariables (value? : String → Option String) (text : String) : String :=
  String.ofList (expandCharacters value? text.toList)

end FilterQuery
