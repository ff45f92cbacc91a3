/-!
# Punycode

A label of a domain name with characters beyond ASCII is sent in ASCII: its ASCII
characters first, then a dash, and then the others with their positions, as
numbers to the base 36 whose digits are weighted in an adaptive way.

`Punycode.decode?` reads such a label.
-/

namespace FilterQuery.Format.Punycode

/-- Numbers are below `2 ^ 32`. -/
def bound : Nat := 4294967296

/-- The number denoted by a digit to the base 36. -/
def digit? (character : Char) : Option Nat :=
  if character.isLower then some (character.toNat - 'a'.toNat)
  else if character.isUpper then some (character.toNat - 'A'.toNat)
  else if character.isDigit then some (character.toNat - '0'.toNat + 26)
  else none

/-- Scale a distance down until it is small, counting the divisions. -/
def scaleDown (distance steps : Nat) : Nat × Nat :=
  if 455 < distance then scaleDown (distance / 35) (steps + 1)
  else (distance, steps)
termination_by distance

/-- The bias after a number, given whether it was the first one and how many
characters there are. -/
def adapt (distance characters : Nat) (first : Bool) : Nat :=
  let damped := if first then distance / 700 else distance / 2
  let (scaled, steps) := scaleDown (damped + damped / characters) 0
  36 * steps + 36 * scaled / (scaled + 38)

/-- The threshold of the digit at a weight, below which a number ends. -/
def threshold (weightIndex bias : Nat) : Nat :=
  max 1 (min 26 (weightIndex - bias))

/-- What has been read: the characters, the last code point, the next position,
and the number that is being read with its weight. -/
structure State where
  characters : List Char
  code : Nat := 128
  position : Nat := 0
  bias : Nat := 72
  /-- The position before the current number. -/
  start : Nat := 0
  weight : Nat := 1
  weightIndex : Nat := 36
  deriving Repr

namespace State

/-- Insert the character that the current number stands for. -/
def finishNumber? (state : State) (position : Nat) : Option State :=
  let count := state.characters.length + 1
  let code := state.code + position / count
  let place := position % count
  if code.isValidChar then
    some
      { characters := state.characters.take place ++
          Char.ofNat code :: state.characters.drop place
        code
        position := place + 1
        bias := adapt (position - state.start) count (state.start == 0)
        start := place + 1 }
  else none

/-- Read one digit. -/
def step? (state : State) (character : Char) : Option State := do
  let digit ← digit? character
  let position := state.position + digit * state.weight
  if bound ≤ position then none
  else
    let least := threshold state.weightIndex state.bias
    if digit < least then state.finishNumber? position
    else
      let weight := state.weight * (36 - least)
      if bound ≤ weight then none
      else
        some
          { state with
            position, weight, weightIndex := state.weightIndex + 36 }

end State

/-- Read digits one after the other; the last number must be complete. -/
def readDigits? (state : State) : List Char → Option (List Char)
  | [] => if state.weightIndex = 36 then some state.characters else none
  | character :: rest =>
      (state.step? character).bind (readDigits? · rest)

def decode? (label : List Char) : Option (List Char) :=
  let backwards := label.reverse
  let digits := (backwards.takeWhile (· != '-')).reverse
  match backwards.dropWhile (· != '-') with
  | [] => readDigits? { characters := [] } digits
  | ['-'] => none
  | _ :: plain => readDigits? { characters := plain.reverse } digits

end FilterQuery.Format.Punycode
