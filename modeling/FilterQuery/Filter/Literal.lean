import FilterQuery.Decimal.Reading
import FilterQuery.Filter.ValueFault
import FilterQuery.Pattern.Basic
import FilterQuery.Text.Blank
import FilterQuery.Text.Quoted

/-!
# Literals

The text after a filter's operator is the literal of one kind of value:

* digits are an integer, and digits with a point between them a floating-point
  number;
* `null`, `true` and `false` are themselves;
* a text stands in double quotes;
* a list stands in brackets, its elements separated by commas;
* a like pattern is a text in double quotes with `%` on one or both sides;
* a regular expression stands between slashes.

Texts, lists and like patterns can be followed by `/i`, and regular expressions
by `i`, to disregard letter case.  No literal holds a line feed.

`Kind.ofLiteral` reads a literal; the recognisers of the shapes come first.
-/

namespace FilterQuery.Literal

open FilterQuery.Text

/-! ## Shapes -/

/-- Whether a text has no line feed. -/
def isOneLine (characters : List Char) : Bool :=
  characters.all (· != '\n')

/-- The text without the modifier `/i` at its end, and whether it was there. -/
def dropModifier (characters : List Char) : List Char × Bool :=
  match characters.reverse with
  | 'i' :: '/' :: rest => (rest.reverse, true)
  | _ => (characters, false)

/-- The text without the given mark at its end, if the mark is there. -/
def dropMark? (mark : Char) (characters : List Char) : Option (List Char) :=
  match characters.reverse with
  | [] => none
  | last :: rest => if last = mark then some rest.reverse else none

/-- What stands between an opening mark and a closing one, which the modifier
may follow. -/
def enclosed?
    (opening closing : Char) (characters : List Char) :
    Option (List Char × Bool) :=
  match characters with
  | [] => none
  | first :: rest =>
      if first = opening then
        let (body, modified) := dropModifier rest
        (dropMark? closing body).bind fun inner =>
          if isOneLine inner then some (inner, modified) else none
      else none

/-- A number in digits with a point between them: its whole part and its
fraction. -/
def decimal? (characters : List Char) : Option (List Char × List Char) :=
  let (whole, rest) := Digits.spanDigits characters
  match rest with
  | '.' :: fraction =>
      if Digits.isRun whole && Digits.isRun fraction then
        some (whole, fraction)
      else none
  | _ => none

/-- A text in double quotes. -/
def quoted? (characters : List Char) : Option (List Char × Bool) :=
  enclosed? '"' '"' characters

def bracketed? (characters : List Char) : Option (List Char × Bool) :=
  enclosed? '[' ']' characters

/-- The shape of a like pattern. -/
structure LikeShape where
  inner : List Char
  wildcardLeft : Bool
  wildcardRight : Bool
  caseInsensitive : Bool
  deriving DecidableEq, Repr

/-- A text in double quotes with a wildcard on one side at least. -/
def like? (characters : List Char) : Option LikeShape :=
  let (body, modified) := dropModifier characters
  let (body, right) :=
    match dropMark? '%' body with
    | some shorter => (shorter, true)
    | none => (body, false)
  let (body, left) :=
    match body with
    | '%' :: rest => (rest, true)
    | _ => (body, false)
  if left || right then
    match body with
    | '"' :: rest =>
        (dropMark? '"' rest).bind fun inner =>
          if isOneLine inner then some ⟨inner, left, right, modified⟩ else none
    | _ => none
  else none

/-- A regular expression between slashes. -/
def slashed? (characters : List Char) : Option (List Char × Bool) :=
  match characters with
  | '/' :: rest =>
      let (body, modified) :=
        match dropMark? 'i' rest with
        | some shorter => (shorter, true)
        | none => (rest, false)
      (dropMark? '/' body).bind fun inner =>
        if isOneLine inner then some (inner, modified) else none
  | _ => none

/-! ## Contents -/

/-- A non-negative integer below `2 ^ 63`. -/
def integer? (digits : List Char) : Option Int64 :=
  (Digits.readBelow? Digits.integerBound digits).map Int64.ofNat

def quotedText (inner : List Char) : Except ValueFault String :=
  match Quoted.unescape? inner with
  | none => .error (.invalidString (String.ofList inner))
  | some text => .ok (String.ofList text)

/-- A value that is no text, as an element of a list. -/
def scalar? (token : List Char) : Option Value :=
  if token = ['n', 'u', 'l', 'l'] then some .null
  else if token = ['t', 'r', 'u', 'e'] then some (.boolean true)
  else if token = ['f', 'a', 'l', 's', 'e'] then some (.boolean false)
  else if Digits.isRun token then (integer? token).map .integer
  else
    (decimal? token).map fun (whole, fraction) =>
      .float (Decimal.ofFixed whole fraction)

/-- The first element of a list, and the text after it. -/
def element
    (index : Nat) (characters : List Char) :
    Except ValueFault (Value × List Char) :=
  match characters with
  | '"' :: rest =>
      match Quoted.beforeClosingQuote? rest with
      | none => .error (.illegalElement (String.ofList characters) index)
      | some (inner, after) =>
          match Quoted.unescape? inner with
          | none =>
              .error
                (.illegalElement ("\"" ++ String.ofList inner ++ "\"") index)
          | some text => .ok (.string (String.ofList text), after)
  | _ =>
      let token := trim (characters.takeWhile (· != ','))
      match scalar? token with
      | none => .error (.illegalElement (String.ofList token) index)
      | some value => .ok (value, characters.dropWhile (· != ','))

theorem length_of_element
    {index : Nat} {characters after : List Char} {value : Value}
    (found : element index characters = .ok (value, after)) :
    after.length ≤ characters.length := by
  unfold element at found
  split at found
  · rename_i rest
    split at found
    · simp at found
    · rename_i inner following closing
      split at found
      · simp at found
      · simp only [Except.ok.injEq, Prod.mk.injEq] at found
        have shorter := Quoted.length_after_lt closing
        rw [← found.2]
        simp only [List.length_cons]
        omega
  · simp only at found
    split at found
    · simp at found
    · simp only [Except.ok.injEq, Prod.mk.injEq] at found
      rw [← found.2]
      exact (List.dropWhile_sublist _).length_le

/-- The elements of a list, the first of which has the given index.  A single
comma may follow the last one. -/
def elementsFrom
    (index : Nat) (characters : List Char) :
    Except ValueFault (List Value) :=
  match _read : element index (trimStart characters) with
  | .error fault => .error fault
  | .ok (value, after) =>
      match rest : trimStart after with
      | [] => .ok [value]
      | ',' :: following =>
          if following.all isBlank then .ok [value]
          else (elementsFrom (index + 1) following).map (value :: ·)
      | _ => .error (.illegalElement (String.ofList (trimStart after)) index)
termination_by characters.length
decreasing_by
  have first := length_of_element _read
  have second := length_trimStart_le characters
  have third := length_trimStart_le after
  rw [rest] at third
  simp only [List.length_cons] at third
  omega

/-- The elements between the brackets of a list. -/
def elements (inner : List Char) : Except ValueFault (List Value) :=
  if inner.all isBlank then .error .emptyList else elementsFrom 0 inner

def likePattern (shape : LikeShape) : Except ValueFault LikePattern :=
  match quotedText shape.inner with
  | .error fault => .error fault
  | .ok text =>
      if text.isEmpty then .error .emptyLike
      else .ok ⟨text, shape.wildcardLeft, shape.wildcardRight⟩

/-- A regular expression, provided that it compiles. -/
def regexpText (inner : List Char) : Except ValueFault String :=
  let pattern := String.ofList inner
  match Pattern.compile pattern with
  | .error fault => .error (.invalidRegexp pattern fault.message)
  | .ok _ => .ok pattern

end FilterQuery.Literal

namespace FilterQuery

open FilterQuery.Text FilterQuery.Literal

/-- Read a literal: the kind of value, and whether letter case is
disregarded. -/
def Kind.ofLiteral (text : String) : Except ValueFault (Kind × Bool) :=
  let characters := text.toList
  if Digits.isRun characters then
    match integer? characters with
    | none => .error (.integerOutOfRange text)
    | some value => .ok (.integer value, false)
  else if let some (whole, fraction) := decimal? characters then
    .ok (.float (Decimal.ofFixed whole fraction), false)
  else if text = "null" then .ok (.null, false)
  else if text = "true" then .ok (.boolean true, false)
  else if text = "false" then .ok (.boolean false, false)
  else if let some (inner, modified) := quoted? characters then
    (quotedText inner).map fun value => (.string value, modified)
  else if let some (inner, modified) := bracketed? characters then
    (elements inner).map fun items => (.inList items, modified)
  else if let some shape := like? characters then
    (likePattern shape).map fun pattern =>
      (.like pattern, shape.caseInsensitive)
  else if let some (inner, modified) := slashed? characters then
    (regexpText inner).map fun pattern => (.regexp pattern, modified)
  else .error (.unsupported text)

end FilterQuery
