import FilterQuery.Constraint.Basic
import FilterQuery.Format.Calendar
import FilterQuery.Format.Identifier
import FilterQuery.Format.Url

/-!
# Checking constraints

`Constraint.violation?` gives the message of a constraint that a value violates.

* Whether a value is blank, true, false or nothing, and functions, are checked
  for every value; all other constraints are satisfied by nothing;
* numbers are compared as floating-point numbers, texts by code points, and
  other values cannot be compared;
* a pattern that does not compile matches nothing.
-/

namespace FilterQuery

def TextFormat.accepts : TextFormat → String → Bool
  | .email => Format.isEmail
  | .url => Format.Url.isUrl
  | .ip => Format.isIp
  | .uuid => Format.isUuid
  | .date => Format.isDate
  | .dateTime => Format.isDateTime
  | .time => Format.isTime

def TextFormat.message : TextFormat → String
  | .email => "This value is not a valid email address."
  | .url => "This value is not a valid URL."
  | .ip => "This is not a valid IP address."
  | .uuid => "This is not a valid UUID."
  | .date => "This value is not a valid date."
  | .dateTime => "This value is not a valid datetime."
  | .time => "This value is not a valid time."

namespace Value

/-- The text that patterns are matched with: a text is not quoted. -/
def plainText : Value → String
  | .string text => text
  | other => other.display

/-- Whether a value is nothing, false, blank or empty. -/
def isBlank : Value → Bool
  | .null => true
  | .boolean value => !value
  | .string text => Text.isBlankText text
  | .list items => items.isEmpty
  | _ => false

/-- Equality that does not tell integers from floating-point numbers. -/
def looselyEqual (left right : Value) : Bool :=
  match left.number?, right.number? with
  | some first, some second => first == second
  | _, _ => left == right

/-- The order of two texts or two numbers; other values, and the undefined
number, have none. -/
def compare? (left right : Value) : Option Ordering :=
  match left, right with
  | .string first, .string second =>
      some (if first < second then .lt else if first = second then .eq else .gt)
  | _, _ =>
      match left.number?, right.number? with
      | some first, some second =>
          if first < second then some .lt
          else if first == second then some .eq
          else if second < first then some .gt
          else none
      | _, _ => none

end Value

namespace Relation

def holds (relation : Relation) (value limit : Value) : Bool :=
  match relation with
  | .equalTo => value.looselyEqual limit
  | .notEqualTo => !value.looselyEqual limit
  | .identicalTo => value == limit
  | .notIdenticalTo => !(value == limit)
  | .lessThan => (value.compare? limit).any Ordering.isLT
  | .lessThanOrEqual => (value.compare? limit).any Ordering.isLE
  | .greaterThan => (value.compare? limit).any Ordering.isGT
  | .greaterThanOrEqual => (value.compare? limit).any Ordering.isGE

def words : Relation → String
  | .equalTo => "should be equal to"
  | .notEqualTo => "should not be equal to"
  | .identicalTo => "should be identical to"
  | .notIdenticalTo => "should not be identical to"
  | .lessThan => "should be less than"
  | .lessThanOrEqual => "should be less than or equal to"
  | .greaterThan => "should be greater than"
  | .greaterThanOrEqual => "should be greater than or equal to"

end Relation

namespace Constraint

def messageUnless (holds : Bool) (message : String) : Option String :=
  if holds then none else some message

theorem messageUnless_eq_none_iff {holds : Bool} {message : String} :
    messageUnless holds message = none ↔ holds = true := by
  cases holds <;> simp [messageUnless]

def countViolation?
    (subject few many unit : String) (least most : Option Nat)
    (found : Nat) : Option String :=
  let message (relation : String) (bound : Nat) (ending : String) : String :=
    subject ++ relation ++ toString bound ++ " " ++ unit ++ ending
  match least.filter (found < ·) with
  | some bound => some (message few bound " or more.")
  | none =>
      (most.filter (· < found)).map fun bound =>
        message many bound " or less."

def rangeViolation?
    (least most : Option Float) (number : Float) : Option String :=
  match least.filter (number < ·) with
  | some bound =>
      some ("This value should be " ++ boundLayout.text bound ++ " or more.")
  | none =>
      (most.filter (· < number)).map fun bound =>
        "This value should be " ++ boundLayout.text bound ++ " or less."

/-- The violation by a value that is not nothing. -/
def presentViolation? (constraint : Constraint) (value : Value) :
    Option String :=
  match constraint with
  | .length least most =>
      value.string?.bind fun text =>
        countViolation? "This value is too " "short. It should have "
          "long. It should have " "character(s)" least most text.length
  | .regex pattern required =>
      let found :=
        match Pattern.compile pattern with
        | .ok compiled => compiled.isMatch value.plainText
        | .error _ => false
      messageUnless (found == required) "This value is not valid."
  | .textFormat format =>
      messageUnless (value.string?.any format.accepts) format.message
  | .range least most =>
      match value.number? with
      | none => some "This value should be a valid number."
      | some number => rangeViolation? least most number
  | .comparison relation limit =>
      messageUnless (relation.holds value limit)
        ("This value " ++ relation.words ++ " " ++ limit.display ++ ".")
  | .count least most =>
      match value with
      | .list items =>
          countViolation? "This collection should contain " "" ""
            "element(s)" least most items.length
      | _ => some "This value should be a collection."
  | _ => none

/-- The message of a constraint that a value violates. -/
def violation? (constraint : Constraint) (value : Value) : Option String :=
  match constraint with
  | .notBlank => messageUnless (!value.isBlank) "This value should not be blank."
  | .blank => messageUnless value.isBlank "This value should be blank."
  | .isTrue => messageUnless (value == .boolean true) "This value should be true."
  | .isFalse => messageUnless (value == .boolean false) "This value should be false."
  | .isNull => messageUnless value.isNull "This value should be null."
  | .callback _ check => check value
  | other => if value.isNull then none else other.presentViolation? value

/-- The value does not violate the constraint. -/
def Accepts (constraint : Constraint) (value : Value) : Prop :=
  constraint.violation? value = none

instance (constraint : Constraint) (value : Value) : Decidable (constraint.Accepts value) :=
  inferInstanceAs (Decidable (_ = none))

end Constraint

/-- What decides which constraints a value violates: the messages of a list of
constraints for a value. -/
abbrev Validator := Value → List Constraint → List String

/-- The validator that checks each constraint by itself. -/
def Validator.standard : Validator := fun value constraints =>
  constraints.filterMap (·.violation? value)

end FilterQuery
