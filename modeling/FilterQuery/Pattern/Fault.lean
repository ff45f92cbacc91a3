/-!
# Faults of patterns

Everything that can be wrong with a pattern, with the words that say so.
-/

namespace FilterQuery.Pattern

/-- Why a text is no pattern. -/
inductive Fault where
  | tooDeep
  | tooLarge
  | unopenedGroup
  | unclosedGroup
  | lookAround
  | groupNameMissing
  | groupNameInvalid
  | groupNameUnclosed
  | groupNameEmpty
  | groupNameRepeated
  | unclosedGroupOptions
  | optionNegationRepeated
  | optionUnknown
  | optionRepeated
  | optionsUnended
  | optionsEndWithNegation
  | optionsEmpty
  | repetitionWithoutItem
  | countedWithoutItem
  | countedUnclosed
  | countedUnclosedAfterLeast
  | countedUnclosedAfterComma
  | countedUnclosedAfterMost
  | countedUnexpected
  | countedReversed
  | numberMissing
  | numberTooLarge
  | escapeUnended
  | escapeUnknown
  | backreference
  | unicodeClass
  | hexMissing
  | hexFixedUnended
  | hexFixedNoDigit
  | hexFixedInvalid
  | hexBraceNoDigit
  | hexBraceUnclosed
  | hexBraceEmpty
  | hexBraceInvalid
  | wordBoundaryUnended
  | wordBoundaryUnclosed
  | wordBoundaryUnknown
  | classUnclosed
  | classUnclosedAfterNegation
  | classUnclosedAfterDash
  | classUnclosedAfterBracket
  | classUnclosedAfterItem
  | classNested
  | classIntersection
  | classDifference
  | classSymmetricDifference
  | classRangeReversed
  | classRangeOfClasses
  | classOfAssertion
  deriving DecidableEq, Repr

def Fault.message : Fault → String
  | .tooDeep => "pattern has too much nesting"
  | .tooLarge => "compiled regex exceeded size limit"
  | .unopenedGroup => "found closing ')' without matching '('"
  | .unclosedGroup => "found open group without closing ')'"
  | .lookAround => "look-around is not supported"
  | .groupNameMissing =>
      "expected capture group name, but got end of pattern"
  | .groupNameInvalid => "invalid group name"
  | .groupNameUnclosed =>
      "expected end of capture group name, but got end of pattern"
  | .groupNameEmpty => "empty capture group names are not allowed"
  | .groupNameRepeated => "duplicate capture group name"
  | .unclosedGroupOptions =>
      "expected closing ')', but got end of pattern"
  | .optionNegationRepeated => "inline flag negation cannot be repeated"
  | .optionUnknown => "unrecognized inline flag"
  | .optionRepeated => "duplicate inline flag is not allowed"
  | .optionsUnended =>
      "expected ':' or ')' to end inline flags, but got end of pattern"
  | .optionsEndWithNegation =>
      "inline flags cannot end with negation directive"
  | .optionsEmpty => "empty flag directive '(?)' is not allowed"
  | .repetitionWithoutItem =>
      "uncounted repetition operator must be applied to a sub-expression"
  | .countedWithoutItem =>
      "counted repetition operator must be applied to a sub-expression"
  | .countedUnclosed => "found unclosed counted repetition operator"
  | .countedUnclosedAfterLeast =>
      "found incomplete and unclosed counted repetition operator"
  | .countedUnclosedAfterComma =>
      "found counted repetition operator with a comma that is unclosed"
  | .countedUnclosedAfterMost =>
      "found counted repetition with min and max that is unclosed"
  | .countedUnexpected =>
      "expected closing brace for counted repetition, but got something else"
  | .countedReversed =>
      "found counted repetition with a min bigger than its max"
  | .numberMissing => "expected decimal number, but found no digits"
  | .numberTooLarge => "got invalid decimal number"
  | .escapeUnended =>
      "saw start of escape sequence, but saw end of pattern before it finished"
  | .escapeUnknown => "unrecognized escape sequence"
  | .backreference => "backreferences are not supported"
  | .unicodeClass => "Unicode character classes are not supported"
  | .hexMissing =>
      "expected hexadecimal number, but saw end of pattern first"
  | .hexFixedUnended =>
      "expected fixed length hexadecimal number, " ++
        "but saw end of pattern first"
  | .hexFixedNoDigit =>
      "expected fixed length hexadecimal number, but got non-hex digit"
  | .hexFixedInvalid => "got invalid fixed length hexadecimal number"
  | .hexBraceNoDigit =>
      "expected hexadecimal number in braces, but got non-hex digit"
  | .hexBraceUnclosed =>
      "expected hexadecimal number, " ++
        "but saw end of pattern before closing brace"
  | .hexBraceEmpty =>
      "expected hexadecimal number in braces, but got no digits"
  | .hexBraceInvalid => "got invalid hexadecimal number in braces"
  | .wordBoundaryUnended =>
      "found start of special word boundary or repetition without an end"
  | .wordBoundaryUnclosed =>
      "special word boundary assertion is unclosed or has an " ++
        "invalid character"
  | .wordBoundaryUnknown => "special word boundary assertion is unrecognized"
  | .classUnclosed => "found unclosed character class"
  | .classUnclosedAfterNegation =>
      "negated character class has no closing bracket"
  | .classUnclosedAfterDash =>
      "non-empty character class has no closing bracket after dash"
  | .classUnclosedAfterBracket =>
      "character class begins with literal ']' but has no closing bracket"
  | .classUnclosedAfterItem =>
      "non-empty character class has no closing bracket"
  | .classNested => "nested character classes are not supported"
  | .classIntersection => "character class intersection is not supported"
  | .classDifference => "character class difference is not supported"
  | .classSymmetricDifference =>
      "character class symmetric difference is not supported"
  | .classRangeReversed => "invalid range in character class"
  | .classRangeOfClasses =>
      "character class ranges must start and end with a single character"
  | .classOfAssertion => "invalid escape sequence in character class"

end FilterQuery.Pattern
