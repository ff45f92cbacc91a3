import FilterQuery.Pattern.Fault
import FilterQuery.Pattern.Node
import FilterQuery.Text.Alphabetic
import FilterQuery.Text.Blank
import FilterQuery.Text.Digits

/-!
# Reading patterns

A pattern is read from left to right, with a stack of the groups that are open.

* Items are collected into a branch until `|` starts another one;
* options such as `(?i)` hold until the group that contains them is closed;
* with the option `x`, blanks and comments from `#` to the end of the line are
  skipped between the parts of a pattern.

Greediness is read but not kept: it does not change which texts match.
`Node.ofText?` reads a whole pattern and names the first fault.
-/

namespace FilterQuery.Pattern

open FilterQuery.Text

/-- The options in force at a place of a pattern. -/
structure Options where
  caseInsensitive : Bool := false
  multiLine : Bool := false
  dotMatchesNewline : Bool := false
  carriageReturns : Bool := false
  skipsBlanks : Bool := false
  deriving DecidableEq, Repr

/-! ## Blanks and comments -/

/-- Skip blanks and comments; `inComment` says whether a comment is open. -/
def skipIgnored (inComment : Bool) : List Char → List Char
  | [] => []
  | character :: rest =>
      if inComment then skipIgnored (character != '\n') rest
      else if isBlank character then skipIgnored false rest
      else if character = '#' then skipIgnored true rest
      else character :: rest

/-- Skip blanks and comments if the options say so. -/
def skipBlanks (options : Options) (characters : List Char) : List Char :=
  if options.skipsBlanks then skipIgnored false characters else characters

/-- The character that decides whether a dash in brackets makes a range: with
the option `x`, the first one after the dash that is no blank, where one `#` is
passed over. -/
def peekIgnored (inComment : Bool) : List Char → Option Char
  | [] => none
  | character :: rest =>
      if isBlank character then peekIgnored inComment rest
      else if character = '#' ∧ !inComment then peekIgnored true rest
      else some character

/-- The character after the current one, past blanks if the options say so. -/
def peek (options : Options) (following : List Char) : Option Char :=
  if options.skipsBlanks then
    (peekIgnored false following).or following.head?
  else following.head?

/-- The longest run of characters with a property; after each of them blanks
and comments are skipped if the options say so. -/
def takeSpacedFrom
    (options : Options) (accepts : Char → Bool) (skips inComment : Bool) :
    List Char → List Char × List Char
  | [] => ([], [])
  | character :: rest =>
      if skips && inComment then
        takeSpacedFrom options accepts skips (character != '\n') rest
      else if skips && isBlank character then
        takeSpacedFrom options accepts skips false rest
      else if skips && character = '#' then
        takeSpacedFrom options accepts skips true rest
      else if accepts character then
        let (taken, after) :=
          takeSpacedFrom options accepts options.skipsBlanks false rest
        (character :: taken, after)
      else ([], character :: rest)

/-- The longest run of characters with a property, blanks skipped after each. -/
def takeSpaced
    (options : Options) (accepts : Char → Bool) (characters : List Char) :
    List Char × List Char :=
  takeSpacedFrom options accepts false false characters

/-! ## Numbers -/

/-- The bound of counts: they are below `2 ^ 32`. -/
def countBound : Nat := 4294967296

/-- A decimal number with blanks around it. -/
def readCount
    (options : Options) (characters : List Char) :
    Except Fault (Nat × List Char) :=
  let (digits, rest) :=
    takeSpaced options Char.isDigit (characters.dropWhile isBlank)
  if digits.isEmpty then .error .numberMissing
  else if Digits.value digits < countBound then
    .ok (Digits.value digits, rest.dropWhile isBlank)
  else .error .numberTooLarge

def isHexDigit (character : Char) : Bool :=
  character.isDigit || ('a' ≤ character && character ≤ 'f') ||
    ('A' ≤ character && character ≤ 'F')

/-- The number denoted by a hexadecimal digit. -/
def hexDigitValue (digit : Char) : Nat :=
  if digit.isDigit then digit.toNat - '0'.toNat
  else digit.toLower.toNat - 'a'.toNat + 10

/-- The number denoted by hexadecimal digits. -/
def hexValue (digits : List Char) : Nat :=
  digits.foldl (fun total digit => 16 * total + hexDigitValue digit) 0

/-- The character with a number, if there is one. -/
def scalar? (code : Nat) : Option Char :=
  if code.isValidChar then some (Char.ofNat code) else none

/-- Exactly so many hexadecimal digits. -/
def takeHexDigits
    (options : Options) : Nat → List Char →
      Except Fault (List Char × List Char)
  | 0, rest => .ok ([], rest)
  | _ + 1, [] => .error .hexFixedUnended
  | count + 1, character :: rest =>
      if isHexDigit character then
        (takeHexDigits options count (skipBlanks options rest)).map
          fun (digits, after) => (character :: digits, after)
      else .error .hexFixedNoDigit

/-- The number of a character: so many digits, or any number in braces. -/
def readHex
    (options : Options) (count : Nat) (characters : List Char) :
    Except Fault (Char × List Char) :=
  match skipBlanks options characters with
  | [] => .error .hexMissing
  | '\x7b' :: rest =>
      let (digits, after) :=
        takeSpaced options isHexDigit (skipBlanks options rest)
      match after with
      | [] => .error .hexBraceUnclosed
      | '\x7d' :: following =>
          if digits.isEmpty then .error .hexBraceEmpty
          else
            match scalar? (hexValue digits) with
            | none => .error .hexBraceInvalid
            | some character =>
                .ok (character, skipBlanks options following)
      | _ => .error .hexBraceNoDigit
  | found =>
      match takeHexDigits options count found with
      | .error fault => .error fault
      | .ok (digits, after) =>
          match scalar? (hexValue digits) with
          | none => .error .hexFixedInvalid
          | some character => .ok (character, after)

/-! ## Single items -/

/-- A character as an item; without regard to case, a letter is a class. -/
def literal (options : Options) (character : Char) : Node :=
  if options.caseInsensitive && character.isAlpha then
    .oneOf (.anyCase (.single character))
  else .character character

/-- What a point stands for. -/
def anyCharacter (options : Options) : Node :=
  .oneOf <| .complement <|
    if options.dotMatchesNewline then .nothing
    else if options.carriageReturns then
      .union (.single '\r') (.single '\n')
    else .single '\n'

/-- What a circumflex stands for. -/
def startAnchor (options : Options) : Assertion :=
  if options.multiLine then
    if options.carriageReturns then .carriageLineStart else .lineStart
  else .textStart

/-- What a dollar sign stands for. -/
def endAnchor (options : Options) : Assertion :=
  if options.multiLine then
    if options.carriageReturns then .carriageLineEnd else .lineEnd
  else .textEnd

/-- Whether a character may occur in the name of a word boundary. -/
def isBoundaryName (character : Char) : Bool :=
  character.isAlpha || character = '-'

/-- What follows `\b`: a name in braces, or nothing that belongs to it. -/
def readBoundary
    (options : Options) (characters : List Char) :
    Except Fault (Node × List Char) :=
  match characters with
  | '\x7b' :: rest =>
      match skipBlanks options rest with
      | [] => .error .wordBoundaryUnended
      | first :: others =>
          if isBoundaryName first then
            let (name, after) :=
              takeSpaced options isBoundaryName (first :: others)
            match after with
            | '\x7d' :: following =>
                match String.ofList name with
                | "start" => .ok (.assertion .wordStart, following)
                | "end" => .ok (.assertion .wordEnd, following)
                | "start-half" => .ok (.assertion .wordStartHalf, following)
                | "end-half" => .ok (.assertion .wordEndHalf, following)
                | _ => .error .wordBoundaryUnknown
            | _ => .error .wordBoundaryUnclosed
          else .ok (.assertion .wordBoundary, characters)
  | _ => .ok (.assertion .wordBoundary, characters)

/-- Whether a backslash before the character makes it an ordinary one. -/
def isEscapable (character : Char) : Bool :=
  character.toNat < 128 && !character.isAlphanum && character ≠ '<' &&
    character ≠ '>'

/-- What follows a backslash. -/
def readEscape
    (options : Options) (characters : List Char) :
    Except Fault (Node × List Char) :=
  match characters with
  | [] => .error .escapeUnended
  | character :: rest =>
      if character.isDigit then .error .backreference
      else if isEscapable character then .ok (literal options character, rest)
      else
        let hex (count : Nat) : Except Fault (Node × List Char) :=
          (readHex options count rest).map fun (found, after) =>
            (literal options found, after)
        match character with
        | 'p' | 'P' => .error .unicodeClass
        | 'x' => hex 2
        | 'u' => hex 4
        | 'U' => hex 8
        | 'd' => .ok (.oneOf .digit, rest)
        | 'D' => .ok (.oneOf (.complement .digit), rest)
        | 's' => .ok (.oneOf .space, rest)
        | 'S' => .ok (.oneOf (.complement .space), rest)
        | 'w' => .ok (.oneOf .word, rest)
        | 'W' => .ok (.oneOf (.complement .word), rest)
        | 'a' => .ok (literal options '\x07', rest)
        | 'f' => .ok (literal options '\x0c', rest)
        | 't' => .ok (literal options '\t', rest)
        | 'n' => .ok (literal options '\n', rest)
        | 'r' => .ok (literal options '\r', rest)
        | 'v' => .ok (literal options '\x0b', rest)
        | 'A' => .ok (.assertion .textStart, rest)
        | 'z' => .ok (.assertion .textEnd, rest)
        | 'b' => readBoundary options rest
        | 'B' => .ok (.assertion .noWordBoundary, rest)
        | '<' => .ok (.assertion .wordStart, rest)
        | '>' => .ok (.assertion .wordEnd, rest)
        | _ => .error .escapeUnknown

/-! ## Classes in brackets -/

/-- A class named between colons, after the opening bracket. -/
def readNamedClass? (characters : List Char) :
    Option (CharClass × List Char) :=
  match characters with
  | ':' :: afterColon =>
      let (negated, named) :=
        match afterColon with
        | '^' :: rest => (true, rest)
        | rest => (false, rest)
      let name := named.takeWhile (· != ':')
      match named.dropWhile (· != ':') with
      | ':' :: ']' :: rest =>
          (CharClass.named? (String.ofList name)).map fun found =>
            (if negated then .complement found else found, rest)
      | _ => none
  | _ => none

/-- One item of a class: a character or what a backslash stands for. -/
def readClassItem
    (options : Options) (characters : List Char) :
    Except Fault (Node × List Char) :=
  match characters with
  | '\\' :: rest => readEscape options rest
  | character :: rest => .ok (.character character, rest)
  | [] => .error .classUnclosed

/-- The characters that an item stands for. -/
def classOfItem : Node → Except Fault CharClass
  | .character character => .ok (.single character)
  | .oneOf characters => .ok characters
  | _ => .error .classOfAssertion

/-- The single character that an item stands for. -/
def characterOfItem : Node → Except Fault Char
  | .character character => .ok character
  | _ => .error .classRangeOfClasses

def readClassRange
    (options : Options) (characters : List Char) :
    Except Fault (CharClass × List Char) := do
  let (first, rest) ← readClassItem options characters
  match skipBlanks options rest with
  | [] => .error .classUnclosedAfterItem
  | '-' :: following =>
      let next := peek options following
      if next = some ']' ∨ next = some '-' then
        return (← classOfItem first, '-' :: following)
      else
        let following := skipBlanks options following
        if following.isEmpty then .error .classUnclosedAfterDash
        else
          let (last, after) ← readClassItem options following
          let start ← characterOfItem first
          let stop ← characterOfItem last
          if stop < start then .error .classRangeReversed
          else return (.range start stop, after)
  | following => return (← classOfItem first, following)

/-- The items of a class up to its closing bracket.  Every item takes at least
one character, so the length of the text bounds the number of steps. -/
def readClassItems
    (options : Options) (collected : CharClass) :
    Nat → List Char → Except Fault (CharClass × List Char)
  | 0, _ => .error .classUnclosed
  | steps + 1, characters =>
      match skipBlanks options characters with
      | [] => .error .classUnclosed
      | ']' :: rest => .ok (collected, rest)
      | '[' :: rest =>
          match readNamedClass? rest with
          | none => .error .classNested
          | some (found, after) =>
              readClassItems options (.union collected found) steps after
      | '&' :: '&' :: _ => .error .classIntersection
      | '-' :: '-' :: _ => .error .classDifference
      | '~' :: '~' :: _ => .error .classSymmetricDifference
      | found =>
          match readClassRange options found with
          | .error fault => .error fault
          | .ok (range, after) =>
              readClassItems options (.union collected range) steps after

/-- The part of a class after an optional circumflex: dashes and a closing
bracket at the front stand for themselves. -/
def readClassBody
    (options : Options) (characters : List Char) :
    Except Fault (CharClass × List Char) :=
  let (dashes, rest) := takeSpaced options (· == '-') characters
  let items (collected : CharClass) (found : List Char) :=
    readClassItems options collected (found.length + 1) found
  if dashes.isEmpty then
    match rest with
    | ']' :: following =>
        match skipBlanks options following with
        | [] => .error .classUnclosedAfterBracket
        | found => items (.single ']') found
    | found => items .nothing found
  else if rest.isEmpty then .error .classUnclosedAfterDash
  else items (.single '-') rest

/-- A class, after the opening bracket. -/
def readClass
    (options : Options) (characters : List Char) :
    Except Fault (Node × List Char) := do
  let (negated, body) ←
    match skipBlanks options characters with
    | [] => .error .classUnclosed
    | '^' :: rest =>
        match skipBlanks options rest with
        | [] => .error .classUnclosedAfterNegation
        | found => .ok (true, found)
    | found => .ok (false, found)
  let (collected, rest) ← readClassBody options body
  let folded :=
    if options.caseInsensitive then .anyCase collected else collected
  return (.oneOf (if negated then .complement folded else folded), rest)

/-! ## Repetitions -/

/-- Pass over the mark that makes a repetition take as little as possible. -/
def skipReluctance : List Char → List Char
  | '?' :: rest => rest
  | rest => rest

/-- The upper bound of a counted repetition, given the lower one: the same if no
comma follows, and none if nothing follows the comma. -/
def readMost
    (options : Options) (least : Nat) (characters : List Char) :
    Except Fault (Option Nat × List Char) :=
  match characters with
  | ',' :: following =>
      match skipBlanks options following with
      | [] => .error .countedUnclosedAfterComma
      | '\x7d' :: after => .ok (none, '\x7d' :: after)
      | found =>
          match readCount options found with
          | .error fault => .error fault
          | .ok (_, []) => .error .countedUnclosedAfterMost
          | .ok (most, after) => .ok (some most, after)
  | found => .ok (some least, found)

/-- The bounds of a counted repetition, after the opening brace. -/
def readBounds
    (options : Options) (characters : List Char) :
    Except Fault ((Nat × Option Nat) × List Char) := do
  let opened := skipBlanks options characters
  if opened.isEmpty then .error .countedUnclosed
  let (least, rest) ← readCount options opened
  if rest.isEmpty then .error .countedUnclosedAfterLeast
  let (most, rest) ← readMost options least rest
  match rest with
  | '\x7d' :: after =>
      if most.any (· < least) then .error .countedReversed
      else .ok ((least, most), skipReluctance (skipBlanks options after))
  | _ => .error .countedUnexpected

/-! ## Groups -/

/-- What the text after an opening parenthesis turns out to be. -/
inductive GroupStart where
  /-- Options for the rest of the enclosing group. -/
  | options (options : Options)
  /-- A group whose items follow. -/
  | group (captures : Bool) (options : Options)
  deriving DecidableEq, Repr

def Options.set? (options : Options) (mark : Char) (enabled : Bool) :
    Option Options :=
  match mark with
  | 'i' => some { options with caseInsensitive := enabled }
  | 'm' => some { options with multiLine := enabled }
  | 's' => some { options with dotMatchesNewline := enabled }
  | 'R' => some { options with carriageReturns := enabled }
  | 'x' => some { options with skipsBlanks := enabled }
  | 'U' | 'u' => some options
  | _ => none

/-- The options between `(?` and the colon or parenthesis that ends them. -/
def readOptions
    (options : Options) (negated dangling : Bool) (seen : List Char) :
    List Char → Except Fault (Options × List Char)
  | [] => .error .optionsUnended
  | mark :: rest =>
      if mark = ':' ∨ mark = ')' then
        if dangling then .error .optionsEndWithNegation
        else .ok (options, mark :: rest)
      else if mark = '-' then
        if negated then .error .optionNegationRepeated
        else readOptions options true true seen rest
      else
        match options.set? mark (!negated) with
        | none => .error .optionUnknown
        | some changed =>
            if seen.contains mark then .error .optionRepeated
            else readOptions changed negated false (mark :: seen) rest

/-- Whether a character may occur in the name of a group. -/
def isGroupName (first : Bool) (character : Char) : Bool :=
  character = '_' ||
    if first then isAlphabetic character
    else
      character = '.' || character = '[' || character = ']' ||
        isAlphanumeric character

/-- The name of a group, up to the closing angle bracket. -/
def readGroupName (first : Bool) :
    List Char → Except Fault (List Char × List Char)
  | [] => .error (if first then .groupNameMissing else .groupNameUnclosed)
  | character :: rest =>
      if character = '>' then .ok ([], rest)
      else if isGroupName first character then
        (readGroupName false rest).map fun (name, after) =>
          (character :: name, after)
      else .error .groupNameInvalid

/-- A named group, given the names that are taken. -/
def readNamedGroup
    (options : Options) (names : List String) (characters : List Char) :
    Except Fault (GroupStart × List String × List Char) :=
  match readGroupName true characters with
  | .error fault => .error fault
  | .ok (name, rest) =>
      let name := String.ofList name
      if name.isEmpty then .error .groupNameEmpty
      else if names.contains name then .error .groupNameRepeated
      else .ok (.group true options, name :: names, rest)

/-- What follows an opening parenthesis, given the names that are taken. -/
def readGroupStart
    (options : Options) (names : List String) (characters : List Char) :
    Except Fault (GroupStart × List String × List Char) :=
  match skipBlanks options characters with
  | '?' :: '=' :: _ | '?' :: '!' :: _ | '?' :: '<' :: '=' :: _
  | '?' :: '<' :: '!' :: _ => .error .lookAround
  | '?' :: 'P' :: '<' :: rest => readNamedGroup options names rest
  | '?' :: '<' :: rest => readNamedGroup options names rest
  | ['?'] => .error .unclosedGroupOptions
  | '?' :: ')' :: _ => .error .optionsEmpty
  | '?' :: rest =>
      match readOptions options false false [] rest with
      | .error fault => .error fault
      | .ok (changed, ':' :: after) => .ok (.group false changed, names, after)
      | .ok (changed, after) => .ok (.options changed, names, after.tail)
  | rest => .ok (.group true options, names, rest)

/-! ## Whole patterns -/

/-- A group that is open: what was read of it, and how to go on after it. -/
structure OpenGroup where
  /-- Whether the inner group is a capture. -/
  captures : Bool
  /-- The options to return to. -/
  options : Options
  /-- Finished branches of the enclosing group, last first. -/
  branches : List Node
  /-- Items of its current branch, last first. -/
  items : List Node
  deriving Repr

/-- The state of reading. -/
structure Progress where
  options : Options
  names : List String := []
  branches : List Node := []
  items : List Node := []
  outer : List OpenGroup := []
  deriving Repr

namespace Progress

/-- Add an item to the current branch. -/
def addItem (progress : Progress) (item : Node) : Progress :=
  { progress with items := item :: progress.items }

def endBranch (progress : Progress) : Progress :=
  { progress with
    branches := .concatenation progress.items.reverse :: progress.branches
    items := [] }

/-- Everything read of the innermost group. -/
def whole (progress : Progress) : Node :=
  .alternation progress.endBranch.branches.reverse

/-- Replace the last item by its repetition. -/
def repeatItem?
    (progress : Progress) (least : Nat) (most : Option Nat) :
    Option Progress :=
  match progress.items with
  | [] => none
  | item :: others =>
      some { progress with items := .repeated least most item :: others }

/-- The deepest level at which groups may be open. -/
def nestingLimit : Nat := 50

def openGroup
    (progress : Progress) (captures : Bool) (options : Options) :
    Except Fault Progress :=
  if progress.outer.length < nestingLimit then
    .ok
      { progress with
        options
        branches := []
        items := []
        outer :=
          { captures, options := progress.options
            branches := progress.branches, items := progress.items } ::
            progress.outer }
  else .error .tooDeep

/-- Close the innermost group. -/
def closeGroup (progress : Progress) : Except Fault Progress :=
  match progress.outer with
  | [] => .error .unopenedGroup
  | group :: outer =>
      let body := progress.whole
      let item := if group.captures then .capture body else body
      .ok
        { progress with
          options := group.options
          branches := group.branches
          items := item :: group.items
          outer }

/-- Read one part of the pattern, which is not at its end. -/
def step
    (progress : Progress) (character : Char) (rest : List Char) :
    Except Fault (Progress × List Char) :=
  let item (found : Except Fault (Node × List Char)) :=
    found.map fun (node, after) => (progress.addItem node, after)
  let repeats (least : Nat) (most : Option Nat) (fault : Fault)
      (after : List Char) :=
    match progress.repeatItem? least most with
    | none => .error fault
    | some changed => .ok (changed, after)
  match character with
  | '(' =>
      match readGroupStart progress.options progress.names rest with
      | .error fault => .error fault
      | .ok (.options changed, names, after) =>
          .ok ({ progress with options := changed, names }, after)
      | .ok (.group captures options, names, after) =>
          ({ progress with names }.openGroup captures options).map (·, after)
  | ')' => progress.closeGroup.map (·, rest)
  | '|' => .ok (progress.endBranch, rest)
  | '[' => item (readClass progress.options rest)
  | '?' => repeats 0 (some 1) .repetitionWithoutItem (skipReluctance rest)
  | '*' => repeats 0 none .repetitionWithoutItem (skipReluctance rest)
  | '+' => repeats 1 none .repetitionWithoutItem (skipReluctance rest)
  | '\x7b' =>
      if progress.items.isEmpty then .error .countedWithoutItem
      else
        match readBounds progress.options rest with
        | .error fault => .error fault
        | .ok ((least, most), after) =>
            repeats least most .countedWithoutItem after
  | '\\' => item (readEscape progress.options rest)
  | '.' => .ok (progress.addItem (anyCharacter progress.options), rest)
  | '^' =>
      .ok (progress.addItem (.assertion (startAnchor progress.options)), rest)
  | '$' =>
      .ok (progress.addItem (.assertion (endAnchor progress.options)), rest)
  | other => .ok (progress.addItem (literal progress.options other), rest)

/-- Read the rest of the pattern.  Every part takes at least one character, so
the length of the text bounds the number of steps. -/
def run : Nat → Progress → List Char → Except Fault Node
  | 0, _, _ => .error .unclosedGroup
  | steps + 1, progress, characters =>
      match skipBlanks progress.options characters with
      | [] =>
          if progress.outer.isEmpty then .ok progress.whole
          else .error .unclosedGroup
      | character :: rest =>
          match progress.step character rest with
          | .error fault => .error fault
          | .ok (changed, after) => run steps changed after

end Progress

/-- The space that a compiled pattern may take. -/
def sizeLimit : Nat := 10485760

/-- Read a whole pattern. -/
def Node.ofText? (options : Options) (text : String) : Except Fault Node :=
  let characters := text.toList
  match Progress.run (characters.length + 1) { options } characters with
  | .error fault => .error fault
  | .ok node =>
      if Progress.nestingLimit < node.height then .error .tooDeep
      else if sizeLimit < node.size then .error .tooLarge
      else .ok node

end FilterQuery.Pattern
