import FilterQuery.Proofs.Filter.Elements

/-!
# The grammars of literals exclude each other

A literal is read by the first grammar that it matches, but no text matches two of them.

* `Grammar.Matches` says what texts a grammar describes.  The inner text of a text, a list, a like
  pattern or a regular expression stands in a `Frame`, and `Grammar.frames` are the possible ones;
* `Grammar.Captures.unique`: of all frames at most one fits around a text, since two that begin in
  the same way cannot end in the same way;
* `Grammar.Matches.unique`: numbers, keywords and what stands in a frame begin with different
  characters;
* `grammars_exclude_each_other`: so the order in which the grammars are tried does not matter.
-/

namespace FilterQuery.Literal

open FilterQuery.Text

/-- The grammars of literals. -/
inductive Grammar where
  | integer
  | float
  | null
  | boolean
  | string
  | inList
  | like
  | regexp
  deriving DecidableEq, Repr

/-- What stands around the inner text of a literal.  The modifier may be empty. -/
structure Frame where
  opening : List Char
  closing : List Char
  modifier : List Char
  deriving DecidableEq, Repr

namespace Frame

/-- What follows the inner text. -/
def ending (frame : Frame) : List Char := frame.closing ++ frame.modifier

def around (frame : Frame) (inner : List Char) : List Char :=
  frame.opening ++ (inner ++ frame.ending)

end Frame

namespace Grammar

/-- The grammars in the order in which they are tried. -/
def all : List Grammar :=
  [.integer, .float, .null, .boolean, .string, .inList, .like, .regexp]

theorem mem_all (grammar : Grammar) : grammar ∈ all := by
  cases grammar <;> decide

/-- The opening and closing marks of a grammar. -/
def marks : Grammar → List (List Char × List Char)
  | .integer | .float | .null | .boolean => []
  | .string => [(['"'], ['"'])]
  | .inList => [(['['], [']'])]
  | .like => [(['"'], ['"', '%']), (['%', '"'], ['"']), (['%', '"'], ['"', '%'])]
  | .regexp => [(['/'], ['/'])]

/-- The modifier that disregards letter case. -/
def caseModifier : Grammar → List Char
  | .regexp => ['i']
  | _ => ['/', 'i']

/-- The frames of a grammar: its marks with the modifier or without it. -/
def frames (grammar : Grammar) : List Frame :=
  grammar.marks.flatMap fun (opening, closing) =>
    [⟨opening, closing, []⟩, ⟨opening, closing, grammar.caseModifier⟩]

/-- The text consists of a frame of the grammar and an inner text in it, which is one line. -/
structure Captures
    (characters : List Char) (grammar : Grammar) (frame : Frame) (inner : List Char) : Prop where
  isFrame : frame ∈ grammar.frames
  oneLine : isOneLine inner = true
  whole : characters = frame.around inner

/-- The text is a literal of the grammar. -/
inductive Matches (characters : List Char) : Grammar → Prop
  | integer : Digits.isRun characters = true → Matches characters .integer
  | float {whole fraction : List Char} :
      Digits.isRun whole = true → Digits.isRun fraction = true →
      characters = whole ++ '.' :: fraction → Matches characters .float
  | null : characters = "null".toList → Matches characters .null
  | boolean (value : Bool) :
      characters = (if value then "true" else "false").toList → Matches characters .boolean
  | framed {grammar : Grammar} {frame : Frame} {inner : List Char} :
      Captures characters grammar frame inner → Matches characters grammar

variable {characters inner otherInner : List Char} {first second : Grammar} {frame other : Frame}

/-! ## One frame at most -/

/-- Two frames of which one opens and ends like the other are the same. -/
theorem frame_unique :
    ∀ first ∈ all, ∀ frame ∈ first.frames, ∀ second ∈ all, ∀ other ∈ second.frames,
      frame.opening <+: other.opening ∨ other.opening <+: frame.opening →
        frame.ending <:+ other.ending ∨ other.ending <:+ frame.ending →
          first = second ∧ frame = other := by
  decide

/-- The inner text of a literal and what stands around it are determined. -/
theorem Captures.unique
    (captures : Captures characters first frame inner)
    (others : Captures characters second other otherInner) :
    first = second ∧ frame = other ∧ inner = otherInner := by
  obtain ⟨isFrame, _, whole⟩ := captures
  obtain ⟨isOther, _, otherWhole⟩ := others
  have opens : frame.opening <+: characters := ⟨_, whole.symm⟩
  have otherOpens : other.opening <+: characters := ⟨_, otherWhole.symm⟩
  have ends : frame.ending <:+ characters :=
    ⟨frame.opening ++ inner, by rw [whole, Frame.around, List.append_assoc]⟩
  have otherEnds : other.ending <:+ characters :=
    ⟨other.opening ++ otherInner, by rw [otherWhole, Frame.around, List.append_assoc]⟩
  obtain ⟨sameGrammar, rfl⟩ :=
    frame_unique first (mem_all first) frame isFrame second (mem_all second) other isOther
      (List.prefix_or_prefix_of_prefix opens otherOpens)
      (List.suffix_or_suffix_of_suffix ends otherEnds)
  refine ⟨sameGrammar, rfl, ?_⟩
  rw [otherWhole] at whole
  exact (List.append_cancel_right (List.append_cancel_left whole)).symm

/-! ## One grammar at most -/

/-- What a literal begins with. -/
inductive Initial where
  | digit
  | null
  | truth
  | mark
  deriving DecidableEq, Repr

def Initial.ofCharacter (character : Char) : Initial :=
  if character.isDigit then .digit
  else if character = 'n' then .null
  else if character = 't' ∨ character = 'f' then .truth
  else .mark

def initial : Grammar → Initial
  | .integer | .float => .digit
  | .null => .null
  | .boolean => .truth
  | .string | .inList | .like | .regexp => .mark

/-- A frame begins with a mark, and only grammars of frames do. -/
theorem initial_of_mem_frames :
    ∀ grammar ∈ all, ∀ frame ∈ grammar.frames,
      grammar.initial = .mark ∧ frame.opening.head?.map Initial.ofCharacter = some .mark := by
  decide

theorem Captures.initial_eq (captures : Captures characters first frame inner) :
    first.initial = .mark ∧ characters.head?.map Initial.ofCharacter = some .mark := by
  obtain ⟨isMark, opens⟩ := initial_of_mem_frames first (mem_all first) _ captures.isFrame
  refine ⟨isMark, ?_⟩
  obtain ⟨mark, isFirst, sort⟩ := Option.map_eq_some_iff.mp opens
  obtain ⟨others, isOpening⟩ := List.head?_eq_some_iff.mp isFirst
  rw [captures.whole, Frame.around, isOpening]
  exact congrArg some sort

theorem initial_of_isRun {digits : List Char} (isRun : Digits.isRun digits = true)
    (rest : List Char) : (digits ++ rest).head?.map Initial.ofCharacter = some .digit := by
  obtain ⟨digit, others, rfl, areDigits⟩ := Digits.exists_digit_of_isRun isRun
  simp [Initial.ofCharacter, areDigits digit List.mem_cons_self]

theorem Matches.initial_eq (fits : Matches characters first) :
    characters.head?.map Initial.ofCharacter = some first.initial := by
  cases fits with
  | integer isRun =>
      rw [← List.append_nil characters]
      exact initial_of_isRun isRun []
  | float wholeIsRun _ whole =>
      rw [whole]
      exact initial_of_isRun wholeIsRun _
  | null whole =>
      rw [whole]
      rfl
  | boolean value whole =>
      rw [whole]
      cases value <;> rfl
  | framed captures =>
      rw [captures.initial_eq.1]
      exact captures.initial_eq.2

/-- Integers have no point. -/
theorem not_integer_and_float (isInteger : Matches characters .integer) :
    ¬Matches characters .float := by
  intro isFloat
  cases isInteger with
  | framed captures => exact absurd captures.initial_eq.1 (by decide)
  | integer isRun =>
      cases isFloat with
      | framed captures => exact absurd captures.initial_eq.1 (by decide)
      | float _ _ whole =>
          obtain ⟨_, _, _, areDigits⟩ := Digits.exists_digit_of_isRun isRun
          have hasPoint : '.' ∈ characters := by
            rw [whole]
            exact List.mem_append_right _ List.mem_cons_self
          exact absurd (areDigits '.' hasPoint) (by decide)

theorem Matches.exists_captures
    (fits : Matches characters first) (isMark : first.initial = .mark) :
    ∃ frame inner, Captures characters first frame inner := by
  cases fits with
  | framed captures => exact ⟨_, _, captures⟩
  | integer | float | null | boolean => cases isMark

/-- Where two grammars begin in the same way, they are numbers or both have frames. -/
theorem cases_of_initial_eq :
    ∀ first ∈ all, ∀ second ∈ all, first.initial = second.initial →
      first = second ∨ first = .integer ∧ second = .float ∨
        first = .float ∧ second = .integer ∨ first.initial = .mark ∧ second.initial = .mark := by
  decide

/-- No text matches two grammars. -/
theorem Matches.unique
    (isFirst : Matches characters first) (isSecond : Matches characters second) :
    first = second := by
  have sameInitial : first.initial = second.initial :=
    Option.some.inj (isFirst.initial_eq.symm.trans isSecond.initial_eq)
  rcases cases_of_initial_eq first (mem_all first) second (mem_all second) sameInitial with
    same | ⟨rfl, rfl⟩ | ⟨rfl, rfl⟩ | ⟨isMark, otherIsMark⟩
  · exact same
  · exact absurd isSecond (not_integer_and_float isFirst)
  · exact absurd isFirst (not_integer_and_float isSecond)
  · obtain ⟨_, _, captures⟩ := isFirst.exists_captures isMark
    obtain ⟨_, _, others⟩ := isSecond.exists_captures otherIsMark
    exact (captures.unique others).1

/-! ## What the readers capture -/

/-- The frame and the inner text that the reader of the grammar finds. -/
def capture? (characters : List Char) : Grammar → Option (Frame × List Char)
  | .integer | .float | .null | .boolean => none
  | .string =>
      (quoted? characters).map fun (inner, modified) =>
        (⟨['"'], ['"'], slashModifier modified⟩, inner)
  | .inList =>
      (bracketed? characters).map fun (inner, modified) =>
        (⟨['['], [']'], slashModifier modified⟩, inner)
  | .like =>
      (like? characters).map fun shape =>
        (⟨modifier ['%'] shape.wildcardLeft ++ ['"'], '"' :: modifier ['%'] shape.wildcardRight,
          slashModifier shape.caseInsensitive⟩, shape.inner)
  | .regexp =>
      (slashed? characters).map fun (inner, modified) =>
        (⟨['/'], ['/'], modifier ['i'] modified⟩, inner)

theorem mem_frames_string_iff :
    frame ∈ frames .string ↔ ∃ modified, frame = ⟨['"'], ['"'], slashModifier modified⟩ := by
  simp [frames, marks, caseModifier, slashModifier, modifier]

theorem mem_frames_inList_iff :
    frame ∈ frames .inList ↔ ∃ modified, frame = ⟨['['], [']'], slashModifier modified⟩ := by
  simp [frames, marks, caseModifier, slashModifier, modifier]

theorem mem_frames_regexp_iff :
    frame ∈ frames .regexp ↔ ∃ modified, frame = ⟨['/'], ['/'], modifier ['i'] modified⟩ := by
  simp [frames, marks, caseModifier, modifier]

theorem mem_frames_like_iff :
    frame ∈ frames .like ↔
      ∃ left right modified, (left || right) = true ∧
        frame =
          ⟨modifier ['%'] left ++ ['"'], '"' :: modifier ['%'] right, slashModifier modified⟩ := by
  simp [frames, marks, caseModifier, slashModifier, modifier, or_assoc]

/-- The reader of a shape with one pair of marks captures what its shape says. -/
theorem map_eq_some_iff_captures
    {grammar : Grammar} {found : Option (List Char × Bool)} {frameOf : Bool → Frame}
    (areFrames : ∀ frame, frame ∈ grammar.frames ↔ ∃ modified, frame = frameOf modified)
    (shape :
      ∀ inner modified,
        found = some (inner, modified) ↔
          isOneLine inner = true ∧ characters = (frameOf modified).around inner) :
    (found.map fun (inner, modified) => (frameOf modified, inner)) = some (frame, inner) ↔
      Captures characters grammar frame inner := by
  constructor
  · intro captured
    obtain ⟨⟨inside, modified⟩, isShape, same⟩ := Option.map_eq_some_iff.mp captured
    cases same
    obtain ⟨oneLine, whole⟩ := (shape inner modified).mp isShape
    exact ⟨(areFrames _).mpr ⟨modified, rfl⟩, oneLine, whole⟩
  · rintro ⟨isFrame, oneLine, whole⟩
    obtain ⟨modified, rfl⟩ := (areFrames frame).mp isFrame
    have isShape := (shape inner modified).mpr ⟨oneLine, whole⟩
    rw [isShape]
    rfl

theorem map_like?_eq_some_iff :
    capture? characters .like = some (frame, inner) ↔ Captures characters .like frame inner := by
  constructor
  · intro captured
    obtain ⟨shape, isShape, same⟩ := Option.map_eq_some_iff.mp captured
    cases same
    obtain ⟨wildcard, oneLine, whole⟩ := like?_eq_some_iff.mp isShape
    refine ⟨mem_frames_like_iff.mpr ⟨_, _, _, wildcard, rfl⟩, oneLine, ?_⟩
    rw [whole]
    simp only [Frame.around, Frame.ending, List.append_assoc, List.cons_append, List.nil_append]
  · rintro ⟨isFrame, oneLine, whole⟩
    obtain ⟨left, right, modified, wildcard, rfl⟩ := mem_frames_like_iff.mp isFrame
    have isShape : like? characters = some ⟨inner, left, right, modified⟩ := by
      apply like?_eq_some_iff.mpr
      refine ⟨wildcard, oneLine, ?_⟩
      rw [whole]
      simp only [Frame.around, Frame.ending, List.append_assoc, List.cons_append, List.nil_append]
    rw [capture?, isShape]
    rfl

/-- What a reader captures is the frame and the inner text that the text consists of. -/
theorem capture?_eq_some_iff (grammar : Grammar) :
    capture? characters grammar = some (frame, inner) ↔
      Captures characters grammar frame inner := by
  cases grammar with
  | string =>
      exact
        map_eq_some_iff_captures (fun _ => mem_frames_string_iff)
          fun _ _ => enclosed?_eq_some_iff (by decide)
  | inList =>
      exact
        map_eq_some_iff_captures (fun _ => mem_frames_inList_iff)
          fun _ _ => enclosed?_eq_some_iff (by decide)
  | like => exact map_like?_eq_some_iff
  | regexp =>
      exact
        map_eq_some_iff_captures (fun _ => mem_frames_regexp_iff) fun _ _ => slashed?_eq_some_iff
  | integer | float | null | boolean =>
      constructor
      · intro captured
        cases captured
      · intro captures
        cases captures.isFrame

/-! ## The order of the grammars -/

/-- The integer of a run of digits, or the fault that it is too large. -/
def readInteger (text : String) : Except ValueFault (Kind × Bool) :=
  match integer? text.toList with
  | none => .error (.integerOutOfRange text)
  | some value => .ok (.integer value, false)

/-- What the reader of the grammar makes of a text, if the text is a literal of the grammar. -/
def read? (text : String) : Grammar → Option (Except ValueFault (Kind × Bool))
  | .integer => if Digits.isRun text.toList then some (readInteger text) else none
  | .float =>
      (decimal? text.toList).map fun (whole, fraction) =>
        .ok (.float (Decimal.ofFixed whole fraction), false)
  | .null => if text = "null" then some (.ok (.null, false)) else none
  | .boolean =>
      if text = "true" then some (.ok (.boolean true, false))
      else if text = "false" then some (.ok (.boolean false, false))
      else none
  | .string =>
      (quoted? text.toList).map fun (inner, modified) =>
        (quotedText inner).map fun value => (.string value, modified)
  | .inList =>
      (bracketed? text.toList).map fun (inner, modified) =>
        (elements inner).map fun items => (.inList items, modified)
  | .like =>
      (like? text.toList).map fun shape =>
        (likePattern shape).map fun pattern => (.like pattern, shape.caseInsensitive)
  | .regexp =>
      (slashed? text.toList).map fun (inner, modified) =>
        (regexpText inner).map fun pattern => (.regexp pattern, modified)

theorem isSome_capture?_iff (isMark : first.initial = .mark) :
    (capture? characters first).isSome = true ↔ Matches characters first := by
  constructor
  · intro captured
    obtain ⟨⟨frame, inner⟩, found⟩ := Option.isSome_iff_exists.mp captured
    exact .framed ((capture?_eq_some_iff first).mp found)
  · intro fits
    obtain ⟨frame, inner, captures⟩ := fits.exists_captures isMark
    rw [(capture?_eq_some_iff first).mpr captures]
    rfl

/-- A reader returns something exactly for the literals of its grammar. -/
theorem isSome_read?_iff (text : String) (grammar : Grammar) :
    (read? text grammar).isSome = true ↔ Matches text.toList grammar := by
  cases grammar with
  | integer =>
      rw [read?, Option.isSome_ite]
      constructor
      · exact .integer
      · intro fits
        cases fits with
        | framed captures => cases captures.isFrame
        | integer isRun => exact isRun
  | float =>
      rw [read?, Option.isSome_map]
      constructor
      · intro isRead
        obtain ⟨⟨whole, fraction⟩, found⟩ := Option.isSome_iff_exists.mp isRead
        obtain ⟨isText, wholeIsRun, fractionIsRun⟩ := eq_append_of_decimal? found
        exact .float wholeIsRun fractionIsRun isText
      · intro fits
        cases fits with
        | framed captures => cases captures.isFrame
        | float wholeIsRun fractionIsRun isText =>
            rw [isText, decimal?_append wholeIsRun fractionIsRun]
            rfl
  | null =>
      rw [read?, Option.isSome_ite]
      constructor
      · intro isNull
        exact .null (congrArg String.toList isNull)
      · intro fits
        cases fits with
        | framed captures => cases captures.isFrame
        | null isText => exact String.toList_inj.mp isText
  | boolean =>
      rw [read?]
      constructor
      · intro isRead
        split at isRead
        · rename_i isTrue
          exact .boolean true (congrArg String.toList isTrue)
        · rw [Option.isSome_ite] at isRead
          exact .boolean false (congrArg String.toList isRead)
      · intro fits
        cases fits with
        | framed captures => cases captures.isFrame
        | boolean value isText =>
            rw [String.toList_inj.mp isText]
            cases value <;> rfl
  | string =>
      rw [← isSome_capture?_iff rfl, read?, capture?, Option.isSome_map, Option.isSome_map]
  | inList =>
      rw [← isSome_capture?_iff rfl, read?, capture?, Option.isSome_map, Option.isSome_map]
  | like =>
      rw [← isSome_capture?_iff rfl, read?, capture?, Option.isSome_map, Option.isSome_map]
  | regexp =>
      rw [← isSome_capture?_iff rfl, read?, capture?, Option.isSome_map, Option.isSome_map]

end Grammar

end FilterQuery.Literal

namespace FilterQuery

open FilterQuery.Text FilterQuery.Literal

/-- Read a literal by the first of the given grammars that it matches. -/
def Kind.ofLiteralBy (grammars : List Grammar) (text : String) :
    Except ValueFault (Kind × Bool) :=
  (grammars.findSome? (Grammar.read? text)).getD (.error (.unsupported text))

theorem Kind.ofLiteralBy_all (text : String) : ofLiteralBy Grammar.all text = ofLiteral text := by
  unfold ofLiteralBy ofLiteral Grammar.all
  simp only [List.findSome?_cons, List.findSome?_nil, Grammar.read?]
  by_cases isRun : Digits.isRun text.toList = true
  · rw [if_pos isRun, if_pos isRun]
    unfold Grammar.readInteger
    cases integer? text.toList <;> rfl
  rw [if_neg isRun, if_neg isRun]
  cases decimal? text.toList with
  | some parts => rfl
  | none =>
  by_cases isNull : text = "null"
  · rw [if_pos isNull, if_pos isNull]
    rfl
  rw [if_neg isNull, if_neg isNull]
  by_cases isTrue : text = "true"
  · rw [if_pos isTrue, if_pos isTrue]
    rfl
  rw [if_neg isTrue, if_neg isTrue]
  by_cases isFalse : text = "false"
  · rw [if_pos isFalse, if_pos isFalse]
    rfl
  rw [if_neg isFalse, if_neg isFalse]
  cases quoted? text.toList with
  | some parts => rfl
  | none =>
  cases bracketed? text.toList with
  | some parts => rfl
  | none =>
  cases like? text.toList with
  | some shape => rfl
  | none => cases slashed? text.toList <;> rfl

/-- The grammar that describes the text is the one that is read, wherever it stands. -/
theorem Kind.ofLiteralBy_of_read?
    {grammars : List Grammar} {grammar : Grammar} {text : String}
    {outcome : Except ValueFault (Kind × Bool)} (member : grammar ∈ grammars)
    (found : grammar.read? text = some outcome) : ofLiteralBy grammars text = outcome := by
  unfold ofLiteralBy
  cases first : grammars.findSome? (Grammar.read? text) with
  | none =>
      have notFound := List.findSome?_eq_none_iff.mp first grammar member
      rw [notFound] at found
      cases found
  | some other =>
      obtain ⟨firstGrammar, _, isFirst⟩ := List.exists_of_findSome?_eq_some first
      have fits := (Grammar.isSome_read?_iff text grammar).mp (by rw [found]; rfl)
      have firstFits := (Grammar.isSome_read?_iff text firstGrammar).mp (by rw [isFirst]; rfl)
      rw [firstFits.unique fits, found] at isFirst
      exact (Option.some.inj isFirst).symm

theorem Kind.ofLiteralBy_eq
    {grammars : List Grammar} (complete : ∀ grammar, grammar ∈ grammars) (text : String) :
    ofLiteralBy grammars text = ofLiteral text := by
  rw [← ofLiteralBy_all]
  by_cases described : ∃ grammar outcome, Grammar.read? text grammar = some outcome
  · obtain ⟨grammar, outcome, found⟩ := described
    rw [ofLiteralBy_of_read? (complete grammar) found,
      ofLiteralBy_of_read? grammar.mem_all found]
  · have notFound : ∀ grammar, Grammar.read? text grammar = none := by
      intro grammar
      rw [Option.eq_none_iff_forall_ne_some]
      intro outcome found
      exact described ⟨grammar, outcome, found⟩
    have nowhere :
        ∀ list : List Grammar, ofLiteralBy list text = .error (.unsupported text) := by
      intro list
      rw [ofLiteralBy, List.findSome?_eq_none_iff.mpr fun grammar _ => notFound grammar]
      rfl
    rw [nowhere, nowhere]

/-- A text is a literal of one grammar at most, and a reader returns something exactly for the
literals of its grammar.  What it captures is the only way to take the text apart into an opening
mark, an inner text, a closing mark and a modifier.  So the grammars can be tried in any order. -/
theorem Literal.grammars_exclude_each_other (text : String) :
    (∀ grammar : Grammar,
      (grammar.read? text).isSome = true ↔ Grammar.Matches text.toList grammar) ∧
      (∀ first second : Grammar,
        Grammar.Matches text.toList first → Grammar.Matches text.toList second →
          first = second) ∧
      (∀ (grammar : Grammar) (frame : Frame) (inner : List Char),
        grammar.capture? text.toList = some (frame, inner) ↔
          Grammar.Captures text.toList grammar frame inner) ∧
      (∀ (first second : Grammar) (frame other : Frame) (inner otherInner : List Char),
        Grammar.Captures text.toList first frame inner →
          Grammar.Captures text.toList second other otherInner →
            frame = other ∧ inner = otherInner) ∧
      ∀ grammars : List Grammar,
        (∀ grammar, grammar ∈ grammars) →
          Kind.ofLiteralBy grammars text = Kind.ofLiteral text := by
  refine ⟨Grammar.isSome_read?_iff text, ?_, ?_, ?_, ?_⟩
  · intro first second isFirst isSecond
    exact isFirst.unique isSecond
  · intro grammar frame inner
    exact Grammar.capture?_eq_some_iff grammar
  · intro first second frame other inner otherInner captures others
    exact (captures.unique others).2
  · intro grammars complete
    exact Kind.ofLiteralBy_eq complete text

theorem Literal.grammars_exclude_each_other_like :
    Grammar.Matches "%\"a\"".toList .like ∧
      (∀ grammar : Grammar, Grammar.Matches "%\"a\"".toList grammar → grammar = .like) ∧
        Kind.ofLiteralBy Grammar.all.reverse "%\"a\"" = Kind.ofLiteral "%\"a\"" := by
  have exclude := grammars_exclude_each_other "%\"a\""
  have isLike : Grammar.Matches "%\"a\"".toList .like := (exclude.1 .like).mp (by decide)
  refine ⟨isLike, ?_, ?_⟩
  · intro grammar fits
    exact exclude.2.1 grammar .like fits isLike
  · exact exclude.2.2.2.2 Grammar.all.reverse fun grammar => by cases grammar <;> decide

end FilterQuery
