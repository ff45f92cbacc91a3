import FilterQuery.Configuration.Variables
import FilterQuery.Proofs.Text.Split
import Mathlib.Data.List.TakeWhile

/-!
# References are replaced in one pass

A text is cut into references and what stands between them, and only the references are replaced.
The cut does not depend on the values, so what was put in is not looked at again.

* `reference?_eq_some_iff`: what is taken for a reference;
* `expandCharacters_append`: text before the first reference stays as it is, and
  `expandCharacters_reference` is the step at a reference;
* `exists_segments`: every text is a sequence of such steps with a rest that has no reference;
* `expandVariables_in_one_pass` puts this together.
-/

namespace FilterQuery

/-- The name of a variable in a reference. -/
def IsVariableName (name : List Char) : Prop :=
  name ≠ [] ∧ '\x7d' ∉ name

/-- Somewhere in the text there is a reference. -/
def HasReference (characters : List Char) : Prop :=
  ∃ before name after,
    IsVariableName name ∧ characters = before ++ (referenceText name ++ after)

/-- Each opening brace behind a dollar sign is closed at once, so no reference starts there,
whatever follows the text. -/
def StartsNoReference (characters : List Char) : Prop :=
  ∀ before after, characters = before ++ '$' :: '\x7b' :: after → ∃ rest, after = '\x7d' :: rest

variable {characters before after name rest : List Char} {value? : String → Option String}

/-! ## One reference -/

/-- A reference is a name in braces, whose end is the first closing brace. -/
theorem reference?_eq_some_iff :
    reference? characters = some (name, after) ↔
      IsVariableName name ∧ characters = '\x7b' :: (name ++ '\x7d' :: after) := by
  constructor
  · intro found
    unfold reference? at found
    split at found
    · rename_i inside
      have parts : inside.takeWhile (· != '\x7d') ++ inside.dropWhile (· != '\x7d') = inside :=
        List.takeWhile_append_dropWhile
      simp only at found
      split at found
      · cases found
      · rename_i brace following isRest
        split at found
        · cases found
        · rename_i notEmpty
          cases found
          have isBrace : brace = '\x7d' := by
            have stops := List.head?_dropWhile_not (· != '\x7d') inside
            rw [isRest] at stops
            simpa using stops
          rw [isBrace] at isRest
          have noBrace : '\x7d' ∉ inside.takeWhile (· != '\x7d') := by
            intro member
            have passes := List.mem_takeWhile_imp member
            simp at passes
          refine ⟨⟨by simpa using notEmpty, noBrace⟩, ?_⟩
          rw [← isRest, parts]
    · cases found
  · rintro ⟨⟨notEmpty, noBrace⟩, rfl⟩
    have isName : (name ++ '\x7d' :: after).takeWhile (· != '\x7d') = name :=
      Text.Split.takeWhile_append_separator noBrace after
    have isRest : (name ++ '\x7d' :: after).dropWhile (· != '\x7d') = '\x7d' :: after :=
      Text.Split.dropWhile_append_separator noBrace after
    simp [reference?, isName, isRest, notEmpty]

/-- What a reference is replaced by. -/
def replacement (value? : String → Option String) (name : List Char) : List Char :=
  ((value? (String.ofList name)).map String.toList).getD (referenceText name)

theorem expandCharacters_cons (character : Char) (rest : List Char) :
    expandCharacters value? (character :: rest) =
      match if character = '$' then reference? rest else none with
      | none => character :: expandCharacters value? rest
      | some (name, after) => replacement value? name ++ expandCharacters value? after := by
  rw [expandCharacters]
  split
  · rename_i notFound
    rw [notFound]
  · rename_i found
    rw [found]
    rfl

theorem expandCharacters_reference (isName : IsVariableName name) (after : List Char) :
    expandCharacters value? (referenceText name ++ after) =
      replacement value? name ++ expandCharacters value? after := by
  have found : reference? ('\x7b' :: (name ++ '\x7d' :: after)) = some (name, after) :=
    reference?_eq_some_iff.mpr ⟨isName, rfl⟩
  have whole : referenceText name ++ after = '$' :: '\x7b' :: (name ++ '\x7d' :: after) := by
    simp [referenceText]
  rw [whole, expandCharacters_cons, if_pos rfl, found]

/-! ## Text between references -/

/-- A character is kept where no reference starts with it. -/
theorem expandCharacters_cons_of_none
    {character : Char} (none : character = '$' → reference? rest = none) :
    expandCharacters value? (character :: rest) = character :: expandCharacters value? rest := by
  rw [expandCharacters_cons]
  by_cases isDollar : character = '$'
  · rw [if_pos isDollar, none isDollar]
  · rw [if_neg isDollar]

theorem expandCharacters_eq_self (noReference : ¬HasReference characters) :
    expandCharacters value? characters = characters := by
  induction characters with
  | nil => rw [expandCharacters]
  | cons character rest inductionHypothesis =>
      have notHere : character = '$' → reference? rest = none := by
        rintro rfl
        rw [Option.eq_none_iff_forall_ne_some]
        rintro ⟨name, after⟩ found
        obtain ⟨isName, rfl⟩ := reference?_eq_some_iff.mp found
        exact noReference ⟨[], name, after, isName, by simp [referenceText]⟩
      have notLater : ¬HasReference rest := by
        rintro ⟨before, name, after, isName, rfl⟩
        exact noReference ⟨character :: before, name, after, isName, rfl⟩
      rw [expandCharacters_cons_of_none notHere, inductionHypothesis notLater]

theorem StartsNoReference.of_cons
    {character : Char} (starts : StartsNoReference (character :: before)) :
    StartsNoReference before := by
  intro earlier later same
  exact starts (character :: earlier) later (by rw [same]; rfl)

/-- Text in which no reference starts is passed over, unless a brace follows it. -/
theorem expandCharacters_append
    (starts : StartsNoReference before) (noBrace : after.head? ≠ some '\x7b') :
    expandCharacters value? (before ++ after) = before ++ expandCharacters value? after := by
  induction before with
  | nil => rfl
  | cons character rest inductionHypothesis =>
      have notHere : character = '$' → reference? (rest ++ after) = none := by
        rintro rfl
        rw [Option.eq_none_iff_forall_ne_some]
        rintro ⟨name, following⟩ found
        obtain ⟨⟨notEmpty, noClosing⟩, whole⟩ := reference?_eq_some_iff.mp found
        cases rest with
        | nil =>
            rw [List.nil_append] at whole
            rw [whole] at noBrace
            exact noBrace rfl
        | cons brace inside =>
            obtain ⟨rfl, isName⟩ := List.cons.inj whole
            obtain ⟨others, rfl⟩ := starts [] inside rfl
            cases name with
            | nil => exact notEmpty rfl
            | cons first letters =>
                exact noClosing (by rw [← (List.cons.inj isName).1]; exact List.mem_cons_self)
      rw [List.cons_append, expandCharacters_cons_of_none notHere,
        inductionHypothesis starts.of_cons, List.cons_append]

/-- The first reference of a text is replaced, and the rest is expanded on its own. -/
theorem expandCharacters_first
    (starts : StartsNoReference before) (isName : IsVariableName name) (after : List Char) :
    expandCharacters value? (before ++ (referenceText name ++ after)) =
      before ++ (replacement value? name ++ expandCharacters value? after) := by
  rw [expandCharacters_append starts (by simp [referenceText]), expandCharacters_reference isName]

/-! ## The first reference -/

/-- A brace that is closed, but not at once, starts a reference. -/
theorem exists_reference?_eq_some
    (closed : '\x7d' ∈ rest) (notAtOnce : rest.head? ≠ some '\x7d') :
    ∃ name after, reference? ('\x7b' :: rest) = some (name, after) := by
  obtain ⟨name, after, rfl, noClosing⟩ := List.eq_append_cons_of_mem closed
  refine ⟨name, after, reference?_eq_some_iff.mpr ⟨⟨?_, noClosing⟩, rfl⟩⟩
  rintro rfl
  exact notAtOnce rfl

/-- Before the first reference a brace behind a dollar sign is closed at once, since the later
reference closes any other one. -/
theorem StartsNoReference.cons
    {character : Char} (starts : StartsNoReference before)
    (notHere : character = '$' → reference? (before ++ (referenceText name ++ after)) = none) :
    StartsNoReference (character :: before) := by
  intro earlier later same
  cases earlier with
  | cons first others => exact starts others later (List.cons.inj same).2
  | nil =>
      obtain ⟨isDollar, rfl⟩ := List.cons.inj same
      by_contra notClosed
      have closed : '\x7d' ∈ later ++ (referenceText name ++ after) := by
        simp [referenceText]
      have notAtOnce : (later ++ (referenceText name ++ after)).head? ≠ some '\x7d' := by
        cases later with
        | nil => simp [referenceText]
        | cons next others =>
            intro isClosing
            exact notClosed ⟨others, by rw [Option.some.inj isClosing]⟩
      obtain ⟨found, following, isReference⟩ := exists_reference?_eq_some closed notAtOnce
      rw [List.cons_append, isReference] at notHere
      cases notHere isDollar

/-- A text with a reference is cut at the first one. -/
theorem exists_first_reference (has : HasReference characters) :
    ∃ before name after,
      StartsNoReference before ∧ IsVariableName name ∧
        characters = before ++ (referenceText name ++ after) := by
  induction characters with
  | nil =>
      obtain ⟨before, name, after, _, whole⟩ := has
      simp [referenceText] at whole
  | cons character rest inductionHypothesis =>
      by_cases here : ∃ name after, character = '$' ∧ reference? rest = some (name, after)
      · obtain ⟨name, after, rfl, found⟩ := here
        obtain ⟨isName, rfl⟩ := reference?_eq_some_iff.mp found
        refine ⟨[], name, after, ?_, isName, by simp [referenceText]⟩
        intro earlier later same
        simp at same
      · have hasLater : HasReference rest := by
          obtain ⟨before, name, after, isName, whole⟩ := has
          cases before with
          | cons first others => exact ⟨others, name, after, isName, (List.cons.inj whole).2⟩
          | nil =>
              obtain ⟨isDollar, isRest⟩ := List.cons.inj whole
              have found : reference? rest = some (name, after) :=
                reference?_eq_some_iff.mpr ⟨isName, by rw [isRest]; simp⟩
              exact absurd ⟨name, after, isDollar, found⟩ here
        obtain ⟨before, name, after, starts, isName, rfl⟩ := inductionHypothesis hasLater
        have notHere :
            character = '$' → reference? (before ++ (referenceText name ++ after)) = none := by
          intro isDollar
          rw [Option.eq_none_iff_forall_ne_some]
          rintro ⟨found, following⟩ isReference
          exact here ⟨found, following, isDollar, isReference⟩
        exact ⟨character :: before, name, after, starts.cons notHere, isName, rfl⟩

/-! ## The whole text -/

/-- A reference with the text before it. -/
structure Segment where
  before : List Char
  name : List Char

namespace Segment

/-- The reference is the first one. -/
structure IsCut (segment : Segment) : Prop where
  starts : StartsNoReference segment.before
  isName : IsVariableName segment.name

def written (segment : Segment) : List Char :=
  segment.before ++ referenceText segment.name

def expanded (value? : String → Option String) (segment : Segment) : List Char :=
  segment.before ++ replacement value? segment.name

end Segment

/-- The references of a sequence of segments are replaced where they stand. -/
theorem expandCharacters_segments
    {segments : List Segment} (areCut : ∀ segment ∈ segments, segment.IsCut) (rest : List Char) :
    expandCharacters value? (segments.flatMap Segment.written ++ rest) =
      segments.flatMap (Segment.expanded value?) ++ expandCharacters value? rest := by
  induction segments with
  | nil => rfl
  | cons segment others inductionHypothesis =>
      obtain ⟨isCut, othersAreCut⟩ := List.forall_mem_cons.mp areCut
      rw [List.flatMap_cons, List.flatMap_cons, Segment.written, Segment.expanded,
        List.append_assoc, List.append_assoc, expandCharacters_first isCut.starts isCut.isName,
        inductionHypothesis othersAreCut]
      simp only [List.append_assoc]

/-- Every text is a sequence of segments and a rest without references. -/
theorem exists_segments (characters : List Char) :
    ∃ (segments : List Segment) (rest : List Char),
      (∀ segment ∈ segments, segment.IsCut) ∧ ¬HasReference rest ∧
        characters = segments.flatMap Segment.written ++ rest := by
  by_cases has : HasReference characters
  · obtain ⟨before, name, after, starts, isName, whole⟩ := exists_first_reference has
    have shorter : after.length < characters.length := by
      rw [whole]
      simp only [referenceText, List.length_append, List.length_cons]
      omega
    obtain ⟨segments, rest, areCut, noReference, isAfter⟩ := exists_segments after
    refine ⟨⟨before, name⟩ :: segments, rest, ?_, noReference, ?_⟩
    · exact List.forall_mem_cons.mpr ⟨⟨starts, isName⟩, areCut⟩
    · rw [whole, isAfter, List.flatMap_cons, Segment.written]
      simp only [List.append_assoc]
  · refine ⟨[], characters, ?_, has, rfl⟩
    intro segment member
    cases member
termination_by characters.length

/-- A reference as a text. -/
def referenceTo (name : String) : String := "$\x7b" ++ name ++ "\x7d"

theorem toList_referenceTo (name : String) :
    (referenceTo name).toList = referenceText name.toList := by
  simp [referenceTo, referenceText]

/-- References are replaced by the values of their variables in one pass.  A text without
references stays as it is.  Where there is one, the text before the first one stays as it is, the
reference is replaced by the value or stays as well, and what follows is expanded in the same way.
So every text is cut, whatever the values are, into segments of which only the references
change. -/
theorem expandVariables_in_one_pass (text : String) :
    (¬HasReference text.toList → ∀ value?, expandVariables value? text = text) ∧
      (∀ before name after : String,
        StartsNoReference before.toList → IsVariableName name.toList →
          text = before ++ referenceTo name ++ after →
            ∀ value?,
              expandVariables value? text =
                before ++ (value? name).getD (referenceTo name) ++
                  expandVariables value? after) ∧
      ∃ (segments : List Segment) (rest : List Char),
        (∀ segment ∈ segments, segment.IsCut) ∧ ¬HasReference rest ∧
          text.toList = segments.flatMap Segment.written ++ rest ∧
            ∀ value?,
              (expandVariables value? text).toList =
                segments.flatMap (Segment.expanded value?) ++ rest := by
  refine ⟨?_, ?_, ?_⟩
  · intro noReference value?
    rw [expandVariables, expandCharacters_eq_self noReference, String.ofList_toList]
  · intro before name after starts isName isText value?
    have whole : text.toList = before.toList ++ (referenceText name.toList ++ after.toList) := by
      rw [isText, String.toList_append, String.toList_append, toList_referenceTo,
        List.append_assoc]
    have isReplacement :
        replacement value? name.toList = ((value? name).getD (referenceTo name)).toList := by
      rw [replacement, String.ofList_toList, ← toList_referenceTo]
      cases value? name <;> rfl
    rw [← String.toList_inj, expandVariables, String.toList_ofList, whole,
      expandCharacters_first starts isName, isReplacement, expandVariables]
    simp only [String.toList_append, String.toList_ofList, List.append_assoc]
  · obtain ⟨segments, rest, areCut, noReference, whole⟩ := exists_segments text.toList
    refine ⟨segments, rest, areCut, noReference, whole, ?_⟩
    intro value?
    rw [expandVariables, String.toList_ofList, whole, expandCharacters_segments areCut,
      expandCharacters_eq_self noReference]

theorem startsNoReference_of_not_mem (noDollar : '$' ∉ characters) :
    StartsNoReference characters := by
  intro before after whole
  rw [whole] at noDollar
  exact absurd (List.mem_append_right before List.mem_cons_self) noDollar

/-- A value that looks like a reference is put in as it is. -/
theorem expandVariables_in_one_pass_nested :
    StartsNoReference "a".toList ∧ IsVariableName "X".toList ∧
      expandVariables (fun _ => some "${X}") "a${X}" = "a${X}" := by
  have starts : StartsNoReference "a".toList := startsNoReference_of_not_mem (by decide)
  have isName : IsVariableName "X".toList := ⟨by decide, by decide⟩
  have expanded :=
    (expandVariables_in_one_pass "a${X}").2.1 "a" "X" "" starts isName rfl
      fun _ => some "${X}"
  have nothingLeft : expandVariables (fun _ => some "$\x7bX\x7d") "" = "" := by
    simp [expandVariables, expandCharacters]
  refine ⟨starts, isName, ?_⟩
  rw [expanded, nothingLeft]
  decide

end FilterQuery
