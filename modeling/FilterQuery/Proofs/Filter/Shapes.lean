import FilterQuery.Filter.Literal

/-!
# The shapes of literals

A recogniser succeeds exactly on the texts of its shape: opening mark, inner text,
closing mark and modifier.  So the parts that it returns are the only way to take the
text apart.

* `dropMark?` and `dropModifier` take something off the end of a text;
* `enclosed?_eq_some_iff`, `like?_eq_some_iff` and `slashed?_eq_some_iff` are the shapes.
-/

namespace FilterQuery.Literal

/-- A modifier, if it is there. -/
def modifier (mark : List Char) (isThere : Bool) : List Char :=
  if isThere then mark else []

/-- The modifier of texts, lists and like patterns. -/
abbrev slashModifier : Bool → List Char := modifier ['/', 'i']

/-! ## Lines -/

theorem isOneLine_iff {characters : List Char} :
    isOneLine characters = true ↔ '\n' ∉ characters := by
  simp only [isOneLine, List.all_eq_true, bne_iff_ne]
  constructor
  · intro different member
    exact different '\n' member rfl
  · intro absent character member same
    exact absent (same ▸ member)

/-! ## Ends -/

theorem dropMark?_concat {mark last : Char} {body : List Char} :
    dropMark? mark (body ++ [last]) = if last = mark then some body else none := by
  simp [dropMark?]

theorem dropMark?_eq_some_iff {mark : Char} {characters body : List Char} :
    dropMark? mark characters = some body ↔ characters = body ++ [mark] := by
  rcases characters.eq_nil_or_concat with rfl | ⟨front, last, rfl⟩
  · simp [dropMark?]
  · rw [List.concat_eq_append, dropMark?_concat]
    by_cases same : last = mark
    · simp [same]
    · simp [same]

theorem dropModifier_slash (body : List Char) :
    dropModifier (body ++ ['/', 'i']) = (body, true) := by
  simp [dropModifier]

theorem dropModifier_of_ne {last : Char} (body : List Char) (notEnd : last ≠ 'i') :
    dropModifier (body ++ [last]) = (body ++ [last], false) := by
  unfold dropModifier
  rw [List.reverse_append, List.reverse_singleton, List.singleton_append]
  split
  · rename_i isEnd
    exact absurd (List.cons.inj isEnd).1 notEnd
  · rfl

/-- A modifier is dropped from behind any other character than its own last one. -/
theorem dropModifier_append
    {last : Char} (body : List Char) (isThere : Bool) (notEnd : last ≠ 'i') :
    dropModifier (body ++ last :: slashModifier isThere) =
      (body ++ [last], isThere) := by
  cases isThere with
  | false => exact dropModifier_of_ne body notEnd
  | true =>
      have whole :
          body ++ last :: slashModifier true = (body ++ [last]) ++ ['/', 'i'] := by
        simp [slashModifier, modifier]
      rw [whole, dropModifier_slash]

theorem eq_append_of_dropModifier
    {characters body : List Char} {isThere : Bool}
    (dropped : dropModifier characters = (body, isThere)) :
    characters = body ++ slashModifier isThere := by
  unfold dropModifier at dropped
  split at dropped
  · rename_i rest isEnd
    cases dropped
    rw [← List.reverse_reverse characters, isEnd]
    simp [slashModifier, modifier]
  · cases dropped
    exact (List.append_nil _).symm

/-! ## Shapes -/

theorem enclosed?_append
    {opening closing : Char} (inner : List Char) (modified : Bool) (notEnd : closing ≠ 'i') :
    enclosed? opening closing (opening :: (inner ++ closing :: slashModifier modified)) =
      if isOneLine inner then some (inner, modified) else none := by
  simp only [enclosed?, if_true, dropModifier_append inner modified notEnd, dropMark?_concat,
    Option.bind_some]

/-- A text in marks consists of the opening mark, the inner text, the closing mark and
the modifier. -/
theorem enclosed?_eq_some_iff
    {opening closing : Char} {characters inner : List Char} {modified : Bool}
    (notEnd : closing ≠ 'i') :
    enclosed? opening closing characters = some (inner, modified) ↔
      isOneLine inner = true ∧
        characters = opening :: (inner ++ closing :: slashModifier modified) := by
  constructor
  · intro found
    unfold enclosed? at found
    split at found
    · cases found
    · rename_i first rest
      split at found
      · rename_i isOpening
        cases dropped : dropModifier rest with
        | mk body isThere =>
            rw [dropped] at found
            obtain ⟨inside, closed, kept⟩ := Option.bind_eq_some_iff.mp found
            split at kept
            · rename_i oneLine
              cases kept
              refine ⟨oneLine, ?_⟩
              rw [isOpening, eq_append_of_dropModifier dropped,
                dropMark?_eq_some_iff.mp closed, List.append_assoc]
              rfl
            · cases kept
      · cases found
  · rintro ⟨oneLine, rfl⟩
    rw [enclosed?_append inner modified notEnd, if_pos oneLine]

theorem enclosed?_eq_none_of_first
    {opening closing first : Char} {rest : List Char} (different : first ≠ opening) :
    enclosed? opening closing (first :: rest) = none := by
  simp only [enclosed?, different, if_false]

/-- The text without a wildcard at its end, and whether it was there. -/
def dropLastWildcard (characters : List Char) : List Char × Bool :=
  match dropMark? '%' characters with
  | some shorter => (shorter, true)
  | none => (characters, false)

/-- The text without a wildcard at its start, and whether it was there. -/
def dropFirstWildcard (characters : List Char) : List Char × Bool :=
  match characters with
  | '%' :: rest => (rest, true)
  | _ => (characters, false)

theorem eq_append_of_dropLastWildcard
    {characters body : List Char} {isThere : Bool}
    (dropped : dropLastWildcard characters = (body, isThere)) :
    characters = body ++ modifier ['%'] isThere := by
  unfold dropLastWildcard at dropped
  split at dropped
  · rename_i ending
    cases dropped
    exact dropMark?_eq_some_iff.mp ending
  · cases dropped
    exact (List.append_nil _).symm

theorem eq_append_of_dropFirstWildcard
    {characters body : List Char} {isThere : Bool}
    (dropped : dropFirstWildcard characters = (body, isThere)) :
    characters = modifier ['%'] isThere ++ body := by
  unfold dropFirstWildcard at dropped
  split at dropped
  · cases dropped
    rfl
  · cases dropped
    rfl

theorem dropLastWildcard_append
    {last : Char} (body : List Char) (isThere : Bool) (notMark : last ≠ '%') :
    dropLastWildcard (body ++ last :: modifier ['%'] isThere) =
      (body ++ [last], isThere) := by
  cases isThere with
  | false =>
      have notThere : dropMark? '%' (body ++ [last]) = none := by
        rw [dropMark?_concat, if_neg notMark]
      simp only [dropLastWildcard, modifier, Bool.false_eq_true, if_false,
        notThere]
  | true =>
      have whole : body ++ [last, '%'] = (body ++ [last]) ++ ['%'] := by simp
      simp only [dropLastWildcard, modifier, if_true, whole, dropMark?_concat]

theorem dropFirstWildcard_append (rest : List Char) (isThere : Bool) :
    dropFirstWildcard (modifier ['%'] isThere ++ '"' :: rest) =
      ('"' :: rest, isThere) := by
  cases isThere <;> rfl

/-- A like pattern, with its ends taken off one after the other. -/
theorem like?_eq (characters : List Char) :
    like? characters =
      let (shorter, modified) := dropModifier characters
      let (shorter, right) := dropLastWildcard shorter
      let (shorter, left) := dropFirstWildcard shorter
      if left || right then
        match shorter with
        | '"' :: rest =>
            (dropMark? '"' rest).bind fun inner =>
              if isOneLine inner then some ⟨inner, left, right, modified⟩
              else none
        | _ => none
      else none := rfl

/-- A like pattern is a text in quotes with a wildcard on one side at least, and the
modifier. -/
theorem like?_eq_some_iff {characters : List Char} {shape : LikeShape} :
    like? characters = some shape ↔
      (shape.wildcardLeft || shape.wildcardRight) = true ∧
        isOneLine shape.inner = true ∧
        characters =
          modifier ['%'] shape.wildcardLeft ++
            '"' :: (shape.inner ++
              '"' :: (modifier ['%'] shape.wildcardRight ++
                slashModifier shape.caseInsensitive)) := by
  rw [like?_eq]
  constructor
  · intro found
    cases atModifier : dropModifier characters with
    | mk unmodified modified =>
    cases atEnd : dropLastWildcard unmodified with
    | mk unended right =>
    cases atStart : dropFirstWildcard unended with
    | mk quoted left =>
    simp only [atModifier, atEnd, atStart] at found
    split at found
    · rename_i wildcard
      split at found
      · rename_i rest
        obtain ⟨inner, closed, kept⟩ := Option.bind_eq_some_iff.mp found
        split at kept
        · rename_i oneLine
          cases kept
          refine ⟨wildcard, oneLine, ?_⟩
          rw [eq_append_of_dropModifier atModifier,
            eq_append_of_dropLastWildcard atEnd,
            eq_append_of_dropFirstWildcard atStart,
            dropMark?_eq_some_iff.mp closed]
          simp only [List.append_assoc, List.cons_append, List.nil_append]
        · cases kept
      · cases found
    · cases found
  · obtain ⟨inner, left, right, modified⟩ := shape
    rintro ⟨wildcard, oneLine, rfl⟩
    have atStart := dropFirstWildcard_append (inner ++ ['"']) left
    have atEnd :
        dropLastWildcard
            (modifier ['%'] left ++ '"' :: (inner ++ '"' :: modifier ['%'] right)) =
          (modifier ['%'] left ++ '"' :: (inner ++ ['"']), right) := by
      simpa using
        dropLastWildcard_append (modifier ['%'] left ++ '"' :: inner) right
          (show '"' ≠ '%' by decide)
    have atModifier :
        dropModifier
            (modifier ['%'] left ++
              '"' :: (inner ++
                '"' :: (modifier ['%'] right ++ slashModifier modified))) =
          (modifier ['%'] left ++ '"' :: (inner ++ '"' :: modifier ['%'] right),
            modified) := by
      cases right with
      | false =>
          simpa [modifier] using
            dropModifier_append (modifier ['%'] left ++ '"' :: inner) modified
              (show '"' ≠ 'i' by decide)
      | true =>
          simpa [modifier] using
            dropModifier_append (modifier ['%'] left ++ '"' :: (inner ++ ['"']))
              modified (show '%' ≠ 'i' by decide)
    simp only at wildcard oneLine
    simp only [atModifier, atEnd, atStart, wildcard, if_true, dropMark?_concat,
      Option.bind_some, oneLine]

theorem like?_eq_none_of_first
    {first : Char} {rest : List Char} (isOther : first ∉ ['"', '%']) :
    like? (first :: rest) = none := by
  rw [Option.eq_none_iff_forall_ne_some]
  intro shape found
  have whole := (like?_eq_some_iff.mp found).2.2
  cases left : shape.wildcardLeft with
  | false =>
      rw [left] at whole
      exact isOther (by rw [(List.cons.inj whole).1]; decide)
  | true =>
      rw [left] at whole
      exact isOther (by rw [(List.cons.inj whole).1]; decide)

/-- A regular expression stands between slashes, and its modifier has none. -/
theorem slashed?_eq_some_iff {characters inner : List Char} {modified : Bool} :
    slashed? characters = some (inner, modified) ↔
      isOneLine inner = true ∧
        characters = '/' :: (inner ++ '/' :: modifier ['i'] modified) := by
  constructor
  · intro found
    unfold slashed? at found
    split at found
    · rename_i rest
      cases ending : dropMark? 'i' rest with
      | none =>
          simp only [ending] at found
          obtain ⟨inside, closed, kept⟩ := Option.bind_eq_some_iff.mp found
          split at kept
          · rename_i oneLine
            cases kept
            refine ⟨oneLine, ?_⟩
            rw [dropMark?_eq_some_iff.mp closed]
            rfl
          · cases kept
      | some shorter =>
          simp only [ending] at found
          obtain ⟨inside, closed, kept⟩ := Option.bind_eq_some_iff.mp found
          split at kept
          · rename_i oneLine
            cases kept
            refine ⟨oneLine, ?_⟩
            rw [dropMark?_eq_some_iff.mp ending, dropMark?_eq_some_iff.mp closed,
              List.append_assoc]
            rfl
          · cases kept
    · cases found
  · rintro ⟨oneLine, rfl⟩
    cases modified with
    | false =>
        have notEnd : dropMark? 'i' (inner ++ ['/']) = none := by
          rw [dropMark?_concat, if_neg (by decide)]
        simp only [slashed?, modifier, notEnd, dropMark?_concat, if_true,
          Option.bind_some, oneLine, Bool.false_eq_true, if_false]
    | true =>
        have whole : inner ++ ['/', 'i'] = (inner ++ ['/']) ++ ['i'] := by simp
        simp only [slashed?, modifier, if_true, whole, dropMark?_concat,
          Option.bind_some, oneLine]

end FilterQuery.Literal
