import FilterQuery.Pattern.Matching

/-!
# What lies between marked positions

A pattern whose classes hold only certain characters passes over such characters
only.  So every position at which it may end was reached from one at which it
may start, with nothing but these characters in between.

* `Node.Within` says which characters a pattern can pass over;
* `Reaches` relates two sets of positions, and can be chained;
* `Node.reaches_ends` is the induction over patterns.
-/

namespace FilterQuery.Pattern

/-- A position is marked. -/
def Marks.Marked (marks : Marks) (position : Nat) : Prop :=
  marks[position]? = some true

namespace Marks

variable {text : List Char} {position : Nat}

theorem marked_union {left right : Marks}
    (marked : (left.union right).Marked position) :
    left.Marked position ∨ right.Marked position := by
  unfold Marked union at marked
  rw [List.getElem?_zipWith] at marked
  unfold Marked
  split at marked
  · rename_i first second isFirst isSecond
    rw [isFirst, isSecond]
    simpa using marked
  · cases marked

theorem marked_difference {left right : Marks}
    (marked : (left.difference right).Marked position) :
    left.Marked position := by
  unfold Marked difference at marked
  rw [List.getElem?_zipWith] at marked
  unfold Marked
  split at marked
  · rename_i present absent isPresent isAbsent
    rw [isPresent]
    simp only [Option.some.injEq, Bool.and_eq_true] at marked
    rw [marked.1]
  · cases marked

/-- A step goes over one accepted character. -/
theorem exists_of_marked_advance
    {accepts : Char → Bool} {marks : Marks}
    (marked : (marks.advance text accepts).Marked position) :
    ∃ before character,
      position = before + 1 ∧ marks.Marked before ∧
        text[before]? = some character ∧ accepts character = true := by
  unfold Marked advance at marked
  cases position with
  | zero => cases marked
  | succ before =>
      rw [List.getElem?_cons_succ, List.getElem?_zipWith] at marked
      split at marked
      · rename_i mark character isMark isCharacter
        simp only [Option.some.injEq, Bool.and_eq_true] at marked
        refine ⟨before, character, rfl, ?_, isCharacter, marked.2⟩
        unfold Marked
        rw [isMark, marked.1]
      · cases marked

theorem marked_both {left right : Marks}
    (marked : Marked (List.zipWith (· && ·) left right) position) :
    left.Marked position ∧ right.Marked position := by
  unfold Marked at marked ⊢
  rw [List.getElem?_zipWith] at marked
  split at marked
  · rename_i first second isFirst isSecond
    rw [isFirst, isSecond]
    simpa using marked
  · cases marked

end Marks

variable {allowed : Char → Prop} {text : List Char}

/-- Every position of the second set is reached from one of the first set, over
allowed characters only. -/
def Reaches
    (allowed : Char → Prop) (text : List Char) (starts ends : Marks) : Prop :=
  ∀ finish, ends.Marked finish →
    ∃ start, starts.Marked start ∧ start ≤ finish ∧
      ∀ position character,
        start ≤ position → position < finish →
          text[position]? = some character → allowed character

namespace Reaches

theorem of_subset {starts ends : Marks}
    (subset : ∀ position, ends.Marked position → starts.Marked position) :
    Reaches allowed text starts ends := by
  intro finish marked
  refine ⟨finish, subset finish marked, Nat.le_refl finish, ?_⟩
  intro position character above below
  omega

theorem refl (marks : Marks) : Reaches allowed text marks marks :=
  of_subset fun _ marked => marked

theorem trans {starts middles ends : Marks}
    (first : Reaches allowed text starts middles)
    (second : Reaches allowed text middles ends) :
    Reaches allowed text starts ends := by
  intro finish marked
  obtain ⟨middle, middleMarked, middleLe, after⟩ := second finish marked
  obtain ⟨start, startMarked, startLe, before⟩ := first middle middleMarked
  refine ⟨start, startMarked, Nat.le_trans startLe middleLe, ?_⟩
  intro position character above below isCharacter
  by_cases isBefore : position < middle
  · exact before position character above isBefore isCharacter
  · exact after position character (by omega) below isCharacter

theorem union {starts left right : Marks}
    (first : Reaches allowed text starts left)
    (second : Reaches allowed text starts right) :
    Reaches allowed text starts (left.union right) := by
  intro finish marked
  rcases Marks.marked_union marked with isLeft | isRight
  · exact first finish isLeft
  · exact second finish isRight

theorem advance {accepts : Char → Bool} (starts : Marks)
    (within : ∀ character, accepts character = true → allowed character) :
    Reaches allowed text starts (starts.advance text accepts) := by
  intro finish marked
  obtain ⟨start, passed, rfl, startMarked, isPassed, accepted⟩ :=
    Marks.exists_of_marked_advance marked
  refine ⟨start, startMarked, Nat.le_succ start, ?_⟩
  intro position character above below isCharacter
  have same : position = start := by omega
  rw [same, isPassed] at isCharacter
  cases isCharacter
  exact within passed accepted

variable {step : Marks → Marks}

theorem iterateStep
    (stepReaches : ∀ marks, Reaches allowed text marks (step marks))
    (count : Nat) (marks : Marks) :
    Reaches allowed text marks (iterateStep step count marks) := by
  induction count generalizing marks with
  | zero => exact refl marks
  | succ count inductionHypothesis =>
      simp only [Pattern.iterateStep]
      split
      · exact refl marks
      · exact (stepReaches marks).trans (inductionHypothesis (step marks))

theorem reachedWithin {starts : Marks}
    (stepReaches : ∀ marks, Reaches allowed text marks (step marks))
    (count : Nat) {reached fresh : Marks}
    (reachesReached : Reaches allowed text starts reached)
    (reachesFresh : Reaches allowed text starts fresh) :
    Reaches allowed text starts (reachedWithin step count reached fresh) := by
  induction count generalizing reached fresh with
  | zero => exact reachesReached
  | succ count inductionHypothesis =>
      have reachesFollowing :
          Reaches allowed text starts ((step fresh).difference reached) :=
        (reachesFresh.trans (stepReaches fresh)).trans
          (of_subset fun _ => Marks.marked_difference)
      simp only [Pattern.reachedWithin]
      split
      · exact reachesReached
      · exact
          inductionHypothesis (reachesReached.union reachesFollowing)
            reachesFollowing

end Reaches

mutual

/-- The pattern passes over allowed characters only. -/
def Node.Within (allowed : Char → Prop) : Node → Prop
  | .empty => True
  | .character value => allowed value
  | .oneOf characters =>
      ∀ character, characters.contains character = true → allowed character
  | .assertion _ => True
  | .repetition _ _ body => body.Within allowed
  | .capture body => body.Within allowed
  | .sequence items => Node.WithinAll allowed items
  | .choice branches => Node.WithinAll allowed branches

/-- All of several patterns pass over allowed characters only. -/
def Node.WithinAll (allowed : Char → Prop) : List Node → Prop
  | [] => True
  | node :: rest => node.Within allowed ∧ Node.WithinAll allowed rest

end

mutual

/-- Where a pattern may end was reached from where it may start. -/
theorem Node.reaches_ends :
    ∀ (node : Node), node.Within allowed → ∀ starts,
      Reaches allowed text starts (node.ends text starts)
  | .empty, _, starts => Reaches.refl starts
  | .character value, within, starts =>
      Reaches.advance starts fun character same => by
        rw [beq_iff_eq.mp same]
        exact within
  | .oneOf _, within, starts => Reaches.advance starts within
  | .assertion _, _, _ => Reaches.of_subset fun _ marked =>
      (Marks.marked_both marked).1
  | .repetition least most body, within, starts => by
      have stepReaches := Node.reaches_ends body within
      have reachesDue :=
        Reaches.iterateStep stepReaches (min least (text.length + 2)) starts
      exact Reaches.reachedWithin stepReaches _ reachesDue reachesDue
  | .capture body, within, starts => Node.reaches_ends body within starts
  | .sequence items, within, starts =>
      Node.reaches_endsInSequence items within starts
  | .choice branches, within, starts =>
      Node.reaches_endsOfChoice branches within starts

/-- Where a sequence may end was reached from where it may start. -/
theorem Node.reaches_endsInSequence :
    ∀ (items : List Node), Node.WithinAll allowed items → ∀ starts,
      Reaches allowed text starts (Node.endsInSequence text items starts)
  | [], _, starts => Reaches.refl starts
  | item :: rest, within, starts =>
      (Node.reaches_ends item within.1 starts).trans
        (Node.reaches_endsInSequence rest within.2 (item.ends text starts))

/-- Where a choice may end was reached from where it may start. -/
theorem Node.reaches_endsOfChoice :
    ∀ (branches : List Node), Node.WithinAll allowed branches → ∀ starts,
      Reaches allowed text starts (Node.endsOfChoice text branches starts)
  | [], _, starts => by
      intro finish marked
      unfold Marks.Marked Node.endsOfChoice at marked
      rw [List.getElem?_map] at marked
      cases atFinish : starts[finish]? with
      | none =>
          rw [atFinish] at marked
          cases marked
      | some mark =>
          rw [atFinish] at marked
          cases marked
  | branch :: rest, within, starts =>
      (Node.reaches_ends branch within.1 starts).union
        (Node.reaches_endsOfChoice rest within.2 starts)

end

end FilterQuery.Pattern
