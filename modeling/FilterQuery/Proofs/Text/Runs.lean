import FilterQuery.Proofs.Text.Digits
import Mathlib.Algebra.Group.Nat.Defs
import Mathlib.Data.List.SplitBy

/-!
# Runs of digits in a text

A run is as long as possible: it ends where another character follows.

* `digitRuns` are the runs of a text, and `dropLeadingZeros` leaves out the zeros
  that they start with, except for the last digit of a run;
* both can be read off the parts of a text, as long as no run goes on into the next
  part;
* `toDigits_value`: a run without its leading zeros is what is written for the number
  that the run denotes.
-/

namespace FilterQuery.Text.Digits

/-- A text, cut on both sides of each character that is no digit. -/
def pieces (characters : List Char) : List (List Char) :=
  characters.splitBy fun left right => left.isDigit && right.isDigit

/-- The longest runs of digits. -/
def digitRuns (characters : List Char) : List (List Char) :=
  (pieces characters).filter (·.all Char.isDigit)

/-- A number without the zeros that it starts with; the last digit stays. -/
def withoutLeadingZeros : List Char → List Char
  | [] => []
  | [digit] => [digit]
  | first :: second :: rest =>
      if first = '0' then withoutLeadingZeros (second :: rest)
      else first :: second :: rest

/-- A text without the zeros that its numbers start with. -/
def dropLeadingZeros (characters : List Char) : List Char :=
  (pieces characters).flatMap fun piece =>
    if piece.all Char.isDigit then withoutLeadingZeros piece else piece

example : dropLeadingZeros "(007or0)and100".toList = "(7or0)and100".toList := by
  decide

/-! ## Parts -/

/-- No run goes on from the first part into the second one. -/
def Apart (first second : List Char) : Prop :=
  ∀ last ∈ first.getLast?, ∀ next ∈ second.head?,
    (last.isDigit && next.isDigit) = false

section Parts

variable {first second : List Char}

theorem apart_of_head (ends : ∀ next ∈ second.head?, next.isDigit = false) :
    Apart first second := by
  intro last _ next isNext
  rw [ends next isNext, Bool.and_false]

theorem apart_of_getLast (ends : ∀ last ∈ first.getLast?, last.isDigit = false) :
    Apart first second := by
  intro last isLast next _
  rw [ends last isLast, Bool.false_and]

/-- Behind a run, what is apart from it starts with no digit. -/
theorem Apart.head_isDigit
    (apart : Apart first second) (nonempty : first ≠ [])
    (isRun : ∀ digit ∈ first, digit.isDigit = true) :
    ∀ next ∈ second.head?, next.isDigit = false := by
  intro next isNext
  have differs := apart _ (List.getLast?_eq_some_getLast nonempty) next isNext
  rwa [isRun _ (List.getLast_mem nonempty), Bool.true_and] at differs

/-- Only the last character of the first part matters. -/
theorem apart_append_iff {middle : List Char} (nonempty : middle ≠ []) :
    Apart (first ++ middle) second ↔ Apart middle second := by
  rw [Apart, Apart, List.getLast?_append_of_ne_nil _ nonempty]

theorem digitRuns_append (apart : Apart first second) :
    digitRuns (first ++ second) = digitRuns first ++ digitRuns second := by
  simp only [digitRuns, pieces, List.splitBy_append apart, List.filter_append]

theorem dropLeadingZeros_append (apart : Apart first second) :
    dropLeadingZeros (first ++ second) =
      dropLeadingZeros first ++ dropLeadingZeros second := by
  simp only [dropLeadingZeros, pieces, List.splitBy_append apart,
    List.flatMap_append]

end Parts

section Run

variable {run : List Char}

theorem pieces_run
    (nonempty : run ≠ []) (isRun : ∀ digit ∈ run, digit.isDigit = true) :
    pieces run = [run] := by
  apply List.splitBy_of_isChain nonempty
  apply List.Pairwise.isChain
  rw [List.pairwise_iff_forall_sublist]
  intro left right both
  have isLeft := isRun left (both.subset List.mem_cons_self)
  have isRight :=
    isRun right (both.subset (List.mem_cons_of_mem _ List.mem_cons_self))
  rw [isLeft, isRight, Bool.and_self]

theorem digitRuns_run
    (nonempty : run ≠ []) (isRun : ∀ digit ∈ run, digit.isDigit = true) :
    digitRuns run = [run] := by
  have allDigits : run.all Char.isDigit = true := List.all_eq_true.mpr isRun
  rw [digitRuns, pieces_run nonempty isRun]
  simp only [List.filter_cons, allDigits, if_true, List.filter_nil]

theorem dropLeadingZeros_run
    (nonempty : run ≠ []) (isRun : ∀ digit ∈ run, digit.isDigit = true) :
    dropLeadingZeros run = withoutLeadingZeros run := by
  have allDigits : run.all Char.isDigit = true := List.all_eq_true.mpr isRun
  rw [dropLeadingZeros, pieces_run nonempty isRun, List.flatMap_singleton,
    if_pos allDigits]

/-! ## Numbers -/

theorem digitValue_lt {digit : Char} (isDigit : digit.isDigit = true) :
    digitValue digit < 10 := by
  have bounds : 48 ≤ digit.toNat ∧ digit.toNat ≤ 57 :=
    Char.isDigit_iff_toNat.mp isDigit
  have zero : '0'.toNat = 48 := rfl
  rw [digitValue, zero]
  omega

theorem foldl_lt (isRun : ∀ digit ∈ run, digit.isDigit = true) (total : Nat) :
    run.foldl (fun total digit => 10 * total + digitValue digit) total <
      (total + 1) * 10 ^ run.length := by
  induction run generalizing total with
  | nil => simp
  | cons digit rest inductionHypothesis =>
      obtain ⟨isDigit, restIsRun⟩ := List.forall_mem_cons.mp isRun
      have small := digitValue_lt isDigit
      calc
        (digit :: rest).foldl (fun total digit => 10 * total + digitValue digit) total <
            (10 * total + digitValue digit + 1) * 10 ^ rest.length :=
          inductionHypothesis restIsRun _
        _ ≤ ((total + 1) * 10) * 10 ^ rest.length :=
          Nat.mul_le_mul_right _ (by omega)
        _ = (total + 1) * 10 ^ (digit :: rest).length := by
          rw [List.length_cons, Nat.pow_succ', Nat.mul_assoc]

/-- A number has no more digits than it is written with. -/
theorem value_lt_pow (isRun : ∀ digit ∈ run, digit.isDigit = true) :
    value run < 10 ^ run.length := by
  simpa [value] using foldl_lt isRun 0

theorem toDigits_digitValue {digit : Char} (isDigit : digit.isDigit = true) :
    Nat.toDigits 10 (digitValue digit) = [digit] := by
  have bounds : 48 ≤ digit.toNat ∧ digit.toNat ≤ 57 :=
    Char.isDigit_iff_toNat.mp isDigit
  have zero : '0'.toNat = 48 := rfl
  rw [Nat.toDigits_of_lt_base (digitValue_lt isDigit)]
  congr 1
  apply Char.toNat_inj.mp
  rw [Nat.toNat_digitChar_of_lt_ten (digitValue_lt isDigit), digitValue, zero]
  omega

/-- Digits are written after a number that is not zero. -/
theorem toDigits_foldl
    {total : Nat} (positive : 0 < total)
    (isRun : ∀ digit ∈ run, digit.isDigit = true) :
    Nat.toDigits 10
        (run.foldl (fun total digit => 10 * total + digitValue digit) total) =
      Nat.toDigits 10 total ++ run := by
  induction run generalizing total with
  | nil => rw [List.foldl_nil, List.append_nil]
  | cons digit rest inductionHypothesis =>
      obtain ⟨isDigit, restIsRun⟩ := List.forall_mem_cons.mp isRun
      have next :
          Nat.toDigits 10 (10 * total + digitValue digit) =
            Nat.toDigits 10 total ++ [digit] := by
        rw [← Nat.toDigits_append_toDigits (by decide) positive
          (digitValue_lt isDigit), toDigits_digitValue isDigit]
      rw [List.foldl_cons, inductionHypothesis (by omega) restIsRun, next,
        List.append_assoc, List.singleton_append]

theorem toDigits_value
    (nonempty : run ≠ []) (isRun : ∀ digit ∈ run, digit.isDigit = true) :
    Nat.toDigits 10 (value run) = withoutLeadingZeros run := by
  induction run with
  | nil => exact absurd rfl nonempty
  | cons first rest inductionHypothesis =>
      obtain ⟨isDigit, restIsRun⟩ := List.forall_mem_cons.mp isRun
      cases rest with
      | nil =>
          have single : value [first] = digitValue first := by simp [value]
          rw [single, toDigits_digitValue isDigit, withoutLeadingZeros]
      | cons second others =>
          rw [withoutLeadingZeros]
          split
          · rename_i isZero
            subst isZero
            exact inductionHypothesis (List.cons_ne_nil _ _) restIsRun
          · rename_i notZero
            have bounds : 48 ≤ first.toNat ∧ first.toNat ≤ 57 :=
              Char.isDigit_iff_toNat.mp isDigit
            have different : first.toNat ≠ 48 := by
              intro same
              exact notZero (Char.toNat_inj.mp same)
            have positive : 0 < digitValue first := by
              have zero : '0'.toNat = 48 := rfl
              rw [digitValue, zero]
              omega
            have start :
                value (first :: second :: others) =
                  (second :: others).foldl
                    (fun total digit => 10 * total + digitValue digit)
                    (digitValue first) := by
              simp [value]
            rw [start, toDigits_foldl positive restIsRun,
              toDigits_digitValue isDigit, List.singleton_append]

end Run

end FilterQuery.Text.Digits
