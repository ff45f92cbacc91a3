import FilterQuery.Pattern.Node

/-!
# Matching

Whether a text matches a pattern is decided by following sets of positions: a
node takes the positions at which it may start to those at which it may end.

* A set of positions is a list of marks, one for each position of the text
  from its start to its end;
* a repetition without upper bound is followed until nothing new is reached;
* a fixed number of repetitions is followed at most until two more than the
  length of the text, from where on further rounds change nothing, since no
  round goes back.
-/

namespace FilterQuery.Pattern

/-- A set of positions: one mark for each position of a text. -/
abbrev Marks := List Bool

namespace Marks

/-- The positions of both sets. -/
def union (left right : Marks) : Marks :=
  List.zipWith (· || ·) left right

/-- The positions of the first set that are not in the second. -/
def difference (left right : Marks) : Marks :=
  List.zipWith (fun present absent => present && !absent) left right

/-- The positions after a marked one with a character that is accepted. -/
def advance (text : List Char) (accepts : Char → Bool) (marks : Marks) :
    Marks :=
  false :: List.zipWith (fun mark character => mark && accepts character)
    marks text

def isEmpty (marks : Marks) : Bool :=
  marks.all (!·)

end Marks

/-- Whether an assertion holds between two characters; at the start or the end
of the text one of them is missing. -/
def Assertion.holdsBetween
    (previous next : Option Char) (assertion : Assertion) : Bool :=
  let wordBefore := previous.any CharClass.isWord
  let wordAfter := next.any CharClass.isWord
  match assertion with
  | .textStart => previous.isNone
  | .textEnd => next.isNone
  | .lineStart => previous.all (· == '\n')
  | .lineEnd => next.all (· == '\n')
  | .carriageLineStart =>
      previous.all fun before =>
        before == '\n' || (before == '\r' && next != some '\n')
  | .carriageLineEnd =>
      next.all fun after =>
        after == '\r' || (after == '\n' && previous != some '\r')
  | .wordBoundary => wordBefore != wordAfter
  | .noWordBoundary => wordBefore == wordAfter
  | .wordStart => !wordBefore && wordAfter
  | .wordEnd => wordBefore && !wordAfter
  | .wordStartHalf => !wordBefore
  | .wordEndHalf => !wordAfter

/-- The positions of a text at which an assertion holds, given the character
before the text. -/
def Assertion.positions
    (assertion : Assertion) (previous : Option Char) : List Char → Marks
  | [] => [assertion.holdsBetween previous none]
  | character :: rest =>
      assertion.holdsBetween previous (some character) ::
        assertion.positions (some character) rest

/-- Apply a step a number of times, or until it changes nothing. -/
def iterateStep (step : Marks → Marks) : Nat → Marks → Marks
  | 0, marks => marks
  | count + 1, marks =>
      let following := step marks
      if following = marks then marks
      else iterateStep step count following

/-- The positions reached by at most so many steps, given those reached so far
and those of them that are new. -/
def reachedWithin (step : Marks → Marks) : Nat → Marks → Marks → Marks
  | 0, reached, _ => reached
  | count + 1, reached, fresh =>
      let following := (step fresh).difference reached
      if following.isEmpty then reached
      else reachedWithin step count (reached.union following) following

mutual

/-- The positions at which a node may end, given those at which it may
start. -/
def Node.ends (text : List Char) : Node → Marks → Marks
  | .empty, starts => starts
  | .character value, starts => starts.advance text (· == value)
  | .oneOf characters, starts => starts.advance text characters.contains
  | .assertion condition, starts =>
      List.zipWith (· && ·) starts (condition.positions none text)
  | .repetition least most body, starts =>
      let rounds := text.length + 2
      let due := iterateStep (body.ends text) (min least rounds) starts
      let optional :=
        match most with
        | none => rounds
        | some bound => min (bound - least) rounds
      reachedWithin (body.ends text) optional due due
  | .capture body, starts => body.ends text starts
  | .sequence items, starts => Node.endsInSequence text items starts
  | .choice branches, starts => Node.endsOfChoice text branches starts

/-- The positions at which a sequence of nodes may end. -/
def Node.endsInSequence (text : List Char) : List Node → Marks → Marks
  | [], starts => starts
  | item :: rest, starts =>
      Node.endsInSequence text rest (item.ends text starts)

/-- The positions at which one of several nodes may end. -/
def Node.endsOfChoice (text : List Char) : List Node → Marks → Marks
  | [], starts => starts.map fun _ => false
  | branch :: rest, starts =>
      (branch.ends text starts).union (Node.endsOfChoice text rest starts)

end

/-- Whether some part of a text matches a node. -/
def Node.matchesIn (node : Node) (text : List Char) : Bool :=
  !(node.ends text (List.replicate (text.length + 1) true)).isEmpty

end FilterQuery.Pattern
