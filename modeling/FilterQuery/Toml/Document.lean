import FilterQuery.Toml.Scalar
import FilterQuery.Toml.Tree

/-!
# Reading documents

A document is read line by line into statements: headers, and keys with values.
`parse` builds the tables that the statements describe.

* A key is bare, made of ASCII letters, digits, low lines and dashes, or quoted; dots
  join keys to a path;
* an array may run over several lines and have a comma at its end, a table in braces
  may not;
* paths and nested values have fewer than eighty levels.
-/

namespace FilterQuery.Toml

def levelBound : Nat := 80

/-! ## Keys -/

/-- Whether a character may occur in a bare key. -/
def isBare (character : Char) : Bool :=
  character.isAlphanum || character = '_' || character = '-'

/-- A bare or quoted key at the front. -/
def readKey (characters : List Char) : Option (List Char × List Char) :=
  (readQuoted characters).or
    (let key := characters.takeWhile isBare
      if key.isEmpty then none else some (key, characters.dropWhile isBare))

/-- Keys joined by dots, with spaces around them.  Every key takes at least one
character, so the length of the text bounds the number of steps. -/
def readKeys : Nat → List Char → Option (List String × List Char)
  | 0, _ => none
  | steps + 1, characters => do
      let (key, rest) ← readKey (skipSpaces characters)
      match skipSpaces rest with
      | '.' :: following => do
          let (keys, rest) ← readKeys steps following
          return (String.ofList key :: keys, rest)
      | rest => return ([String.ofList key], rest)

/-- The keys before the last one, and the last one. -/
def splitLast? : List String → Option (List String × String)
  | [] => none
  | [last] => some ([], last)
  | first :: rest => (splitLast? rest).map fun (path, last) => (first :: path, last)

/-- The path and the key at the front. -/
def readPath (characters : List Char) :
    Option ((List String × String) × List Char) := do
  let (keys, rest) ← readKeys (characters.length + 1) characters
  if keys.length < levelBound then return (← splitLast? keys, rest) else none

/-! ## Values -/

/-- A key with a value. -/
structure Pair where
  path : List String
  key : String
  value : Value

def tableOfPairs? (pairs : List Pair) : Option Value :=
  (pairs.foldlM (fun entries pair =>
      insertPair pair.path pair.key pair.value .header entries)
    ([] : Entries)).map fun entries => .table (entriesToValues entries)

mutual

/-- A value at the front; `level` counts the brackets and braces around it.  Every
part of a value takes at least one character, so the length of the text bounds the
number of steps. -/
def readValue : Nat → Nat → List Char → Option (Value × List Char)
  | 0, _, _ => none
  | steps + 1, level, characters =>
      match characters with
      | '[' :: rest =>
          if level + 1 < levelBound then
            (readItems steps (level + 1) rest).map fun (items, after) =>
              (.array items, after)
          else none
      | '\x7b' :: rest =>
          if level + 1 < levelBound then do
            let (pairs, after) ←
              match skipSpaces rest with
              | '\x7d' :: after => some ([], after)
              | _ => readPairs steps (level + 1) rest
            return (← tableOfPairs? pairs, after)
          else none
      | '"' :: _ | '\'' :: _ =>
          (readText characters).map fun (text, after) =>
            (.string (String.ofList text), after)
      | _ => readScalar characters

/-- The items of an array up to the closing bracket. -/
def readItems : Nat → Nat → List Char → Option (List Value × List Char)
  | 0, _, _ => none
  | steps + 1, level, characters => do
      match ← skipLines? false characters with
      | ']' :: after => return ([], after)
      | found => do
          let (item, rest) ← readValue steps level found
          match ← skipLines? false rest with
          | ',' :: following => do
              let (items, after) ← readItems steps level following
              return (item :: items, after)
          | ']' :: after => return ([item], after)
          | _ => none

/-- The pairs of a table up to the closing brace. -/
def readPairs : Nat → Nat → List Char → Option (List Pair × List Char)
  | 0, _, _ => none
  | steps + 1, level, characters => do
      let ((path, key), rest) ← readPath characters
      match rest with
      | '=' :: found => do
          let (value, rest) ← readValue steps level (skipSpaces found)
          match skipSpaces rest with
          | ',' :: following => do
              let (pairs, after) ← readPairs steps level following
              return (⟨path, key, value⟩ :: pairs, after)
          | '\x7d' :: after => return ([⟨path, key, value⟩], after)
          | _ => none
      | _ => none

end

/-! ## Statements -/

/-- A line of a document. -/
inductive Statement where
  | blank
  | table (path : List String) (key : String)
  | element (path : List String) (key : String)
  | pair (pair : Pair)

/-- The statement at the front, and what follows its last line. -/
def readStatement (characters : List Char) : Option (Statement × List Char) :=
  match restOfLine? false characters with
  | some rest => some (.blank, rest)
  | none =>
      match skipSpaces characters with
      | '[' :: '[' :: found => do
          let ((path, key), rest) ← readPath found
          match rest with
          | ']' :: ']' :: rest => return (.element path key, ← restOfLine? false rest)
          | _ => none
      | '[' :: found => do
          let ((path, key), rest) ← readPath found
          match rest with
          | ']' :: rest => return (.table path key, ← restOfLine? false rest)
          | _ => none
      | found => do
          let ((path, key), rest) ← readPath found
          match rest with
          | '=' :: rest => do
              let found := skipSpaces rest
              let (value, rest) ← readValue (found.length + 1) 0 found
              return (.pair ⟨path, key, value⟩, ← restOfLine? false rest)
          | _ => none

/-- What the statements read so far describe. -/
structure Progress where
  /-- The path of the current header. -/
  header : List String := []
  root : Entries := []

/-- Carry out a statement. -/
def Progress.add? (progress : Progress) : Statement → Option Progress
  | .blank => some progress
  | .table path key =>
      (openTable path key progress.root).map fun root => ⟨path ++ [key], root⟩
  | .element path key =>
      (openElement path key progress.root).map fun root => ⟨path ++ [key], root⟩
  | .pair ⟨path, key, value⟩ =>
      (insertBelow progress.header path key value progress.root).map fun root =>
        { progress with root }

/-- Read the rest of a document.  Every statement takes at least one character, so
the length of the text bounds the number of steps. -/
def readStatements : Nat → Progress → List Char → Option Progress
  | _, progress, [] => some progress
  | 0, _, _ => none
  | steps + 1, progress, characters => do
      let (statement, rest) ← readStatement characters
      readStatements steps (← progress.add? statement) rest

/-- Drop a mark of byte order in front. -/
def skipByteOrderMark : List Char → List Char
  | '\ufeff' :: rest => rest
  | characters => characters

/-- The table that a text describes. -/
def parse (text : String) : Option Value :=
  let characters := skipByteOrderMark text.toList
  (readStatements (characters.length + 1) {} characters).map fun progress =>
    .table (entriesToValues progress.root)

end FilterQuery.Toml
