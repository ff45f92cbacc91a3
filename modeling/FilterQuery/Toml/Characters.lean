/-!
# Characters of a document

Spaces and tabs separate the parts of a line, and a line feed, after an optional
carriage return, ends it.  A comment runs from a number sign to the end of the line.
Control characters are refused everywhere, apart from tabs.
-/

namespace FilterQuery.Toml

/-- Whether a character separates the parts of a line. -/
def isSpace (character : Char) : Bool := character = ' ' || character = '\t'

/-- Whether a character may stand in texts and comments. -/
def isPlain (character : Char) : Bool :=
  character = '\t' || (' ' ≤ character && character != '\x7f')

/-- Drop the spaces in front. -/
def skipSpaces (characters : List Char) : List Char :=
  characters.dropWhile isSpace

/-- What follows the line end in front, if there is one. -/
def lineEnd? : List Char → Option (List Char)
  | '\n' :: rest => some rest
  | '\r' :: '\n' :: rest => some rest
  | _ => none

/-- What follows the current line, provided that it holds spaces and a comment at
most; `inComment` says whether a comment has begun. -/
def restOfLine? (inComment : Bool) : List Char → Option (List Char)
  | [] => some []
  | '\n' :: rest => some rest
  | '\r' :: '\n' :: rest => some rest
  | character :: rest =>
      if inComment then
        if isPlain character then restOfLine? true rest else none
      else if isSpace character then restOfLine? false rest
      else if character = '#' then restOfLine? true rest
      else none

/-- Drop spaces, comments and line ends in front; a comment has to end. -/
def skipLines? (inComment : Bool) : List Char → Option (List Char)
  | [] => if inComment then none else some []
  | '\n' :: rest => skipLines? false rest
  | '\r' :: '\n' :: rest => skipLines? false rest
  | character :: rest =>
      if inComment then
        if isPlain character then skipLines? true rest else none
      else if isSpace character then skipLines? false rest
      else if character = '#' then skipLines? true rest
      else some (character :: rest)

end FilterQuery.Toml
