/-
This file splits a text into lines.
-/

namespace GridRobot.Text

def isLineBreak (char : Char) : Bool :=
  char = '\n' || char = '\r' || char = '\x0b' || char = '\x0c' || char = '\x1c' ||
    char = '\x1d' || char = '\x1e' || char = '\u0085' || char = '\u2028' || char = '\u2029'

/-- Splits at line breaks, where a carriage return and the line feed after it are one break.
The current line is kept in reverse, and a line after the last break counts only if it has
characters. -/
def splitLinesFrom : List Char → List Char → List (List Char)
  | [], [] => []
  | current, [] => [current.reverse]
  | current, '\r' :: '\n' :: rest => current.reverse :: splitLinesFrom [] rest
  | current, char :: rest =>
    if isLineBreak char then current.reverse :: splitLinesFrom [] rest
    else splitLinesFrom (char :: current) rest

/-- Removes the empty lines at the end. -/
def dropEmptyEnd (lines : List (List Char)) : List (List Char) :=
  (lines.reverse.dropWhile List.isEmpty).reverse

/-- The lines of a source text. -/
def sourceLines (text : List Char) : List (List Char) :=
  dropEmptyEnd (splitLinesFrom [] text)

def splitSource (text : String) : List String :=
  (sourceLines text.toList).map String.ofList

/-- Writes every line ending as a line feed. -/
def unifyNewlines : List Char → List Char
  | [] => []
  | '\r' :: '\n' :: rest => '\n' :: unifyNewlines rest
  | char :: rest => (if char = '\r' then '\n' else char) :: unifyNewlines rest

end GridRobot.Text
