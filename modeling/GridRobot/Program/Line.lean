/-
This file classifies the lines of a program by their text alone.
-/

import GridRobot.Text.Blank
import GridRobot.Text.Digit

namespace GridRobot

/-- What a line is, with the names it carries. -/
inductive LineKind where
  | programStart
  | programEnd
  | executionStart
  | executionEnd
  | turnoff
  | define (name : String)
  | branch (condition : String)
  | otherwise
  | loop (condition : String)
  | iterate (count : String)
  | opening
  | closing (terminated : Bool)
  | statement (name : String) (terminated : Bool)
  | unknown
  deriving DecidableEq, Repr

structure Line where
  text : String
  kind : LineKind
  deriving DecidableEq, Repr

/-- The lines of a program in source order. -/
abbrev Program := List Line

namespace LineKind

/-- The name, condition or count that a line carries. -/
def argument? : LineKind → Option String
  | .define name => some name
  | .branch condition => some condition
  | .loop condition => some condition
  | .iterate count => some count
  | .statement name _ => some name
  | _ => none

/-- Whether a line ends in a semicolon that belongs to the language. -/
def isTerminated : LineKind → Bool
  | .closing terminated => terminated
  | .statement _ terminated => terminated
  | _ => false

def isClosing : LineKind → Bool
  | .closing _ => true
  | _ => false

end LineKind

namespace Line

def indentChar : Char := '\t'

/-- The number of indentation characters at the front. -/
def leadingIndent (text : List Char) : Nat :=
  (text.takeWhile (· = indentChar)).length

def body (text : List Char) : List Char :=
  text.dropWhile (· = indentChar)

/-- Nothing more than one blank may stand at the end of a line, and a newline after it. -/
def isLineEnd : List Char → Bool
  | [] => true
  | [char] => Text.isBlank char
  | [char, last] => Text.isBlank char && last = '\n'
  | _ => false

/-- What follows a word at the front. -/
def afterWord? (word : String) (text : List Char) : Option (List Char) :=
  if word.toList.isPrefixOf text then some (text.drop word.length) else none

/-- What stands before a word at the end. -/
def beforeWord? (word : String) (text : List Char) : Option (List Char) :=
  if word.toList.isSuffixOf text then some (text.take (text.length - word.length)) else none

/-- The longest part at the front whose characters pass a test, if it is not empty, and the rest. -/
def takeSome? (test : Char → Bool) (text : List Char) : Option (List Char × List Char) :=
  match text.takeWhile test with
  | [] => none
  | taken => some (taken, text.dropWhile test)

/-- A semicolon at the front, if there is one, and the rest. -/
def takeSemicolon : List Char → Bool × List Char
  | ';' :: rest => (true, rest)
  | text => (false, text)

/-- A way to recognise one kind of line. -/
abbrev Pattern := List Char → Option LineKind

/-- A line that is a word at a depth that passes a test. -/
def wordPattern (depth : Nat → Bool) (word : String) (kind : LineKind) : Pattern := fun text =>
  if depth (leadingIndent text) then
    match afterWord? word (body text) with
    | some rest => if isLineEnd rest then some kind else none
    | none => none
  else none

def isIndented (depth : Nat) : Bool :=
  0 < depth

/-- A line that starts with a word and is indented. -/
def indentedBody? (word : String) (text : List Char) : Option (List Char) :=
  if isIndented (leadingIndent text) then afterWord? word (body text) else none

def definePattern : Pattern := fun text => do
  let rest ← indentedBody? "DEFINE-NEW-INSTRUCTION " text
  let (name, rest) ← takeSome? (fun char => !Text.isBlank char) rest
  let rest ← afterWord? " AS" rest
  if isLineEnd rest then some (.define (String.ofList name)) else none

/-- A condition is the text between two words; it has at least one character and no newline. -/
def condition? (word : String) (text : List Char) : Option String := do
  let condition ← beforeWord? word text
  if condition.isEmpty || condition.contains '\n' then none
  else some (String.ofList (Text.trim condition))

def branchPattern : Pattern := fun text => do
  let rest ← indentedBody? "IF " text
  let condition ← condition? " THEN" (Text.trimEnd rest)
  some (.branch condition)

/-- The blanks at the end. -/
def trailingBlanks (text : List Char) : List Char :=
  (text.reverse.takeWhile Text.isBlank).reverse

def loopPattern : Pattern := fun text => do
  let rest ← indentedBody? "WHILE " text
  let condition ← condition? " DO" (Text.trimEnd rest)
  if isLineEnd (trailingBlanks rest) then some (.loop condition) else none

def iteratePattern : Pattern := fun text => do
  let rest ← indentedBody? "ITERATE " text
  let (count, rest) ← takeSome? Text.isDigit rest
  let rest ← afterWord? " TIMES" rest
  if isLineEnd rest then some (.iterate (String.ofList count)) else none

def closePattern : Pattern := fun text => do
  let rest ← indentedBody? "END" text
  let (terminated, rest) := takeSemicolon rest
  if isLineEnd rest then some (.closing terminated) else none

def isNameChar (char : Char) : Bool :=
  !Text.isBlank char && char ≠ ';'

def statementPattern : Pattern := fun text => do
  let rest ← indentedBody? "" text
  let (name, rest) ← takeSome? isNameChar rest
  let (terminated, rest) := takeSemicolon rest
  if isLineEnd rest then some (.statement (String.ofList name) terminated) else none

/-- The patterns of all lines that are more than a bare statement. -/
def keywordPatterns : List Pattern :=
  [wordPattern (· = 0) "BEGINNING-OF-PROGRAM" .programStart,
    wordPattern (· = 0) "END-OF-PROGRAM" .programEnd,
    wordPattern (· = 1) "BEGINNING-OF-EXECUTION" .executionStart,
    wordPattern (· = 1) "END-OF-EXECUTION" .executionEnd,
    wordPattern (· = 2) "turnoff" .turnoff,
    definePattern,
    branchPattern,
    wordPattern isIndented "ELSE" .otherwise,
    loopPattern,
    iteratePattern,
    wordPattern isIndented "BEGIN" .opening,
    closePattern]

/-- A statement is what no other pattern recognises, so its pattern comes last. -/
def patterns : List Pattern :=
  keywordPatterns ++ [statementPattern]

/-- The kind that the first fitting pattern gives. -/
def kindBy (patterns : List Pattern) (text : List Char) : LineKind :=
  (patterns.findSome? fun pattern => pattern text).getD .unknown

def kindOf (text : List Char) : LineKind :=
  kindBy patterns text

def classify (text : String) : Line :=
  ⟨text, kindOf text.toList⟩

def indent (line : Line) : Nat :=
  leadingIndent line.text.toList

end Line

def Program.classify (lines : List String) : Program :=
  lines.map Line.classify

end GridRobot
