/-
This file holds the faults that end a run, their wording and their classes.
-/

import GridRobot.Map
import GridRobot.Text.Quoted

namespace GridRobot

/-- The lines that must be followed by a block. -/
inductive Header where
  | branch
  | otherwise
  | loop
  | iterate
  | define
  deriving DecidableEq, Repr

def Header.keyword : Header → String
  | .branch => "IF-THEN"
  | .otherwise => "ELSE"
  | .loop => "WHILE-DO"
  | .iterate => "ITERATE"
  | .define => "DEFINE-NEW-INSTRUCTION"

inductive Cause where
  | map (problem : MapProblem)
  | tooShort
  | noProgramStart
  | noProgramEnd
  | noExecutionEnd
  | noTurnoff
  | noExecutionStart
  | notADefinition
  | wrongIndent (expected : Int) (found : Nat)
  | noBlock (header : Header)
  | strayElse
  | strayBegin
  | strayEnd
  | lateDefinition
  | unexpectedLine (text : String)
  | unmatchedEnd
  | unmatchedBegin
  | needlessSemicolon
  | missingSemicolon
  | unterminatedBlock (header : Header)
  | unknownStatement (name : String)
  | unknownCondition (name : String)
  | builtInName (name : String)
  | takenName (name : String)
  | selfCall (name : String)
  | nestingTooDeep
  | robot (error : RobotError)
  deriving DecidableEq, Repr

/-- A cause with the one-based number of the line it is found on, where it has one. -/
structure Fault where
  cause : Cause
  line : Option Int
  deriving DecidableEq, Repr

/-- The part of a run that a fault belongs to. -/
inductive FaultKind where
  | map
  | structural
  | semantic
  | runtime
  deriving DecidableEq, Repr

def FaultKind.name : FaultKind → String
  | .map => "map"
  | .structural => "structure"
  | .semantic => "semantic"
  | .runtime => "runtime"

/-- The classes of faults; `general`, `semantic` and `robot` have no cause of their own. -/
inductive FaultClass where
  | general
  | map
  | structural
  | terminator
  | semantic
  | unterminatedBlock
  | unknownStatement
  | unknownCondition
  | duplicateDefinition
  | recursiveDefinition
  | nestingDepth
  | robot
  | frontBlocked
  | noBeeperHere
  | emptyBag
  deriving DecidableEq, Repr

def FaultClass.kind : FaultClass → FaultKind
  | .map => .map
  | .general | .structural | .terminator => .structural
  | .semantic | .unterminatedBlock | .unknownStatement | .unknownCondition
  | .duplicateDefinition | .recursiveDefinition | .nestingDepth => .semantic
  | .robot | .frontBlocked | .noBeeperHere | .emptyBag => .runtime

def RobotError.faultClass : RobotError → FaultClass
  | .frontBlocked => .frontBlocked
  | .noBeeperHere _ => .noBeeperHere
  | .emptyBag => .emptyBag

def Cause.faultClass : Cause → FaultClass
  | .map _ => .map
  | .needlessSemicolon | .missingSemicolon => .terminator
  | .unterminatedBlock _ => .unterminatedBlock
  | .unknownStatement _ => .unknownStatement
  | .unknownCondition _ => .unknownCondition
  | .builtInName _ | .takenName _ => .duplicateDefinition
  | .selfCall _ => .recursiveDefinition
  | .nestingTooDeep => .nestingDepth
  | .robot error => error.faultClass
  | _ => .structural

def MapProblem.message : MapProblem → String
  | .empty => "error in the construction of the map, the map is empty"
  | .emptyFirstRow => "error in the construction of the map, the first row is empty"
  | .unevenRow row => s!"inconsistent map on the line {row}"
  | .manyRobots => "there is more than one robot on the map"
  | .unknownCharacter char row column =>
    s!"unknown character {Text.quoted (String.singleton char)} at line {row}, column {column}"
  | .noRobot => "there is no robot on the map"
  | .noFile path =>
    s!"error in the construction of the map, no file named {Text.quoted path}"

def RobotError.message : RobotError → String
  | .frontBlocked => "move: can't move, front is blocked"
  | .noBeeperHere position =>
    s!"pickbeeper: can't pick beepers, no beepers in {position.x},{position.y}"
  | .emptyBag => "putbeeper: can't put beepers, no beepers in bag"

def Cause.message : Cause → String
  | .map problem => problem.message
  | .tooShort => "the program is too short to hold the required markers"
  | .noProgramStart => "the code does not start with 'BEGINNING-OF-PROGRAM'"
  | .noProgramEnd => "the code does not end with 'END-OF-PROGRAM'"
  | .noExecutionEnd => "'END-OF-EXECUTION' was not found in the penultimate line"
  | .noTurnoff => "the 'turnoff' line does not exist or is not in the correct position"
  | .noExecutionStart => "'BEGINNING-OF-EXECUTION' was not found"
  | .notADefinition => "expected DEFINE-NEW-INSTRUCTION or BEGINNING-OF-EXECUTION"
  | .wrongIndent expected found =>
    s!"wrong indentation, expected {expected} tab(s) but found {found}"
  | .noBlock header =>
    s!"the definition of the '{header.keyword}' does not start with a BEGIN"
  | .strayElse => "ELSE without a matching IF-THEN"
  | .strayBegin => "BEGIN without a control header"
  | .strayEnd => "END without a matching block"
  | .lateDefinition => "new instructions must be defined before 'BEGINNING-OF-EXECUTION'"
  | .unexpectedLine text => s!"unexpected line {Text.quoted text}"
  | .unmatchedEnd => "END without a matching BEGIN"
  | .unmatchedBegin => "BEGIN without a matching END"
  | .needlessSemicolon => "there is no need to put ';' if the next line is an END"
  | .missingSemicolon => "semicolon missing"
  | .unterminatedBlock header => s!"the '{header.keyword}' does not end"
  | .unknownStatement name => s!"unknown instruction {Text.quoted name}"
  | .unknownCondition name => s!"there is no condition {Text.quoted name}"
  | .builtInName name => s!"{Text.quoted name} is a built-in instruction"
  | .takenName name => s!"you already have a {Text.quoted name} instruction"
  | .selfCall name =>
    s!"you can't use the instruction {Text.quoted name} inside its own definition"
  | .nestingTooDeep => "instruction calls nest too deeply"
  | .robot error => error.message

def Fault.kind (fault : Fault) : FaultKind :=
  fault.cause.faultClass.kind

def Fault.message (fault : Fault) : String :=
  fault.cause.message

/-- What is reported of a fault: its class, its wording and its line. -/
structure Diagnostic where
  faultClass : FaultClass
  message : String
  line : Option Int
  deriving DecidableEq, Repr

namespace Diagnostic

/-- Gives a line to a diagnostic that has none. -/
def atLine (diagnostic : Diagnostic) (line : Int) : Diagnostic :=
  match diagnostic.line with
  | some _ => diagnostic
  | none => { diagnostic with line := some line }

/-- The wording, after the line where there is one. -/
def text (diagnostic : Diagnostic) : String :=
  match diagnostic.line with
  | none => diagnostic.message
  | some line => s!"line {line}: {diagnostic.message}"

end Diagnostic

def Fault.diagnostic (fault : Fault) : Diagnostic :=
  ⟨fault.cause.faultClass, fault.message, fault.line⟩

/-- A fault found on the line with a zero-based number. -/
def Fault.onLine (cause : Cause) (number : Nat) : Fault :=
  ⟨cause, some (number + 1)⟩

def MapError.fault (error : MapError) : Fault :=
  ⟨.map error.problem, error.line.map Int.ofNat⟩

end GridRobot
