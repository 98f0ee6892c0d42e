/-
This file checks indentation, semicolons and the balance of blocks.
-/

import GridRobot.Fault
import GridRobot.Program.Line

namespace GridRobot

/-- The header that a line is, if a block must follow it. -/
def LineKind.header? : LineKind → Option Header
  | .branch _ => some .branch
  | .otherwise => some .otherwise
  | .loop _ => some .loop
  | .iterate _ => some .iterate
  | .define _ => some .define
  | _ => none

namespace Line

/-- The character that a negative depth points at, counted from the end of the text. -/
def fromEnd? (text : List Char) (count : Nat) : Option Char :=
  if count ≤ text.length then text[text.length - count]? else none

/-- A text sits at a depth if it starts with exactly that many tabs. A negative depth asks that
the character so far from the end is no tab, and the last place is never asked about. -/
def sitsAt (text : List Char) : Int → Bool
  | .ofNat depth => leadingIndent text = depth
  | .negSucc 0 => true
  | .negSucc count => fromEnd? text (count + 1) ≠ some indentChar

def checkIndent (line : Line) (number : Int) (depth : Int) : Except Fault Unit :=
  if sitsAt line.text.toList depth then .ok ()
  else .error ⟨.wrongIndent depth line.indent, some (number + 1)⟩

/-- A line needs a semicolon unless the next line closes a block, and then it must have none. -/
def checkTerminator (line : Line) (number : Int) (next : Option Line) : Except Fault Unit :=
  let closes := next.any fun following => following.kind.isClosing
  if line.kind.isTerminated && closes then .error ⟨.needlessSemicolon, some (number + 1)⟩
  else if !line.kind.isTerminated && !closes then .error ⟨.missingSemicolon, some (number + 1)⟩
  else .ok ()

end Line

namespace Program

/-- Walks over the lines with the numbers of the blocks that are open, innermost first. -/
def balanceFrom : List Nat → Nat → Program → Except Fault Unit
  | [], _, [] => .ok ()
  | number :: _, _, [] => .error (.onLine .unmatchedBegin number)
  | openBlocks, number, line :: rest =>
    match line.kind with
    | .opening => balanceFrom (number :: openBlocks) (number + 1) rest
    | .closing _ =>
      match openBlocks with
      | [] => .error (.onLine .unmatchedEnd number)
      | _ :: outer => balanceFrom outer (number + 1) rest
    | _ => balanceFrom openBlocks (number + 1) rest

/-- Blocks open and close in pairs over the whole program. -/
def checkBalance (program : Program) : Except Fault Unit :=
  balanceFrom [] 0 program

def hasKindAt (program : Program) (number : Nat) (kind : LineKind) : Bool :=
  (program[number]?).any fun line => line.kind = kind

/-- The first line and the last three must be the markers of a program. -/
def checkSkeleton (program : Program) : Except Fault Unit :=
  let size := program.length
  if size < 3 then .error ⟨.tooShort, none⟩
  else if !program.hasKindAt 0 .programStart then .error (.onLine .noProgramStart 0)
  else if !program.hasKindAt (size - 1) .programEnd then .error (.onLine .noProgramEnd (size - 1))
  else if !program.hasKindAt (size - 2) .executionEnd then
    .error (.onLine .noExecutionEnd (size - 2))
  else if !program.hasKindAt (size - 3) .turnoff then .error (.onLine .noTurnoff (size - 3))
  else .ok ()

end Program

end GridRobot
