/-
This file reads the block structure of a program.

Reading never fails: a block is a tree whose steps follow the text, and a place where the text is
malformed is a leaf of the tree. What a run does up to such a place is thus part of the tree.
-/

import GridRobot.Numeral
import GridRobot.Program.Layout

namespace GridRobot

/-- Why a run stops before its end. -/
inductive Stop where
  | fault (fault : Fault)
  | tooManyDigits (count : Nat)
  | unwritable
  | missingLine (number : Nat)
  | nestingTooDeep
  | outOfFuel
  deriving DecidableEq, Repr

/-- Why a run stops when the action of a line is hindered. -/
def Hindrance.stop (number : Nat) : Hindrance → Stop
  | .robot error => .fault (.onLine (.robot error) number)
  | .unwritable => .unwritable

/-- The steps of a block. Every step but a leaf carries the number of its line and the steps after
it; `done` holds the number of the line where the block ends. -/
inductive Block where
  | done (number : Nat)
  | broken (stop : Stop)
  | statement (number : Nat) (name : String) (rest : Block)
  | branch (number : Nat) (condition : String) (body alternative rest : Block)
  | loop (number : Nat) (condition : String) (body rest : Block)
  | iterate (number : Nat) (count : Nat) (body rest : Block)
  deriving DecidableEq, Repr

namespace Block

def fault (cause : Cause) (number : Nat) : Block :=
  .broken (.fault (.onLine cause number))

/-- Where the text of a block ends, or why it does not. -/
def ending : Block → Except Stop Nat
  | .done number => .ok number
  | .broken stop => .error stop
  | .statement _ _ rest => rest.ending
  | .branch _ _ _ _ rest => rest.ending
  | .loop _ _ _ rest => rest.ending
  | .iterate _ _ _ rest => rest.ending

/-- Replaces the leaf that a block ends with. -/
def onDone (leaf : Nat → Block) : Block → Block
  | .done number => leaf number
  | .broken stop => .broken stop
  | .statement number name rest => .statement number name (rest.onDone leaf)
  | .branch number condition body alternative rest =>
    .branch number condition body alternative (rest.onDone leaf)
  | .loop number condition body rest => .loop number condition body (rest.onDone leaf)
  | .iterate number count body rest => .iterate number count body (rest.onDone leaf)

end Block

namespace Program

/-- The number of the first line of the block that must follow a header. -/
def openBlock (program : Program) (header : Header) (number stop : Nat) (depth : Int) :
    Except Stop Nat :=
  if stop ≤ number + 1 then .error (.fault (.onLine (.noBlock header) number))
  else
    match program[number + 1]? with
    | none => .error (.missingLine (number + 1))
    | some line =>
      if line.kind = .opening then
        match line.checkIndent (number + 1) depth with
        | .error fault => .error (.fault fault)
        | .ok () => .ok (number + 2)
      else .error (.fault (.onLine (.noBlock header) number))

/-- A body that reaches the end of its range has no line that closes it. -/
def closeBody (header : Header) (number stop : Nat) (body : Block) : Block :=
  body.onDone fun last =>
    if stop ≤ last then Block.fault (.unterminatedBlock header) number else .done last

/-- The body of the header on a line; `inside` reads a block one level deeper. -/
def body (program : Program) (header : Header) (number stop : Nat) (depth : Int)
    (inside : Nat → Block) : Block :=
  match program.openBlock header number stop depth with
  | .error problem => .broken problem
  | .ok first => closeBody header number stop (inside first)

def checkTerminatorAt (program : Program) (number : Nat) : Except Stop Unit :=
  match program[number]? with
  | none => .error (.missingLine number)
  | some line => (line.checkTerminator number program[number + 1]?).mapError .fault

/-- What follows the line that closes a body; the body itself may be broken. -/
def afterBody (program : Program) (body : Block) (next : Nat → Block) : Block :=
  match body.ending with
  | .error problem => .broken problem
  | .ok last =>
    match program.checkTerminatorAt last with
    | .error problem => .broken problem
    | .ok () => next (last + 1)

/-- The alternative of a branch, if the line at `number` is the header of one, and the line after
the whole branch; without one the alternative is empty. -/
def alternative (program : Program) (number stop : Nat) (depth : Int) (inside : Nat → Block)
    (build : Block → Block → Block) (next : Nat → Block) : Block :=
  if number < stop then
    match program[number]? with
    | none => build (.done number) (.broken (.missingLine number))
    | some line =>
      if line.kind = .otherwise then
        match line.checkIndent number depth with
        | .error fault => build (.done number) (.broken (.fault fault))
        | .ok () =>
          let other := program.body .otherwise number stop depth inside
          build other (program.afterBody other next)
      else build (.done number) (next number)
  else build (.done number) (next number)

/-- The step on a line; `inside` reads a block one level deeper, and `next` what follows. -/
def step (program : Program) (stop : Nat) (depth : Int) (inside next : Nat → Block)
    (number : Nat) : Block :=
  match program[number]? with
  | none => .broken (.missingLine number)
  | some line =>
    match line.checkIndent number depth with
    | .error fault => .broken (.fault fault)
    | .ok () =>
      match line.kind with
      | .statement name _ =>
        match line.checkTerminator number program[number + 1]? with
        | .error fault => .broken (.fault fault)
        | .ok () => .statement number name (next (number + 1))
      | .branch condition =>
        let body := program.body .branch number stop depth inside
        match body.ending with
        | .error problem =>
          .branch number condition body (.broken problem) (.broken problem)
        | .ok last =>
          match program.checkTerminatorAt last with
          | .error problem => .branch number condition body (.done last) (.broken problem)
          | .ok () =>
            program.alternative (last + 1) stop depth inside (.branch number condition body) next
      | .loop condition =>
        match program.openBlock .loop number stop depth with
        | .error problem => .broken problem
        | .ok first =>
          let body := closeBody .loop number stop (inside first)
          .loop number condition body (program.afterBody body next)
      | .iterate digits =>
        if Numeral.maxDigits < Numeral.countDigits digits.toList then
          .broken (.tooManyDigits (Numeral.countDigits digits.toList))
        else
          match program.openBlock .iterate number stop depth with
          | .error problem => .broken problem
          | .ok first =>
            let body := closeBody .iterate number stop (inside first)
            .iterate number (Numeral.valueOf digits.toList) body (program.afterBody body next)
      | .otherwise => Block.fault .strayElse number
      | .opening => Block.fault .strayBegin number
      | .closing _ => Block.fault .strayEnd number
      | .define _ => Block.fault .lateDefinition number
      | _ =>
        Block.fault (.unexpectedLine (String.ofList (Text.trim line.text.toList))) number

/-- Reads lines up to the one that closes the block at the depth above, or to the end of the range.
Every step moves on by a line or more, so a range needs no more fuel than it has lines. -/
def blockFrom (program : Program) (stop : Nat) : Nat → Int → Nat → Block
  | 0, _, _ => .done stop
  | fuel + 1, depth, number =>
    if stop ≤ number then .done stop
    else
      match program[number]? with
      | none => .broken (.missingLine number)
      | some line =>
        if line.kind.isClosing && Line.sitsAt line.text.toList (depth - 1) then .done number
        else
          program.step stop depth (blockFrom program stop fuel (depth + 1))
            (blockFrom program stop fuel depth) number

/-- The block at a depth that starts on a line and ends before `stop`. -/
def block (program : Program) (start stop : Nat) (depth : Int) : Block :=
  program.blockFrom stop (stop - start) depth start

/-- The single step on a line. -/
def stepAt (program : Program) (number stop : Nat) (depth : Int) : Block :=
  program.step stop depth (program.blockFrom stop (stop - number) (depth + 1)) .done number

/-- A section is a whole range of lines: no line in it may close a block that it does not open. -/
def sectionAt (program : Program) (start stop : Nat) (depth : Int) : Block :=
  (program.block start stop depth).onDone fun last =>
    if last < stop then Block.fault .strayEnd last else .done last

end Program

end GridRobot
