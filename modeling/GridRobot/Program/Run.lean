/-
This file runs programs.

A block that is not run is still read: `Block.skip` finds the first place where its text is
malformed. Both running and skipping stop when blocks and calls nest too deeply.
-/

import GridRobot.Program.Block
import GridRobot.Program.Registry
import GridRobot.World.Condition

namespace GridRobot

namespace Nesting

/-- The nesting that a run may use up. A thousand calls may be open at once, less the eight in which a run is
started and the seven in which an action is done that is in no block. -/
def limit : Nat := 985

/-- What a block uses up while it is open. -/
def blockCost : Nat := 4

/-- What a call of an instruction uses up while it lasts. -/
def callCost : Nat := 5

def enter? (cost left : Nat) : Option Nat :=
  if left < cost then none else some (left - cost)

end Nesting

namespace Block

/-- Reads a block without running it and gives the number of the line where it ends. -/
def skip : Nat → Block → Except Stop Nat
  | _, .done number => .ok number
  | _, .broken stop => .error stop
  | left, .statement _ _ rest => skip left rest
  | left, .branch _ _ body alternative rest =>
    match Nesting.enter? Nesting.blockCost left with
    | none => .error .nestingTooDeep
    | some inner =>
      match skip inner body with
      | .error stop => .error stop
      | .ok _ =>
        match skip inner alternative with
        | .error stop => .error stop
        | .ok _ => skip left rest
  | left, .loop _ _ body rest =>
    match Nesting.enter? Nesting.blockCost left with
    | none => .error .nestingTooDeep
    | some inner =>
      match skip inner body with
      | .error stop => .error stop
      | .ok _ => skip left rest
  | left, .iterate _ _ body rest =>
    match Nesting.enter? Nesting.blockCost left with
    | none => .error .nestingTooDeep
    | some inner =>
      match skip inner body with
      | .error stop => .error stop
      | .ok _ => skip left rest

end Block

/-- The world and the actions done so far, last first. -/
structure Progress where
  world : World
  actions : List Action := []
  deriving DecidableEq, Repr

/-- How a block's run ends: on a line, or before its end. -/
inductive Outcome where
  | finished (number : Nat) (progress : Progress)
  | stopped (stop : Stop) (progress : Progress)
  deriving DecidableEq, Repr

namespace Program

def instructionDepth : Int := 2

def definitionDepth : Int := 1

def executionDepth : Int := 2

def calls (name : String) (line : Line) : Bool :=
  match line.kind with
  | .statement called _ => called = name
  | _ => false

/-- The first line of a body that calls the instruction it defines. -/
def selfCall? (program : Program) (name : String) (span : Span) : Option Nat :=
  (((program.drop span.start).take span.length).findIdx? (calls name)).map (span.start + ·)

/-- Runs the steps of a block. Each step takes one unit of fuel; `left` is the nesting that may
still be used. -/
def execute (program : Program) (registry : Registry) : Nat → Nat → Block → Progress → Outcome
  | 0, _, _, progress => .stopped .outOfFuel progress
  | _ + 1, _, .done number, progress => .finished number progress
  | _ + 1, _, .broken stop, progress => .stopped stop progress
  | fuel + 1, left, .statement number name rest, progress =>
    match Action.ofName? name with
    | some action =>
      match progress.world.perform action with
      | .error hindrance => .stopped (hindrance.stop number) progress
      | .ok world => execute program registry fuel left rest ⟨world, action :: progress.actions⟩
    | none =>
      match registry.find? name with
      | none => .stopped (.fault (.onLine (.unknownStatement name) number)) progress
      | some span =>
        match program.selfCall? name span with
        | some guilty => .stopped (.fault (.onLine (.selfCall name) guilty)) progress
        | none =>
          match Nesting.enter? Nesting.callCost left with
          | none => .stopped .nestingTooDeep progress
          | some inner =>
            let called := program.sectionAt span.start span.stop instructionDepth
            match execute program registry fuel inner called progress with
            | .stopped stop reached => .stopped stop reached
            | .finished _ reached => execute program registry fuel left rest reached
  | fuel + 1, left, .branch number condition body alternative rest, progress =>
    match progress.world.ask? condition, Nesting.enter? Nesting.blockCost left with
    | none, _ => .stopped (.fault (.onLine (.unknownCondition condition) number)) progress
    | some _, none => .stopped .nestingTooDeep progress
    | some true, some inner =>
      match execute program registry fuel inner body progress with
      | .stopped stop reached => .stopped stop reached
      | .finished _ reached =>
        match alternative.skip inner with
        | .error stop => .stopped stop reached
        | .ok _ => execute program registry fuel left rest reached
    | some false, some inner =>
      match body.skip inner with
      | .error stop => .stopped stop progress
      | .ok _ =>
        match execute program registry fuel inner alternative progress with
        | .stopped stop reached => .stopped stop reached
        | .finished _ reached => execute program registry fuel left rest reached
  | fuel + 1, left, .loop number condition body rest, progress =>
    match progress.world.ask? condition, Nesting.enter? Nesting.blockCost left with
    | none, _ => .stopped (.fault (.onLine (.unknownCondition condition) number)) progress
    | some _, none => .stopped .nestingTooDeep progress
    | some true, some inner =>
      match execute program registry fuel inner body progress with
      | .stopped stop reached => .stopped stop reached
      | .finished _ reached =>
        match reached.world.ask? condition with
        | none => .stopped (.fault (.onLine (.unknownCondition condition) number)) reached
        | some true => execute program registry fuel left (.loop number condition body rest) reached
        | some false => execute program registry fuel left rest reached
    | some false, some inner =>
      match body.skip inner with
      | .error stop => .stopped stop progress
      | .ok _ => execute program registry fuel left rest progress
  | fuel + 1, left, .iterate number count body rest, progress =>
    match count, Nesting.enter? Nesting.blockCost left with
    | _, none => .stopped .nestingTooDeep progress
    | 0, some inner =>
      match body.skip inner with
      | .error stop => .stopped stop progress
      | .ok _ => execute program registry fuel left rest progress
    | more + 1, some inner =>
      match execute program registry fuel inner body progress with
      | .stopped stop reached => .stopped stop reached
      | .finished _ reached =>
        match more with
        | 0 => execute program registry fuel left rest reached
        | _ + 1 => execute program registry fuel left (.iterate number more body rest) reached

/-- Runs a block, or only reads it if it is not live. -/
def carryOut (program : Program) (registry : Registry) (fuel : Nat) (live : Bool) (block : Block)
    (progress : Progress) : Outcome :=
  if live then program.execute registry fuel Nesting.limit block progress
  else
    match block.skip Nesting.limit with
    | .error stop => .stopped stop progress
    | .ok number => .finished number progress

/-- Reads the definition on a line and gives the line that closes it. -/
def define (program : Program) (number stop : Nat) (registry : Registry) :
    Except Stop (Nat × Registry) :=
  match program[number]? with
  | none => .error (.missingLine number)
  | some line =>
    let name := line.kind.argument?.getD ""
    let lineNumber : Option Int := some (number + 1)
    let header := line.kind.header?.getD .define
    match registry.checkAvailable name lineNumber with
    | .error fault => .error (.fault fault)
    | .ok () =>
      match program.openBlock header number stop definitionDepth with
      | .error problem => .error problem
      | .ok first =>
        let body := closeBody header number stop
          (program.block first stop (definitionDepth + 1))
        match body.skip (Nesting.limit - Nesting.blockCost) with
        | .error problem => .error problem
        | .ok last =>
          if ordered : first ≤ last then
            match registry.define name ⟨first, last, ordered⟩ lineNumber with
            | .error fault => .error (.fault fault)
            | .ok extended => .ok (last, extended)
          else .error (.missingLine last)

/-- Reads definitions up to the start of the execution section and gives its number. The registry
keeps what was defined before a definition that fails. -/
def declare (program : Program) (stop : Nat) : Nat → Nat → Registry → Except Stop Nat × Registry
  | 0, _, registry => (.error (.fault (.onLine .noExecutionStart stop)), registry)
  | fuel + 1, number, registry =>
    if stop ≤ number then (.error (.fault (.onLine .noExecutionStart stop)), registry)
    else
      match program[number]? with
      | none => (.error (.missingLine number), registry)
      | some line =>
        match line.checkIndent number definitionDepth with
        | .error fault => (.error (.fault fault), registry)
        | .ok () =>
          match line.kind with
          | .define _ =>
            match program.define number stop registry with
            | .error problem => (.error problem, registry)
            | .ok (last, extended) => declare program stop fuel (last + 1) extended
          | .executionStart => (.ok number, registry)
          | _ => (.error (.fault (.onLine .notADefinition number)), registry)

end Program

/-- A run that has ended: the world, the actions in order, the registry, and why the run stopped
if it did not complete. -/
structure Execution where
  world : World
  actions : List Action := []
  registry : Registry
  stop : Option Stop := none
  deriving DecidableEq, Repr

namespace Program

/-- The number of the line that turns the robot off. -/
def turnoffNumber (program : Program) : Nat :=
  program.length - 3

def checkMarkers (program : Program) : Except Stop Unit :=
  match program.checkSkeleton with
  | .error fault => .error (.fault fault)
  | .ok () =>
    match program.checkBalance with
    | .error fault => .error (.fault fault)
    | .ok () => .ok ()

/-- Runs a whole program: its markers are checked, its definitions are read, and then its execution
section is run. -/
def run (program : Program) (fuel : Nat) (world : World) (registry : Registry) : Execution :=
  match program.checkMarkers with
  | .error problem => { world, registry, stop := some problem }
  | .ok () =>
    match program.declare program.turnoffNumber program.turnoffNumber 1 registry with
    | (.error problem, known) => { world, registry := known, stop := some problem }
    | (.ok number, known) =>
      let steps := program.sectionAt (number + 1) program.turnoffNumber executionDepth
      match program.execute known fuel Nesting.limit steps { world } with
      | .finished _ progress =>
        { world := progress.world, actions := progress.actions.reverse, registry := known }
      | .stopped problem progress =>
        { world := progress.world
          actions := progress.actions.reverse
          registry := known
          stop := some problem }

end Program

end GridRobot
