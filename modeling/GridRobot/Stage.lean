/-
This file runs programs on stage: before listeners who are told of every action as soon as it is done, and who may
break off the run.

The steps are those of a run that nobody watches.
-/

import GridRobot.Console

namespace GridRobot

/-- Everything that a run has at hand: what has been done, the instructions that are known, and those who are
told of every action with the workspace that they work on. -/
structure Stage (α : Type) where
  progress : Progress
  registry : Registry
  listeners : List α
  workspace : Workspace

/-- What breaks off a run on stage: a problem of the run, or the failure of a listener that the run does not take
for its own. -/
inductive BreakOff where
  | problem (problem : Stop)
  | failure (failure : Failure)
  deriving DecidableEq, Repr

/-- An error of the robot belongs to the line of the statement, unless it has a line already. -/
def Fault.inStatement (fault : Fault) (number : Nat) : Fault :=
  match fault.cause, fault.line with
  | .robot _, none => .onLine fault.cause number
  | _, _ => fault

/-- The run takes for its own the faults that listeners raise, and nesting that is too deep for them. -/
def BreakOff.ofFailure (number : Nat) : Failure → BreakOff
  | .fault fault => .problem (.fault (fault.inStatement number))
  | .nestingTooDeep => .problem .nestingTooDeep
  | other => .failure other

/-- The stage that a part of a run leaves, whether it is broken off or not. -/
def Stage.ofResult {α β : Type} : EStateM.Result BreakOff (Stage α) β → Stage α
  | .ok _ stage => stage
  | .error _ stage => stage

/-- A part of a run that may use and change all that is on stage. -/
abbrev Performance (α : Type) := EStateM BreakOff (Stage α)

namespace Performance

variable {α : Type}

def ofExcept {β : Type} : Except Stop β → Performance α β
  | .ok value => pure value
  | .error problem => throw (.problem problem)

/-- Does an action and tells the listeners of it before anything else is done. -/
def act [Listener α] (left number : Nat) (action : Action) : Performance α Unit := do
  let stage ← get
  match stage.progress.world.perform action with
  | .error hindrance => throw (.problem (hindrance.stop number))
  | .ok world =>
    let attempt := Listener.notifyAll left action world stage.listeners stage.workspace
    set { stage with
      progress := ⟨world, action :: stage.progress.actions⟩
      listeners := attempt.state.1
      workspace := attempt.state.2 }
    match attempt.failure with
    | some failure => throw (.ofFailure number failure)
    | none => return ()

def ask (number : Nat) (condition : String) : Performance α Bool := do
  match (← get).progress.world.ask? condition with
  | none => throw (.problem (.fault (.onLine (.unknownCondition condition) number)))
  | some answer => return answer

def enter (cost left : Nat) : Performance α Nat :=
  match Nesting.enter? cost left with
  | none => throw (.problem .nestingTooDeep)
  | some inner => return inner

/-- The body of the instruction that a statement calls. -/
def callee (program : Program) (number : Nat) (name : String) : Performance α Span := do
  match (← get).registry.find? name with
  | none => throw (.problem (.fault (.onLine (.unknownStatement name) number)))
  | some span =>
    match program.selfCall? name span with
    | some guilty => throw (.problem (.fault (.onLine (.selfCall name) guilty)))
    | none => return span

/-- Runs the steps of a block on stage. -/
def play [Listener α] (program : Program) : Nat → Nat → Block → Performance α Nat
  | 0, _, _ => throw (.problem .outOfFuel)
  | _ + 1, _, .done number => return number
  | _ + 1, _, .broken problem => throw (.problem problem)
  | fuel + 1, left, .statement number name rest =>
    match Action.ofName? name with
    | some action => do
      act left number action
      play program fuel left rest
    | none => do
      let span ← callee program number name
      let inner ← enter Nesting.callCost left
      let _ ← play program fuel inner (program.sectionAt span.start span.stop Program.instructionDepth)
      play program fuel left rest
  | fuel + 1, left, .branch number condition body alternative rest => do
    let taken ← ask number condition
    let inner ← enter Nesting.blockCost left
    if taken then
      let _ ← play program fuel inner body
      let _ ← ofExcept (alternative.skip inner)
      play program fuel left rest
    else
      let _ ← ofExcept (body.skip inner)
      let _ ← play program fuel inner alternative
      play program fuel left rest
  | fuel + 1, left, .loop number condition body rest => do
    let holds ← ask number condition
    let inner ← enter Nesting.blockCost left
    if holds then
      let _ ← play program fuel inner body
      let again ← ask number condition
      if again then play program fuel left (.loop number condition body rest)
      else play program fuel left rest
    else
      let _ ← ofExcept (body.skip inner)
      play program fuel left rest
  | fuel + 1, left, .iterate number count body rest => do
    let inner ← enter Nesting.blockCost left
    match count with
    | 0 =>
      let _ ← ofExcept (body.skip inner)
      play program fuel left rest
    | more + 1 =>
      let _ ← play program fuel inner body
      match more with
      | 0 => play program fuel left rest
      | _ + 1 => play program fuel left (.iterate number more body rest)

/-- Reads the definition on a line into the registry on stage. -/
def define (program : Program) (number stop : Nat) : Performance α Nat := do
  let stage ← get
  let (last, extended) ← ofExcept (program.define number stop stage.registry)
  set { stage with registry := extended }
  return last

/-- Reads definitions up to the start of the execution section and gives its number. -/
def declare (program : Program) (stop : Nat) : Nat → Nat → Performance α Nat
  | 0, _ => throw (.problem (.fault (.onLine .noExecutionStart stop)))
  | fuel + 1, number =>
    if stop ≤ number then throw (.problem (.fault (.onLine .noExecutionStart stop)))
    else
      match program[number]? with
      | none => throw (.problem (.missingLine number))
      | some line =>
        match line.checkIndent number Program.definitionDepth with
        | .error fault => throw (.problem (.fault fault))
        | .ok () =>
          match line.kind with
          | .define _ => do
            let last ← define program number stop
            declare program stop fuel (last + 1)
          | .executionStart => return number
          | _ => throw (.problem (.fault (.onLine .notADefinition number)))

/-- Runs a whole program on stage. -/
def run [Listener α] (program : Program) (fuel : Nat) : Performance α Unit := do
  ofExcept program.checkMarkers
  let start ← declare program program.turnoffNumber program.turnoffNumber 1
  let _ ← play program fuel Nesting.limit
    (program.sectionAt (start + 1) program.turnoffNumber Program.executionDepth)
  return ()

end Performance

/-- What a run on stage has come to. A listener has failed if there is a failure; else the execution tells why the
run stopped, if it did not complete. -/
structure Watched (α : Type) where
  execution : Execution
  listeners : List α
  workspace : Workspace
  failure : Option Failure := none

/-- What a stage tells of a run that ends on it. -/
def Stage.watched {α : Type} (stage : Stage α) (stop : Option Stop) (failure : Option Failure) : Watched α :=
  { execution := ⟨stage.progress.world, stage.progress.actions.reverse, stage.registry, stop⟩
    listeners := stage.listeners
    workspace := stage.workspace
    failure := failure }

def BreakOff.watched {α : Type} (stage : Stage α) : BreakOff → Watched α
  | .problem reason => stage.watched (some reason) none
  | .failure cause => stage.watched none (some cause)

namespace Program

/-- Runs a whole program in a world before listeners. -/
def watch {α : Type} [Listener α] (program : Program) (fuel : Nat) (world : World) (registry : Registry)
    (listeners : List α) (workspace : Workspace) : Watched α :=
  match Performance.run program fuel ⟨{ world }, registry, listeners, workspace⟩ with
  | .ok _ stage => stage.watched none none
  | .error reason stage => reason.watched stage

end Program

end GridRobot
