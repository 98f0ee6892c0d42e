import GridRobot.Proofs.Declarations
import GridRobot.Proofs.Runs
import Mathlib.Logic.Relation

namespace GridRobot

/-- A moment of a run: the steps that are still to be taken at the innermost place, the nesting that they
may use, and what has been done so far. -/
structure Point where
  left : Nat
  block : Block
  progress : Progress

/-- What has been done when a run of a block ends. -/
def Outcome.progress : Outcome → Progress
  | .finished _ progress => progress
  | .stopped _ progress => progress

/-- What has been done when a whole run ends. -/
def Execution.progress (execution : Execution) : Progress :=
  ⟨execution.world, execution.actions.reverse⟩

@[simp] theorem Outcome.progress_execution (outcome : Outcome) (registry : Registry) :
    (outcome.execution registry).progress = outcome.progress := by
  cases outcome <;> simp [execution, Execution.progress, progress]

theorem Action.name_of_ofName? {name : String} {action : Action} (known : ofName? name = some action) :
    action.name = name := by
  have same := List.find?_some known
  exact of_decide_eq_true same

namespace Program

/-- How a run gets from one point to a later one: behind a step that is over, or into a block that the step
runs. -/
inductive Leads (program : Program) (registry : Registry) : Point → Point → Prop where
  | action {left number : Nat} {name : String} {rest : Block} {progress : Progress} {action : Action}
      {world : World} (known : Action.ofName? name = some action)
      (performed : progress.world.perform action = .ok world) :
      Leads program registry ⟨left, .statement number name rest, progress⟩
        ⟨left, rest, ⟨world, action :: progress.actions⟩⟩
  | intoCall {left inner number : Nat} {name : String} {rest : Block} {progress : Progress} {span : Span}
      (other : Action.ofName? name = none) (found : registry.find? name = some span)
      (sober : program.selfCall? name span = none)
      (entered : Nesting.enter? Nesting.callCost left = some inner) :
      Leads program registry ⟨left, .statement number name rest, progress⟩
        ⟨inner, program.sectionAt span.start span.stop instructionDepth, progress⟩
  | afterCall {left inner number last : Nat} {name : String} {rest : Block} {progress reached : Progress}
      {span : Span} (other : Action.ofName? name = none) (found : registry.find? name = some span)
      (sober : program.selfCall? name span = none)
      (entered : Nesting.enter? Nesting.callCost left = some inner)
      (body : program.Runs registry inner (program.sectionAt span.start span.stop instructionDepth) progress
        (.finished last reached)) :
      Leads program registry ⟨left, .statement number name rest, progress⟩ ⟨left, rest, reached⟩
  | intoTaken {left inner number : Nat} {condition : String} {body alternative rest : Block}
      {progress : Progress} (holds : progress.world.ask? condition = some true)
      (entered : Nesting.enter? Nesting.blockCost left = some inner) :
      Leads program registry ⟨left, .branch number condition body alternative rest, progress⟩
        ⟨inner, body, progress⟩
  | afterTaken {left inner number last last' : Nat} {condition : String} {body alternative rest : Block}
      {progress reached : Progress} (holds : progress.world.ask? condition = some true)
      (entered : Nesting.enter? Nesting.blockCost left = some inner)
      (inside : program.Runs registry inner body progress (.finished last reached))
      (skipped : alternative.skip inner = .ok last') :
      Leads program registry ⟨left, .branch number condition body alternative rest, progress⟩
        ⟨left, rest, reached⟩
  | intoOther {left inner number last : Nat} {condition : String} {body alternative rest : Block}
      {progress : Progress} (fails : progress.world.ask? condition = some false)
      (entered : Nesting.enter? Nesting.blockCost left = some inner) (skipped : body.skip inner = .ok last) :
      Leads program registry ⟨left, .branch number condition body alternative rest, progress⟩
        ⟨inner, alternative, progress⟩
  | afterOther {left inner number last last' : Nat} {condition : String} {body alternative rest : Block}
      {progress reached : Progress} (fails : progress.world.ask? condition = some false)
      (entered : Nesting.enter? Nesting.blockCost left = some inner) (skipped : body.skip inner = .ok last)
      (inside : program.Runs registry inner alternative progress (.finished last' reached)) :
      Leads program registry ⟨left, .branch number condition body alternative rest, progress⟩
        ⟨left, rest, reached⟩
  | intoLoop {left inner number : Nat} {condition : String} {body rest : Block} {progress : Progress}
      (holds : progress.world.ask? condition = some true)
      (entered : Nesting.enter? Nesting.blockCost left = some inner) :
      Leads program registry ⟨left, .loop number condition body rest, progress⟩ ⟨inner, body, progress⟩
  | loopAgain {left inner number last : Nat} {condition : String} {body rest : Block}
      {progress reached : Progress} (holds : progress.world.ask? condition = some true)
      (entered : Nesting.enter? Nesting.blockCost left = some inner)
      (inside : program.Runs registry inner body progress (.finished last reached)) :
      Leads program registry ⟨left, .loop number condition body rest, progress⟩
        ⟨left, .loop number condition body rest, reached⟩
  | afterLoop {left inner number last : Nat} {condition : String} {body rest : Block} {progress : Progress}
      (fails : progress.world.ask? condition = some false)
      (entered : Nesting.enter? Nesting.blockCost left = some inner) (skipped : body.skip inner = .ok last) :
      Leads program registry ⟨left, .loop number condition body rest, progress⟩ ⟨left, rest, progress⟩
  | intoIterate {left inner number more : Nat} {body rest : Block} {progress : Progress}
      (entered : Nesting.enter? Nesting.blockCost left = some inner) :
      Leads program registry ⟨left, .iterate number (more + 1) body rest, progress⟩ ⟨inner, body, progress⟩
  | iterateAgain {left inner number more last : Nat} {body rest : Block} {progress reached : Progress}
      (entered : Nesting.enter? Nesting.blockCost left = some inner)
      (inside : program.Runs registry inner body progress (.finished last reached)) :
      Leads program registry ⟨left, .iterate number (more + 1) body rest, progress⟩
        ⟨left, .iterate number more body rest, reached⟩
  | afterIterate {left inner number last : Nat} {body rest : Block} {progress : Progress}
      (entered : Nesting.enter? Nesting.blockCost left = some inner) (skipped : body.skip inner = .ok last) :
      Leads program registry ⟨left, .iterate number 0 body rest, progress⟩ ⟨left, rest, progress⟩

/-- A later point of the same run. -/
def Visits (program : Program) (registry : Registry) : Point → Point → Prop :=
  Relation.ReflTransGen (program.Leads registry)

/-- What holds of a block holds of the blocks in it and behind its first step. -/
structure Hereditary (Kept : Block → Prop) : Prop where
  statement : ∀ {number name rest}, Kept (.statement number name rest) → Kept rest
  branch : ∀ {number condition body alternative rest}, Kept (.branch number condition body alternative rest) →
    Kept body ∧ Kept alternative ∧ Kept rest
  loop : ∀ {number condition body rest}, Kept (.loop number condition body rest) → Kept body ∧ Kept rest
  iterate : ∀ {number count body rest}, Kept (.iterate number count body rest) →
    Kept body ∧ Kept rest ∧ ∀ fewer, Kept (.iterate number fewer body rest)

/-- What is handed down to inner blocks holds of all that is left to run at every later point, if it holds of the
bodies of instructions too. -/
theorem Visits.hereditary {program : Program} {registry : Registry} {Kept : Block → Prop} {point later : Point}
    (hereditary : Hereditary Kept)
    (sections : ∀ name span, registry.find? name = some span →
      Kept (program.sectionAt span.start span.stop instructionDepth))
    (visits : program.Visits registry point later) (start : Kept point.block) : Kept later.block := by
  induction visits with
  | refl => exact start
  | tail _ leads kept =>
      cases leads with
      | action known performed => exact hereditary.statement kept
      | intoCall other found sober entered => exact sections _ _ found
      | afterCall other found sober entered body => exact hereditary.statement kept
      | intoTaken holds entered => exact (hereditary.branch kept).1
      | afterTaken holds entered inside skipped => exact (hereditary.branch kept).2.2
      | intoOther fails entered skipped => exact (hereditary.branch kept).2.1
      | afterOther fails entered skipped inside => exact (hereditary.branch kept).2.2
      | intoLoop holds entered => exact (hereditary.loop kept).1
      | loopAgain holds entered inside => exact kept
      | afterLoop fails entered skipped => exact (hereditary.loop kept).2
      | intoIterate entered => exact (hereditary.iterate kept).1
      | iterateAgain entered inside => exact (hereditary.iterate kept).2.2 _
      | afterIterate entered skipped => exact (hereditary.iterate kept).2.1

/-- Why the step at a point itself stops the run, and what has been done by then. -/
inductive Raises (program : Program) (registry : Registry) : Point → Stop → Progress → Prop where
  | outOfFuel {point : Point} : Raises program registry point .outOfFuel point.progress
  | tooDeep {point : Point} {cost : Nat} (refused : Nesting.enter? cost point.left = none) :
      Raises program registry point .nestingTooDeep point.progress
  | broken {left : Nat} {problem : Stop} {progress : Progress} :
      Raises program registry ⟨left, .broken problem, progress⟩ problem progress
  | actionFails {left number : Nat} {name : String} {rest : Block} {progress : Progress} {action : Action}
      {hindrance : Hindrance} (known : Action.ofName? name = some action)
      (failed : progress.world.perform action = .error hindrance) :
      Raises program registry ⟨left, .statement number name rest, progress⟩ (hindrance.stop number) progress
  | unknownStatement {left number : Nat} {name : String} {rest : Block} {progress : Progress}
      (other : Action.ofName? name = none) (missing : registry.find? name = none) :
      Raises program registry ⟨left, .statement number name rest, progress⟩
        (.fault (.onLine (.unknownStatement name) number)) progress
  | selfCall {left number guilty : Nat} {name : String} {rest : Block} {progress : Progress} {span : Span}
      (found : registry.find? name = some span) (calls : program.selfCall? name span = some guilty) :
      Raises program registry ⟨left, .statement number name rest, progress⟩
        (.fault (.onLine (.selfCall name) guilty)) progress
  | unknownBranch {left number : Nat} {condition : String} {body alternative rest : Block}
      {progress : Progress} (unknown : progress.world.ask? condition = none) :
      Raises program registry ⟨left, .branch number condition body alternative rest, progress⟩
        (.fault (.onLine (.unknownCondition condition) number)) progress
  | unknownLoop {left number : Nat} {condition : String} {body rest : Block} {progress : Progress}
      (unknown : progress.world.ask? condition = none) :
      Raises program registry ⟨left, .loop number condition body rest, progress⟩
        (.fault (.onLine (.unknownCondition condition) number)) progress
  | alternativeUnread {left inner number last : Nat} {condition : String} {body alternative rest : Block}
      {progress reached : Progress} {problem : Stop}
      (entered : Nesting.enter? Nesting.blockCost left = some inner)
      (inside : program.Runs registry inner body progress (.finished last reached))
      (unread : alternative.skip inner = .error problem) :
      Raises program registry ⟨left, .branch number condition body alternative rest, progress⟩ problem reached
  | branchUnread {left inner number : Nat} {condition : String} {body alternative rest : Block}
      {progress : Progress} {problem : Stop} (entered : Nesting.enter? Nesting.blockCost left = some inner)
      (unread : body.skip inner = .error problem) :
      Raises program registry ⟨left, .branch number condition body alternative rest, progress⟩ problem progress
  | loopUnread {left inner number : Nat} {condition : String} {body rest : Block} {progress : Progress}
      {problem : Stop} (entered : Nesting.enter? Nesting.blockCost left = some inner)
      (unread : body.skip inner = .error problem) :
      Raises program registry ⟨left, .loop number condition body rest, progress⟩ problem progress
  | iterateUnread {left inner number count : Nat} {body rest : Block} {progress : Progress} {problem : Stop}
      (entered : Nesting.enter? Nesting.blockCost left = some inner)
      (unread : body.skip inner = .error problem) :
      Raises program registry ⟨left, .iterate number count body rest, progress⟩ problem progress

section
variable {program : Program} {registry : Registry} {left : Nat} {block : Block} {progress : Progress}
  {outcome : Outcome} {point later : Point}

/-- A problem that is raised further on in the run is raised in the run. -/
theorem Leads.raises {problem : Stop} {reached : Progress} (leads : program.Leads registry point later)
    (raised : ∃ last, program.Visits registry later last ∧ program.Raises registry last problem reached) :
    ∃ last, program.Visits registry point last ∧ program.Raises registry last problem reached := by
  obtain ⟨last, visits, raises⟩ := raised
  exact ⟨last, .head leads visits, raises⟩

theorem Raises.here {problem : Stop} {reached : Progress} (raises : program.Raises registry point problem reached) :
    ∃ last, program.Visits registry point last ∧ program.Raises registry last problem reached :=
  ⟨point, .refl, raises⟩

/-- A run that stops visits the point that raises its problem. -/
theorem Runs.raises {problem : Stop} {reached : Progress}
    (runs : program.Runs registry left block progress (.stopped problem reached)) :
    ∃ last, program.Visits registry ⟨left, block, progress⟩ last ∧
      program.Raises registry last problem reached := by
  generalize stopped : Outcome.stopped problem reached = outcome at runs
  induction runs generalizing problem reached with
  | outOfFuel =>
      cases stopped
      exact Raises.outOfFuel.here
  | done => cases stopped
  | broken =>
      cases stopped
      exact Raises.broken.here
  | action known performed after afterHypothesis =>
      exact (Leads.action known performed).raises (afterHypothesis stopped)
  | actionFails known failed =>
      cases stopped
      exact (Raises.actionFails known failed).here
  | unknownStatement other missing =>
      cases stopped
      exact (Raises.unknownStatement other missing).here
  | selfCall other found calls =>
      cases stopped
      exact (Raises.selfCall found calls).here
  | callTooDeep other found sober refused =>
      cases stopped
      exact (Raises.tooDeep refused).here
  | callStops other found sober entered body bodyHypothesis =>
      exact (Leads.intoCall other found sober entered).raises (bodyHypothesis stopped)
  | call other found sober entered body after bodyHypothesis afterHypothesis =>
      exact (Leads.afterCall other found sober entered body).raises (afterHypothesis stopped)
  | branchUnknown unknown =>
      cases stopped
      exact (Raises.unknownBranch unknown).here
  | branchTooDeep known refused =>
      cases stopped
      exact (Raises.tooDeep refused).here
  | takenStops holds entered inside insideHypothesis =>
      exact (Leads.intoTaken holds entered).raises (insideHypothesis stopped)
  | takenUnread holds entered inside unread insideHypothesis =>
      cases stopped
      exact (Raises.alternativeUnread entered inside unread).here
  | taken holds entered inside skipped after insideHypothesis afterHypothesis =>
      exact (Leads.afterTaken holds entered inside skipped).raises (afterHypothesis stopped)
  | otherUnread fails entered unread =>
      cases stopped
      exact (Raises.branchUnread entered unread).here
  | otherStops fails entered skipped inside insideHypothesis =>
      exact (Leads.intoOther fails entered skipped).raises (insideHypothesis stopped)
  | other fails entered skipped inside after insideHypothesis afterHypothesis =>
      exact (Leads.afterOther fails entered skipped inside).raises (afterHypothesis stopped)
  | loopUnknown unknown =>
      cases stopped
      exact (Raises.unknownLoop unknown).here
  | loopTooDeep known refused =>
      cases stopped
      exact (Raises.tooDeep refused).here
  | loopStops holds entered inside insideHypothesis =>
      exact (Leads.intoLoop holds entered).raises (insideHypothesis stopped)
  | loopAgain holds entered inside after insideHypothesis afterHypothesis =>
      exact (Leads.loopAgain holds entered inside).raises (afterHypothesis stopped)
  | loopUnread fails entered unread =>
      cases stopped
      exact (Raises.loopUnread entered unread).here
  | loopEnds fails entered skipped after afterHypothesis =>
      exact (Leads.afterLoop fails entered skipped).raises (afterHypothesis stopped)
  | iterateTooDeep refused =>
      cases stopped
      exact (Raises.tooDeep refused).here
  | iterateStops entered inside insideHypothesis =>
      exact (Leads.intoIterate entered).raises (insideHypothesis stopped)
  | iterateAgain entered inside after insideHypothesis afterHypothesis =>
      exact (Leads.iterateAgain entered inside).raises (afterHypothesis stopped)
  | iterateUnread entered unread =>
      cases stopped
      exact (Raises.iterateUnread entered unread).here
  | iterateEnds entered skipped after afterHypothesis =>
      exact (Leads.afterIterate entered skipped).raises (afterHypothesis stopped)

section
variable {Kept : Progress → Prop}
  (action : ∀ progress action world, progress.world.perform action = .ok world → Kept progress →
    Kept ⟨world, action :: progress.actions⟩)
include action

/-- What every action keeps is kept by a run: nothing else changes what has been done. -/
theorem Runs.keeps (runs : program.Runs registry left block progress outcome) (start : Kept progress) :
    Kept outcome.progress := by
  induction runs with
  | action known performed after afterHypothesis => exact afterHypothesis (action _ _ _ performed start)
  | callStops other found sober entered body bodyHypothesis => exact bodyHypothesis start
  | call other found sober entered body after bodyHypothesis afterHypothesis =>
      exact afterHypothesis (bodyHypothesis start)
  | takenStops holds entered inside insideHypothesis => exact insideHypothesis start
  | takenUnread holds entered inside unread insideHypothesis => exact insideHypothesis start
  | taken holds entered inside skipped after insideHypothesis afterHypothesis =>
      exact afterHypothesis (insideHypothesis start)
  | otherStops fails entered skipped inside insideHypothesis => exact insideHypothesis start
  | other fails entered skipped inside after insideHypothesis afterHypothesis =>
      exact afterHypothesis (insideHypothesis start)
  | loopStops holds entered inside insideHypothesis => exact insideHypothesis start
  | loopAgain holds entered inside after insideHypothesis afterHypothesis =>
      exact afterHypothesis (insideHypothesis start)
  | loopEnds fails entered skipped after afterHypothesis => exact afterHypothesis start
  | iterateStops entered inside insideHypothesis => exact insideHypothesis start
  | iterateAgain entered inside after insideHypothesis afterHypothesis =>
      exact afterHypothesis (insideHypothesis start)
  | iterateEnds entered skipped after afterHypothesis => exact afterHypothesis start
  | _ => exact start

theorem Leads.keeps (leads : program.Leads registry point later) (start : Kept point.progress) :
    Kept later.progress := by
  cases leads with
  | action known performed => exact action _ _ _ performed start
  | afterCall other found sober entered body => exact body.keeps action start
  | afterTaken holds entered inside skipped => exact inside.keeps action start
  | afterOther fails entered skipped inside => exact inside.keeps action start
  | loopAgain holds entered inside => exact inside.keeps action start
  | iterateAgain entered inside => exact inside.keeps action start
  | _ => exact start

theorem Visits.keeps (visits : program.Visits registry point later) (start : Kept point.progress) :
    Kept later.progress := by
  induction visits with
  | refl => exact start
  | tail _ leads inductionHypothesis => exact leads.keeps action inductionHypothesis

end

end

/-- The points of a whole run: its markers and declarations are accepted, and its execution section visits
the point. -/
def Passes (program : Program) (world : World) (registry : Registry) (point : Point) : Prop :=
  program.checkMarkers = .ok () ∧ ∃ start known,
    program.declare program.turnoffNumber program.turnoffNumber 1 registry = (.ok start, known) ∧
    program.Visits known
      ⟨Nesting.limit, program.sectionAt (start + 1) program.turnoffNumber executionDepth, { world }⟩ point

theorem sectionAt_tour : tour.sectionAt 9 21 executionDepth =
    .loop 9 "front-is-clear" (.statement 11 "move" (.done 12))
      (.branch 13 "next-to-a-beeper" (.statement 15 "pickbeeper" (.done 16))
        (.statement 19 "turnright" (.done 20)) (.done 21)) := by
  decide +kernel

/-- The tour gets into its loop. -/
theorem passes_tour {world : World} (clear : world.ask? "front-is-clear" = some true) :
    tour.Passes world {} ⟨981, .statement 11 "move" (.done 12), { world }⟩ := by
  refine ⟨by rfl, 8, ⟨[("turnright", ⟨3, 7, by decide⟩)]⟩, by rfl, ?_⟩
  show tour.Visits _ ⟨985, tour.sectionAt 9 21 executionDepth, _⟩ _
  rw [sectionAt_tour]
  exact .single (.intoLoop clear rfl)

section
variable {program : Program} {registry : Registry} {world : World} {point : Point} {Kept : Progress → Prop}
  (action : ∀ progress action world, progress.world.perform action = .ok world → Kept progress →
    Kept ⟨world, action :: progress.actions⟩)
include action

/-- What every action keeps holds at every point of a run. -/
theorem Passes.keeps (passes : program.Passes world registry point) (start : Kept { world }) :
    Kept point.progress := by
  obtain ⟨_, _, _, _, visits⟩ := passes
  exact visits.keeps action start

/-- What every action keeps holds when a run has ended. -/
theorem keeps_run (fuel : Nat) (start : Kept { world }) : Kept (program.run fuel world registry).progress := by
  cases marked : program.checkMarkers with
  | error problem =>
      rw [run, marked]
      exact start
  | ok accepted =>
      cases declared : program.declare program.turnoffNumber program.turnoffNumber 1 registry with
      | mk result known =>
          cases result with
          | error problem =>
              rw [run, marked, declared]
              exact start
          | ok number =>
              rw [run_of_declare marked declared, Outcome.progress_execution]
              exact (runs_execute program known fuel Nesting.limit _ _).keeps action start

end

end Program

end GridRobot
