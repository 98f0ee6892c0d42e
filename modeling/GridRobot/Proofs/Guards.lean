import GridRobot.Proofs.Accounts
import GridRobot.Proofs.Showing
import GridRobot.Proofs.Staging

namespace GridRobot

namespace Condition

/-- A condition and the one that asks for its contrary. -/
inductive Opposes : Condition → Condition → Prop where
  | sides (side : Side) : Opposes (.clear side) (.blocked side)
  | beepers : Opposes .nextToBeeper .notNextToBeeper
  | facings (direction : Direction) : Opposes (.facing direction) (.notFacing direction)

/-- The names of conditions that are contrary to each other. -/
def opposites : List (String × String) :=
  [("front-is-clear", "front-is-blocked"), ("left-is-clear", "left-is-blocked"),
    ("right-is-clear", "right-is-blocked"), ("next-to-a-beeper", "not-next-to-a-beeper"),
    ("facing-north", "not-facing-north"), ("facing-south", "not-facing-south"),
    ("facing-east", "not-facing-east"), ("facing-west", "not-facing-west")]

/-- The name of the condition that the robot faces a direction. -/
def facingName : Direction → String
  | .north => "facing-north"
  | .west => "facing-west"
  | .south => "facing-south"
  | .east => "facing-east"

theorem Opposes.holds {condition contrary : Condition} (opposes : condition.Opposes contrary) (world : World) :
    contrary.holds world = !condition.holds world := by
  cases opposes with
  | sides side => exact (Bool.not_not _).symm
  | beepers => rfl
  | facings direction => exact decide_not

end Condition

namespace World

variable {world : World} {name contrary : String} {condition other : Condition}

theorem ask?_of_ofName? (named : Condition.ofName? name = some condition) :
    world.ask? name = some (condition.holds world) := by
  rw [ask?, named]
  rfl

theorem ask?_contrary (named : Condition.ofName? name = some condition)
    (named' : Condition.ofName? contrary = some other) (opposes : condition.Opposes other) :
    ∃ answer, world.ask? name = some answer ∧ world.ask? contrary = some !answer := by
  refine ⟨_, ask?_of_ofName? named, ?_⟩
  rw [ask?_of_ofName? named', opposes.holds]

/-- Each condition of a pair holds exactly if the other does not. -/
theorem ask?_opposites (world : World) :
    ∀ pair ∈ Condition.opposites, ∃ answer, world.ask? pair.1 = some answer ∧ world.ask? pair.2 = some !answer := by
  simp only [Condition.opposites, List.forall_mem_cons, List.not_mem_nil, false_imp_iff, implies_true, and_true]
  exact ⟨ask?_contrary (by decide) (by decide) (.sides .front), ask?_contrary (by decide) (by decide) (.sides .left),
    ask?_contrary (by decide) (by decide) (.sides .right), ask?_contrary (by decide) (by decide) .beepers,
    ask?_contrary (by decide) (by decide) (.facings .north), ask?_contrary (by decide) (by decide) (.facings .south),
    ask?_contrary (by decide) (by decide) (.facings .east), ask?_contrary (by decide) (by decide) (.facings .west)⟩

theorem ask?_facingName (world : World) (direction : Direction) :
    world.ask? (Condition.facingName direction) = some (decide (world.robot.facing = direction)) := by
  have named : Condition.ofName? (Condition.facingName direction) = some (.facing direction) := by
    cases direction <;> decide
  exact ask?_of_ofName? named

/-- The robot faces one direction and no other. -/
theorem existsUnique_facing (world : World) :
    ∃! name, name ∈ ["facing-north", "facing-west", "facing-south", "facing-east"] ∧
      world.ask? name = some true := by
  have names : ["facing-north", "facing-west", "facing-south", "facing-east"] =
      Direction.all.map Condition.facingName := rfl
  have all (direction : Direction) : direction ∈ Direction.all := by cases direction <;> decide
  rw [names]
  refine ⟨Condition.facingName world.robot.facing, ⟨List.mem_map_of_mem (all _), ?_⟩, ?_⟩
  · rw [ask?_facingName, decide_eq_true rfl]
  · rintro name ⟨member, holds⟩
    obtain ⟨direction, _, rfl⟩ := List.mem_map.mp member
    rw [ask?_facingName, Option.some.injEq, decide_eq_true_eq] at holds
    rw [holds]

/-- What stands at the robot's sides stands in front of it once it has turned there. -/
theorem sides_by_turning (world : World) :
    ∃ once thrice, world.perform .turnLeft = .ok once ∧
      [Action.turnLeft, .turnLeft, .turnLeft].foldlM perform world = .ok thrice ∧
      world.ask? "left-is-blocked" = once.ask? "front-is-blocked" ∧
      world.ask? "right-is-blocked" = thrice.ask? "front-is-blocked" := by
  have front : Condition.ofName? "front-is-blocked" = some (.blocked .front) := by decide
  have left : Condition.ofName? "left-is-blocked" = some (.blocked .left) := by decide
  have right : Condition.ofName? "right-is-blocked" = some (.blocked .right) := by decide
  have around : world.robot.facing.left.left.left = world.robot.facing.right := by
    apply Direction.number_injective
    rw [Direction.number_left, Direction.number_left, Direction.number_left, Direction.number_right]
    omega
  refine ⟨_, _, rfl, rfl, ?_, ?_⟩
  · rw [ask?_of_ofName? left, ask?_of_ofName? front]
    rfl
  · rw [ask?_of_ofName? right, ask?_of_ofName? front]
    simp only [Condition.holds, isBlockedOn, rightIsBlocked, frontIsBlocked, Robot.rightSide, Robot.front, around]
    rfl

/-- An action can be done exactly if the condition that guards it holds. -/
theorem perform_iff_ask? (world : World) :
    ((∃ next, world.perform .move = .ok next) ↔ world.ask? "front-is-clear" = some true) ∧
    ((∃ next, world.perform .pickBeeper = .ok next) ↔ world.ask? "next-to-a-beeper" = some true) ∧
    ((∃ next, world.perform .putBeeper = .ok next) ↔ world.ask? "beeper-in-bag" = some true) ∧
    ∃ next, world.perform .turnLeft = .ok next := by
  have clear : Condition.ofName? "front-is-clear" = some (.clear .front) := by decide
  have near : Condition.ofName? "next-to-a-beeper" = some .nextToBeeper := by decide
  have loaded : Condition.ofName? "beeper-in-bag" = some .beeperInBag := by decide
  rw [ask?_of_ofName? clear, ask?_of_ofName? near, ask?_of_ofName? loaded]
  simp only [Condition.holds, isBlockedOn, perform]
  refine ⟨?_, ?_, ?_, _, rfl⟩
  · cases world.frontIsBlocked <;> simp
  · cases world.nextToBeeper <;> simp
  · cases world.beeperInBag <;> simp

end World

namespace Listener

section
variable {α : Type} [Listener α] {left : Nat} {action : Action} {world : World}

/-- Listeners are told of an action in turn, each of them once, and none of them fails. -/
inductive Told (left : Nat) (action : Action) (world : World) :
    (listeners : List α) → (workspace : Workspace) → (told : List α) → (reached : Workspace) → Prop where
  | nil (workspace : Workspace) : Told left action world [] workspace [] workspace
  | cons {listener heard : α} {rest others : List α} {workspace middle reached : Workspace}
      (first : notify left listener action world workspace = { state := (heard, middle) })
      (later : Told left action world rest middle others reached) :
      Told left action world (listener :: rest) workspace (heard :: others) reached

/-- Either all listeners are told, or one of them fails and is the last that is told. -/
theorem notifyAll_cases (left : Nat) (action : Action) (world : World) (listeners : List α) (workspace : Workspace) :
    (∃ told reached, notifyAll left action world listeners workspace = { state := (told, reached) } ∧
      Told left action world listeners workspace told reached) ∨
    ∃ before listener after told middle heard reached failure, listeners = before ++ listener :: after ∧
      Told left action world before workspace told middle ∧
      notify left listener action world middle = { state := (heard, reached), failure := some failure } ∧
      notifyAll left action world listeners workspace =
        { state := (told ++ heard :: after, reached), failure := some failure } := by
  induction listeners generalizing workspace with
  | nil => exact Or.inl ⟨[], workspace, rfl, .nil workspace⟩
  | cons listener rest inductionHypothesis =>
      cases first : notify left listener action world workspace with
      | mk state failed =>
          obtain ⟨heard, middle⟩ := state
          cases failed with
          | some failure =>
              refine Or.inr ⟨[], listener, rest, [], workspace, heard, middle, failure, rfl, .nil workspace, first, ?_⟩
              simp only [notifyAll, first, List.nil_append]
          | none =>
              rcases inductionHypothesis middle with ⟨others, reached, all, told⟩ |
                ⟨before, last, after, others, between, final, reached, failure, rfl, told, failed, broken⟩
              · refine Or.inl ⟨heard :: others, reached, ?_, .cons first told⟩
                simp only [notifyAll, first, all]
              · refine Or.inr ⟨listener :: before, last, after, heard :: others, between, final, reached, failure,
                  rfl, .cons first told, failed, ?_⟩
                simp only [notifyAll, first, broken, List.cons_append]

end

end Listener

namespace Observer

/-- What the console gets to see when an observer is told of a world. -/
def showing (world : World) : Observer → List Showing
  | .display screen => Showing.rest screen.delay ++ [.text (screen.frame world)]
  | .recorder _ => []

/-- An observer has been told once more, of an action and the world after it: a display has drawn one frame more, and
a recorder has one row more, which is that of the action and the world. -/
inductive Heard (action : Action) (world : World) : Observer → Observer → Prop where
  | display (screen : Display) :
      Heard action world (.display screen) (.display { screen with frames := screen.frames + 1 })
  | recorder {book book' : Recorder} (count : book'.rowsWritten = book.rowsWritten + 1)
      (rows : book'.groups.flatten ++ book'.buffer.reverse =
        book.groups.flatten ++ book.buffer.reverse ++ [TraceRow.ofWorld book.runId action.name world]) :
      Heard action world (.recorder book) (.recorder book')

/-- What comes of telling an observer. One that fails has not drawn its frame, as the pause cannot be made or the
nesting that is left is not enough, or it has no row more for want of nesting, or its rows cannot be written. -/
inductive Hears (left : Nat) (action : Action) (world : World) (workspace : Workspace) :
    Observer → Attempt (Observer × Workspace) → Prop where
  | heard {observer told : Observer} {reached : Workspace} (heard : Heard action world observer told)
      (shown : workspace.Shows (observer.showing world) reached) :
      Hears left action world workspace observer { state := (told, reached) }
  | restless {screen : Display} {failure : Failure} (raised : screen.rest workspace = .error failure) :
      Hears left action world workspace (.display screen)
        { state := (.display screen, workspace), failure := some failure }
  | torn {screen : Display} {part : List Showing} {reached : Workspace} (tight : left < Nesting.frameCost)
      (partly : part = [] ∨ part = Showing.rest screen.delay ++ [.text screen.heading])
      (shown : workspace.Shows part reached) :
      Hears left action world workspace (.display screen)
        { state := (.display screen, reached), failure := some .nestingTooDeep }
  | missed {book : Recorder} (tight : left < Nesting.rowCost) :
      Hears left action world workspace (.recorder book)
        { state := (.recorder book, workspace), failure := some .nestingTooDeep }
  | unwritten {book book' : Recorder} {reached : Workspace} {failure : Failure}
      (heard : Heard action world (.recorder book) (.recorder book')) (shown : workspace.Shows [] reached) :
      Hears left action world workspace (.recorder book)
        { state := (.recorder book', reached), failure := some failure }

end Observer

namespace Recorder

variable {action : Action} {world : World}

theorem rowsWritten_flush (recorder : Recorder) (files : FileTree) (directory : List String) :
    (recorder.flush files directory).state.1.rowsWritten = recorder.rowsWritten := by
  rcases recorder.state_flush files directory with ⟨same, _⟩ | same
  · rw [same]
  · rw [same]
    rfl

theorem heard_add (recorder : Recorder) :
    Observer.Heard action world (.recorder recorder) (.recorder (recorder.add action.name world)) :=
  .recorder rfl (by simp [add])

/-- To record an action is one row more, whether the rows can be written or not. -/
theorem heard_record (recorder : Recorder) (files : FileTree) (directory : List String) :
    Observer.Heard action world (.recorder recorder)
      (.recorder (recorder.record files directory action.name world).state.1) := by
  rw [record]
  split
  · apply Observer.Heard.recorder
    · exact rowsWritten_flush ..
    · rw [(flush_keeps _ _ _).2.2.2]
      simp [add]
  · exact recorder.heard_add

end Recorder

namespace Display

variable {left : Nat} {action : Action} {world : World} {workspace : Workspace}

theorem shows_print (workspace : Workspace) (text : String) : workspace.Shows [.text text] (workspace.print text) :=
  ⟨rfl, rfl, rfl⟩

theorem hears (display : Display) (left : Nat) (action : Action) (world : World) (workspace : Workspace) :
    Observer.Hears left action world workspace (.display display)
      (Listener.notify left (Observer.display display) action world workspace) := by
  simp only [Listener.notify]
  split
  · rename_i tight
    rw [interrupt]
    split
    · exact .torn tight (Or.inl rfl) (.refl workspace)
    · cases made : display.rest workspace with
      | error failure => exact .restless made
      | ok rested => exact .torn tight (Or.inr rfl) ((shows_rest made).trans (shows_print rested _))
  · rw [draw]
    cases made : display.rest workspace with
    | error failure => exact .restless made
    | ok rested => exact .heard (.display display) ((shows_rest made).trans (shows_print rested _))

end Display

/-- To tell an observer is to tell it once, and if it fails it is told of nothing but this. -/
theorem Observer.hears (observer : Observer) (left : Nat) (action : Action) (world : World) (workspace : Workspace) :
    Hears left action world workspace observer (Listener.notify left observer action world workspace) := by
  cases observer with
  | display screen => exact screen.hears left action world workspace
  | recorder book =>
      have heard := @Recorder.heard_record action world book workspace.files workspace.directory
      simp only [Listener.notify]
      split
      · cases (book.record workspace.files workspace.directory action.name world).failure with
        | none => exact .heard heard ⟨rfl, rfl, rfl⟩
        | some failure => exact .unwritten heard ⟨rfl, rfl, rfl⟩
      · rw [Recorder.interrupt]
        split
        · rename_i tight
          exact .missed tight
        · exact .unwritten book.heard_add (.refl workspace)

namespace Performance

variable {α : Type} [Listener α]

/-- What becomes of an action on stage. If it cannot be done, everything stays as it is. If it can, there is one step
more, and then every listener is told of the world after it, once; or a listener fails at that, and those behind it
are not told. -/
inductive Concludes (stage : Stage α) (left number : Nat) (action : Action) :
    EStateM.Result BreakOff (Stage α) Unit → Prop where
  | refused {hindrance : Hindrance} (hindered : stage.progress.world.perform action = .error hindrance) :
      Concludes stage left number action (.error (.problem (hindrance.stop number)) stage)
  | done {next : World} {told : List α} {reached : Workspace}
      (performed : stage.progress.world.perform action = .ok next)
      (step : next.steps = stage.progress.world.steps + 1)
      (heard : Listener.Told left action next stage.listeners stage.workspace told reached) :
      Concludes stage left number action
        (.ok () ⟨⟨next, action :: stage.progress.actions⟩, stage.registry, told, reached⟩)
  | brokenOff {next : World} {before after told : List α} {listener heard : α} {middle reached : Workspace}
      {failure : Failure} (performed : stage.progress.world.perform action = .ok next)
      (step : next.steps = stage.progress.world.steps + 1)
      (listening : stage.listeners = before ++ listener :: after)
      (earlier : Listener.Told left action next before stage.workspace told middle)
      (failed : Listener.notify left listener action next middle =
        { state := (heard, reached), failure := some failure }) :
      Concludes stage left number action (.error (.ofFailure number failure)
        ⟨⟨next, action :: stage.progress.actions⟩, stage.registry, told ++ heard :: after, reached⟩)

theorem concludes_act (stage : Stage α) (left number : Nat) (action : Action) :
    Concludes stage left number action (act left number action stage) := by
  cases performed : stage.progress.world.perform action with
  | error hindrance =>
      rw [act_of_error performed]
      exact .refused performed
  | ok next =>
      obtain ⟨_, _, _, step⟩ := (World.acts_of_perform performed).frame
      rcases Listener.notifyAll_cases left action next stage.listeners stage.workspace with
        ⟨told, reached, all, heard⟩ |
        ⟨before, listener, after, told, middle, heard, reached, failure, listening, earlier, failed, broken⟩
      · rw [act_of_told performed all]
        exact .done performed step heard
      · rw [act_of_failure performed broken]
        exact .brokenOff performed step listening earlier failed

end Performance

namespace Stage

/-- Guards are exact and failures are atomic. An action can be done exactly if the condition that guards it holds;
whatever becomes of it, either nothing changes and nobody is told, or it is one step and every listener is told once
after it, as a display with a frame and a recorder with a row. The sides of the robot are what it has in front after
turning, conditions come in contrary pairs, the robot faces one direction only, and to ask for a condition changes
nothing. -/
theorem guards_are_exact {α : Type} [Listener α] (stage : Stage α) (left number : Nat) :
    (∀ action, Performance.Concludes stage left number action (Performance.act left number action stage)) ∧
    (∀ observer action world workspace,
      Observer.Hears left action world workspace observer (Listener.notify left observer action world workspace)) ∧
    ((∃ next, stage.progress.world.perform .move = .ok next) ↔
      stage.progress.world.ask? "front-is-clear" = some true) ∧
    ((∃ next, stage.progress.world.perform .pickBeeper = .ok next) ↔
      stage.progress.world.ask? "next-to-a-beeper" = some true) ∧
    ((∃ next, stage.progress.world.perform .putBeeper = .ok next) ↔
      stage.progress.world.ask? "beeper-in-bag" = some true) ∧
    (∃ once thrice, stage.progress.world.perform .turnLeft = .ok once ∧
      [Action.turnLeft, .turnLeft, .turnLeft].foldlM World.perform stage.progress.world = .ok thrice ∧
      stage.progress.world.ask? "left-is-blocked" = once.ask? "front-is-blocked" ∧
      stage.progress.world.ask? "right-is-blocked" = thrice.ask? "front-is-blocked") ∧
    (∀ pair ∈ Condition.opposites, ∃ answer, stage.progress.world.ask? pair.1 = some answer ∧
      stage.progress.world.ask? pair.2 = some !answer) ∧
    (∃! name, name ∈ ["facing-north", "facing-west", "facing-south", "facing-east"] ∧
      stage.progress.world.ask? name = some true) ∧
    ∀ name, (∃ answer, stage.progress.world.ask? name = some answer ∧
        Performance.ask number name stage = .ok answer stage) ∨
      stage.progress.world.ask? name = none ∧ Performance.ask number name stage =
        .error (.problem (.fault (.onLine (.unknownCondition name) number))) stage := by
  obtain ⟨clear, near, loaded, _⟩ := stage.progress.world.perform_iff_ask?
  refine ⟨Performance.concludes_act stage left number,
    fun observer action world workspace => observer.hears left action world workspace, clear, near, loaded,
    stage.progress.world.sides_by_turning, stage.progress.world.ask?_opposites,
    stage.progress.world.existsUnique_facing, ?_⟩
  intro name
  cases asked : stage.progress.world.ask? name with
  | none => exact Or.inr ⟨rfl, Performance.ask_of_none asked⟩
  | some answer => exact Or.inl ⟨answer, rfl, Performance.ask_of_some asked⟩

/-- One cell between four borders with a beeper on it, a bag that owes two, and a display. -/
def cramped : Stage Observer :=
  ⟨{ world := ⟨1, 1, ⟨⟨0, 0⟩, .north, -2⟩, [], [⟨0, 0⟩], 0⟩ }, {}, [.display { delay := 5 }],
    { files := {}, directory := [] }⟩

theorem guards_are_exact_cramped :
    ("front-is-clear", "front-is-blocked") ∈ Condition.opposites ∧
      cramped.progress.world.ask? "front-is-clear" = some false ∧
      cramped.progress.world.ask? "front-is-blocked" = some true ∧
      Performance.act 900 4 .move cramped =
        .error (.problem (.fault (.onLine (.robot .frontBlocked) 4))) cramped ∧
      ¬ (∃ next, cramped.progress.world.perform .putBeeper = .ok next) ∧
      ∃ reached, Performance.act 900 4 .pickBeeper cramped =
          .ok () ⟨⟨⟨1, 1, ⟨⟨0, 0⟩, .north, -1⟩, [], [], 1⟩, [.pickBeeper]⟩, {}, [.display ⟨5, true, 1⟩], reached⟩ ∧
        reached.pauses = [5] := by
  have listed : ("front-is-clear", "front-is-blocked") ∈ Condition.opposites := by decide
  have clear : cramped.progress.world.ask? "front-is-clear" = some false := by decide
  obtain ⟨concludes, _, _, _, loaded, _, contrary, _, _⟩ := guards_are_exact cramped 900 4
  refine ⟨listed, clear, ?_, ?_, ?_, ?_⟩
  · obtain ⟨answer, asked, blocked⟩ := contrary _ listed
    rw [clear] at asked
    cases asked
    exact blocked
  · have concluded := concludes .move
    generalize Performance.act 900 4 .move cramped = result at concluded
    cases concluded with
    | refused hindered => cases hindered; rfl
    | done performed => cases performed
    | brokenOff performed => cases performed
  · rw [loaded]
    decide
  · have drawn : Listener.notify 900 (Observer.display { delay := 5 }) .pickBeeper
        ⟨1, 1, ⟨⟨0, 0⟩, .north, -1⟩, [], [], 1⟩ cramped.workspace =
        { state := (.display ⟨5, true, 1⟩, { cramped.workspace with
            shown := [.text (Map.frame ⟨1, 1, ⟨⟨0, 0⟩, .north, -1⟩, [], [], 1⟩), .pause 5] }) } := rfl
    have concluded := concludes .pickBeeper
    generalize Performance.act 900 4 .pickBeeper cramped = result at concluded
    cases concluded with
    | refused hindered => cases hindered
    | done performed step heard =>
        cases performed
        cases heard with
        | cons first later =>
            cases drawn.symm.trans first
            cases later
            exact ⟨_, rfl, rfl⟩
    | brokenOff performed step listening earlier failed =>
        cases performed
        rcases List.cons_eq_append_iff.mp listening with ⟨rfl, same⟩ | ⟨_, _, none⟩
        · cases same
          cases earlier
          cases drawn.symm.trans failed
        · cases (List.append_eq_nil_iff.mp none.symm).2

end Stage

end GridRobot
