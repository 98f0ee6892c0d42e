import GridRobot.Stage
import GridRobot.Proofs.Chronicle
import GridRobot.Proofs.Files

namespace GridRobot

/-- Actions lead from one moment of a run to a later one. -/
structure Progress.Follows (start : Progress) (added : List Action) (progress : Progress) : Prop where
  actions : progress.actions = added.reverse ++ start.actions
  replayed : added.foldlM World.perform start.world = .ok progress.world

namespace Progress.Follows

variable {start middle progress : Progress} {first second : List Action}

theorem refl (progress : Progress) : progress.Follows [] progress :=
  ⟨rfl, rfl⟩

theorem trans (before : start.Follows first middle) (after : middle.Follows second progress) :
    start.Follows (first ++ second) progress := by
  refine ⟨?_, World.replay_append.mpr ⟨_, before.replayed, after.replayed⟩⟩
  rw [after.actions, before.actions, List.reverse_append, List.append_assoc]

theorem action {action : Action} {world : World} (performed : progress.world.perform action = .ok world) :
    progress.Follows [action] ⟨world, action :: progress.actions⟩ :=
  ⟨rfl, World.replay_cons.mpr ⟨world, performed, rfl⟩⟩

end Progress.Follows

/-- A run only goes on. -/
theorem Program.Runs.follows {program : Program} {registry : Registry} {left : Nat} {block : Block}
    {progress : Progress} {outcome : Outcome} (runs : program.Runs registry left block progress outcome) :
    ∃ added, progress.Follows added outcome.progress := by
  have kept : ∀ (reached : Progress) (action : Action) (world : World),
      reached.world.perform action = .ok world → (∃ added, progress.Follows added reached) →
      ∃ added, progress.Follows added ⟨world, action :: reached.actions⟩ := by
    rintro reached action world performed ⟨added, follows⟩
    exact ⟨added ++ [action], follows.trans (.action performed)⟩
  exact runs.keeps kept ⟨[], .refl progress⟩

theorem World.history_append {start middle : World} {first : List Action}
    (replayed : first.foldlM perform start = .ok middle) (second : List Action) :
    start.history (first ++ second) = start.history first ++ middle.history second := by
  induction first generalizing start with
  | nil =>
      cases replayed
      rfl
  | cons action later inductionHypothesis =>
      obtain ⟨next, performed, replayed⟩ := replay_cons.mp replayed
      simp only [List.cons_append, history, performed, inductionHypothesis replayed]

section
variable {α : Type} [Listener α]

/-- Listeners are told of a history, action by action, and none of them fails. -/
inductive Tells : (history : List (Action × World)) → (listeners : List α) → (workspace : Workspace) →
    (told : List α) → (reached : Workspace) → Prop where
  | nil {listeners : List α} {workspace : Workspace} : Tells [] listeners workspace listeners workspace
  | cons {left : Nat} {action : Action} {world : World} {later : List (Action × World)}
      {listeners told heard : List α} {workspace middle reached : Workspace}
      (first : Listener.notifyAll left action world listeners workspace = { state := (told, middle) })
      (after : Tells later told middle heard reached) :
      Tells ((action, world) :: later) listeners workspace heard reached

/-- Telling nobody of a history does nothing. -/
theorem Tells.of_nil {history : List (Action × World)} {told : List α} {workspace reached : Workspace}
    (tells : Tells history [] workspace told reached) : told = [] ∧ reached = workspace := by
  induction history generalizing workspace with
  | nil =>
      cases tells
      exact ⟨rfl, rfl⟩
  | cons entry later inductionHypothesis =>
      cases tells with
      | cons first after =>
          cases first
          exact inductionHypothesis after

/-- Listeners who can be told of a first part are told of the rest where that leaves them. -/
theorem Tells.append {first second : List (Action × World)} {listeners told heard : List α}
    {workspace middle reached : Workspace} (before : Tells first listeners workspace told middle)
    (after : Tells second told middle heard reached) :
    Tells (first ++ second) listeners workspace heard reached := by
  induction before with
  | nil => exact after
  | cons first rest inductionHypothesis => exact .cons first (inductionHypothesis after)

end

/-- How a run of a block on stage ends if no listener fails. -/
def Outcome.onStage {α : Type} : Outcome → Stage α → EStateM.Result BreakOff (Stage α) Nat
  | .finished number _, stage => .ok number stage
  | .stopped problem _, stage => .error (.problem problem) stage

namespace Performance

variable {α : Type}

/-- A run on stage from a point mirrors the run that nobody watches: all its actions are done and the listeners are
told of them, or one of them fails at an action that the run comes to, after they were told of all actions before
it. -/
inductive Mirrors [Listener α] (program : Program) (registry : Registry) (point : Point) (listeners : List α)
    (workspace : Workspace) (outcome : Outcome) : EStateM.Result BreakOff (Stage α) Nat → Prop where
  | heard {added : List Action} {told : List α} {reached : Workspace}
      (follows : point.progress.Follows added outcome.progress)
      (tells : Tells (point.progress.world.history added) listeners workspace told reached) :
      Mirrors program registry point listeners workspace outcome
        (outcome.onStage ⟨outcome.progress, registry, told, reached⟩)
  | broken {left number : Nat} {action : Action} {rest : Block} {before : Progress} {added more : List Action}
      {world : World} {told heard : List α} {middle reached : Workspace} {failure : Failure}
      (visits : program.Visits registry point ⟨left, .statement number action.name rest, before⟩)
      (follows : point.progress.Follows added before)
      (tells : Tells (point.progress.world.history added) listeners workspace told middle)
      (performed : before.world.perform action = .ok world)
      (failed : Listener.notifyAll left action world told middle =
        { state := (heard, reached), failure := some failure })
      (later : Progress.Follows ⟨world, action :: before.actions⟩ more outcome.progress) :
      Mirrors program registry point listeners workspace outcome
        (.error (.ofFailure number failure) ⟨⟨world, action :: before.actions⟩, registry, heard, reached⟩)

theorem get_bind {β : Type} (next : Stage α → Performance α β) (stage : Stage α) :
    (get >>= next) stage = next stage stage :=
  rfl

section
variable {program : Program} {progress : Progress} {registry : Registry} {listeners told : List α}
  {workspace reached : Workspace} {number cost left inner : Nat} {condition name : String} {span : Span}
  {action : Action} {world : World}

theorem ofExcept_ok {β : Type} (value : β) : (ofExcept (.ok value) : Performance α β) = pure value :=
  rfl

theorem ask_of_some {answer : Bool} (known : progress.world.ask? condition = some answer) :
    ask number condition ⟨progress, registry, listeners, workspace⟩ =
      .ok answer ⟨progress, registry, listeners, workspace⟩ := by
  rw [ask, get_bind, known]
  rfl

theorem ask_of_none (unknown : progress.world.ask? condition = none) :
    ask number condition ⟨progress, registry, listeners, workspace⟩ =
      .error (.problem (.fault (.onLine (.unknownCondition condition) number)))
        ⟨progress, registry, listeners, workspace⟩ := by
  rw [ask, get_bind, unknown]
  rfl

theorem enter_of_some {stage : Stage α} (entered : Nesting.enter? cost left = some inner) :
    enter cost left stage = .ok inner stage := by
  rw [enter, entered]
  rfl

theorem enter_of_none {stage : Stage α} (refused : Nesting.enter? cost left = none) :
    enter cost left stage = .error (.problem .nestingTooDeep) stage := by
  rw [enter, refused]
  rfl

theorem callee_of_none (missing : registry.find? name = none) :
    callee program number name ⟨progress, registry, listeners, workspace⟩ =
      .error (.problem (.fault (.onLine (.unknownStatement name) number)))
        ⟨progress, registry, listeners, workspace⟩ := by
  rw [callee, get_bind, missing]
  rfl

theorem callee_of_selfCall {guilty : Nat} (found : registry.find? name = some span)
    (calls : program.selfCall? name span = some guilty) :
    callee program number name ⟨progress, registry, listeners, workspace⟩ =
      .error (.problem (.fault (.onLine (.selfCall name) guilty)))
        ⟨progress, registry, listeners, workspace⟩ := by
  rw [callee, get_bind, found]
  simp only [calls]
  rfl

theorem callee_of_some (found : registry.find? name = some span)
    (sober : program.selfCall? name span = none) :
    callee program number name ⟨progress, registry, listeners, workspace⟩ =
      .ok span ⟨progress, registry, listeners, workspace⟩ := by
  rw [callee, get_bind, found]
  simp only [sober]
  rfl

variable [Listener α]

theorem act_of_error {hindrance : Hindrance} (hindered : progress.world.perform action = .error hindrance) :
    act left number action ⟨progress, registry, listeners, workspace⟩ =
      .error (.problem (hindrance.stop number)) ⟨progress, registry, listeners, workspace⟩ := by
  rw [act, get_bind, hindered]
  rfl

theorem act_of_told (performed : progress.world.perform action = .ok world)
    (heard : Listener.notifyAll left action world listeners workspace = { state := (told, reached) }) :
    act left number action ⟨progress, registry, listeners, workspace⟩ =
      .ok () ⟨⟨world, action :: progress.actions⟩, registry, told, reached⟩ := by
  rw [act, get_bind, performed]
  simp only [heard]
  rfl

theorem act_of_failure {failure : Failure} (performed : progress.world.perform action = .ok world)
    (heard : Listener.notifyAll left action world listeners workspace =
      { state := (told, reached), failure := some failure }) :
    act left number action ⟨progress, registry, listeners, workspace⟩ =
      .error (.ofFailure number failure) ⟨⟨world, action :: progress.actions⟩, registry, told, reached⟩ := by
  rw [act, get_bind, performed]
  simp only [heard]
  rfl

end

namespace Mirrors

variable [Listener α] {program : Program} {registry : Registry} {point inner next : Point} {listeners : List α}
  {workspace : Workspace} {outcome : Outcome} {result : EStateM.Result BreakOff (Stage α) Nat}
  {part : Performance α Nat} {continuation : Nat → Performance α Nat} {middle : Progress}

/-- Where nothing is done, nobody is told of anything. -/
theorem still (outcome : Outcome) (left : Nat) (block : Block) :
    Mirrors program registry ⟨left, block, outcome.progress⟩ listeners workspace outcome
      (outcome.onStage ⟨outcome.progress, registry, listeners, workspace⟩) :=
  heard (.refl _) .nil

/-- What a step that does nothing itself leads to is what the step comes to. -/
theorem leads (leads : program.Leads registry point next) (same : next.progress = point.progress)
    (after : Mirrors program registry next listeners workspace outcome result) :
    Mirrors program registry point listeners workspace outcome result := by
  cases after with
  | heard follows tells =>
      rw [same] at follows tells
      exact heard follows tells
  | broken visits follows tells performed failed later =>
      rw [same] at follows tells
      exact broken (.head leads visits) follows tells performed failed later

/-- A run on stage goes on from what the listeners have been told of. -/
theorem goesOn {added : List Action} {told : List α} {reached : Workspace}
    (leads : program.Leads registry point next) (follows : point.progress.Follows added next.progress)
    (tells : Tells (point.progress.world.history added) listeners workspace told reached)
    (after : Mirrors program registry next told reached outcome result) :
    Mirrors program registry point listeners workspace outcome result := by
  cases after with
  | heard follows' tells' =>
      have whole := tells.append tells'
      rw [← World.history_append follows.replayed] at whole
      exact heard (follows.trans follows') whole
  | broken visits follows' tells' performed failed later =>
      have whole := tells.append tells'
      rw [← World.history_append follows.replayed] at whole
      exact broken (.head leads visits) (follows.trans follows') whole performed failed later

/-- A part that does not come to its end is the end of the whole. -/
theorem stops {problem : Stop} {reached : Progress}
    (into : program.Leads registry point inner) (same : inner.progress = point.progress)
    (mirrors : Mirrors program registry inner listeners workspace (.stopped problem reached)
      (part ⟨inner.progress, registry, listeners, workspace⟩)) :
    Mirrors program registry point listeners workspace (.stopped problem reached)
      ((part >>= continuation) ⟨point.progress, registry, listeners, workspace⟩) := by
  rw [← same]
  have mirrors := mirrors.leads into same
  generalize done : part ⟨inner.progress, registry, listeners, workspace⟩ = result at mirrors
  cases mirrors with
  | heard follows tells =>
      rw [bind_of_error done]
      exact heard follows tells
  | broken visits follows tells performed failed later =>
      rw [bind_of_error done]
      exact broken visits follows tells performed failed later

/-- After a part that comes to its end the run goes on, unless a listener has failed by then. -/
theorem andThen {last : Nat} (into : program.Leads registry point inner) (same : inner.progress = point.progress)
    (mirrors : Mirrors program registry inner listeners workspace (.finished last middle)
      (part ⟨inner.progress, registry, listeners, workspace⟩))
    (later : ∃ more, middle.Follows more outcome.progress)
    (after : ∀ added listeners' workspace', point.progress.Follows added middle →
      Tells (point.progress.world.history added) listeners workspace listeners' workspace' →
      Mirrors program registry point listeners workspace outcome
        (continuation last ⟨middle, registry, listeners', workspace'⟩)) :
    Mirrors program registry point listeners workspace outcome
      ((part >>= continuation) ⟨point.progress, registry, listeners, workspace⟩) := by
  rw [← same]
  have mirrors := mirrors.leads into same
  generalize done : part ⟨inner.progress, registry, listeners, workspace⟩ = result at mirrors
  cases mirrors with
  | heard follows tells =>
      rw [bind_of_ok done]
      exact after _ _ _ follows tells
  | broken visits follows tells performed failed between =>
      obtain ⟨more, further⟩ := later
      rw [bind_of_error done]
      exact broken visits follows tells performed failed (between.trans further)

/-- After a part that comes to its end the run goes on at a next point. -/
theorem resumes {last : Nat} (into : program.Leads registry point inner) (same : inner.progress = point.progress)
    (leads : program.Leads registry point next)
    (mirrors : Mirrors program registry inner listeners workspace (.finished last next.progress)
      (part ⟨inner.progress, registry, listeners, workspace⟩))
    (later : ∃ more, next.progress.Follows more outcome.progress)
    (after : ∀ told reached, Mirrors program registry next told reached outcome
      (continuation last ⟨next.progress, registry, told, reached⟩)) :
    Mirrors program registry point listeners workspace outcome
      ((part >>= continuation) ⟨point.progress, registry, listeners, workspace⟩) := by
  apply mirrors.andThen into same later
  intro added told reached follows tells
  exact .goesOn leads follows tells (after told reached)

/-- An action is done, and the listeners are told of it before the run goes on. -/
theorem afterAction {left number : Nat} {action : Action} {rest : Block} {progress : Progress} {world : World}
    {part : Performance α Nat} (known : Action.ofName? action.name = some action)
    (performed : progress.world.perform action = .ok world)
    (later : ∃ more, Progress.Follows ⟨world, action :: progress.actions⟩ more outcome.progress)
    (after : ∀ told reached,
      Mirrors program registry ⟨left, rest, ⟨world, action :: progress.actions⟩⟩ told reached outcome
        (part ⟨⟨world, action :: progress.actions⟩, registry, told, reached⟩)) :
    Mirrors program registry ⟨left, .statement number action.name rest, progress⟩ listeners workspace outcome
      ((do act left number action; part) ⟨progress, registry, listeners, workspace⟩) := by
  have follows := Progress.Follows.action performed
  cases notified : Listener.notifyAll left action world listeners workspace with
  | mk state failure =>
      obtain ⟨told, reached⟩ := state
      cases failure with
      | none =>
          rw [bind_of_ok (act_of_told performed notified)]
          refine goesOn (.action known performed) follows ?_ (after told reached)
          simp only [World.history, performed]
          exact .cons notified .nil
      | some failure =>
          obtain ⟨more, follows'⟩ := later
          rw [bind_of_error (act_of_failure performed notified)]
          exact broken .refl (.refl _) .nil performed notified follows'

end Mirrors

/-- A block on stage mirrors its execution: what a listener does or fails in has no bearing on it up to there. -/
theorem mirrors_play [Listener α] (program : Program) (registry : Registry) (fuel left : Nat) (block : Block)
    (progress : Progress) (listeners : List α) (workspace : Workspace) :
    Mirrors program registry ⟨left, block, progress⟩ listeners workspace
      (program.execute registry fuel left block progress)
      (play program fuel left block ⟨progress, registry, listeners, workspace⟩) := by
  -- What is left of the execution says which actions nobody is told of after a listener has failed.
  have later : ∀ (fuel left : Nat) (block : Block) (progress : Progress),
      ∃ more, progress.Follows more (program.execute registry fuel left block progress).progress :=
    fun fuel left block progress => (program.runs_execute registry fuel left block progress).follows
  -- A part that has ended is a run, which says where the next point is.
  have ran {fuel left : Nat} {block : Block} {progress : Progress} {outcome : Outcome}
      (executed : program.execute registry fuel left block progress = outcome) :
      program.Runs registry left block progress outcome :=
    executed ▸ program.runs_execute registry fuel left block progress
  fun_induction Program.execute program registry fuel left block progress generalizing listeners workspace with
  | case1 left block progress => exact .still (.stopped .outOfFuel progress) left block
  | case2 fuel left number progress => exact .still (.finished number progress) left _
  | case3 fuel left problem progress => exact .still (.stopped problem progress) left _
  | case4 fuel left number name rest progress action known hindrance hindered =>
      simp only [play, known]
      rw [bind_of_error (act_of_error hindered)]
      exact .still (.stopped _ progress) left _
  | case5 fuel left number name rest progress action known world performed after =>
      simp only [play, known]
      obtain rfl := Action.name_of_ofName? known
      exact .afterAction known performed (later fuel left rest _) after
  | case6 fuel left number name rest progress other missing =>
      simp only [play, other]
      rw [bind_of_error (callee_of_none missing)]
      exact .still (.stopped _ progress) left _
  | case7 fuel left number name rest progress other span found guilty calls =>
      simp only [play, other]
      rw [bind_of_error (callee_of_selfCall found calls)]
      exact .still (.stopped _ progress) left _
  | case8 fuel left number name rest progress other span found sober refused =>
      simp only [play, other]
      rw [bind_of_ok (callee_of_some found sober), bind_of_error (enter_of_none refused)]
      exact .still (.stopped _ progress) left _
  | case9 fuel left number name rest progress other span found sober inner entered called problem reached
      executed =>
      rename_i body
      simp only [play, other]
      rw [bind_of_ok (callee_of_some found sober), bind_of_ok (enter_of_some entered)]
      have body := body listeners workspace
      rw [executed] at body
      exact body.stops (.intoCall other found sober entered) rfl
  | case10 fuel left number name rest progress other span found sober inner entered called last reached
      executed body =>
      rename_i after
      simp only [play, other]
      rw [bind_of_ok (callee_of_some found sober), bind_of_ok (enter_of_some entered)]
      have body := body listeners workspace
      rw [executed] at body
      exact body.resumes (.intoCall other found sober entered) rfl (.afterCall other found sober entered (ran executed))
        (later fuel left rest reached) after
  | case11 fuel left number condition body alternative rest progress unknown =>
      rw [play, bind_of_error (ask_of_none unknown)]
      exact .still (.stopped _ progress) left _
  | case12 fuel left number condition body alternative rest progress answer refused known =>
      rw [play, bind_of_ok (ask_of_some known), bind_of_error (enter_of_none refused)]
      exact .still (.stopped _ progress) left _
  | case13 fuel left number condition body alternative rest progress inner entered holds problem reached
      executed inside =>
      rw [play, bind_of_ok (ask_of_some holds), bind_of_ok (enter_of_some entered), if_pos rfl]
      have inside := inside listeners workspace
      rw [executed] at inside
      exact inside.stops (.intoTaken holds entered) rfl
  | case14 fuel left number condition body alternative rest progress inner entered holds last reached executed
      problem unread inside =>
      rw [play, bind_of_ok (ask_of_some holds), bind_of_ok (enter_of_some entered), if_pos rfl]
      have inside := inside listeners workspace
      rw [executed] at inside
      refine inside.andThen (.intoTaken holds entered) rfl ⟨[], .refl reached⟩ ?_
      intro added told middle follows tells
      rw [unread]
      exact .heard follows tells
  | case15 fuel left number condition body alternative rest progress inner entered holds last reached executed
      last' skipped inside after =>
      rw [play, bind_of_ok (ask_of_some holds), bind_of_ok (enter_of_some entered), if_pos rfl]
      have inside := inside listeners workspace
      rw [executed] at inside
      apply inside.resumes (.intoTaken holds entered) rfl (.afterTaken holds entered (ran executed) skipped)
        (later fuel left rest reached)
      rw [skipped]
      exact after
  | case16 fuel left number condition body alternative rest progress inner entered fails problem unread =>
      rw [play, bind_of_ok (ask_of_some fails), bind_of_ok (enter_of_some entered), if_neg Bool.false_ne_true, unread]
      exact .still (.stopped problem progress) left _
  | case17 fuel left number condition body alternative rest progress inner entered fails last skipped
      problem reached executed inside =>
      rw [play, bind_of_ok (ask_of_some fails), bind_of_ok (enter_of_some entered), if_neg Bool.false_ne_true, skipped,
        ofExcept_ok, pure_bind]
      have inside := inside listeners workspace
      rw [executed] at inside
      exact inside.stops (.intoOther fails entered skipped) rfl
  | case18 fuel left number condition body alternative rest progress inner entered fails last skipped
      last' reached executed inside after =>
      rw [play, bind_of_ok (ask_of_some fails), bind_of_ok (enter_of_some entered), if_neg Bool.false_ne_true, skipped,
        ofExcept_ok, pure_bind]
      have inside := inside listeners workspace
      rw [executed] at inside
      exact inside.resumes (.intoOther fails entered skipped) rfl (.afterOther fails entered skipped (ran executed))
        (later fuel left rest reached) after
  | case19 fuel left number condition body rest progress unknown =>
      rw [play, bind_of_error (ask_of_none unknown)]
      exact .still (.stopped _ progress) left _
  | case20 fuel left number condition body rest progress answer refused known =>
      rw [play, bind_of_ok (ask_of_some known), bind_of_error (enter_of_none refused)]
      exact .still (.stopped _ progress) left _
  | case21 fuel left number condition body rest progress inner entered holds problem reached executed inside =>
      rw [play, bind_of_ok (ask_of_some holds), bind_of_ok (enter_of_some entered), if_pos rfl]
      have inside := inside listeners workspace
      rw [executed] at inside
      exact inside.stops (.intoLoop holds entered) rfl
  | case22 fuel left number condition body rest progress inner entered holds last reached executed unknown inside =>
      rw [play, bind_of_ok (ask_of_some holds), bind_of_ok (enter_of_some entered), if_pos rfl]
      have inside := inside listeners workspace
      rw [executed] at inside
      refine inside.andThen (.intoLoop holds entered) rfl ⟨[], .refl reached⟩ ?_
      intro added told middle follows tells
      rw [bind_of_error (ask_of_none unknown)]
      exact .heard follows tells
  | case23 fuel left number condition body rest progress inner entered holds last reached executed again inside
      after =>
      rw [play, bind_of_ok (ask_of_some holds), bind_of_ok (enter_of_some entered), if_pos rfl]
      have inside := inside listeners workspace
      rw [executed] at inside
      apply inside.resumes (.intoLoop holds entered) rfl (.loopAgain holds entered (ran executed))
        (later fuel left _ reached)
      intro told middle
      rw [bind_of_ok (ask_of_some again), if_pos rfl]
      exact after told middle
  | case24 fuel left number condition body rest progress inner entered holds last reached executed lapsed inside
      after =>
      rw [play, bind_of_ok (ask_of_some holds), bind_of_ok (enter_of_some entered), if_pos rfl]
      have inside := inside listeners workspace
      rw [executed] at inside
      apply inside.resumes (.intoLoop holds entered) rfl (.loopAgain holds entered (ran executed))
        (later fuel left rest reached)
      intro told middle
      rw [bind_of_ok (ask_of_some lapsed), if_neg Bool.false_ne_true]
      exact (after told middle).leads (.afterLoop lapsed entered (ran executed).skip_eq) rfl
  | case25 fuel left number condition body rest progress inner entered fails problem unread =>
      rw [play, bind_of_ok (ask_of_some fails), bind_of_ok (enter_of_some entered), if_neg Bool.false_ne_true, unread]
      exact .still (.stopped problem progress) left _
  | case26 fuel left number condition body rest progress inner entered fails last skipped after =>
      rw [play, bind_of_ok (ask_of_some fails), bind_of_ok (enter_of_some entered), if_neg Bool.false_ne_true, skipped]
      exact (after listeners workspace).leads (.afterLoop fails entered skipped) rfl
  | case27 fuel left number count body rest progress refused =>
      rw [play, bind_of_error (enter_of_none refused)]
      exact .still (.stopped _ progress) left _
  | case28 fuel left number body rest progress inner entered problem unread =>
      rw [play, bind_of_ok (enter_of_some entered), unread]
      exact .still (.stopped problem progress) left _
  | case29 fuel left number body rest progress inner entered last skipped after =>
      rw [play, bind_of_ok (enter_of_some entered), skipped]
      exact (after listeners workspace).leads (.afterIterate entered skipped) rfl
  | case30 fuel left number body rest progress more inner entered problem reached executed inside =>
      rw [play, bind_of_ok (enter_of_some entered)]
      have inside := inside listeners workspace
      rw [executed] at inside
      exact inside.stops (.intoIterate entered) rfl
  | case31 fuel left number body rest progress inner entered last reached executed inside after =>
      rw [play, bind_of_ok (enter_of_some entered)]
      have inside := inside listeners workspace
      rw [executed] at inside
      apply inside.resumes (.intoIterate entered) rfl (.iterateAgain entered (ran executed))
        (later fuel left rest reached)
      intro told middle
      exact (after told middle).leads (.afterIterate entered (ran executed).skip_eq) rfl
  | case32 fuel left number body rest progress inner entered last reached executed more inside after =>
      rw [play, bind_of_ok (enter_of_some entered)]
      have inside := inside listeners workspace
      rw [executed] at inside
      exact inside.resumes (.intoIterate entered) rfl (.iterateAgain entered (ran executed))
        (later fuel left _ reached) after

/-- No step of a block changes the instructions that are known. -/
theorem registry_play [Listener α] (program : Program) (fuel left : Nat) (block : Block) (stage : Stage α) :
    (Stage.ofResult (play program fuel left block stage)).registry = stage.registry := by
  have mirrors := mirrors_play program stage.registry fuel left block stage.progress stage.listeners
    stage.workspace
  generalize (play program fuel left block _ : EStateM.Result BreakOff (Stage α) Nat) = result at mirrors ⊢
  cases mirrors with
  | heard follows tells => cases program.execute stage.registry fuel left block stage.progress <;> rfl
  | broken visits follows tells performed failed later => rfl

section
variable {program : Program} {progress : Progress} {registry extended : Registry} {listeners : List α}
  {workspace : Workspace} {number stop last : Nat}

theorem define_of_error {problem : Stop} (refused : program.define number stop registry = .error problem) :
    define program number stop ⟨progress, registry, listeners, workspace⟩ =
      .error (.problem problem) ⟨progress, registry, listeners, workspace⟩ := by
  rw [define, get_bind, refused]
  rfl

theorem define_of_ok (defined : program.define number stop registry = .ok (last, extended)) :
    define program number stop ⟨progress, registry, listeners, workspace⟩ =
      .ok last ⟨progress, extended, listeners, workspace⟩ := by
  rw [define, get_bind, defined]
  rfl

end

/-- Definitions are read on stage as they are without one: nobody is told of them. -/
theorem declare_eq (program : Program) (stop fuel number : Nat) (progress : Progress) (registry : Registry)
    (listeners : List α) (workspace : Workspace) :
    declare program stop fuel number ⟨progress, registry, listeners, workspace⟩ =
      ofExcept (program.declare stop fuel number registry).1
        ⟨progress, (program.declare stop fuel number registry).2, listeners, workspace⟩ := by
  fun_induction Program.declare program stop fuel number registry with
  | case1 number registry => rfl
  | case2 fuel number registry beyond =>
      rw [declare, if_pos beyond]
      rfl
  | case3 fuel number registry inside missing =>
      rw [declare, if_neg inside, missing]
      rfl
  | case4 fuel number registry inside line present fault misplaced =>
      rw [declare, if_neg inside, present]
      simp only [misplaced]
      rfl
  | case5 fuel number registry inside line present indented name kind problem refused =>
      rw [declare, if_neg inside, present]
      simp only [indented, kind]
      exact bind_of_error (define_of_error refused)
  | case6 fuel number registry inside line present indented name kind last extended defined
      inductionHypothesis =>
      rw [declare, if_neg inside, present]
      simp only [indented, kind]
      exact (bind_of_ok (define_of_ok defined)).trans inductionHypothesis
  | case7 fuel number registry inside line present indented kind =>
      rw [declare, if_neg inside, present]
      simp only [indented, kind]
      rfl
  | case8 fuel number registry inside line present indented noDefinition noStart =>
      rw [declare, if_neg inside, present]
      simp only [indented]
      rfl

/-- What running a program before listeners comes to. Either they are told of all that the run does that nobody
watches, and it is that run; or one of them fails at an action that the run comes to, and nothing is done after
it. -/
inductive Follows [Listener α] (program : Program) (fuel : Nat) (world : World) (registry : Registry)
    (listeners : List α) (workspace : Workspace) : Watched α → Prop where
  | heard {told : List α} {reached : Workspace}
      (tells : Tells (world.history (program.run fuel world registry).actions) listeners workspace told reached) :
      Follows program fuel world registry listeners workspace
        { execution := program.run fuel world registry, listeners := told, workspace := reached }
  | broken {left number : Nat} {action : Action} {rest : Block} {before : Progress} {more : List Action}
      {next : World} {told heard : List α} {middle reached : Workspace} {failure : Failure}
      (passes : program.Passes world registry ⟨left, .statement number action.name rest, before⟩)
      (replayed : before.actions.reverse.foldlM World.perform world = .ok before.world)
      (tells : Tells (world.history before.actions.reverse) listeners workspace told middle)
      (performed : before.world.perform action = .ok next)
      (failed : Listener.notifyAll left action next told middle =
        { state := (heard, reached), failure := some failure })
      (later : (program.run fuel world registry).actions = before.actions.reverse ++ action :: more) :
      Follows program fuel world registry listeners workspace ((BreakOff.ofFailure number failure).watched
        ⟨⟨next, action :: before.actions⟩, (program.run fuel world registry).registry, heard, reached⟩)

/-- What a stage tells of the run of its execution section. -/
def ended (result : EStateM.Result BreakOff (Stage α) Nat) : Watched α :=
  match result with
  | .ok _ stage => stage.watched none none
  | .error reason stage => reason.watched stage

theorem ended_onStage (outcome : Outcome) (registry : Registry) (told : List α) (reached : Workspace) :
    ended (outcome.onStage ⟨outcome.progress, registry, told, reached⟩) =
      { execution := outcome.execution registry, listeners := told, workspace := reached } := by
  cases outcome <;> rfl

end Performance

/-- What is done before a run is broken off stays done. -/
theorem BreakOff.actions_watched {α : Type} (stage : Stage α) (reason : BreakOff) :
    (reason.watched stage).execution.actions = stage.progress.actions.reverse := by
  cases reason <;> rfl

theorem Outcome.actions_execution (outcome : Outcome) (registry : Registry) :
    (outcome.execution registry).actions = outcome.progress.actions.reverse := by
  cases outcome <;> rfl

namespace Program

variable {α : Type} [Listener α] {program : Program} {fuel start : Nat} {world : World} {registry known : Registry}
  {listeners : List α} {workspace : Workspace}

/-- A program that is refused before its execution section does nothing that listeners are told of. -/
theorem follows_of_refused {problem : Stop}
    (refused : program.run fuel world registry = { world, registry := known, stop := some problem }) :
    Performance.Follows program fuel world registry listeners workspace
      { execution := { world, registry := known, stop := some problem }, listeners, workspace } := by
  rw [← refused]
  refine .heard ?_
  rw [refused]
  exact .nil

/-- The execution section on stage follows the run if its steps are mirrored. -/
theorem follows_of_mirrors {result : EStateM.Result BreakOff (Stage α) Nat} (marked : program.checkMarkers = .ok ())
    (declared : program.declare program.turnoffNumber program.turnoffNumber 1 registry = (.ok start, known))
    (mirrors : Performance.Mirrors program known
      ⟨Nesting.limit, program.sectionAt (start + 1) program.turnoffNumber executionDepth, { world }⟩ listeners workspace
      (program.execute known fuel Nesting.limit
        (program.sectionAt (start + 1) program.turnoffNumber executionDepth) { world }) result) :
    Performance.Follows program fuel world registry listeners workspace (Performance.ended result) := by
  have whole : program.run fuel world registry = _ := run_of_declare marked declared
  generalize program.execute known fuel Nesting.limit _ _ = outcome at mirrors whole
  have actions : (program.run fuel world registry).actions = outcome.progress.actions.reverse := by
    rw [whole, outcome.actions_execution]
  cases mirrors with
  | heard follows tells =>
      rw [Performance.ended_onStage, ← whole]
      refine .heard ?_
      rw [actions, follows.actions, List.append_nil, List.reverse_reverse]
      exact tells
  | @broken left number action rest before added more next told heard middle reached failure visits follows tells
      performed failed later =>
      have done : added = before.actions.reverse := by
        rw [follows.actions, List.append_nil, List.reverse_reverse]
      have kept : (program.run fuel world registry).registry = known := by
        rw [whole]
        cases outcome <;> rfl
      rw [← kept]
      have after : (program.run fuel world registry).actions = before.actions.reverse ++ action :: more := by
        rw [actions, later.actions]
        simp
      exact .broken ⟨marked, start, known, declared, visits⟩ (done ▸ follows.replayed) (done ▸ tells) performed
        failed after

/-- A run before listeners follows the run that nobody watches. -/
theorem follows_watch (program : Program) (fuel : Nat) (world : World) (registry : Registry) (listeners : List α)
    (workspace : Workspace) :
    Performance.Follows program fuel world registry listeners workspace
      (program.watch fuel world registry listeners workspace) := by
  cases marked : program.checkMarkers with
  | error problem =>
      rw [watch, Performance.run, marked]
      refine follows_of_refused ?_
      rw [run, marked]
  | ok =>
      have onStage := Performance.declare_eq program program.turnoffNumber program.turnoffNumber 1 { world } registry
        listeners workspace
      rw [watch, Performance.run, marked, Performance.ofExcept_ok, pure_bind]
      cases declared : program.declare program.turnoffNumber program.turnoffNumber 1 registry with
      | mk result known =>
          rw [declared] at onStage
          cases result with
          | error problem =>
              rw [bind_of_error onStage]
              refine follows_of_refused ?_
              rw [run, marked, declared]
          | ok start =>
              rw [bind_of_ok onStage]
              have mirrors := Performance.mirrors_play program known fuel Nesting.limit
                (program.sectionAt (start + 1) program.turnoffNumber executionDepth) { world } listeners workspace
              have follows := follows_of_mirrors marked declared mirrors
              generalize done : Performance.play program fuel Nesting.limit
                (program.sectionAt (start + 1) program.turnoffNumber executionDepth)
                ⟨{ world }, known, listeners, workspace⟩ = result at follows
              cases result with
              | ok last stage =>
                  rw [bind_of_ok done]
                  exact follows
              | error reason stage =>
                  rw [bind_of_error done]
                  exact follows

/-- Of a run that does nothing, nobody is told. -/
theorem watch_of_still (still : (program.run fuel world registry).actions = []) (listeners : List α)
    (workspace : Workspace) :
    program.watch fuel world registry listeners workspace =
      { execution := program.run fuel world registry, listeners, workspace } := by
  have follows := program.follows_watch fuel world registry listeners workspace
  generalize program.watch fuel world registry listeners workspace = watched at follows
  cases follows with
  | heard tells =>
      rw [still] at tells
      cases tells
      rfl
  | broken passes replayed tells performed failed later =>
      rw [still] at later
      exact absurd later.symm (List.append_ne_nil_of_right_ne_nil _ (List.cons_ne_nil _ _))

/-- What is done before listeners leads from the world that the run starts in to the world that it leaves. -/
theorem replayed_watch (program : Program) (fuel : Nat) (world : World) (registry : Registry) (listeners : List α)
    (workspace : Workspace) :
    (program.watch fuel world registry listeners workspace).execution.actions.foldlM World.perform world =
      .ok (program.watch fuel world registry listeners workspace).execution.world := by
  have follows := program.follows_watch fuel world registry listeners workspace
  generalize program.watch fuel world registry listeners workspace = watched at follows
  cases follows with
  | heard => exact world.replayed_run program fuel registry
  | @broken _ number action _ before _ next _ _ _ _ failure passes replayed tells performed failed later =>
      have led : (action :: before.actions).reverse.foldlM World.perform world = .ok next := by
        rw [List.reverse_cons]
        exact World.replay_concat.mpr ⟨_, replayed, performed⟩
      cases BreakOff.ofFailure number failure <;> exact led

/-- Listeners do not see to what is known, even if they break off the run. -/
theorem registry_watch (program : Program) (fuel : Nat) (world : World) (registry : Registry) (listeners : List α)
    (workspace : Workspace) :
    (program.watch fuel world registry listeners workspace).execution.registry =
      (program.run fuel world registry).registry := by
  have follows := program.follows_watch fuel world registry listeners workspace
  generalize program.watch fuel world registry listeners workspace = watched at follows
  cases follows with
  | heard => rfl
  | @broken _ number _ _ _ _ _ _ _ _ _ failure passes replayed tells performed failed later =>
      cases BreakOff.ofFailure number failure <;> rfl

/-- A run before nobody is the run itself. -/
theorem watch_nil (program : Program) (fuel : Nat) (world : World) (registry : Registry) (workspace : Workspace) :
    program.watch fuel world registry ([] : List α) workspace =
      { execution := program.run fuel world registry, listeners := [], workspace } := by
  have follows := program.follows_watch fuel world registry ([] : List α) workspace
  generalize program.watch fuel world registry ([] : List α) workspace = watched at follows
  cases follows with
  | heard tells =>
      obtain ⟨rfl, rfl⟩ := tells.of_nil
      rfl
  | broken passes replayed tells performed failed later =>
      obtain ⟨rfl, rfl⟩ := tells.of_nil
      cases failed

end Program

/-- What broke off a run before listeners, if anything did. -/
def Watched.reason? {α : Type} (watched : Watched α) : Option BreakOff :=
  match watched.failure with
  | some failure => some (.failure failure)
  | none => watched.execution.stop.map .problem

theorem BreakOff.reason?_watched {α : Type} (stage : Stage α) (reason : BreakOff) :
    (reason.watched stage).reason? = some reason := by
  cases reason <;> rfl

theorem BreakOff.ofFailure_ne_outOfFuel (number : Nat) (failure : Failure) :
    ofFailure number failure ≠ .problem .outOfFuel := by
  cases failure <;> exact nofun

namespace Program

variable {α : Type} [Listener α]

/-- A run is broken off by a failure: it comes to an action and does it, and when the listeners, who have been
told of everything before, are told of it, one of them fails. -/
def IsBrokenOff (program : Program) (world : World) (registry : Registry) (listeners : List α) (workspace : Workspace)
    (failure : Failure) : Prop :=
  ∃ left number action rest before next told middle heard reached,
    program.Passes world registry ⟨left, .statement number action.name rest, before⟩ ∧
    Tells (world.history before.actions.reverse) listeners workspace told middle ∧
    before.world.perform action = .ok next ∧
    Listener.notifyAll left action next told middle = { state := (heard, reached), failure := some failure }

/-- A run before listeners ends as the run that nobody watches, or with what a listener raises. -/
theorem watch_cases (program : Program) (fuel : Nat) (world : World) (registry : Registry) (listeners : List α)
    (workspace : Workspace) :
    ((program.watch fuel world registry listeners workspace).execution = program.run fuel world registry ∧
      (program.watch fuel world registry listeners workspace).failure = none) ∨
    ∃ number failure, program.IsBrokenOff world registry listeners workspace failure ∧
      (program.watch fuel world registry listeners workspace).reason? = some (.ofFailure number failure) := by
  have follows := program.follows_watch fuel world registry listeners workspace
  generalize program.watch fuel world registry listeners workspace = watched at follows
  cases follows with
  | heard tells => exact Or.inl ⟨rfl, rfl⟩
  | broken passes replayed tells performed failed later =>
      exact Or.inr ⟨_, _, ⟨_, _, _, _, _, _, _, _, _, _, passes, tells, performed, failed⟩,
        BreakOff.reason?_watched _ _⟩

end Program

/-- A run is cut short at an action: it comes there with so much nesting left and does the action, but a listener
needs more nesting than that, and nothing is done any more. -/
structure Program.CutsShort (program : Program) (fuel : Nat) (world : World) (registry : Registry) (left : Nat)
    (earlier : List Action) (action : Action) (execution : Execution) : Prop where
  comes : ∃ number rest before, program.Passes world registry ⟨left, .statement number action.name rest, before⟩ ∧
    before.actions.reverse = earlier ∧ earlier.foldlM World.perform world = .ok before.world ∧
    before.world.perform action = .ok execution.world
  actions : execution.actions = earlier ++ [action]
  known : execution.registry = (program.run fuel world registry).registry
  stop : execution.stop = some .nestingTooDeep
  later : ∃ more, (program.run fuel world registry).actions = earlier ++ action :: more

/-- A run that is broken off for want of nesting is cut short. -/
theorem Program.CutsShort.of_broken {program : Program} {fuel left number : Nat} {world next : World}
    {registry : Registry} {action : Action} {rest : Block} {before : Progress} {more : List Action}
    (passes : program.Passes world registry ⟨left, .statement number action.name rest, before⟩)
    (replayed : before.actions.reverse.foldlM World.perform world = .ok before.world)
    (performed : before.world.perform action = .ok next)
    (later : (program.run fuel world registry).actions = before.actions.reverse ++ action :: more) :
    program.CutsShort fuel world registry left before.actions.reverse action
      ⟨next, (action :: before.actions).reverse, (program.run fuel world registry).registry, some .nestingTooDeep⟩ where
  comes := ⟨number, rest, before, passes, rfl, replayed, performed⟩
  actions := List.reverse_cons
  known := rfl
  stop := rfl
  later := ⟨more, later⟩

end GridRobot
