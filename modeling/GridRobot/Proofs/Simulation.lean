import GridRobot.Proofs.Runs
import GridRobot.Proofs.Source

namespace GridRobot

/-- With room for a cost and for what is inside, there is room inside. -/
theorem Nesting.enter_of_le {cost used left : Nat} (room : used + cost ≤ left) :
    ∃ inner, enter? cost left = some inner ∧ used ≤ inner :=
  ⟨left - cost, enter?_eq_some.mpr (by omega), by omega⟩

/-- Without that room either the entry is refused or the room inside is too small. -/
theorem Nesting.enter_of_lt {cost used left : Nat} (tight : left < used + cost) :
    enter? cost left = none ∨ ∃ inner, enter? cost left = some inner ∧ inner < used := by
  by_cases refused : left < cost
  · exact Or.inl (enter?_eq_none.mpr refused)
  · exact Or.inr ⟨left - cost, enter?_eq_some.mpr (by omega), by omega⟩

/-- The block has the steps of the code, whatever lines they stand on. -/
inductive Block.Shows : (block : Block) → (code : Code) → Prop where
  | done {number : Nat} : Shows (.done number) .done
  | statement {number : Nat} {name : String} {rest : Block} {after : Code} (later : Shows rest after) :
      Shows (.statement number name rest) (.statement name after)
  | branch {number : Nat} {condition : String} {body alternative rest : Block} {inside after : Code}
      (taken : Shows body inside) (other : Shows alternative .done) (later : Shows rest after) :
      Shows (.branch number condition body alternative rest) (.branch condition inside after)
  | choice {number : Nat} {condition : String} {body alternative rest : Block} {inside aside after : Code}
      (taken : Shows body inside) (other : Shows alternative aside) (later : Shows rest after) :
      Shows (.branch number condition body alternative rest) (.choice condition inside aside after)
  | loop {number : Nat} {condition : String} {body rest : Block} {inside after : Code}
      (repeated : Shows body inside) (later : Shows rest after) :
      Shows (.loop number condition body rest) (.loop condition inside after)
  | iterate {number count : Nat} {body rest : Block} {inside after : Code}
      (repeated : Shows body inside) (later : Shows rest after) :
      Shows (.iterate number count body rest) (.iterate count inside after)

namespace Block.Shows

variable {block : Block} {code : Code} {left last : Nat} {problem : Stop}

/-- A block that shows code has no malformed part. -/
theorem sound (shows : block.Shows code) : block.Sound := by
  induction shows with
  | done => exact trivial
  | statement later laterSound => exact laterSound
  | branch taken other later takenSound otherSound laterSound => exact ⟨takenSound, otherSound, laterSound⟩
  | choice taken other later takenSound otherSound laterSound => exact ⟨takenSound, otherSound, laterSound⟩
  | loop repeated later repeatedSound laterSound => exact ⟨repeatedSound, laterSound⟩
  | iterate repeated later repeatedSound laterSound => exact ⟨repeatedSound, laterSound⟩

/-- A block nests as deeply as the code that it shows. -/
theorem height_eq (shows : block.Shows code) : block.height = code.height := by
  induction shows with
  | done => rfl
  | statement later laterHeight => exact laterHeight
  | branch taken other later takenHeight otherHeight laterHeight =>
      simp only [height, Code.height, takenHeight, otherHeight, laterHeight, Nat.max_zero]
  | choice taken other later takenHeight otherHeight laterHeight =>
      simp only [height, Code.height, takenHeight, otherHeight, laterHeight]
  | loop repeated later repeatedHeight laterHeight =>
      simp only [height, Code.height, repeatedHeight, laterHeight]
  | iterate repeated later repeatedHeight laterHeight =>
      simp only [height, Code.height, repeatedHeight, laterHeight]

theorem skip_of_le (shows : block.Shows code) (room : Nesting.blockCost * code.height ≤ left) :
    ∃ last, block.skip left = .ok last := by
  obtain ⟨last, ended⟩ := shows.sound.ending_eq_ok
  exact ⟨last, skip_eq_ok_iff.mpr ⟨shows.sound, shows.height_eq ▸ room, ended⟩⟩

theorem le_of_skip (shows : block.Shows code) (skipped : block.skip left = .ok last) :
    Nesting.blockCost * code.height ≤ left := by
  rw [← shows.height_eq]
  exact (skip_eq_ok_iff.mp skipped).2.1

theorem skip_of_lt (shows : block.Shows code) (tight : left < Nesting.blockCost * code.height) :
    block.skip left = .error .nestingTooDeep :=
  shows.sound.skip_of_lt (shows.height_eq ▸ tight)

/-- Code can only be unread because it nests too deeply. -/
theorem eq_of_unread (shows : block.Shows code) (unread : block.skip left = .error problem) :
    problem = .nestingTooDeep := by
  rcases shows.sound.skip_cases left with ⟨last, skipped⟩ | tooDeep
  · rw [skipped] at unread
    cases unread
  · rw [tooDeep] at unread
    cases unread
    rfl

end Block.Shows

/-- The progress after an effect on top of earlier actions, which are kept last first. -/
def Effect.progress (effect : Effect) (earlier : List Action) : Progress :=
  ⟨effect.world, effect.actions.reverse ++ earlier⟩

theorem Effect.progress_after (effect : Effect) (actions earlier : List Action) :
    (effect.after actions).progress earlier = effect.progress (actions.reverse ++ earlier) := by
  simp [progress, after]

/-- The outcome has the effect on top of earlier actions. -/
def Outcome.Shows (outcome : Outcome) (earlier : List Action) (effect : Effect) : Prop :=
  match effect.error with
  | none => ∃ number, outcome = .finished number (effect.progress earlier)
  | some mishap => ∃ number, outcome = .stopped (mishap.stop number) (effect.progress earlier)

/-- The outcome is neither a lack of fuel nor of nesting. -/
def Outcome.Regular : Outcome → Prop
  | .finished _ _ => True
  | .stopped problem _ => problem ≠ .outOfFuel ∧ problem ≠ .nestingTooDeep

namespace Outcome.Shows

variable {outcome : Outcome} {earlier actions : List Action} {effect : Effect}

theorem after (shows : outcome.Shows (actions.reverse ++ earlier) effect) :
    outcome.Shows earlier (effect.after actions) := by
  rw [Outcome.Shows, Effect.progress_after]
  exact shows

/-- A run that is stopped by a hindrance shows the evaluation that it breaks off. -/
theorem hindered (hindrance : Hindrance) (number : Nat) (world : World) (earlier : List Action) :
    (Outcome.stopped (hindrance.stop number) ⟨world, earlier⟩).Shows earlier
      { world, error := some (.ofHindrance hindrance) } :=
  ⟨number, by rw [Mishap.stop_ofHindrance]; rfl⟩

/-- A finished outcome shows an effect without an error. -/
theorem of_finished {number : Nat} {reached : Progress}
    (shows : (Outcome.finished number reached).Shows earlier effect) :
    ∃ actions world, effect = ⟨actions, world, none⟩ ∧ reached = ⟨world, actions.reverse ++ earlier⟩ := by
  obtain ⟨actions, world, error⟩ := effect
  cases error with
  | none =>
      obtain ⟨_, same⟩ := shows
      cases same
      exact ⟨actions, world, rfl, rfl⟩
  | some mishap =>
      obtain ⟨_, same⟩ := shows
      cases same

/-- A stopped outcome shows an effect with an error. -/
theorem of_stopped {problem : Stop} {reached : Progress}
    (shows : (Outcome.stopped problem reached).Shows earlier effect) :
    ∃ actions world mishap, effect = ⟨actions, world, some mishap⟩ := by
  obtain ⟨actions, world, error⟩ := effect
  cases error with
  | none =>
      obtain ⟨_, same⟩ := shows
      cases same
  | some mishap => exact ⟨actions, world, mishap, rfl⟩

end Outcome.Shows

namespace Program

/-- The registry has a section for every definition and nothing else; a section calls its own name if
the definition does. -/
structure Implements (program : Program) (registry : Registry) (definitions : List (String × Code)) :
    Prop where
  missing {name : String} (missing : definitions.lookup name = none) : registry.find? name = none
  found {name : String} {body : Code} (found : definitions.lookup name = some body) :
    ∃ span, registry.find? name = some span ∧
      (program.sectionAt span.start span.stop instructionDepth).Shows body ∧
      (program.selfCall? name span = none ↔ name ∉ body.names)

section
variable {program : Program} {registry : Registry} {definitions : List (String × Code)}

/-- With room for its nesting, an evaluation is a run. -/
theorem runs_of_evaluates (implements : program.Implements registry definitions) {code : Code} {world : World}
    {nesting : Nat} {effect : Effect} (evaluates : code.Evaluates definitions world nesting effect)
    {block : Block} {left : Nat} {earlier : List Action} (shows : block.Shows code) (room : nesting ≤ left) :
    ∃ outcome, program.Runs registry left block ⟨world, earlier⟩ outcome ∧ outcome.Shows earlier effect := by
  induction evaluates generalizing block left earlier with
  | done =>
      cases shows
      exact ⟨_, .done, _, rfl⟩
  | action known performed after afterHypothesis =>
      obtain _ | later := shows
      obtain ⟨outcome, ran, shown⟩ := afterHypothesis later room
      exact ⟨outcome, .action known performed ran, shown.after⟩
  | actionFails known failed =>
      cases shows
      exact ⟨_, .actionFails known failed, .hindered _ _ _ _⟩
  | unknownStatement other missing =>
      cases shows
      exact ⟨_, .unknownStatement other (implements.missing missing), _, rfl⟩
  | selfCall other found calls =>
      cases shows
      obtain ⟨span, found', _, sober⟩ := implements.found found
      cases guilty : program.selfCall? _ span with
      | none => exact absurd calls (sober.mp guilty)
      | some number => exact ⟨_, .selfCall other found' guilty, _, rfl⟩
  | callStops other found sober inside insideHypothesis =>
      cases shows
      obtain ⟨span, found', section', sober'⟩ := implements.found found
      obtain ⟨inner, entered, room⟩ := Nesting.enter_of_le room
      obtain ⟨outcome, ran, number, rfl⟩ := insideHypothesis section' room
      exact ⟨_, .callStops other found' (sober'.mpr sober) entered ran, number, rfl⟩
  | call other found sober inside after insideHypothesis afterHypothesis =>
      obtain _ | later := shows
      obtain ⟨span, found', section', sober'⟩ := implements.found found
      obtain ⟨room, roomLater⟩ := Nat.max_le.mp room
      obtain ⟨inner, entered, room⟩ := Nesting.enter_of_le room
      obtain ⟨_, ran, number, rfl⟩ := insideHypothesis section' room
      obtain ⟨outcome, ran', shown⟩ := afterHypothesis later roomLater
      exact ⟨outcome, .call other found' (sober'.mpr sober) entered ran ran', shown.after⟩
  | branch padded paddedHypothesis =>
      cases shows with
      | branch taken other later => exact paddedHypothesis (.choice taken other later) room
  | choiceUnknown unknown =>
      cases shows
      exact ⟨_, .branchUnknown unknown, _, rfl⟩
  | takenStops holds inside insideHypothesis =>
      cases shows with
      | choice taken other later =>
          obtain ⟨inner, entered, room⟩ := Nesting.enter_of_le room
          obtain ⟨_, ran, number, rfl⟩ := insideHypothesis taken room
          exact ⟨_, .takenStops holds entered ran, number, rfl⟩
  | taken holds inside after insideHypothesis afterHypothesis =>
      cases shows with
      | choice taken other later =>
          obtain ⟨room, roomLater⟩ := Nat.max_le.mp room
          obtain ⟨inner, entered, room⟩ := Nesting.enter_of_le room
          obtain ⟨room, roomOther⟩ := Nat.max_le.mp room
          obtain ⟨_, skipped⟩ := other.skip_of_le roomOther
          obtain ⟨_, ran, number, rfl⟩ := insideHypothesis taken room
          obtain ⟨outcome, ran', shown⟩ := afterHypothesis later roomLater
          exact ⟨outcome, .taken holds entered ran skipped ran', shown.after⟩
  | otherStops fails inside insideHypothesis =>
      cases shows with
      | choice taken other later =>
          obtain ⟨inner, entered, room⟩ := Nesting.enter_of_le room
          obtain ⟨room, roomTaken⟩ := Nat.max_le.mp room
          obtain ⟨_, skipped⟩ := taken.skip_of_le roomTaken
          obtain ⟨_, ran, number, rfl⟩ := insideHypothesis other room
          exact ⟨_, .otherStops fails entered skipped ran, number, rfl⟩
  | other fails inside after insideHypothesis afterHypothesis =>
      cases shows with
      | choice taken other later =>
          obtain ⟨room, roomLater⟩ := Nat.max_le.mp room
          obtain ⟨inner, entered, room⟩ := Nesting.enter_of_le room
          obtain ⟨room, roomTaken⟩ := Nat.max_le.mp room
          obtain ⟨_, skipped⟩ := taken.skip_of_le roomTaken
          obtain ⟨_, ran, number, rfl⟩ := insideHypothesis other room
          obtain ⟨outcome, ran', shown⟩ := afterHypothesis later roomLater
          exact ⟨outcome, .other fails entered skipped ran ran', shown.after⟩
  | loopUnknown unknown =>
      cases shows
      exact ⟨_, .loopUnknown unknown, _, rfl⟩
  | loopStops holds inside insideHypothesis =>
      cases shows with
      | loop repeated later =>
          obtain ⟨inner, entered, room⟩ := Nesting.enter_of_le room
          obtain ⟨_, ran, number, rfl⟩ := insideHypothesis repeated room
          exact ⟨_, .loopStops holds entered ran, number, rfl⟩
  | loopAgain holds inside after insideHypothesis afterHypothesis =>
      cases shows with
      | loop repeated later =>
          obtain ⟨room, roomLater⟩ := Nat.max_le.mp room
          obtain ⟨inner, entered, room⟩ := Nesting.enter_of_le room
          obtain ⟨_, ran, number, rfl⟩ := insideHypothesis repeated room
          obtain ⟨outcome, ran', shown⟩ := afterHypothesis (.loop repeated later) roomLater
          exact ⟨outcome, .loopAgain holds entered ran ran', shown.after⟩
  | loopEnds fails after afterHypothesis =>
      cases shows with
      | loop repeated later =>
          obtain ⟨room, roomLater⟩ := Nat.max_le.mp room
          obtain ⟨inner, entered, room⟩ := Nesting.enter_of_le room
          obtain ⟨_, skipped⟩ := repeated.skip_of_le room
          obtain ⟨outcome, ran, shown⟩ := afterHypothesis later roomLater
          exact ⟨outcome, .loopEnds fails entered skipped ran, shown⟩
  | iterateStops inside insideHypothesis =>
      cases shows with
      | iterate repeated later =>
          obtain ⟨inner, entered, room⟩ := Nesting.enter_of_le room
          obtain ⟨_, ran, number, rfl⟩ := insideHypothesis repeated room
          exact ⟨_, .iterateStops entered ran, number, rfl⟩
  | iterateAgain inside after insideHypothesis afterHypothesis =>
      cases shows with
      | iterate repeated later =>
          obtain ⟨room, roomLater⟩ := Nat.max_le.mp room
          obtain ⟨inner, entered, room⟩ := Nesting.enter_of_le room
          obtain ⟨_, ran, number, rfl⟩ := insideHypothesis repeated room
          obtain ⟨outcome, ran', shown⟩ := afterHypothesis (.iterate repeated later) roomLater
          exact ⟨outcome, .iterateAgain entered ran ran', shown.after⟩
  | iterateEnds after afterHypothesis =>
      cases shows with
      | iterate repeated later =>
          obtain ⟨room, roomLater⟩ := Nat.max_le.mp room
          obtain ⟨inner, entered, room⟩ := Nesting.enter_of_le room
          obtain ⟨_, skipped⟩ := repeated.skip_of_le room
          obtain ⟨outcome, ran, shown⟩ := afterHypothesis later roomLater
          exact ⟨outcome, .iterateEnds entered skipped ran, shown⟩

/-- A call whose body has no room nests too deeply. -/
theorem tooDeep_of_call {left used number : Nat} {name : String} {span : Span} {rest : Block}
    {progress : Progress} (other : Action.ofName? name = none) (found : registry.find? name = some span)
    (sober : program.selfCall? name span = none) (tight : left < used + Nesting.callCost)
    (inside : ∀ {inner}, inner < used → ∃ reached, program.Runs registry inner
      (program.sectionAt span.start span.stop instructionDepth) progress (.stopped .nestingTooDeep reached)) :
    ∃ reached, program.Runs registry left (.statement number name rest) progress
      (.stopped .nestingTooDeep reached) := by
  rcases Nesting.enter_of_lt tight with refused | ⟨inner, entered, tight⟩
  · exact ⟨_, .callTooDeep other found sober refused⟩
  · obtain ⟨reached, ran⟩ := inside tight
    exact ⟨reached, .callStops other found sober entered ran⟩

/-- An alternative nests too deeply if there is no room for it or for the block that is skipped before. -/
theorem tooDeep_of_other {left used number : Nat} {condition : String} {body alternative rest : Block}
    {code : Code} {progress : Progress} (fails : progress.world.ask? condition = some false)
    (taken : body.Shows code) (tight : left < max used (Nesting.blockCost * code.height) + Nesting.blockCost)
    (inside : ∀ {inner}, inner < used →
      ∃ reached, program.Runs registry inner alternative progress (.stopped .nestingTooDeep reached)) :
    ∃ reached, program.Runs registry left (.branch number condition body alternative rest) progress
      (.stopped .nestingTooDeep reached) := by
  rcases Nesting.enter_of_lt tight with refused | ⟨inner, entered, tight⟩
  · exact ⟨_, .branchTooDeep fails refused⟩
  · by_cases roomTaken : Nesting.blockCost * code.height ≤ inner
    · obtain ⟨_, skipped⟩ := taken.skip_of_le roomTaken
      obtain ⟨reached, ran⟩ := inside (show inner < used by omega)
      exact ⟨reached, .otherStops fails entered skipped ran⟩
    · exact ⟨_, .otherUnread fails entered (taken.skip_of_lt (Nat.lt_of_not_le roomTaken))⟩

/-- A loop whose body has no room nests too deeply. -/
theorem tooDeep_of_loop {left used number : Nat} {condition : String} {body rest : Block}
    {progress : Progress} (holds : progress.world.ask? condition = some true)
    (tight : left < used + Nesting.blockCost)
    (inside : ∀ {inner}, inner < used →
      ∃ reached, program.Runs registry inner body progress (.stopped .nestingTooDeep reached)) :
    ∃ reached, program.Runs registry left (.loop number condition body rest) progress
      (.stopped .nestingTooDeep reached) := by
  rcases Nesting.enter_of_lt tight with refused | ⟨inner, entered, tight⟩
  · exact ⟨_, .loopTooDeep holds refused⟩
  · obtain ⟨reached, ran⟩ := inside tight
    exact ⟨reached, .loopStops holds entered ran⟩

/-- A counted loop whose body has no room nests too deeply. -/
theorem tooDeep_of_iterate {left used number more : Nat} {body rest : Block} {progress : Progress}
    (tight : left < used + Nesting.blockCost)
    (inside : ∀ {inner}, inner < used →
      ∃ reached, program.Runs registry inner body progress (.stopped .nestingTooDeep reached)) :
    ∃ reached, program.Runs registry left (.iterate number (more + 1) body rest) progress
      (.stopped .nestingTooDeep reached) := by
  rcases Nesting.enter_of_lt tight with refused | ⟨inner, entered, tight⟩
  · exact ⟨_, .iterateTooDeep refused⟩
  · obtain ⟨reached, ran⟩ := inside tight
    exact ⟨reached, .iterateStops entered ran⟩

/-- Without room for its nesting, an evaluation is a run that nests too deeply. -/
theorem runs_tooDeep_of_evaluates (implements : program.Implements registry definitions) {code : Code}
    {world : World} {nesting : Nat} {effect : Effect}
    (evaluates : code.Evaluates definitions world nesting effect) {block : Block} {left : Nat}
    {earlier : List Action} (shows : block.Shows code) (tight : left < nesting) :
    ∃ reached, program.Runs registry left block ⟨world, earlier⟩ (.stopped .nestingTooDeep reached) := by
  have order {first second left : Nat} (tight : left < max first second) :
      left < first ∨ first ≤ left ∧ left < second := by omega
  induction evaluates generalizing block left earlier with
  | done => omega
  | action known performed after afterHypothesis =>
      obtain _ | later := shows
      obtain ⟨reached, ran⟩ := afterHypothesis later tight
      exact ⟨reached, .action known performed ran⟩
  | actionFails known failed => omega
  | unknownStatement other missing => omega
  | selfCall other found calls => omega
  | callStops other found sober inside insideHypothesis =>
      cases shows
      obtain ⟨span, found', section', sober'⟩ := implements.found found
      exact tooDeep_of_call other found' (sober'.mpr sober) tight (insideHypothesis section')
  | call other found sober inside after insideHypothesis afterHypothesis =>
      obtain _ | later := shows
      obtain ⟨span, found', section', sober'⟩ := implements.found found
      rcases order tight with tight | ⟨room, tightLater⟩
      · exact tooDeep_of_call other found' (sober'.mpr sober) tight (insideHypothesis section')
      · obtain ⟨inner, entered, room⟩ := Nesting.enter_of_le room
        obtain ⟨_, ran, number, rfl⟩ := runs_of_evaluates implements inside section' room
        obtain ⟨reached, ran'⟩ := afterHypothesis later tightLater
        exact ⟨reached, .call other found' (sober'.mpr sober) entered ran ran'⟩
  | branch padded paddedHypothesis =>
      cases shows with
      | branch taken other later => exact paddedHypothesis (.choice taken other later) tight
  | choiceUnknown unknown => omega
  | takenStops holds inside insideHypothesis =>
      cases shows with
      | choice taken other later =>
          rcases Nesting.enter_of_lt tight with refused | ⟨inner, entered, tight⟩
          · exact ⟨_, .branchTooDeep holds refused⟩
          · obtain ⟨reached, ran⟩ := insideHypothesis taken tight
            exact ⟨reached, .takenStops holds entered ran⟩
  | taken holds inside after insideHypothesis afterHypothesis =>
      cases shows with
      | choice taken other later =>
          rcases order tight with tight | ⟨room, tightLater⟩
          · rcases Nesting.enter_of_lt tight with refused | ⟨inner, entered, tight⟩
            · exact ⟨_, .branchTooDeep holds refused⟩
            · rcases order tight with tight | ⟨room, tightOther⟩
              · obtain ⟨reached, ran⟩ := insideHypothesis taken tight
                exact ⟨reached, .takenStops holds entered ran⟩
              · obtain ⟨_, ran, number, rfl⟩ := runs_of_evaluates implements inside taken room
                exact ⟨_, .takenUnread holds entered ran (other.skip_of_lt tightOther)⟩
          · obtain ⟨inner, entered, room⟩ := Nesting.enter_of_le room
            obtain ⟨room, roomOther⟩ := Nat.max_le.mp room
            obtain ⟨_, skipped⟩ := other.skip_of_le roomOther
            obtain ⟨_, ran, number, rfl⟩ := runs_of_evaluates implements inside taken room
            obtain ⟨reached, ran'⟩ := afterHypothesis later tightLater
            exact ⟨reached, .taken holds entered ran skipped ran'⟩
  | otherStops fails inside insideHypothesis =>
      cases shows with
      | choice taken other later =>
          exact tooDeep_of_other fails taken tight (insideHypothesis other)
  | other fails inside after insideHypothesis afterHypothesis =>
      cases shows with
      | choice taken other later =>
          rcases order tight with tight | ⟨room, tightLater⟩
          · exact tooDeep_of_other fails taken tight (insideHypothesis other)
          · obtain ⟨inner, entered, room⟩ := Nesting.enter_of_le room
            obtain ⟨room, roomTaken⟩ := Nat.max_le.mp room
            obtain ⟨_, skipped⟩ := taken.skip_of_le roomTaken
            obtain ⟨_, ran, number, rfl⟩ := runs_of_evaluates implements inside other room
            obtain ⟨reached, ran'⟩ := afterHypothesis later tightLater
            exact ⟨reached, .other fails entered skipped ran ran'⟩
  | loopUnknown unknown => omega
  | loopStops holds inside insideHypothesis =>
      cases shows with
      | loop repeated later =>
          exact tooDeep_of_loop holds tight (insideHypothesis repeated)
  | loopAgain holds inside after insideHypothesis afterHypothesis =>
      cases shows with
      | loop repeated later =>
          rcases order tight with tight | ⟨room, tightLater⟩
          · exact tooDeep_of_loop holds tight (insideHypothesis repeated)
          · obtain ⟨inner, entered, room⟩ := Nesting.enter_of_le room
            obtain ⟨_, ran, number, rfl⟩ := runs_of_evaluates implements inside repeated room
            obtain ⟨reached, ran'⟩ := afterHypothesis (.loop repeated later) tightLater
            exact ⟨reached, .loopAgain holds entered ran ran'⟩
  | loopEnds fails after afterHypothesis =>
      cases shows with
      | loop repeated later =>
          rcases order tight with tight | ⟨room, tightLater⟩
          · rcases Nesting.enter_of_lt tight with refused | ⟨inner, entered, tight⟩
            · exact ⟨_, .loopTooDeep fails refused⟩
            · exact ⟨_, .loopUnread fails entered (repeated.skip_of_lt tight)⟩
          · obtain ⟨inner, entered, room⟩ := Nesting.enter_of_le room
            obtain ⟨_, skipped⟩ := repeated.skip_of_le room
            obtain ⟨reached, ran⟩ := afterHypothesis later tightLater
            exact ⟨reached, .loopEnds fails entered skipped ran⟩
  | iterateStops inside insideHypothesis =>
      cases shows with
      | iterate repeated later =>
          exact tooDeep_of_iterate tight (insideHypothesis repeated)
  | iterateAgain inside after insideHypothesis afterHypothesis =>
      cases shows with
      | iterate repeated later =>
          rcases order tight with tight | ⟨room, tightLater⟩
          · exact tooDeep_of_iterate tight (insideHypothesis repeated)
          · obtain ⟨inner, entered, room⟩ := Nesting.enter_of_le room
            obtain ⟨_, ran, number, rfl⟩ := runs_of_evaluates implements inside repeated room
            obtain ⟨reached, ran'⟩ := afterHypothesis (.iterate repeated later) tightLater
            exact ⟨reached, .iterateAgain entered ran ran'⟩
  | iterateEnds after afterHypothesis =>
      cases shows with
      | iterate repeated later =>
          rcases order tight with tight | ⟨room, tightLater⟩
          · rcases Nesting.enter_of_lt tight with refused | ⟨inner, entered, tight⟩
            · exact ⟨_, .iterateTooDeep refused⟩
            · exact ⟨_, .iterateUnread entered (repeated.skip_of_lt tight)⟩
          · obtain ⟨inner, entered, room⟩ := Nesting.enter_of_le room
            obtain ⟨_, skipped⟩ := repeated.skip_of_le room
            obtain ⟨reached, ran⟩ := afterHypothesis later tightLater
            exact ⟨reached, .iterateEnds entered skipped ran⟩

/-- What a found instruction is defined as. -/
theorem Implements.of_found (implements : program.Implements registry definitions) {name : String} {span : Span}
    (found : registry.find? name = some span) :
    ∃ body, definitions.lookup name = some body ∧
      (program.sectionAt span.start span.stop instructionDepth).Shows body ∧
      (program.selfCall? name span = none ↔ name ∉ body.names) := by
  cases defined : definitions.lookup name with
  | none =>
      rw [implements.missing defined] at found
      cases found
  | some body =>
      obtain ⟨span', found', section', sober⟩ := implements.found defined
      rw [found] at found'
      cases found'
      exact ⟨body, rfl, section', sober⟩

theorem Implements.of_missing (implements : program.Implements registry definitions) {name : String}
    (missing : registry.find? name = none) : definitions.lookup name = none := by
  cases defined : definitions.lookup name with
  | none => rfl
  | some body =>
      obtain ⟨span, found, _⟩ := implements.found defined
      rw [missing] at found
      cases found

/-- A block of a branch shows a choice, whose evaluations are those of the code. -/
theorem shows_choice (definitions : List (String × Code)) {number : Nat} {condition : String}
    {body alternative rest : Block} {code : Code}
    (shows : (Block.branch number condition body alternative rest).Shows code) :
    ∃ inside aside after, body.Shows inside ∧ alternative.Shows aside ∧ rest.Shows after ∧
      ∀ world nesting effect,
        (Code.choice condition inside aside after).Evaluates definitions world nesting effect →
          code.Evaluates definitions world nesting effect := by
  cases shows with
  | branch taken other later =>
      exact ⟨_, _, _, taken, other, later, fun world nesting effect padded => .branch padded⟩
  | choice taken other later => exact ⟨_, _, _, taken, other, later, fun world nesting effect same => same⟩

/-- A run with a regular outcome is an evaluation, and there is room for its nesting. -/
theorem Runs.evaluates (implements : program.Implements registry definitions) {code : Code} {left : Nat}
    {block : Block} {progress : Progress} {outcome : Outcome}
    (runs : program.Runs registry left block progress outcome) (shows : block.Shows code)
    (regular : outcome.Regular) :
    ∃ nesting effect, nesting ≤ left ∧ code.Evaluates definitions progress.world nesting effect ∧
      outcome.Shows progress.actions effect := by
  induction runs generalizing code with
  | outOfFuel => exact absurd rfl regular.1
  | done =>
      cases shows
      exact ⟨0, _, Nat.zero_le _, .done, _, rfl⟩
  | broken => cases shows
  | action known performed after afterHypothesis =>
      obtain _ | later := shows
      obtain ⟨nesting, effect, room, evaluated, shown⟩ := afterHypothesis later regular
      exact ⟨nesting, _, room, .action known performed evaluated, shown.after⟩
  | actionFails known failed =>
      cases shows
      exact ⟨0, _, Nat.zero_le _, .actionFails known failed, .hindered _ _ _ _⟩
  | unknownStatement other missing =>
      cases shows
      exact ⟨0, _, Nat.zero_le _, .unknownStatement other (implements.of_missing missing), _, rfl⟩
  | @selfCall left number guilty name rest progress span other found calls =>
      cases shows
      obtain ⟨body, defined, _, sober⟩ := implements.of_found found
      have member : name ∈ body.names := by
        refine Decidable.not_not.mp fun absent => ?_
        rw [sober.mpr absent] at calls
        cases calls
      exact ⟨0, _, Nat.zero_le _, .selfCall other defined member, _, rfl⟩
  | callTooDeep other found sober refused => exact absurd rfl regular.2
  | callStops other found sober entered body bodyHypothesis =>
      cases shows
      obtain ⟨inside, defined, section', sober'⟩ := implements.of_found found
      obtain ⟨nesting, effect, room, evaluated, shown⟩ := bodyHypothesis section' regular
      obtain ⟨actions, world, mishap, rfl⟩ := shown.of_stopped
      have cost := Nesting.enter?_eq_some.mp entered
      exact ⟨_, _, by omega, .callStops other defined (sober'.mp sober) evaluated, shown⟩
  | call other found sober entered body after bodyHypothesis afterHypothesis =>
      obtain _ | later := shows
      obtain ⟨inside, defined, section', sober'⟩ := implements.of_found found
      obtain ⟨nesting, effect, room, evaluated, shown⟩ := bodyHypothesis section' trivial
      obtain ⟨actions, world, rfl, rfl⟩ := shown.of_finished
      obtain ⟨nesting', effect', room', evaluated', shown'⟩ := afterHypothesis later regular
      have cost := Nesting.enter?_eq_some.mp entered
      exact ⟨_, _, by omega, .call other defined (sober'.mp sober) evaluated evaluated', shown'.after⟩
  | branchUnknown unknown =>
      obtain ⟨inside, aside, after, taken, other, later, same⟩ := shows_choice definitions shows
      exact ⟨0, _, Nat.zero_le _, same _ _ _ (.choiceUnknown unknown), _, rfl⟩
  | branchTooDeep known refused => exact absurd rfl regular.2
  | takenStops holds entered inside insideHypothesis =>
      obtain ⟨inside, aside, after, taken, other, later, same⟩ := shows_choice definitions shows
      obtain ⟨nesting, effect, room, evaluated, shown⟩ := insideHypothesis taken regular
      obtain ⟨actions, world, mishap, rfl⟩ := shown.of_stopped
      have cost := Nesting.enter?_eq_some.mp entered
      exact ⟨_, _, by omega, same _ _ _ (.takenStops holds evaluated), shown⟩
  | takenUnread holds entered inside unread insideHypothesis =>
      obtain ⟨inside, aside, after, taken, other, later, same⟩ := shows_choice definitions shows
      exact absurd (other.eq_of_unread unread) regular.2
  | taken holds entered inside skipped after insideHypothesis afterHypothesis =>
      obtain ⟨inside, aside, after, taken, other, later, same⟩ := shows_choice definitions shows
      obtain ⟨nesting, effect, room, evaluated, shown⟩ := insideHypothesis taken trivial
      obtain ⟨actions, world, rfl, rfl⟩ := shown.of_finished
      obtain ⟨nesting', effect', room', evaluated', shown'⟩ := afterHypothesis later regular
      have cost := Nesting.enter?_eq_some.mp entered
      have roomOther := other.le_of_skip skipped
      exact ⟨_, _, by omega, same _ _ _ (.taken holds evaluated evaluated'), shown'.after⟩
  | otherUnread fails entered unread =>
      obtain ⟨inside, aside, after, taken, other, later, same⟩ := shows_choice definitions shows
      exact absurd (taken.eq_of_unread unread) regular.2
  | otherStops fails entered skipped inside insideHypothesis =>
      obtain ⟨inside, aside, after, taken, other, later, same⟩ := shows_choice definitions shows
      obtain ⟨nesting, effect, room, evaluated, shown⟩ := insideHypothesis other regular
      obtain ⟨actions, world, mishap, rfl⟩ := shown.of_stopped
      have cost := Nesting.enter?_eq_some.mp entered
      have roomTaken := taken.le_of_skip skipped
      exact ⟨_, _, by omega, same _ _ _ (.otherStops fails evaluated), shown⟩
  | other fails entered skipped inside after insideHypothesis afterHypothesis =>
      obtain ⟨inside, aside, after, taken, other, later, same⟩ := shows_choice definitions shows
      obtain ⟨nesting, effect, room, evaluated, shown⟩ := insideHypothesis other trivial
      obtain ⟨actions, world, rfl, rfl⟩ := shown.of_finished
      obtain ⟨nesting', effect', room', evaluated', shown'⟩ := afterHypothesis later regular
      have cost := Nesting.enter?_eq_some.mp entered
      have roomTaken := taken.le_of_skip skipped
      exact ⟨_, _, by omega, same _ _ _ (.other fails evaluated evaluated'), shown'.after⟩
  | loopUnknown unknown =>
      cases shows
      exact ⟨0, _, Nat.zero_le _, .loopUnknown unknown, _, rfl⟩
  | loopTooDeep known refused => exact absurd rfl regular.2
  | loopStops holds entered inside insideHypothesis =>
      cases shows with
      | loop repeated later =>
          obtain ⟨nesting, effect, room, evaluated, shown⟩ := insideHypothesis repeated regular
          obtain ⟨actions, world, mishap, rfl⟩ := shown.of_stopped
          have cost := Nesting.enter?_eq_some.mp entered
          exact ⟨_, _, by omega, .loopStops holds evaluated, shown⟩
  | loopAgain holds entered inside after insideHypothesis afterHypothesis =>
      cases shows with
      | loop repeated later =>
          obtain ⟨nesting, effect, room, evaluated, shown⟩ := insideHypothesis repeated trivial
          obtain ⟨actions, world, rfl, rfl⟩ := shown.of_finished
          obtain ⟨nesting', effect', room', evaluated', shown'⟩ := afterHypothesis (.loop repeated later) regular
          have cost := Nesting.enter?_eq_some.mp entered
          exact ⟨_, _, by omega, .loopAgain holds evaluated evaluated', shown'.after⟩
  | loopUnread fails entered unread =>
      cases shows with
      | loop repeated later => exact absurd (repeated.eq_of_unread unread) regular.2
  | loopEnds fails entered skipped after afterHypothesis =>
      cases shows with
      | loop repeated later =>
          obtain ⟨nesting, effect, room, evaluated, shown⟩ := afterHypothesis later regular
          have cost := Nesting.enter?_eq_some.mp entered
          have roomInside := repeated.le_of_skip skipped
          exact ⟨_, _, by omega, .loopEnds fails evaluated, shown⟩
  | iterateTooDeep refused => exact absurd rfl regular.2
  | iterateStops entered inside insideHypothesis =>
      cases shows with
      | iterate repeated later =>
          obtain ⟨nesting, effect, room, evaluated, shown⟩ := insideHypothesis repeated regular
          obtain ⟨actions, world, mishap, rfl⟩ := shown.of_stopped
          have cost := Nesting.enter?_eq_some.mp entered
          exact ⟨_, _, by omega, .iterateStops evaluated, shown⟩
  | iterateAgain entered inside after insideHypothesis afterHypothesis =>
      cases shows with
      | iterate repeated later =>
          obtain ⟨nesting, effect, room, evaluated, shown⟩ := insideHypothesis repeated trivial
          obtain ⟨actions, world, rfl, rfl⟩ := shown.of_finished
          obtain ⟨nesting', effect', room', evaluated', shown'⟩ :=
            afterHypothesis (.iterate repeated later) regular
          have cost := Nesting.enter?_eq_some.mp entered
          exact ⟨_, _, by omega, .iterateAgain evaluated evaluated', shown'.after⟩
  | iterateUnread entered unread =>
      cases shows with
      | iterate repeated later => exact absurd (repeated.eq_of_unread unread) regular.2
  | iterateEnds entered skipped after afterHypothesis =>
      cases shows with
      | iterate repeated later =>
          obtain ⟨nesting, effect, room, evaluated, shown⟩ := afterHypothesis later regular
          have cost := Nesting.enter?_eq_some.mp entered
          have roomInside := repeated.le_of_skip skipped
          exact ⟨_, _, by omega, .iterateEnds evaluated, shown⟩

end

end Program

end GridRobot
