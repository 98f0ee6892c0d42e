import GridRobot.Program.Run
import GridRobot.Proofs.Classification

namespace GridRobot

namespace Line

/-- A line of words behind a number of tabs. -/
def printed (depth : Nat) (words : String) : String :=
  String.ofList (indented depth words.toList)

/-- The lines of a block between the lines that open and close it. -/
def enclosed (depth : Nat) (inside : List String) (terminated : Bool) : List String :=
  printed depth "BEGIN" :: (inside ++ [printed depth ("END" ++ terminator terminated)])

end Line

/-- The steps of an abstract block; every step carries the steps after it. -/
inductive Code where
  | done
  | statement (name : String) (rest : Code)
  | branch (condition : String) (body rest : Code)
  | choice (condition : String) (body alternative rest : Code)
  | loop (condition : String) (body rest : Code)
  | iterate (count : Nat) (body rest : Code)
  deriving DecidableEq, Repr

namespace Code

/-- The names of all statements in a block. -/
def names : Code → List String
  | .done => []
  | .statement name rest => name :: rest.names
  | .branch _ body rest => body.names ++ rest.names
  | .choice _ body alternative rest => body.names ++ (alternative.names ++ rest.names)
  | .loop _ body rest => body.names ++ rest.names
  | .iterate _ body rest => body.names ++ rest.names

/-- How many blocks are open at once where the block nests deepest. -/
def height : Code → Nat
  | .done => 0
  | .statement _ rest => rest.height
  | .branch _ body rest => max (body.height + 1) rest.height
  | .choice _ body alternative rest => max (max body.height alternative.height + 1) rest.height
  | .loop _ body rest => max (body.height + 1) rest.height
  | .iterate _ body rest => max (body.height + 1) rest.height

/-- Whether a closing line comes next, in a block that is closed or not. -/
def endsNext (closed : Bool) : Code → Bool
  | .done => closed
  | _ => false

/-- The lines of a block at a depth; a line is terminated unless a closing line follows it. -/
def lines : Code → (depth : Nat) → (closed : Bool) → List String
  | .done, _, _ => []
  | .statement name rest, depth, closed =>
    Line.printed depth (name ++ Line.terminator !rest.endsNext closed) :: rest.lines depth closed
  | .branch condition body rest, depth, closed =>
    Line.printed depth ("IF " ++ condition ++ " THEN") ::
      (Line.enclosed depth (body.lines (depth + 1) true) (!rest.endsNext closed) ++ rest.lines depth closed)
  | .choice condition body alternative rest, depth, closed =>
    Line.printed depth ("IF " ++ condition ++ " THEN") ::
      (Line.enclosed depth (body.lines (depth + 1) true) true ++
        Line.printed depth "ELSE" ::
          (Line.enclosed depth (alternative.lines (depth + 1) true) (!rest.endsNext closed) ++
            rest.lines depth closed))
  | .loop condition body rest, depth, closed =>
    Line.printed depth ("WHILE " ++ condition ++ " DO") ::
      (Line.enclosed depth (body.lines (depth + 1) true) (!rest.endsNext closed) ++ rest.lines depth closed)
  | .iterate count body rest, depth, closed =>
    Line.printed depth ("ITERATE " ++ count.repr ++ " TIMES") ::
      (Line.enclosed depth (body.lines (depth + 1) true) (!rest.endsNext closed) ++ rest.lines depth closed)

/-- The names, conditions and counts of a block can be written on a line. -/
def Valid : Code → Prop
  | .done => True
  | .statement name rest => Line.IsName name ∧ name ∉ Line.reserved ∧ rest.Valid
  | .branch condition body rest => Line.IsCondition condition ∧ body.Valid ∧ rest.Valid
  | .choice condition body alternative rest =>
    Line.IsCondition condition ∧ body.Valid ∧ alternative.Valid ∧ rest.Valid
  | .loop condition body rest => Line.IsCondition condition ∧ body.Valid ∧ rest.Valid
  | .iterate count body rest => count.repr.length ≤ Numeral.maxDigits ∧ body.Valid ∧ rest.Valid

instance decidableValid : (code : Code) → Decidable code.Valid
  | .done => inferInstanceAs (Decidable True)
  | .statement _ rest =>
    have := decidableValid rest
    inferInstanceAs (Decidable (_ ∧ _))
  | .branch _ body rest =>
    have := decidableValid body
    have := decidableValid rest
    inferInstanceAs (Decidable (_ ∧ _))
  | .choice _ body alternative rest =>
    have := decidableValid body
    have := decidableValid alternative
    have := decidableValid rest
    inferInstanceAs (Decidable (_ ∧ _))
  | .loop _ body rest =>
    have := decidableValid body
    have := decidableValid rest
    inferInstanceAs (Decidable (_ ∧ _))
  | .iterate _ body rest =>
    have := decidableValid body
    have := decidableValid rest
    inferInstanceAs (Decidable (_ ∧ _))

end Code

/-- What breaks off an evaluation: the cause of a fault, or a position that is too long to be written. -/
inductive Mishap where
  | fault (cause : Cause)
  | unwritable
  deriving DecidableEq, Repr

namespace Mishap

def ofHindrance : Hindrance → Mishap
  | .robot error => .fault (.robot error)
  | .unwritable => .unwritable

/-- Why a run stops when it meets a mishap on a line. -/
def stop (number : Nat) : Mishap → Stop
  | .fault cause => .fault (.onLine cause number)
  | .unwritable => .unwritable

/-- The mishap that a run was stopped by, on whichever line it was met. -/
def ofStop? : Stop → Option Mishap
  | .fault found => some (.fault found.cause)
  | .unwritable => some .unwritable
  | _ => none

theorem ofStop?_stop (mishap : Mishap) (number : Nat) : ofStop? (mishap.stop number) = some mishap := by
  cases mishap <;> rfl

theorem stop_ofHindrance (hindrance : Hindrance) (number : Nat) :
    (ofHindrance hindrance).stop number = hindrance.stop number := by
  cases hindrance <;> rfl

end Mishap

/-- What evaluating a block comes to: the actions in order, the last world, and the mishap that broke off
the evaluation if it did not complete. -/
structure Effect where
  actions : List Action := []
  world : World
  error : Option Mishap := none
  deriving DecidableEq, Repr

/-- The effect behind other actions. -/
def Effect.after (effect : Effect) (actions : List Action) : Effect :=
  { effect with actions := actions ++ effect.actions }

/-- The evaluation of a block by its structure. The nesting counts what blocks and calls use up where
they nest deepest, blocks that are not run included. -/
inductive Code.Evaluates (definitions : List (String × Code)) :
    (code : Code) → (world : World) → (nesting : Nat) → (effect : Effect) → Prop where
  | done {world : World} : Evaluates definitions .done world 0 { world }
  | action {name : String} {rest : Code} {world moved : World} {action : Action} {nesting : Nat}
      {effect : Effect} (known : Action.ofName? name = some action) (performed : world.perform action = .ok moved)
      (after : Evaluates definitions rest moved nesting effect) :
      Evaluates definitions (.statement name rest) world nesting (effect.after [action])
  | actionFails {name : String} {rest : Code} {world : World} {action : Action} {hindrance : Hindrance}
      (known : Action.ofName? name = some action) (failed : world.perform action = .error hindrance) :
      Evaluates definitions (.statement name rest) world 0 { world, error := some (.ofHindrance hindrance) }
  | unknownStatement {name : String} {rest : Code} {world : World} (other : Action.ofName? name = none)
      (missing : definitions.lookup name = none) :
      Evaluates definitions (.statement name rest) world 0 { world, error := some (.fault (.unknownStatement name)) }
  | selfCall {name : String} {rest body : Code} {world : World} (other : Action.ofName? name = none)
      (found : definitions.lookup name = some body) (calls : name ∈ body.names) :
      Evaluates definitions (.statement name rest) world 0 { world, error := some (.fault (.selfCall name)) }
  | callStops {name : String} {rest body : Code} {world reached : World} {nesting : Nat}
      {actions : List Action} {mishap : Mishap} (other : Action.ofName? name = none)
      (found : definitions.lookup name = some body) (sober : name ∉ body.names)
      (inside : Evaluates definitions body world nesting ⟨actions, reached, some mishap⟩) :
      Evaluates definitions (.statement name rest) world (nesting + Nesting.callCost)
        ⟨actions, reached, some mishap⟩
  | call {name : String} {rest body : Code} {world reached : World} {nesting later : Nat}
      {actions : List Action} {effect : Effect} (other : Action.ofName? name = none)
      (found : definitions.lookup name = some body) (sober : name ∉ body.names)
      (inside : Evaluates definitions body world nesting ⟨actions, reached, none⟩)
      (after : Evaluates definitions rest reached later effect) :
      Evaluates definitions (.statement name rest) world (max (nesting + Nesting.callCost) later)
        (effect.after actions)
  | branch {condition : String} {body rest : Code} {world : World} {nesting : Nat} {effect : Effect}
      (padded : Evaluates definitions (.choice condition body .done rest) world nesting effect) :
      Evaluates definitions (.branch condition body rest) world nesting effect
  | choiceUnknown {condition : String} {body alternative rest : Code} {world : World}
      (unknown : world.ask? condition = none) :
      Evaluates definitions (.choice condition body alternative rest) world 0
        { world, error := some (.fault (.unknownCondition condition)) }
  | takenStops {condition : String} {body alternative rest : Code} {world reached : World} {nesting : Nat}
      {actions : List Action} {mishap : Mishap} (holds : world.ask? condition = some true)
      (inside : Evaluates definitions body world nesting ⟨actions, reached, some mishap⟩) :
      Evaluates definitions (.choice condition body alternative rest) world (nesting + Nesting.blockCost)
        ⟨actions, reached, some mishap⟩
  | taken {condition : String} {body alternative rest : Code} {world reached : World} {nesting later : Nat}
      {actions : List Action} {effect : Effect} (holds : world.ask? condition = some true)
      (inside : Evaluates definitions body world nesting ⟨actions, reached, none⟩)
      (after : Evaluates definitions rest reached later effect) :
      Evaluates definitions (.choice condition body alternative rest) world
        (max (max nesting (Nesting.blockCost * alternative.height) + Nesting.blockCost) later)
        (effect.after actions)
  | otherStops {condition : String} {body alternative rest : Code} {world reached : World} {nesting : Nat}
      {actions : List Action} {mishap : Mishap} (fails : world.ask? condition = some false)
      (inside : Evaluates definitions alternative world nesting ⟨actions, reached, some mishap⟩) :
      Evaluates definitions (.choice condition body alternative rest) world
        (max nesting (Nesting.blockCost * body.height) + Nesting.blockCost) ⟨actions, reached, some mishap⟩
  | other {condition : String} {body alternative rest : Code} {world reached : World} {nesting later : Nat}
      {actions : List Action} {effect : Effect} (fails : world.ask? condition = some false)
      (inside : Evaluates definitions alternative world nesting ⟨actions, reached, none⟩)
      (after : Evaluates definitions rest reached later effect) :
      Evaluates definitions (.choice condition body alternative rest) world
        (max (max nesting (Nesting.blockCost * body.height) + Nesting.blockCost) later) (effect.after actions)
  | loopUnknown {condition : String} {body rest : Code} {world : World}
      (unknown : world.ask? condition = none) :
      Evaluates definitions (.loop condition body rest) world 0
        { world, error := some (.fault (.unknownCondition condition)) }
  | loopStops {condition : String} {body rest : Code} {world reached : World} {nesting : Nat}
      {actions : List Action} {mishap : Mishap} (holds : world.ask? condition = some true)
      (inside : Evaluates definitions body world nesting ⟨actions, reached, some mishap⟩) :
      Evaluates definitions (.loop condition body rest) world (nesting + Nesting.blockCost)
        ⟨actions, reached, some mishap⟩
  | loopAgain {condition : String} {body rest : Code} {world reached : World} {nesting later : Nat}
      {actions : List Action} {effect : Effect} (holds : world.ask? condition = some true)
      (inside : Evaluates definitions body world nesting ⟨actions, reached, none⟩)
      (after : Evaluates definitions (.loop condition body rest) reached later effect) :
      Evaluates definitions (.loop condition body rest) world (max (nesting + Nesting.blockCost) later)
        (effect.after actions)
  | loopEnds {condition : String} {body rest : Code} {world : World} {later : Nat} {effect : Effect}
      (fails : world.ask? condition = some false) (after : Evaluates definitions rest world later effect) :
      Evaluates definitions (.loop condition body rest) world
        (max (Nesting.blockCost * body.height + Nesting.blockCost) later) effect
  | iterateStops {more : Nat} {body rest : Code} {world reached : World} {nesting : Nat}
      {actions : List Action} {mishap : Mishap}
      (inside : Evaluates definitions body world nesting ⟨actions, reached, some mishap⟩) :
      Evaluates definitions (.iterate (more + 1) body rest) world (nesting + Nesting.blockCost)
        ⟨actions, reached, some mishap⟩
  | iterateAgain {more : Nat} {body rest : Code} {world reached : World} {nesting later : Nat}
      {actions : List Action} {effect : Effect}
      (inside : Evaluates definitions body world nesting ⟨actions, reached, none⟩)
      (after : Evaluates definitions (.iterate more body rest) reached later effect) :
      Evaluates definitions (.iterate (more + 1) body rest) world (max (nesting + Nesting.blockCost) later)
        (effect.after actions)
  | iterateEnds {body rest : Code} {world : World} {later : Nat} {effect : Effect}
      (after : Evaluates definitions rest world later effect) :
      Evaluates definitions (.iterate 0 body rest) world
        (max (Nesting.blockCost * body.height + Nesting.blockCost) later) effect

/-- An abstract program: instructions with their bodies, and the block that is carried out. -/
structure Source where
  definitions : List (String × Code) := []
  main : Code
  deriving DecidableEq, Repr

namespace Source

/-- The lines of the definition of an instruction. -/
def definitionLines (definition : String × Code) : List String :=
  Line.printed 1 ("DEFINE-NEW-INSTRUCTION " ++ definition.1 ++ " AS") ::
    Line.enclosed 1 (definition.2.lines 2 true) false

/-- The text of an abstract program. -/
def lines (source : Source) : List String :=
  Line.printed 0 "BEGINNING-OF-PROGRAM" ::
    (source.definitions.flatMap definitionLines ++
      Line.printed 1 "BEGINNING-OF-EXECUTION" ::
        (source.main.lines 2 false ++
          [Line.printed 2 "turnoff", Line.printed 1 "END-OF-EXECUTION", Line.printed 0 "END-OF-PROGRAM"]))

/-- The program that the text is read as. -/
def program (source : Source) : Program :=
  Program.classify source.lines

/-- The instructions have different names that are not built in, and everything can be written. -/
structure Valid (source : Source) : Prop where
  named : ∀ definition ∈ source.definitions, Line.IsName definition.1 ∧ definition.1 ∉ Line.reserved
  distinct : (source.definitions.map Prod.fst).Nodup
  new : ∀ definition ∈ source.definitions, Action.ofName? definition.1 = none
  bodies : ∀ definition ∈ source.definitions, definition.2.Valid
  main : source.main.Valid

instance (source : Source) : Decidable source.Valid :=
  decidable_of_iff
    ((∀ definition ∈ source.definitions, Line.IsName definition.1 ∧ definition.1 ∉ Line.reserved) ∧
      (source.definitions.map Prod.fst).Nodup ∧
      (∀ definition ∈ source.definitions, Action.ofName? definition.1 = none) ∧
      (∀ definition ∈ source.definitions, definition.2.Valid) ∧ source.main.Valid)
    ⟨fun ⟨named, distinct, new, bodies, main⟩ => ⟨named, distinct, new, bodies, main⟩,
      fun ⟨named, distinct, new, bodies, main⟩ => ⟨named, distinct, new, bodies, main⟩⟩

/-- What the bodies of definitions use up while they are read. -/
def readingNesting (definitions : List (String × Code)) : Nat :=
  definitions.foldr (fun definition nesting =>
    max (Nesting.blockCost * definition.2.height + Nesting.blockCost) nesting) 0

/-- The evaluation of an abstract program in a world. -/
def Evaluates (source : Source) (world : World) (nesting : Nat) (effect : Effect) : Prop :=
  ∃ used, source.main.Evaluates source.definitions world used effect ∧
    nesting = max (readingNesting source.definitions) used

end Source

end GridRobot
