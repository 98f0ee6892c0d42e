import GridRobot.Proofs.Definitions
import GridRobot.Proofs.Levels
import GridRobot.Proofs.Staging

namespace GridRobot

/-- An instruction is still found if others are added behind it. -/
theorem Registry.find?_of_prefix {registry extended : Registry} {name : String} {span : Span}
    (kept : registry.entries <+: extended.entries) (found : registry.find? name = some span) :
    extended.find? name = some span := by
  obtain ⟨added, whole⟩ := kept
  rw [find?, ← whole, List.lookup_append, ← find?, found]
  rfl

def LineKind.isDefinition : LineKind → Bool
  | .define _ => true
  | _ => false

namespace Program

def isDefinitionAt (program : Program) (number : Nat) : Bool :=
  (program[number]?).any fun line => line.kind.isDefinition

/-- The numbers of the lines that are headers of definitions, in the order of the text. -/
def definitionNumbers (program : Program) : List Nat :=
  (List.range program.length).filter program.isDefinitionAt

section
variable {program : Program} {height depth number first last : Nat} {kind : LineKind} {entry : String × Span}
  {entries : List (String × Span)}

theorem Holds.isDefinitionAt (holds : program.Holds number depth kind) :
    program.isDefinitionAt number = kind.isDefinition := by
  obtain ⟨line, present, rfl, _⟩ := holds
  rw [Program.isDefinitionAt, present]
  rfl

/-- No line of a block is the header of a definition. -/
theorem Derives.isDefinitionAt (derives : program.Derives height depth first last) (after : first ≤ number)
    (before : number < last) : program.isDefinitionAt number = false := by
  induction derives with
  | empty => omega
  | @statement height depth first last name terminated holds punctuated rest inductionHypothesis =>
      rcases Nat.eq_or_lt_of_le after with rfl | later
      · exact holds.isDefinitionAt
      · exact inductionHypothesis later before
  | @control height depth first close last kind terminated holds control opening body closing punctuated rest
      bodyHypothesis restHypothesis =>
      -- The line is the header, opens or closes the block, or lies in the block or behind it.
      rcases (by omega : number = first ∨ number = first + 1 ∨ (first + 2 ≤ number ∧ number < close) ∨
        number = close ∨ close + 1 ≤ number) with rfl | rfl | inside | rfl | later
      · rw [holds.isDefinitionAt]
        cases control <;> rfl
      · exact opening.isDefinitionAt
      · exact bodyHypothesis inside.1 inside.2
      · exact closing.isDefinitionAt
      · exact restHypothesis later before
  | @choice height depth first close afterwards last condition terminated terminated' holds opening body closing
      punctuated otherwise opening' alternative closing' punctuated' rest bodyHypothesis alternativeHypothesis
      restHypothesis =>
      rcases (by omega : number = first ∨ number = first + 1 ∨ (first + 2 ≤ number ∧ number < close) ∨
        number = close ∨ number = close + 1 ∨ number = close + 2 ∨
        (close + 3 ≤ number ∧ number < afterwards) ∨ number = afterwards ∨ afterwards + 1 ≤ number) with
        rfl | rfl | inside | rfl | rfl | rfl | inside | rfl | later
      · exact holds.isDefinitionAt
      · exact opening.isDefinitionAt
      · exact bodyHypothesis inside.1 inside.2
      · exact closing.isDefinitionAt
      · exact otherwise.isDefinitionAt
      · exact opening'.isDefinitionAt
      · exact alternativeHypothesis inside.1 inside.2
      · exact closing'.isDefinitionAt
      · exact restHypothesis later before

/-- The lines of a definition have no other header. -/
theorem Defines.isDefinitionAt (defines : program.Defines entry) (after : entry.2.header < number)
    (before : number ≤ entry.2.stop) : program.isDefinitionAt number = false := by
  have first := defines.header_add
  obtain ⟨derives, _⟩ := derives_of_skip (by decide) entry.2.start_le_stop defines.body
  obtain ⟨terminated, closing⟩ := defines.closing
  rcases (by omega : number = entry.2.header + 1 ∨ (entry.2.start ≤ number ∧ number < entry.2.stop) ∨
    number = entry.2.stop) with rfl | inside | rfl
  · exact defines.opening.isDefinitionAt
  · exact derives.isDefinitionAt inside.1 inside.2
  · exact closing.isDefinitionAt

/-- Where definitions follow each other, the headers among the lines are theirs. -/
theorem Tiles.filter_eq (tiles : Tiles first entries last) (defines : ∀ entry ∈ entries, program.Defines entry) :
    (List.range' first (last - first)).filter program.isDefinitionAt = entries.map (·.2.header) := by
  induction entries generalizing first with
  | nil =>
      cases tiles
      rw [Nat.sub_self]
      rfl
  | cons entry rest inductionHypothesis =>
      obtain ⟨rfl, tiles⟩ := tiles
      rw [List.forall_mem_cons] at defines
      obtain ⟨whole, others⟩ := defines
      have later := tiles.le
      have ordered := entry.2.header_le_stop
      -- The header comes first, the other lines of the definition are no headers, and then come the rest.
      have parts : List.range' entry.2.header (last - entry.2.header) = entry.2.header ::
          (List.range' (entry.2.header + 1) (entry.2.stop - entry.2.header) ++
            List.range' (entry.2.stop + 1) (last - (entry.2.stop + 1))) := by
        have sizes : last - entry.2.header =
            (entry.2.stop - entry.2.header + (last - (entry.2.stop + 1))) + 1 := by omega
        have next : entry.2.stop + 1 = entry.2.header + 1 + (entry.2.stop - entry.2.header) := by omega
        rw [sizes, List.range'_succ, next, List.range'_append_1]
      have inside : (List.range' (entry.2.header + 1) (entry.2.stop - entry.2.header)).filter
          program.isDefinitionAt = [] := by
        rw [List.filter_eq_nil_iff]
        intro number member
        rw [List.mem_range'_1] at member
        rw [whole.isDefinitionAt (by omega) (by omega)]
        exact Bool.false_ne_true
      rw [parts, List.filter_cons_of_pos whole.header.isDefinitionAt, List.filter_append, inside,
        inductionHypothesis tiles others, List.nil_append, List.map_cons]

/-- The first line of a program is no header of a definition. -/
theorem isDefinitionAt_zero (marked : program.checkMarkers = .ok ()) :
    0 < program.length ∧ program.isDefinitionAt 0 = false := by
  rw [checkMarkers] at marked
  split at marked
  · cases marked
  · rename_i checked
    obtain ⟨long, start, _⟩ := hasKindAt_of_checkSkeleton checked
    refine ⟨by omega, ?_⟩
    rw [hasKindAt] at start
    rw [isDefinitionAt]
    cases present : program[0]? with
    | none => rfl
    | some line =>
        rw [present] at start
        have kind : line.kind = .programStart := of_decide_eq_true start
        rw [Option.any_some, kind]
        rfl

/-- Definitions that follow each other from the second line on are the first ones of the text. -/
theorem Tiles.headers_prefix (tiles : Tiles 1 entries last) (marked : program.checkMarkers = .ok ())
    (within : last ≤ program.length) (defines : ∀ entry ∈ entries, program.Defines entry) :
    entries.map (·.2.header) <+: program.definitionNumbers := by
  obtain ⟨filled, first⟩ := isDefinitionAt_zero marked
  have later := tiles.le
  have parts : List.range program.length = 0 :: List.range' 1 (program.length - 1) := by
    rw [List.range_eq_range', ← Nat.sub_add_cancel filled, List.range'_succ]
    rfl
  have split := @List.range'_append_1 1 (last - 1) (program.length - last)
  rw [show 1 + (last - 1) = last by omega, show last - 1 + (program.length - last) = program.length - 1 by omega]
    at split
  rw [definitionNumbers, parts, List.filter_cons_of_neg (by simp [first]), ← split, List.filter_append,
    tiles.filter_eq defines]
  exact List.prefix_append _ _

end

end Program

/-- A moment of a whole run: the definitions are read from a line on, or the execution section is run. -/
inductive Moment where
  | reading (number : Nat) (registry : Registry)
  | running (registry : Registry) (point : Point)

/-- The instructions that are known at a moment. -/
def Moment.registry : Moment → Registry
  | .reading _ registry => registry
  | .running registry _ => registry

namespace Program

/-- How a whole run gets from one moment to a later one. -/
inductive Proceeds (program : Program) (world : World) : Moment → Moment → Prop where
  | define {number last : Nat} {name : String} {registry extended : Registry}
      (inRange : number < program.turnoffNumber) (holds : program.Holds number 1 (.define name))
      (defined : program.define number program.turnoffNumber registry = .ok (last, extended)) :
      Proceeds program world (.reading number registry) (.reading (last + 1) extended)
  | start {number : Nat} {registry : Registry} (inRange : number < program.turnoffNumber)
      (holds : program.Holds number 1 .executionStart) :
      Proceeds program world (.reading number registry)
        (.running registry ⟨Nesting.limit,
          program.sectionAt (number + 1) program.turnoffNumber executionDepth, { world }⟩)
  | step {registry : Registry} {point next : Point} (leads : program.Leads registry point next) :
      Proceeds program world (.running registry point) (.running registry next)

/-- The moments of a run that starts with a registry, once its markers are checked. -/
structure Reaches (program : Program) (world : World) (registry : Registry) (moment : Moment) : Prop where
  marked : program.checkMarkers = .ok ()
  path : Relation.ReflTransGen (program.Proceeds world) (.reading 1 registry) moment

/-- The registry holds the first definitions of the text in their order: names are different and not built in,
every entry has the lines of its definition, the bodies lie apart and one after the other, and each is accepted by
a walk that is not live. -/
structure Catalogues (program : Program) (registry : Registry) : Prop where
  distinct : (registry.entries.map Prod.fst).Nodup
  other : ∀ entry ∈ registry.entries, Action.ofName? entry.1 = none
  text : ∀ (index : Nat) (name : String) (span : Span), registry.entries[index]? = some (name, span) →
    2 ≤ span.start ∧ program.definitionNumbers[index]? = some (span.start - 2) ∧
      program.Holds (span.start - 2) 1 (.define name) ∧ program.Holds (span.start - 1) 1 .opening ∧
      ∃ terminated, program.Holds span.stop 1 (.closing terminated)
  ordered : registry.entries.Pairwise fun first second => first.2.stop < second.2.start
  accepted : ∀ entry ∈ registry.entries, ∀ (known : Registry) (fuel : Nat) (progress : Progress),
    program.carryOut known fuel false (program.block entry.2.start entry.2.stop instructionDepth) progress =
      .finished entry.2.stop progress

/-- The definitions before a line are registered. -/
structure Registered (program : Program) (number : Nat) (registry : Registry) : Prop where
  within : number ≤ program.length
  distinct : (registry.entries.map Prod.fst).Nodup
  tiles : Tiles 1 registry.entries number
  defines : ∀ entry ∈ registry.entries, program.Defines entry

section
variable {program : Program} {registry extended known : Registry} {number first last : Nat} {name : String}
  {entry : String × Span} {entries : List (String × Span)} {world : World} {moment next : Moment}

theorem Tiles.concat (tiles : Tiles first entries entry.2.header) :
    Tiles first (entries ++ [entry]) (entry.2.stop + 1) := by
  induction entries generalizing first with
  | nil => exact ⟨tiles.symm, rfl⟩
  | cons other rest inductionHypothesis => exact ⟨tiles.1, inductionHypothesis tiles.2⟩

theorem Tiles.le_header (tiles : Tiles first entries last) (member : entry ∈ entries) :
    first ≤ entry.2.header := by
  induction entries generalizing first with
  | nil => cases member
  | cons other rest inductionHypothesis =>
      obtain ⟨rfl, tiles⟩ := tiles
      rcases List.mem_cons.mp member with rfl | member
      · exact Nat.le_refl _
      · have ordered := other.2.header_le_stop
        have above := inductionHypothesis tiles member
        omega

/-- Definitions that follow each other have bodies that lie apart, one after the other. -/
theorem Tiles.pairwise (tiles : Tiles first entries last) :
    entries.Pairwise fun first second => first.2.stop < second.2.start := by
  induction entries generalizing first with
  | nil => exact .nil
  | cons entry rest inductionHypothesis =>
      obtain ⟨rfl, tiles⟩ := tiles
      refine .cons ?_ (inductionHypothesis tiles)
      intro other member
      have above := tiles.le_header member
      have below : other.2.header ≤ other.2.start := Nat.sub_le _ _
      omega

/-- A definition that is accepted is registered behind the others. -/
theorem Registered.define (registered : program.Registered number registry)
    (holds : program.Holds number 1 (.define name))
    (defined : program.define number program.turnoffNumber registry = .ok (last, extended)) :
    program.Registered (last + 1) extended := by
  obtain ⟨ordered, rfl, whole, free⟩ := defines_of_define holds defined (Nat.sub_le _ _)
  refine ⟨whole.stop_lt, Registry.nodup_concat registered.distinct free, registered.tiles.concat, ?_⟩
  intro entry member
  rcases List.mem_append.mp member with earlier | added
  · exact registered.defines entry earlier
  · rw [List.mem_singleton.mp added]
    exact whole

/-- Registered definitions are the first ones of the text. -/
theorem Registered.catalogues (registered : program.Registered number registry)
    (marked : program.checkMarkers = .ok ()) : program.Catalogues registry where
  distinct := registered.distinct
  other := fun entry member => (registered.defines entry member).other
  text := by
    intro index name span present
    have defines := registered.defines _ (List.mem_of_getElem? present)
    have room : 2 ≤ span.start := defines.room
    have listed : (registry.entries.map (·.2.header))[index]? = some span.header := by
      rw [List.getElem?_map, present]
      rfl
    refine ⟨room, ?_, defines.header, ?_, defines.closing⟩
    · obtain ⟨others, whole⟩ := registered.tiles.headers_prefix marked registered.within registered.defines
      rw [← whole, List.getElem?_append_left (List.getElem?_eq_some_iff.mp listed).1]
      exact listed
    · rw [show span.start - 1 = span.header + 1 by rw [Span.header]; omega]
      exact defines.opening
  ordered := registered.tiles.pairwise
  accepted := by
    intro entry member known fuel progress
    obtain ⟨sound, room, ended⟩ := Block.skip_eq_ok_iff.mp (registered.defines entry member).body
    exact carryOut_eq_finished.mpr
      ⟨rfl, Block.skip_eq_ok_iff.mpr ⟨sound, Nat.le_trans room (Nat.sub_le _ _), ended⟩⟩

end

end Program

/-- The definitions that have been read at a moment are registered. -/
def Moment.Registered (program : Program) : Moment → Prop
  | .reading number registry => program.Registered number registry
  | .running registry _ => ∃ number, program.Registered number registry

/-- What the definitions come to is settled by a moment: by those that are still to be read, or by none. -/
def Moment.Settles (program : Program) (registry : Registry) : Moment → Prop
  | .reading number reached => ∃ fuel, program.turnoffNumber - number ≤ fuel ∧
      program.declare program.turnoffNumber program.turnoffNumber 1 registry =
        program.declare program.turnoffNumber fuel number reached
  | .running known _ => ∃ start,
      program.declare program.turnoffNumber program.turnoffNumber 1 registry = (.ok start, known)

namespace Program

section
variable {program : Program} {registry extended known : Registry} {number last fuel : Nat} {name : String}
  {world : World} {moment next : Moment}

theorem Proceeds.registered (proceeds : program.Proceeds world moment next)
    (registered : moment.Registered program) : next.Registered program := by
  cases proceeds with
  | define inRange holds defined => exact Program.Registered.define registered holds defined
  | start inRange holds => exact ⟨_, registered⟩
  | step leads => exact registered

/-- Entries are only added, behind the others. -/
theorem Proceeds.entries_prefix (proceeds : program.Proceeds world moment next) :
    moment.registry.entries <+: next.registry.entries := by
  cases proceeds with
  | define inRange holds defined =>
      obtain ⟨ordered, rfl, _⟩ := defines_of_define holds defined (Nat.sub_le _ _)
      exact List.prefix_append _ _
  | start inRange holds => exact List.prefix_rfl
  | step leads => exact List.prefix_rfl

/-- On the header of a definition the definition decides how the reading goes on. -/
theorem declare_of_define {stop : Nat} (inRange : number < stop)
    (holds : program.Holds number 1 (.define name)) :
    program.declare stop (fuel + 1) number registry =
      match program.define number stop registry with
      | .error problem => (.error problem, registry)
      | .ok (last, extended) => program.declare stop fuel (last + 1) extended := by
  obtain ⟨line, present, kind, indented⟩ := holds.checkIndent
  have indented : line.checkIndent number definitionDepth = .ok () := indented
  rw [declare, if_neg (by omega)]
  cases program.define number stop registry with
  | error problem => simp only [present, indented, kind]
  | ok result => simp only [present, indented, kind]

theorem Proceeds.settles (proceeds : program.Proceeds world moment next)
    (settles : moment.Settles program registry) : next.Settles program registry := by
  cases proceeds with
  | @define number last name reached extended inRange holds defined =>
      obtain ⟨fuel, enough, same⟩ := settles
      obtain ⟨_, _, _, _, _, ordered, _⟩ := (define_eq_ok holds).mp defined
      obtain ⟨less, rfl⟩ : ∃ less, fuel = less + 1 := ⟨fuel - 1, by omega⟩
      rw [declare_of_define inRange holds, defined] at same
      exact ⟨less, by omega, same⟩
  | @start number reached inRange holds =>
      obtain ⟨fuel, enough, same⟩ := settles
      rw [(Declares.start inRange holds).declare_eq enough] at same
      exact ⟨number, same⟩
  | step leads => exact settles

theorem Reaches.settles (reaches : program.Reaches world registry moment) : moment.Settles program registry := by
  obtain ⟨marked, path⟩ := reaches
  induction path with
  | refl => exact ⟨program.turnoffNumber, Nat.sub_le _ _, rfl⟩
  | tail _ proceeds inductionHypothesis => exact proceeds.settles inductionHypothesis

theorem Reaches.registered (reaches : program.Reaches world {} moment) : moment.Registered program := by
  obtain ⟨marked, path⟩ := reaches
  induction path with
  | refl => exact ⟨(isDefinitionAt_zero marked).1, .nil, rfl, List.forall_mem_nil _⟩
  | tail _ proceeds inductionHypothesis => exact proceeds.registered inductionHypothesis

theorem Reaches.catalogues (reaches : program.Reaches world {} moment) : program.Catalogues moment.registry := by
  have registered := reaches.registered
  cases moment with
  | reading number registry => exact registered.catalogues reaches.marked
  | running registry point =>
      obtain ⟨number, registered⟩ := registered
      exact registered.catalogues reaches.marked

theorem Reaches.entries_prefix (reaches : program.Reaches world registry moment) :
    registry.entries <+: moment.registry.entries := by
  obtain ⟨marked, path⟩ := reaches
  induction path with
  | refl => exact List.prefix_rfl
  | tail _ proceeds inductionHypothesis => exact inductionHypothesis.trans proceeds.entries_prefix

/-- Once the execution section is run, no instruction is added. -/
theorem registry_of_running {point : Point}
    (path : Relation.ReflTransGen (program.Proceeds world) (.running known point) moment) :
    ∃ later, moment = .running known later := by
  induction path with
  | refl => exact ⟨point, rfl⟩
  | tail _ proceeds inductionHypothesis =>
      obtain ⟨later, rfl⟩ := inductionHypothesis
      cases proceeds with
      | step leads => exact ⟨_, rfl⟩

/-- What the definitions come to is reached, also if they are not accepted. -/
theorem reads_declare (program : Program) (world : World) (fuel number : Nat) (registry : Registry) :
    ∃ reached, Relation.ReflTransGen (program.Proceeds world) (.reading number registry)
      (.reading reached (program.declare program.turnoffNumber fuel number registry).2) := by
  fun_induction declare program program.turnoffNumber fuel number registry with
  | case6 fuel number registry inside line present indented name kind last extended defined
      inductionHypothesis =>
      obtain ⟨reached, path⟩ := inductionHypothesis
      rw [Line.checkIndent_eq_ok] at indented
      have holds : program.Holds number 1 (.define name) := ⟨line, present, kind, of_decide_eq_true indented⟩
      exact ⟨reached, .head (.define (by omega) holds defined) path⟩
  | _ => exact ⟨_, .refl⟩

/-- A run leaves the instructions that its definitions come to. -/
theorem registry_run (marked : program.checkMarkers = .ok ()) :
    (program.run fuel world registry).registry =
      (program.declare program.turnoffNumber program.turnoffNumber 1 registry).2 := by
  cases declared : program.declare program.turnoffNumber program.turnoffNumber 1 registry with
  | mk result known =>
      cases result with
      | error problem => rw [run, marked, declared]
      | ok start =>
          rw [run_of_declare marked declared]
          cases program.execute known fuel Nesting.limit _ _ <;> rfl

/-- A run leaves the registry of one of its moments, unless its markers are wrong. -/
theorem reaches_run (program : Program) (fuel : Nat) (world : World) (registry : Registry) :
    (program.run fuel world registry).registry = registry ∨
      ∃ moment, program.Reaches world registry moment ∧
        moment.registry = (program.run fuel world registry).registry := by
  cases marked : program.checkMarkers with
  | error problem =>
      rw [run, marked]
      exact Or.inl rfl
  | ok =>
      obtain ⟨reached, path⟩ := reads_declare program world program.turnoffNumber 1 registry
      exact Or.inr ⟨_, ⟨marked, path⟩, (registry_run marked).symm⟩

theorem entries_prefix_run (program : Program) (fuel : Nat) (world : World) (registry : Registry) :
    registry.entries <+: (program.run fuel world registry).registry.entries := by
  rcases reaches_run program fuel world registry with same | ⟨moment, reaches, same⟩
  · exact ⟨[], by rw [same, List.append_nil]⟩
  · rw [← same]
    exact reaches.entries_prefix

theorem catalogues_empty (program : Program) : program.Catalogues {} :=
  ⟨.nil, List.forall_mem_nil _, nofun, .nil, List.forall_mem_nil _⟩

/-- A definition that is not accepted ends the run, and nothing is added for it. -/
theorem Reaches.run_of_rejected {reached : Registry} {problem : Stop}
    (reaches : program.Reaches world registry (.reading number reached)) (inRange : number < program.turnoffNumber)
    (holds : program.Holds number 1 (.define name))
    (rejected : program.define number program.turnoffNumber reached = .error problem) (fuel : Nat) :
    program.run fuel world registry = { world, registry := reached, stop := some problem } := by
  obtain ⟨enough, room, declared⟩ := reaches.settles
  obtain ⟨less, rfl⟩ : ∃ less, enough = less + 1 := ⟨enough - 1, by omega⟩
  rw [declare_of_define inRange holds, rejected] at declared
  rw [run, reaches.marked, declared]

end

/-- The registry of a run follows the text. Whatever the run does, the registry holds the first definitions of the
text in their order at each of its moments and when it ends; nothing is added once the execution section is
reached, whoever listens, entries that were there before stay, and a definition that is rejected adds nothing. -/
theorem registry_follows_the_text (program : Program) (world : World) :
    (∀ moment, program.Reaches world {} moment → program.Catalogues moment.registry) ∧
    (∀ fuel, program.Catalogues (program.run fuel world {}).registry) ∧
    (∀ registry known point, program.Reaches world registry (.running known point) →
      (∀ later, Relation.ReflTransGen (program.Proceeds world) (.running known point) later →
        later.registry = known) ∧
      (∀ fuel, (program.run fuel world registry).registry = known) ∧
      ∀ (α : Type) [Listener α] fuel left block progress (listeners : List α) workspace,
        (Stage.ofResult (Performance.play program fuel left block
          ⟨progress, known, listeners, workspace⟩)).registry = known) ∧
    (∀ (α : Type) [Listener α] fuel registry (listeners : List α) workspace,
      (program.watch fuel world registry listeners workspace).execution.registry =
        (program.run fuel world registry).registry) ∧
    (∀ (registry : Registry) fuel, registry.entries <+: (program.run fuel world registry).registry.entries ∧
      ∀ name span, registry.find? name = some span →
        (program.run fuel world registry).registry.find? name = some span) ∧
    ∀ registry number reached name problem, program.Reaches world registry (.reading number reached) →
      number < program.turnoffNumber → program.Holds number 1 (.define name) →
      program.define number program.turnoffNumber reached = .error problem → ∀ fuel,
        (program.run fuel world registry).registry = reached ∧
        (program.run fuel world registry).stop = some problem := by
  refine ⟨fun moment reaches => reaches.catalogues, ?_, ?_, ?_, ?_, ?_⟩
  · intro fuel
    rcases reaches_run program fuel world {} with same | ⟨moment, reaches, same⟩
    · rw [same]
      exact catalogues_empty program
    · rw [← same]
      exact reaches.catalogues
  · intro registry known point reaches
    refine ⟨?_, ?_, ?_⟩
    · intro later path
      obtain ⟨_, rfl⟩ := registry_of_running path
      rfl
    · intro fuel
      obtain ⟨start, declared⟩ := reaches.settles
      rw [registry_run reaches.marked, declared]
    · intro α _ fuel left block progress listeners workspace
      exact Performance.registry_play ..
  · intro α _ fuel registry listeners workspace
    apply registry_watch
  · intro registry fuel
    have kept := entries_prefix_run program fuel world registry
    exact ⟨kept, fun name span => Registry.find?_of_prefix kept⟩
  · intro registry number reached name problem reaches inRange holds rejected fuel
    rw [reaches.run_of_rejected inRange holds rejected fuel]
    exact ⟨rfl, rfl⟩

theorem registry_follows_the_text_tour :
    tour.Catalogues ⟨[("turnright", ⟨3, 7, by decide⟩)]⟩ ∧
    (∀ fuel, (tour.run fuel .corridor {}).registry = ⟨[("turnright", ⟨3, 7, by decide⟩)]⟩) ∧
    ∀ fuel, (tour.run fuel .corridor ⟨[("turnright", ⟨0, 0, by decide⟩)]⟩).registry =
        ⟨[("turnright", ⟨0, 0, by decide⟩)]⟩ ∧
      (tour.run fuel .corridor ⟨[("turnright", ⟨0, 0, by decide⟩)]⟩).stop =
        some (.fault ⟨.takenName "turnright", some 2⟩) := by
  obtain ⟨catalogued, _, running, _, _, rejected⟩ := registry_follows_the_text tour .corridor
  have header : tour.Holds 1 1 (.define "turnright") := ⟨_, rfl, by rfl, by rfl⟩
  have execution : tour.Holds 8 1 .executionStart := ⟨_, rfl, by rfl, by rfl⟩
  have defined : tour.define 1 tour.turnoffNumber {} = .ok (7, ⟨[("turnright", ⟨3, 7, by decide⟩)]⟩) := by rfl
  have taken : tour.define 1 tour.turnoffNumber ⟨[("turnright", ⟨0, 0, by decide⟩)]⟩ =
      .error (.fault ⟨.takenName "turnright", some 2⟩) := by rfl
  have path : Relation.ReflTransGen (tour.Proceeds .corridor) (.reading 1 {})
      (.reading 8 ⟨[("turnright", ⟨3, 7, by decide⟩)]⟩) := .single (.define (by decide) header defined)
  refine ⟨catalogued _ ⟨marked_tour, path⟩, ?_, ?_⟩
  · exact (running {} _ _ ⟨marked_tour, path.tail (.start (by decide) execution)⟩).2.1
  · exact rejected _ 1 _ "turnright" _ ⟨marked_tour, .refl⟩ (by decide) header taken

end Program

end GridRobot
