import GridRobot.Proofs.Declarations
import GridRobot.Proofs.Printing
import Mathlib.Data.List.Nodup

namespace GridRobot

/-- The number of the line that defines the instruction with this body. -/
def Span.header (span : Span) : Nat :=
  span.start - 2

theorem Span.header_le_stop (span : Span) : span.header ≤ span.stop :=
  Nat.le_trans (Nat.sub_le _ _) span.start_le_stop

namespace Registry

variable {registry : Registry} {name : String} {span : Span}

theorem mem_of_find? (found : registry.find? name = some span) : (name, span) ∈ registry.entries := by
  obtain ⟨before, after, entries, _⟩ := List.lookup_eq_some_iff.mp found
  simp [entries]

theorem find?_eq_none_iff : registry.find? name = none ↔ name ∉ registry.entries.map Prod.fst := by
  rw [find?, List.lookup_eq_none_iff]
  simp only [List.mem_map, not_exists, not_and, bne_iff_ne, ne_comm (a := name)]

/-- Where no name is defined twice, every entry is found. -/
theorem find?_of_mem (distinct : (registry.entries.map Prod.fst).Nodup)
    (member : (name, span) ∈ registry.entries) : registry.find? name = some span := by
  cases found : registry.find? name with
  | none => exact absurd (List.mem_map_of_mem member) (find?_eq_none_iff.mp found)
  | some other =>
      have same := List.inj_on_of_nodup_map distinct (mem_of_find? found) member rfl
      cases same
      rfl

/-- Names stay different if a free one is added. -/
theorem nodup_concat (distinct : (registry.entries.map Prod.fst).Nodup) (free : registry.find? name = none) :
    ((registry.entries ++ [(name, span)]).map Prod.fst).Nodup := by
  rw [List.map_append, List.map_singleton, List.nodup_append_comm]
  exact List.nodup_cons.mpr ⟨find?_eq_none_iff.mp free, distinct⟩

end Registry

namespace Program

/-- The lines of a definition, from its header to the line that closes it. -/
def definitionLines (program : Program) (entry : String × Span) : Program :=
  program.extract entry.2.header (entry.2.stop + 1)

/-- The entry is that of a definition in the text, from its header to the line that closes it. -/
structure Defines (program : Program) (entry : String × Span) : Prop where
  other : Action.ofName? entry.1 = none
  room : 2 ≤ entry.2.start
  header : program.Holds entry.2.header 1 (.define entry.1)
  opening : program.Holds (entry.2.header + 1) 1 .opening
  body : (program.block entry.2.start entry.2.stop (2 : Nat)).skip (Nesting.limit - Nesting.blockCost) =
    .ok entry.2.stop
  closing : ∃ terminated, program.Holds entry.2.stop 1 (.closing terminated)

/-- The definitions follow each other without a gap from a line on, up to another. -/
def Tiles : Nat → List (String × Span) → Nat → Prop
  | first, [], last => first = last
  | first, entry :: rest, last => entry.2.header = first ∧ Tiles (entry.2.stop + 1) rest last

section
variable {program : Program} {number depth : Nat} {kind : LineKind} {entry : String × Span}

theorem Tiles.le {first last : Nat} {entries : List (String × Span)} (tiles : Tiles first entries last) :
    first ≤ last := by
  induction entries generalizing first with
  | nil => exact Nat.le_of_eq tiles
  | cons entry rest inductionHypothesis =>
      obtain ⟨rfl, tiles⟩ := tiles
      have later := inductionHypothesis tiles
      have ordered := entry.2.header_le_stop
      omega

theorem Holds.lt_length (holds : program.Holds number depth kind) : number < program.length := by
  obtain ⟨line, present, _⟩ := holds
  exact (List.getElem?_eq_some_iff.mp present).1

theorem Defines.header_add (defines : program.Defines entry) : entry.2.header + 2 = entry.2.start := by
  have room := defines.room
  rw [Span.header]
  omega

theorem Defines.stop_lt (defines : program.Defines entry) : entry.2.stop < program.length := by
  obtain ⟨terminated, closing⟩ := defines.closing
  exact closing.lt_length

/-- In a program that can be indexed, the span of a body is that of its bounds, and its length is reported. -/
theorem Defines.reported (defines : program.Defines entry) (short : program.length ≤ Span.indexLimit) :
    Span.ofBounds? entry.2.start entry.2.stop = some entry.2 ∧
      entry.2.reportedLength? = some (entry.2.stop - entry.2.start) := by
  have inside := defines.stop_lt
  have ordered := entry.2.start_le_stop
  constructor
  · rw [Span.ofBounds?, dif_pos ⟨by omega, by omega⟩]
    rfl
  · have fits : entry.2.length < Span.indexLimit := by
      rw [Span.length]
      omega
    rw [Span.reportedLength?, if_pos fits]
    rfl

/-- The body of a definition is accepted by every range that goes on behind it. -/
theorem Defines.skip_eq {stop : Nat} (defines : program.Defines entry) (inRange : entry.2.stop < stop)
    (within : stop ≤ program.length) :
    (program.block entry.2.start stop (2 : Nat)).skip (Nesting.limit - Nesting.blockCost) =
      .ok entry.2.stop := by
  obtain ⟨height, room, forward, _, derives, _⟩ :=
    (skip_block_eq_ok_iff (by decide) entry.2.start_le_stop (by omega)).mp defines.body
  have accepts : program.Accepts height 2 entry.2.start stop entry.2.stop :=
    ⟨forward, Nat.le_of_lt inRange, derives, Or.inr defines.closing⟩
  exact accepts.skip_eq (by decide) within room

end

section
variable {program : Program} {registry known : Registry} {number stop start : Nat}
  {entries : List (String × Span)}

theorem extract_append {first middle last : Nat} (ordered : first ≤ middle) (later : middle ≤ last) :
    program.extract first middle ++ program.extract middle last = program.extract first last := by
  have sizes : last - first = (middle - first) + (last - middle) := by omega
  rw [List.extract_eq_take_drop, List.extract_eq_take_drop, List.extract_eq_take_drop, sizes, List.take_add,
    List.drop_drop, Nat.add_sub_cancel' ordered]

/-- The lines from a line on start with that line. -/
theorem extract_eq_cons {last : Nat} {line : Line} (present : program[number]? = some line)
    (later : number + 1 ≤ last) :
    program.extract number last = line :: program.extract (number + 1) last := by
  obtain ⟨inside, rfl⟩ := List.getElem?_eq_some_iff.mp present
  have sizes : last - number = (last - (number + 1)) + 1 := by omega
  rw [List.extract_eq_take_drop, List.drop_eq_getElem_cons inside, sizes, List.take_succ_cons]

/-- A definition that is accepted is one entry more, for the lines that it was read from. -/
theorem defines_of_define {extended : Registry} {name : String} {last : Nat}
    (holds : program.Holds number 1 (.define name))
    (defined : program.define number stop registry = .ok (last, extended)) (within : stop ≤ program.length) :
    ∃ ordered, extended = ⟨registry.entries ++ [(name, ⟨number + 2, last, ordered⟩)]⟩ ∧
      program.Defines (name, ⟨number + 2, last, ordered⟩) ∧ registry.find? name = none := by
  obtain ⟨other, free, opening, inside, skipped, ordered, rfl⟩ := (define_eq_ok holds).mp defined
  refine ⟨ordered, rfl, ⟨other, Nat.le_add_left _ _, holds, opening, ?_, ?_⟩, free⟩
  · exact skip_block_shrink (by decide) (Nat.le_trans ordered (Nat.le_of_lt inside)) within skipped
  · obtain ⟨_, finished⟩ := derives_of_skip (by decide) (by omega) skipped
    exact finished.resolve_left (Nat.ne_of_lt inside)

/-- Accepted declarations are definitions that follow each other, with different names. -/
theorem Declares.tiles (declares : program.Declares stop number registry start known)
    (within : stop ≤ program.length) (distinct : (registry.entries.map Prod.fst).Nodup) :
    ∃ added, known.entries = registry.entries ++ added ∧ Tiles number added start ∧
      (∀ entry ∈ added, program.Defines entry) ∧ (known.entries.map Prod.fst).Nodup := by
  induction declares with
  | start inRange holds => exact ⟨[], by simp, rfl, by simp, distinct⟩
  | @define number last start name registry extended known holds defined rest inductionHypothesis =>
      obtain ⟨ordered, rfl, whole, free⟩ := defines_of_define holds defined within
      obtain ⟨added, entries, tiles, defines, names⟩ := inductionHypothesis (Registry.nodup_concat distinct free)
      refine ⟨(name, ⟨number + 2, last, ordered⟩) :: added, ?_, ⟨rfl, tiles⟩, ?_, names⟩
      · rw [entries, List.append_assoc]
        rfl
      · rw [List.forall_mem_cons]
        exact ⟨whole, defines⟩

/-- Definitions that follow each other with different names are accepted. -/
theorem declares_of_tiles (tiles : Tiles number entries start)
    (defines : ∀ entry ∈ entries, program.Defines entry)
    (distinct : ((registry.entries ++ entries).map Prod.fst).Nodup) (inRange : start < stop)
    (within : stop ≤ program.length) (holds : program.Holds start 1 .executionStart) :
    program.Declares stop number registry start ⟨registry.entries ++ entries⟩ := by
  induction entries generalizing number registry with
  | nil =>
      cases tiles
      rw [List.append_nil]
      exact .start inRange holds
  | cons entry rest inductionHypothesis =>
      obtain ⟨first, tiles⟩ := tiles
      rw [List.forall_mem_cons] at defines
      obtain ⟨whole, others⟩ := defines
      have early : entry.2.stop < stop := Nat.lt_trans tiles.le inRange
      have body := whole.skip_eq early within
      obtain ⟨name, start', stop', ordered⟩ := entry
      obtain ⟨place, rfl⟩ : ∃ place, start' = place + 2 := ⟨start' - 2, (Nat.sub_add_cancel whole.room).symm⟩
      obtain rfl : place = number := first
      have free : registry.find? name = none := by
        rw [Registry.find?_eq_none_iff]
        intro member
        rw [List.map_append, List.nodup_append] at distinct
        exact distinct.2.2 name member name List.mem_cons_self rfl
      have defined : program.define place stop registry =
          .ok (stop', ⟨registry.entries ++ [(name, ⟨place + 2, stop', ordered⟩)]⟩) :=
        (define_eq_ok whole.header).mpr ⟨whole.other, free, whole.opening, early, body, ordered, rfl⟩
      have later :=
        @inductionHypothesis ⟨registry.entries ++ [(name, ⟨place + 2, stop', ordered⟩)]⟩ _ tiles others
        (by simpa using distinct)
      rw [List.append_assoc] at later
      exact .define whole.header defined later

/-- Accepted declarations are read with as much fuel as there are lines. -/
theorem Declares.declare_eq {fuel : Nat} (declares : program.Declares stop number registry start known)
    (enough : stop - number ≤ fuel) : program.declare stop fuel number registry = (.ok start, known) := by
  induction declares generalizing fuel with
  | @start number registry inRange holds =>
      obtain ⟨less, rfl⟩ : ∃ less, fuel = less + 1 := ⟨fuel - 1, by omega⟩
      obtain ⟨line, present, kind, indented⟩ := holds.checkIndent
      have indented : line.checkIndent number definitionDepth = .ok () := indented
      rw [declare, if_neg (by omega)]
      simp only [present, indented, kind]
  | @define number last start name registry extended known holds defined rest inductionHypothesis =>
      obtain ⟨_, _, _, inside, _, ordered, _⟩ := (define_eq_ok holds).mp defined
      obtain ⟨less, rfl⟩ : ∃ less, fuel = less + 1 := ⟨fuel - 1, by omega⟩
      obtain ⟨line, present, kind, indented⟩ := holds.checkIndent
      have indented : line.checkIndent number definitionDepth = .ok () := indented
      rw [declare, if_neg (by omega)]
      simp only [present, indented, kind, defined]
      exact inductionHypothesis (by omega)

/-- Definitions that follow each other make up the lines that they cover. -/
theorem Tiles.flatMap_eq {first last : Nat} (tiles : Tiles first entries last) :
    entries.flatMap program.definitionLines = program.extract first last := by
  induction entries generalizing first with
  | nil =>
      cases tiles
      simp
  | cons entry rest inductionHypothesis =>
      obtain ⟨rfl, tiles⟩ := tiles
      have ordered := entry.2.header_le_stop
      rw [List.flatMap_cons, inductionHypothesis tiles, definitionLines]
      exact extract_append (by omega) tiles.le

end

/-- The lines open and close blocks in pairs, whatever stands around them. -/
def Neutral (lines : Program) : Prop :=
  ∀ openBlocks number rest, balanceFrom openBlocks number (lines ++ rest) =
    balanceFrom openBlocks (number + lines.length) rest

namespace Neutral

variable {first second inside : Program} {line opening closing : Line}

theorem nil : Neutral [] := by
  intro openBlocks number rest
  rfl

theorem extract_self (program : Program) (number : Nat) : Neutral (program.extract number number) := by
  rw [List.extract_eq_take_drop, Nat.sub_self, List.take_zero]
  exact nil

theorem append (before : Neutral first) (after : Neutral second) : Neutral (first ++ second) := by
  intro openBlocks number rest
  rw [List.append_assoc, before, after, List.length_append, Nat.add_assoc]

theorem cons (plain : line.kind ≠ .opening ∧ line.kind.isClosing = false) (after : Neutral second) :
    Neutral (line :: second) := by
  intro openBlocks number rest
  rw [List.cons_append, balanceFrom_plain plain, after, List.length_cons, Nat.add_assoc, Nat.add_comm 1]

theorem enclosed {terminated : Bool} (opens : opening.kind = .opening)
    (closes : closing.kind = .closing terminated) (balanced : Neutral inside) (after : Neutral second) :
    Neutral (opening :: (inside ++ closing :: second)) := by
  intro openBlocks number rest
  rw [List.cons_append, balanceFrom_opening opens, List.append_assoc, balanced, List.cons_append,
    balanceFrom_closing closes, after]
  congr 1
  simp only [List.length_cons, List.length_append]
  omega

theorem flatMap {α : Type} {items : List α} {lines : α → Program}
    (each : ∀ item ∈ items, Neutral (lines item)) : Neutral (items.flatMap lines) := by
  induction items with
  | nil => exact nil
  | cons item items inductionHypothesis =>
      rw [List.forall_mem_cons] at each
      rw [List.flatMap_cons]
      exact each.1.append (inductionHypothesis each.2)

end Neutral

section
variable {program : Program} {height depth number last : Nat}

/-- A header and the lines that it encloses open and close blocks in pairs. -/
theorem neutral_enclosed {kind : LineKind} {close : Nat} {terminated : Bool}
    (holds : program.Holds number depth kind) (plain : kind ≠ .opening ∧ kind.isClosing = false)
    (opening : program.Holds (number + 1) depth .opening) (forward : number + 2 ≤ close)
    (body : Neutral (program.extract (number + 2) close))
    (closing : program.Holds close depth (.closing terminated)) (later : close + 1 ≤ last)
    (rest : Neutral (program.extract (close + 1) last)) : Neutral (program.extract number last) := by
  obtain ⟨header, first, rfl, _⟩ := holds
  obtain ⟨begin, second, opens, _⟩ := opening
  obtain ⟨finish, third, closes, _⟩ := closing
  rw [extract_eq_cons first (by omega), extract_eq_cons second (by omega),
    ← extract_append forward (Nat.le_of_succ_le later), extract_eq_cons third later]
  apply Neutral.cons plain
  exact Neutral.enclosed opens closes body rest

/-- Lines that derive a block open and close blocks in pairs. -/
theorem Derives.neutral (derives : program.Derives height depth number last) :
    Neutral (program.extract number last) := by
  induction derives with
  | empty => exact Neutral.extract_self program _
  | statement holds punctuated rest inductionHypothesis =>
      obtain ⟨line, present, kind, _⟩ := holds
      rw [extract_eq_cons present rest.le]
      apply Neutral.cons _ inductionHypothesis
      simp [kind, LineKind.isClosing]
  | control holds control opening body closing punctuated rest bodyHypothesis restHypothesis =>
      apply neutral_enclosed holds _ opening body.le bodyHypothesis closing rest.le restHypothesis
      cases control <;> simp [LineKind.isClosing]
  | choice holds opening body closing punctuated otherwise opening' alternative closing' punctuated' rest
      bodyHypothesis alternativeHypothesis restHypothesis =>
      have forward := alternative.le
      have later := rest.le
      have other := neutral_enclosed otherwise (by simp [LineKind.isClosing]) opening' forward
        alternativeHypothesis closing' later restHypothesis
      exact neutral_enclosed holds (by simp [LineKind.isClosing]) opening body.le bodyHypothesis closing
        (by omega) other

/-- The lines of a definition open and close blocks in pairs. -/
theorem Defines.neutral {entry : String × Span} (defines : program.Defines entry) :
    Neutral (program.definitionLines entry) := by
  have first := defines.header_add
  have ordered := entry.2.start_le_stop
  obtain ⟨derives, _⟩ := derives_of_skip (by decide) ordered defines.body
  obtain ⟨terminated, closing⟩ := defines.closing
  have body := derives.neutral
  rw [← first] at body
  exact neutral_enclosed defines.header (by simp [LineKind.isClosing]) defines.opening (by omega) body closing
    (Nat.le_refl _) (Neutral.extract_self program _)

end

end Program

end GridRobot
