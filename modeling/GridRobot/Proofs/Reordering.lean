import GridRobot.Proofs.Definitions
import GridRobot.Proofs.Levels
import GridRobot.Proofs.Relocation

namespace GridRobot

/-- The number of lines of a definition, from its header to the line that closes it. -/
def Span.size (span : Span) : Nat :=
  span.stop + 1 - span.header

/-- The body of a definition whose header is moved to another line. -/
def Span.placeAt (span : Span) (first : Nat) : Span where
  start := first + (span.start - span.header)
  stop := first + (span.stop - span.header)
  start_le_stop := Nat.add_le_add_left (Nat.sub_le_sub_right span.start_le_stop _) _

theorem Span.header_placeAt {span : Span} (room : 2 ≤ span.start) (first : Nat) :
    (span.placeAt first).header = first := by
  simp only [header, placeAt]
  omega

namespace Program

/-- A line belongs to a definition. -/
def Covers (entry : String × Span) (number : Nat) : Prop :=
  entry.2.header ≤ number ∧ number ≤ entry.2.stop

instance (entry : String × Span) (number : Nat) : Decidable (Covers entry number) :=
  inferInstanceAs (Decidable (_ ∧ _))

/-- No line belongs to two of the definitions. -/
def Apart (entries : List (String × Span)) : Prop :=
  entries.Pairwise fun entry other => ∀ number, Covers entry number → ¬ Covers other number

/-- The program with its definitions in another order; its execution section starts at `start`. -/
def reorder (program : Program) (start : Nat) (order : List (String × Span)) : Program :=
  program.take 1 ++ order.flatMap program.definitionLines ++ program.drop start

/-- Where a line is moved to if definitions are put one after the other from a line on. A line that belongs
to none of them stays where it is. -/
def placeFrom : Nat → List (String × Span) → Nat → Nat
  | _, [], number => number
  | first, entry :: rest, number =>
    if Covers entry number then first + (number - entry.2.header)
    else placeFrom (first + entry.2.size) rest number

/-- The number of lines of some definitions. -/
def totalSize : List (String × Span) → Nat
  | [] => 0
  | entry :: rest => entry.2.size + totalSize rest

/-- The entry of a definition after its lines are moved. -/
def moveEntry (move : Nat → Nat) (entry : String × Span) : String × Span :=
  (entry.1, entry.2.placeAt (move entry.2.header))

section
variable {program : Program} {start first last number : Nat} {entry : String × Span}
  {order entries : List (String × Span)}

theorem map_fst_map_moveEntry (move : Nat → Nat) (order : List (String × Span)) :
    (order.map (moveEntry move)).map Prod.fst = order.map Prod.fst := by
  rw [List.map_map]
  rfl

theorem covers_header (entry : String × Span) : Covers entry entry.2.header :=
  ⟨Nat.le_refl _, entry.2.header_le_stop⟩

theorem Apart.of_perm (apart : Apart entries) (permuted : order.Perm entries) : Apart order := by
  apply List.Pairwise.perm apart permuted.symm
  intro entry other separate number inside covered
  exact separate number covered inside

theorem placeFrom_cons_of_covers (covers : Covers entry number) :
    placeFrom first (entry :: order) number = first + (number - entry.2.header) :=
  if_pos covers

theorem placeFrom_cons_of_not_covers (outside : ¬ Covers entry number) :
    placeFrom first (entry :: order) number = placeFrom (first + entry.2.size) order number :=
  if_neg outside

/-- A line outside of all definitions stays. -/
theorem placeFrom_of_outside (outside : ∀ entry ∈ order, ¬ Covers entry number) :
    placeFrom first order number = number := by
  induction order generalizing first with
  | nil => rfl
  | cons entry rest inductionHypothesis =>
      rw [List.forall_mem_cons] at outside
      rw [placeFrom_cons_of_not_covers outside.1]
      exact inductionHypothesis outside.2

/-- Inside a definition, lines keep their distance from the header. -/
theorem placeFrom_of_covers (apart : Apart order) (member : entry ∈ order) (covers : Covers entry number) :
    placeFrom first order number = placeFrom first order entry.2.header + (number - entry.2.header) := by
  induction order generalizing first with
  | nil => simp at member
  | cons head rest inductionHypothesis =>
      obtain ⟨separate, apart⟩ := List.pairwise_cons.mp apart
      rcases List.mem_cons.mp member with rfl | later
      · rw [placeFrom_cons_of_covers covers, placeFrom_cons_of_covers (covers_header _)]
        omega
      · have outside (place : Nat) (inside : Covers entry place) : ¬ Covers head place :=
          fun covered => separate entry later place covered inside
        rw [placeFrom_cons_of_not_covers (outside _ covers),
          placeFrom_cons_of_not_covers (outside _ (covers_header _))]
        exact inductionHypothesis apart later

/-- The lines of definitions are moved to the lines that the definitions fill up. -/
theorem placeFrom_bounds (member : entry ∈ order) (covers : Covers entry number) :
    first ≤ placeFrom first order number ∧ placeFrom first order number < first + totalSize order := by
  induction order generalizing first with
  | nil => simp at member
  | cons head rest inductionHypothesis =>
      have total : totalSize (head :: rest) = head.2.size + totalSize rest := by simp [totalSize]
      by_cases inside : Covers head number
      · rw [placeFrom_cons_of_covers inside]
        have ⟨behind, before⟩ := inside
        have size : head.2.size = head.2.stop + 1 - head.2.header := rfl
        omega
      · rw [placeFrom_cons_of_not_covers inside]
        rcases List.mem_cons.mp member with rfl | later
        · exact absurd covers inside
        · have bounds := @inductionHypothesis (first + head.2.size) later
          omega

/-- No two lines of definitions are moved to the same line. -/
theorem eq_of_placeFrom_eq {number' : Nat} (member : ∃ entry ∈ order, Covers entry number)
    (member' : ∃ entry ∈ order, Covers entry number')
    (same : placeFrom first order number = placeFrom first order number') : number = number' := by
  induction order generalizing first with
  | nil => simp at member
  | cons head rest inductionHypothesis =>
      -- A line of the first definition stays in front of all lines of the others.
      have early (number : Nat) (inside : Covers head number) :
          placeFrom first (head :: rest) number < first + head.2.size := by
        rw [placeFrom_cons_of_covers inside, Span.size]
        have ⟨behind, before⟩ := inside
        omega
      have late (number : Nat) (outside : ¬ Covers head number)
          (member : ∃ entry ∈ head :: rest, Covers entry number) : ∃ entry ∈ rest, Covers entry number := by
        obtain ⟨entry, member, covers⟩ := member
        rcases List.mem_cons.mp member with rfl | later
        · exact absurd covers outside
        · exact ⟨entry, later, covers⟩
      have behind (number : Nat) (outside : ¬ Covers head number)
          (member : ∃ entry ∈ head :: rest, Covers entry number) :
          first + head.2.size ≤ placeFrom first (head :: rest) number := by
        obtain ⟨entry, later, covers⟩ := late number outside member
        rw [placeFrom_cons_of_not_covers outside]
        exact (placeFrom_bounds later covers).1
      by_cases inside : Covers head number <;> by_cases inside' : Covers head number'
      · rw [placeFrom_cons_of_covers inside, placeFrom_cons_of_covers inside'] at same
        have ⟨lower, _⟩ := inside
        have ⟨lower', _⟩ := inside'
        omega
      · have before := early number inside
        have after := behind number' inside' member'
        omega
      · have after := behind number inside member
        have before := early number' inside'
        omega
      · rw [placeFrom_cons_of_not_covers inside, placeFrom_cons_of_not_covers inside'] at same
        exact inductionHypothesis (late number inside member) (late number' inside' member') same

/-- Definitions that are put one after the other follow each other without a gap. -/
theorem tiles_map_moveEntry (apart : Apart order) (rooms : ∀ entry ∈ order, 2 ≤ entry.2.start) :
    Tiles first (order.map (moveEntry (placeFrom first order))) (first + totalSize order) := by
  induction order generalizing first with
  | nil => rfl
  | cons head rest inductionHypothesis =>
      obtain ⟨separate, apart⟩ := List.pairwise_cons.mp apart
      rw [List.forall_mem_cons] at rooms
      obtain ⟨room, rooms⟩ := rooms
      have others : rest.map (moveEntry (placeFrom first (head :: rest))) =
          rest.map (moveEntry (placeFrom (first + head.2.size) rest)) := by
        apply List.map_congr_left
        intro entry later
        have outside : ¬ Covers head entry.2.header :=
          fun covered => separate entry later _ covered (covers_header entry)
        rw [moveEntry, moveEntry, placeFrom_cons_of_not_covers outside]
      have place : placeFrom first (head :: rest) head.2.header = first := by
        rw [placeFrom_cons_of_covers (covers_header head), Nat.sub_self, Nat.add_zero]
      have total : first + totalSize (head :: rest) = first + head.2.size + totalSize rest := by
        simp [totalSize, Nat.add_assoc]
      have next : first + (head.2.stop - head.2.header) + 1 = first + head.2.size := by
        have ordered := head.2.header_le_stop
        rw [Span.size]
        omega
      rw [List.map_cons, others, total]
      refine ⟨?_, ?_⟩
      · rw [moveEntry, place]
        exact Span.header_placeAt room first
      · simp only [moveEntry, place, Span.placeAt, next]
        exact inductionHypothesis apart rooms

theorem Tiles.add_totalSize (tiles : Tiles first entries last) : first + totalSize entries = last := by
  induction entries generalizing first with
  | nil => exact tiles
  | cons entry rest inductionHypothesis =>
      obtain ⟨rfl, tiles⟩ := tiles
      have later := inductionHypothesis tiles
      have ordered := entry.2.header_le_stop
      simp only [totalSize, Span.size] at later ⊢
      omega

theorem totalSize_of_perm (permuted : order.Perm entries) : totalSize order = totalSize entries := by
  induction permuted with
  | nil => rfl
  | cons entry _ inductionHypothesis => rw [totalSize, totalSize, inductionHypothesis]
  | swap first second rest => simp only [totalSize, Nat.add_left_comm]
  | trans _ _ first second => exact first.trans second

/-- Every line between the first and the last belongs to a definition. -/
theorem Tiles.covers_iff (tiles : Tiles first entries last) :
    (∃ entry ∈ entries, Covers entry number) ↔ first ≤ number ∧ number < last := by
  induction entries generalizing first with
  | nil =>
      cases tiles
      simp
  | cons entry rest inductionHypothesis =>
      obtain ⟨rfl, tiles⟩ := tiles
      have later := tiles.le
      have ordered := entry.2.header_le_stop
      rw [List.exists_mem_cons_iff, inductionHypothesis tiles, Covers]
      omega

/-- Definitions that follow each other have no line in common. -/
theorem Tiles.apart (tiles : Tiles first entries last) : Apart entries := by
  induction entries generalizing first with
  | nil => exact List.Pairwise.nil
  | cons entry rest inductionHypothesis =>
      obtain ⟨_, tiles⟩ := tiles
      refine List.pairwise_cons.mpr ⟨?_, inductionHypothesis tiles⟩
      intro other later number inside covered
      have ⟨_, before⟩ := inside
      have behind := (tiles.covers_iff.mp ⟨other, later, covered⟩).1
      omega

end

section
variable {program program' : Program} {start first number depth : Nat} {entry : String × Span} {kind : LineKind}
  {order : List (String × Span)} {move : Nat → Nat} {known : Registry}

/-- Lines that are put one after the other are found where they are moved to. -/
theorem getElem?_placeFrom {rest : Program} (apart : Apart order)
    (laid : program'.drop first = order.flatMap program.definitionLines ++ rest)
    (within : ∀ entry ∈ order, entry.2.stop < program.length) (member : entry ∈ order)
    (covers : Covers entry number) : program'[placeFrom first order number]? = program[number]? := by
  induction order generalizing first with
  | nil => simp at member
  | cons head later inductionHypothesis =>
      obtain ⟨separate, apart⟩ := List.pairwise_cons.mp apart
      rw [List.forall_mem_cons] at within
      obtain ⟨inside, within⟩ := within
      have ordered := head.2.header_le_stop
      have size : (program.definitionLines head).length = head.2.size := by
        simp only [definitionLines, List.extract_eq_take_drop, List.length_take, List.length_drop, Span.size]
        omega
      rw [List.flatMap_cons, List.append_assoc] at laid
      rcases List.mem_cons.mp member with rfl | other
      · rw [placeFrom_cons_of_covers covers, ← List.getElem?_drop, laid]
        obtain ⟨behind, before⟩ := covers
        rw [List.getElem?_append_left]
        · rw [definitionLines, List.extract_eq_take_drop, List.getElem?_take_of_lt (by omega),
            List.getElem?_drop, Nat.add_sub_cancel' behind]
        · rw [size, Span.size]
          omega
      · rw [placeFrom_cons_of_not_covers fun covered => separate entry other number covered covers]
        apply inductionHypothesis apart _ within other
        rw [← List.drop_drop, laid, ← size, List.drop_left]

theorem Holds.relocate (holds : program.Holds number depth kind)
    (moved : program'[move number]? = program[number]?) : program'.Holds (move number) depth kind := by
  obtain ⟨line, present, kind, sits⟩ := holds
  exact ⟨line, moved.trans present, kind, sits⟩

theorem moveEntry_start (moves : program.Moves program' move entry.2.header entry.2.stop) :
    (moveEntry move entry).2.start = move entry.2.start := by
  have behind : entry.2.header ≤ entry.2.start := Nat.sub_le _ _
  have ordered := entry.2.start_le_stop
  have kept := moves.add (Nat.le_refl _) (entry.2.start - entry.2.header) (by omega)
  rw [Nat.add_sub_cancel' behind] at kept
  exact kept.symm

theorem moveEntry_stop (moves : program.Moves program' move entry.2.header entry.2.stop) :
    (moveEntry move entry).2.stop = move entry.2.stop :=
  (moves.stop_eq (Nat.le_refl _) entry.2.header_le_stop).symm

/-- A definition stays a definition where its lines are moved to. -/
theorem Defines.relocate (defines : program.Defines entry)
    (moves : program.Moves program' move entry.2.header entry.2.stop) :
    program'.Defines (moveEntry move entry) := by
  have first := defines.header_add
  have ordered := entry.2.start_le_stop
  have header : (moveEntry move entry).2.header = move entry.2.header :=
    Span.header_placeAt defines.room _
  have start := moveEntry_start moves
  have stop := moveEntry_stop moves
  constructor
  · exact defines.other
  · show 2 ≤ move entry.2.header + (entry.2.start - entry.2.header)
    omega
  · rw [header]
    exact defines.header.relocate (moves.lines _ (Nat.le_refl _) (by omega))
  · rw [header, ← moves.next _ (Nat.le_refl _) (by omega)]
    exact defines.opening.relocate (moves.lines _ (by omega) (by omega))
  · rw [start, stop, ← relocate_block moves (by omega) ordered, Block.skip_relocate, defines.body]
    rfl
  · obtain ⟨terminated, closing⟩ := defines.closing
    rw [stop]
    exact ⟨terminated, closing.relocate (moves.lines _ (by omega) (Nat.le_refl _))⟩

end

section
variable {program : Program} {start number : Nat} {entries order : List (String × Span)}

/-- In the order that they have in the text, the definitions give the program itself. -/
theorem reorder_self (tiles : Tiles 1 entries start) : program.reorder start entries = program := by
  have first : program.take 1 = program.extract 0 1 := by simp
  have later := tiles.le
  rw [reorder, tiles.flatMap_eq, first, extract_append (Nat.zero_le 1) later]
  simp

theorem length_reorder (tiles : Tiles 1 entries start) (permuted : order.Perm entries) :
    (program.reorder start order).length = program.length := by
  have same := permuted.flatMap_right program.definitionLines
  have whole : (program.reorder start entries).length = program.length := by rw [reorder_self tiles]
  simp only [reorder, List.length_append, same.length_eq] at whole ⊢
  exact whole

/-- The execution section stays where it is. -/
theorem drop_reorder (tiles : Tiles 1 entries start) (permuted : order.Perm entries)
    (within : start ≤ program.length) : (program.reorder start order).drop start = program.drop start := by
  have same := (permuted.flatMap_right program.definitionLines).length_eq
  have later := tiles.le
  rw [tiles.flatMap_eq, List.extract_eq_take_drop, List.length_take, List.length_drop] at same
  rw [reorder, List.drop_left']
  rw [List.length_append, List.length_take, same]
  omega

theorem drop_one_reorder (nonempty : 0 < program.length) :
    (program.reorder start order).drop 1 = order.flatMap program.definitionLines ++ program.drop start := by
  rw [reorder, List.append_assoc, List.drop_left']
  rw [List.length_take]
  omega

theorem getElem?_reorder_zero (nonempty : 0 < program.length) :
    (program.reorder start order)[0]? = program[0]? := by
  rw [reorder, List.append_assoc, List.getElem?_append_left]
  · simp
  · rw [List.length_take]
    omega

theorem getElem?_reorder_of_le (tiles : Tiles 1 entries start) (permuted : order.Perm entries)
    (within : start ≤ program.length) (behind : start ≤ number) :
    (program.reorder start order)[number]? = program[number]? := by
  obtain ⟨offset, rfl⟩ := Nat.exists_eq_add_of_le behind
  rw [← List.getElem?_drop, drop_reorder tiles permuted within, List.getElem?_drop]

/-- Only the lines between the first and the execution section belong to definitions. -/
theorem placeFrom_reorder (tiles : Tiles 1 entries start) (permuted : order.Perm entries)
    (outside : number < 1 ∨ start ≤ number) : placeFrom 1 order number = number := by
  apply placeFrom_of_outside
  intro entry member covers
  have bounds := tiles.covers_iff.mp ⟨entry, permuted.mem_iff.mp member, covers⟩
  omega

/-- Every line of the program is found where it is moved to. -/
theorem getElem?_reorder (tiles : Tiles 1 entries start) (permuted : order.Perm entries)
    (inside : ∀ entry ∈ entries, entry.2.stop < program.length) (within : start ≤ program.length)
    (nonempty : 0 < program.length) (number : Nat) :
    (program.reorder start order)[placeFrom 1 order number]? = program[number]? := by
  by_cases outside : number < 1 ∨ start ≤ number
  · rw [placeFrom_reorder tiles permuted outside]
    rcases outside with zero | behind
    · obtain rfl : number = 0 := by omega
      exact getElem?_reorder_zero nonempty
    · exact getElem?_reorder_of_le tiles permuted within behind
  · obtain ⟨entry, member, covers⟩ := tiles.covers_iff.mpr (show 1 ≤ number ∧ number < start by omega)
    have inOrder (entry : String × Span) (member : entry ∈ order) : entry.2.stop < program.length :=
      inside entry (permuted.mem_iff.mp member)
    exact getElem?_placeFrom (tiles.apart.of_perm permuted) (drop_one_reorder nonempty) inOrder
      (permuted.mem_iff.mpr member) covers

/-- No two lines are moved to the same line. -/
theorem placeFrom_injective (tiles : Tiles 1 entries start) (permuted : order.Perm entries) :
    Function.Injective (placeFrom 1 order) := by
  have total : 1 + totalSize order = start := by
    rw [totalSize_of_perm permuted]
    exact tiles.add_totalSize
  have covered {number : Nat} (inside : ¬ (number < 1 ∨ start ≤ number)) :
      ∃ entry ∈ order, Covers entry number := by
    obtain ⟨entry, member, covers⟩ := tiles.covers_iff.mpr (show 1 ≤ number ∧ number < start by omega)
    exact ⟨entry, permuted.mem_iff.mpr member, covers⟩
  have bounds {number : Nat} (inside : ¬ (number < 1 ∨ start ≤ number)) :
      1 ≤ placeFrom 1 order number ∧ placeFrom 1 order number < start := by
    obtain ⟨entry, member, covers⟩ := covered inside
    rw [← total]
    exact placeFrom_bounds member covers
  have fixed {number : Nat} (outside : number < 1 ∨ start ≤ number) : placeFrom 1 order number = number :=
    placeFrom_reorder tiles permuted outside
  intro number number' same
  by_cases outside : number < 1 ∨ start ≤ number <;> by_cases outside' : number' < 1 ∨ start ≤ number'
  · rwa [fixed outside, fixed outside'] at same
  · have between := bounds outside'
    rw [← same, fixed outside] at between
    omega
  · have between := bounds outside
    rw [same, fixed outside'] at between
    omega
  · exact eq_of_placeFrom_eq (covered outside) (covered outside') same

/-- The lines of a definition are moved as a whole. -/
theorem moves_definition {entry : String × Span} (tiles : Tiles 1 entries start)
    (permuted : order.Perm entries) (inside : ∀ entry ∈ entries, entry.2.stop < program.length)
    (within : start ≤ program.length) (nonempty : 0 < program.length) (member : entry ∈ entries) :
    program.Moves (program.reorder start order) (placeFrom 1 order) entry.2.header entry.2.stop where
  within := Nat.le_of_lt (inside entry member)
  lines := fun number _ _ => getElem?_reorder tiles permuted inside within nonempty number
  next := by
    intro number behind before
    have apart := tiles.apart.of_perm permuted
    have present := permuted.mem_iff.mpr member
    rw [placeFrom_of_covers apart present (show Covers entry number from ⟨behind, Nat.le_of_lt before⟩),
      placeFrom_of_covers apart present (show Covers entry (number + 1) from ⟨by omega, before⟩)]
    omega

/-- The lines from the execution section on are not moved. -/
theorem moves_section {first stop : Nat} (tiles : Tiles 1 entries start) (permuted : order.Perm entries)
    (behind : start ≤ first) (within : stop ≤ program.length) :
    program.Moves (program.reorder start order) (placeFrom 1 order) first stop where
  within := within
  lines := by
    intro number later _
    rw [placeFrom_reorder tiles permuted (by omega)]
    exact getElem?_reorder_of_le tiles permuted (by omega) (by omega)
  next := by
    intro number later _
    rw [placeFrom_reorder tiles permuted (by omega), placeFrom_reorder tiles permuted (by omega)]

theorem checkSkeleton_reorder (tiles : Tiles 1 entries start) (permuted : order.Perm entries)
    (inRange : start < program.turnoffNumber) :
    (program.reorder start order).checkSkeleton = program.checkSkeleton := by
  have long : start + 3 < program.length := by
    rw [turnoffNumber] at inRange
    omega
  have marker (number : Nat) (behind : start ≤ number) :
      (program.reorder start order)[number]? = program[number]? :=
    getElem?_reorder_of_le tiles permuted (by omega) behind
  simp only [checkSkeleton, hasKindAt, length_reorder tiles permuted,
    getElem?_reorder_zero (show 0 < program.length by omega), marker (program.length - 1) (by omega),
    marker (program.length - 2) (by omega), marker (program.length - 3) (by omega)]
  rfl

/-- Blocks are balanced whatever the order of the definitions. -/
theorem checkBalance_reorder (tiles : Tiles 1 entries start) (permuted : order.Perm entries)
    (defines : ∀ entry ∈ entries, program.Defines entry) (plain : program.hasKindAt 0 .programStart = true) :
    (program.reorder start order).checkBalance = program.checkBalance := by
  obtain ⟨line, present, kind⟩ : ∃ line, program[0]? = some line ∧ line.kind = .programStart := by
    simpa [hasKindAt, Option.any_eq_true] using plain
  have first : Neutral (program.take 1) := by
    have whole := extract_eq_cons present (Nat.le_refl 1)
    have same : program.take 1 = program.extract 0 1 := by simp
    rw [same, whole]
    apply Neutral.cons _ (Neutral.extract_self program 1)
    simp [kind, LineKind.isClosing]
  have balance (chosen : List (String × Span)) (subset : ∀ entry ∈ chosen, entry ∈ entries) :
      (program.reorder start chosen).checkBalance = balanceFrom []
        (0 + (program.take 1 ++ chosen.flatMap program.definitionLines).length) (program.drop start) := by
    apply first.append
    exact Neutral.flatMap fun entry member => (defines entry (subset entry member)).neutral
  have same := permuted.flatMap_right program.definitionLines
  have original := balance entries fun entry member => member
  rw [reorder_self tiles] at original
  rw [original, balance order fun entry member => permuted.mem_iff.mp member]
  simp only [List.length_append, same.length_eq]

end

/-- What is accepted of a program up to its execution section, which starts at `start`. -/
structure Accepted (program : Program) (start : Nat) (known : Registry) : Prop where
  marked : program.checkMarkers = .ok ()
  declared : program.declare program.turnoffNumber program.turnoffNumber 1 {} = (.ok start, known)

namespace Accepted

variable {program : Program} {start : Nat} {known : Registry} {order : List (String × Span)}

theorem tiles (accepted : program.Accepted start known) :
    Tiles 1 known.entries start ∧ (∀ entry ∈ known.entries, program.Defines entry) ∧
      (known.entries.map Prod.fst).Nodup := by
  obtain ⟨added, entries, tiles, defines, distinct⟩ :=
    (declares_of_declare accepted.declared).tiles (Nat.sub_le _ _) List.nodup_nil
  rw [List.nil_append] at entries
  rw [entries] at distinct ⊢
  exact ⟨tiles, defines, distinct⟩

theorem start_bounds (accepted : program.Accepted start known) :
    start < program.turnoffNumber ∧ program.Holds start 1 .executionStart :=
  (declares_of_declare accepted.declared).start_bounds

theorem hasKindAt (accepted : program.Accepted start known) : program.hasKindAt 0 .programStart = true := by
  have marked := accepted.marked
  rw [checkMarkers] at marked
  split at marked
  · cases marked
  · rename_i checked
    exact (hasKindAt_of_checkSkeleton checked).2.1

theorem moves (accepted : program.Accepted start known) (permuted : order.Perm known.entries)
    {entry : String × Span} (member : entry ∈ known.entries) :
    program.Moves (program.reorder start order) (placeFrom 1 order) entry.2.header entry.2.stop := by
  obtain ⟨tiles, defines, _⟩ := accepted.tiles
  have inRange := accepted.start_bounds.1
  rw [turnoffNumber] at inRange
  exact moves_definition tiles permuted (fun entry member => (defines entry member).stop_lt) (by omega)
    (by omega) member

/-- The program is accepted with its definitions in any order. -/
theorem reorder (accepted : program.Accepted start known) (permuted : order.Perm known.entries) :
    (program.reorder start order).Accepted start ⟨order.map (moveEntry (placeFrom 1 order))⟩ := by
  obtain ⟨tiles, defines, distinct⟩ := accepted.tiles
  obtain ⟨inRange, holds⟩ := accepted.start_bounds
  have within : start ≤ program.length := Nat.le_trans (Nat.le_of_lt inRange) (Nat.sub_le _ _)
  have size : (program.reorder start order).length = program.length := length_reorder tiles permuted
  have turnoff : (program.reorder start order).turnoffNumber = program.turnoffNumber := by
    rw [turnoffNumber, turnoffNumber, size]
  have rooms (entry : String × Span) (member : entry ∈ order) : 2 ≤ entry.2.start :=
    (defines entry (permuted.mem_iff.mp member)).room
  have total : 1 + totalSize order = start := by
    rw [totalSize_of_perm permuted]
    exact tiles.add_totalSize
  constructor
  · rw [checkMarkers, checkSkeleton_reorder tiles permuted inRange,
      checkBalance_reorder tiles permuted defines accepted.hasKindAt, ← checkMarkers]
    exact accepted.marked
  · apply Declares.declare_eq _ (Nat.sub_le _ _)
    rw [turnoff]
    rw [← List.nil_append (order.map _)]
    apply declares_of_tiles
    · rw [← total]
      exact tiles_map_moveEntry (tiles.apart.of_perm permuted) rooms
    · intro moved member
      obtain ⟨entry, present, rfl⟩ := List.mem_map.mp member
      have original := permuted.mem_iff.mp present
      exact (defines entry original).relocate (accepted.moves permuted original)
    · rw [List.nil_append, map_fst_map_moveEntry]
      exact ((permuted.map Prod.fst).nodup_iff).mpr distinct
    · exact inRange
    · rw [size]
      exact Nat.sub_le _ _
    · obtain ⟨line, present, kind, sits⟩ := holds
      refine ⟨line, ?_, kind, sits⟩
      rw [getElem?_reorder_of_le tiles permuted within (Nat.le_refl _)]
      exact present

/-- Every instruction is found where it is moved to. -/
theorem relocates (accepted : program.Accepted start known) (permuted : order.Perm known.entries) :
    program.Relocates (program.reorder start order) known ⟨order.map (moveEntry (placeFrom 1 order))⟩
      (placeFrom 1 order) := by
  obtain ⟨_, _, distinct⟩ := accepted.tiles
  have names := (permuted.map Prod.fst).nodup_iff.mpr distinct
  rw [← map_fst_map_moveEntry (placeFrom 1 order)] at names
  constructor
  · intro name missing
    rw [Registry.find?_eq_none_iff] at missing ⊢
    rw [map_fst_map_moveEntry, (permuted.map Prod.fst).mem_iff]
    exact missing
  · intro name span found
    have member := Registry.mem_of_find? found
    have moves := accepted.moves permuted member
    have moved : moveEntry (placeFrom 1 order) (name, span) ∈ order.map (moveEntry (placeFrom 1 order)) :=
      List.mem_map_of_mem (permuted.mem_iff.mpr member)
    refine ⟨_, Registry.find?_of_mem names moved, moveEntry_start moves, moveEntry_stop moves, ?_⟩
    exact moves.narrow (Nat.sub_le _ _) (Nat.le_refl _)

/-- The run is the same with the definitions in any order, on the lines that they are moved to. -/
theorem run_reorder (accepted : program.Accepted start known) (permuted : order.Perm known.entries) (fuel : Nat)
    (world : World) :
    ((program.reorder start order).run fuel world {}).world = (program.run fuel world {}).world ∧
      ((program.reorder start order).run fuel world {}).actions = (program.run fuel world {}).actions ∧
      ((program.reorder start order).run fuel world {}).stop =
        (program.run fuel world {}).stop.map (Stop.relocate (placeFrom 1 order)) := by
  obtain ⟨tiles, _, _⟩ := accepted.tiles
  obtain ⟨inRange, _⟩ := accepted.start_bounds
  have turnoff : (program.reorder start order).turnoffNumber = program.turnoffNumber := by
    rw [turnoffNumber, turnoffNumber, length_reorder tiles permuted]
  have moves : program.Moves (program.reorder start order) (placeFrom 1 order) (start + 1)
      program.turnoffNumber := moves_section tiles permuted (Nat.le_succ _) (Nat.sub_le _ _)
  have same := relocate_sectionAt moves inRange executionDepth
  rw [placeFrom_reorder tiles permuted (by omega), placeFrom_reorder tiles permuted (by omega)] at same
  have moved := accepted.reorder permuted
  rw [run_of_declare accepted.marked accepted.declared, run_of_declare moved.marked moved.declared, turnoff,
    ← same, execute_relocate (accepted.relocates permuted)]
  cases program.execute known fuel Nesting.limit
    (program.sectionAt (start + 1) program.turnoffNumber executionDepth) { world } <;>
    exact ⟨rfl, rfl, rfl⟩

end Accepted

/-- The order of definitions does not matter. If a program is accepted up to its execution section, then it is
with its definitions in any other order, and every run of it does the same: the same actions are done, the
world that is left is the same, and the run completes, goes on or stops with the same problem on the line that
the line of the problem is moved to. -/
theorem definitions_in_any_order (program : Program) (start : Nat) (known : Registry)
    (order : List (String × Span)) (accepted : program.Accepted start known)
    (permuted : order.Perm known.entries) :
    let moved := program.reorder start order
    let move := placeFrom 1 order
    program.reorder start known.entries = program ∧
      Function.Injective move ∧ (∀ number, moved[move number]? = program[number]?) ∧
      moved.length = program.length ∧
      (∃ known', moved.Accepted start known' ∧ known'.entries.map Prod.fst = order.map Prod.fst) ∧
      ∀ fuel world,
        ((moved.run fuel world {}).stop = some .outOfFuel ↔
          (program.run fuel world {}).stop = some .outOfFuel) ∧
        (moved.run fuel world {}).actions = (program.run fuel world {}).actions ∧
        (moved.run fuel world {}).world = (program.run fuel world {}).world ∧
        (moved.run fuel world {}).stop = (program.run fuel world {}).stop.map (Stop.relocate move) := by
  intro moved move
  obtain ⟨tiles, defines, _⟩ := accepted.tiles
  obtain ⟨inRange, _⟩ := accepted.start_bounds
  rw [turnoffNumber] at inRange
  refine ⟨reorder_self tiles, placeFrom_injective tiles permuted, ?_, length_reorder tiles permuted, ?_, ?_⟩
  · exact getElem?_reorder tiles permuted (fun entry member => (defines entry member).stop_lt) (by omega)
      (by omega)
  · exact ⟨_, accepted.reorder permuted, map_fst_map_moveEntry _ _⟩
  · intro fuel world
    obtain ⟨sameWorld, sameActions, sameStop⟩ := accepted.run_reorder permuted fuel world
    refine ⟨?_, sameActions, sameWorld, sameStop⟩
    rw [sameStop, Option.map_eq_some_iff]
    simp [Stop.relocate_eq_outOfFuel]

/-- A program that turns right with an instruction that it defines before. -/
def spiral : Program :=
  classify
    ["BEGINNING-OF-PROGRAM", "\tDEFINE-NEW-INSTRUCTION turnback AS", "\tBEGIN", "\t\tturnleft;",
      "\t\tturnleft", "\tEND", "\tDEFINE-NEW-INSTRUCTION turnright AS", "\tBEGIN", "\t\tturnback;",
      "\t\tturnleft;", "\t\tmove", "\tEND", "\tBEGINNING-OF-EXECUTION", "\t\tturnright;",
      "\t\tturnoff", "\tEND-OF-EXECUTION", "END-OF-PROGRAM"]

theorem definitions_in_any_order_spiral :
    ∃ known, spiral.Accepted 12 known ∧
      let moved := spiral.reorder 12 known.entries.reverse
      (∃ known', moved.Accepted 12 known' ∧
        known'.entries.map Prod.fst = ["turnright", "turnback"]) ∧
      ∀ fuel world,
        (moved.run fuel world {}).actions = (spiral.run fuel world {}).actions ∧
        (moved.run fuel world {}).world = (spiral.run fuel world {}).world := by
  have accepted : spiral.Accepted 12
      ⟨[("turnback", ⟨3, 5, by decide⟩), ("turnright", ⟨8, 11, by decide⟩)]⟩ :=
    ⟨by decide +kernel, by decide +kernel⟩
  obtain ⟨_, _, _, _, readable, same⟩ := definitions_in_any_order spiral 12 _ _ accepted
    (List.reverse_perm _)
  refine ⟨_, accepted, readable, ?_⟩
  intro fuel world
  exact ⟨(same fuel world).2.1, (same fuel world).2.2.1⟩

end Program

end GridRobot
