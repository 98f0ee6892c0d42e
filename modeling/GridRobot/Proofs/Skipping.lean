import GridRobot.Proofs.Constructs

namespace GridRobot

theorem Nesting.enter?_eq_some {cost left inner : Nat} :
    enter? cost left = some inner ↔ left = inner + cost := by
  rw [enter?]
  split
  · simp only [reduceCtorEq, false_iff]
    omega
  · simp only [Option.some.injEq]
    omega

theorem Nesting.enter?_eq_none {cost left : Nat} : enter? cost left = none ↔ left < cost := by
  rw [enter?]
  split <;> simp_all

/-- Room for one more level is room for a block and for what is inside it. -/
theorem Nesting.exists_inner {height left : Nat} (room : blockCost * (height + 1) ≤ left) :
    ∃ inner, left = inner + blockCost ∧ blockCost * height ≤ inner := by
  refine ⟨left - blockCost, ?_, ?_⟩ <;> simp only [blockCost] at * <;> omega

namespace Block

/-- A branch is skipped if both its blocks are, one level deeper. -/
theorem skip_branch_eq_ok {number left last : Nat} {condition : String} {body alternative rest : Block} :
    (branch number condition body alternative rest).skip left = .ok last ↔
      ∃ inner, left = inner + Nesting.blockCost ∧ (∃ reached, body.skip inner = .ok reached) ∧
        (∃ reached, alternative.skip inner = .ok reached) ∧ rest.skip left = .ok last := by
  rw [skip]
  cases entered : Nesting.enter? Nesting.blockCost left with
  | none =>
      have small := Nesting.enter?_eq_none.mp entered
      simp only [reduceCtorEq, false_iff, not_exists, not_and]
      omega
  | some inner =>
      have room := Nesting.enter?_eq_some.mp entered
      have unique (other : Nat) : left = other + Nesting.blockCost ↔ inner = other := by omega
      simp only [unique, exists_eq_left']
      cases body.skip inner with
      | error problem => simp
      | ok reached => cases alternative.skip inner <;> simp

/-- A loop is skipped if its body is, one level deeper. -/
theorem skip_loop_eq_ok {number left last : Nat} {condition : String} {body rest : Block} :
    (loop number condition body rest).skip left = .ok last ↔
      ∃ inner, left = inner + Nesting.blockCost ∧ (∃ reached, body.skip inner = .ok reached) ∧
        rest.skip left = .ok last := by
  rw [skip]
  cases entered : Nesting.enter? Nesting.blockCost left with
  | none =>
      have small := Nesting.enter?_eq_none.mp entered
      simp only [reduceCtorEq, false_iff, not_exists, not_and]
      omega
  | some inner =>
      have room := Nesting.enter?_eq_some.mp entered
      have unique (other : Nat) : left = other + Nesting.blockCost ↔ inner = other := by omega
      simp only [unique, exists_eq_left']
      cases body.skip inner <;> simp

/-- The count of a loop does not matter where the loop is skipped. -/
theorem skip_iterate (number count left : Nat) (condition : String) (body rest : Block) :
    (iterate number count body rest).skip left = (loop number condition body rest).skip left := rfl

/-- Skipping passes a block before it reaches the leaf that was put in. -/
theorem skip_onDone (leaf : Nat → Block) (block : Block) (left : Nat) :
    (block.onDone leaf).skip left =
      match block.skip left with
      | .error problem => .error problem
      | .ok last => (leaf last).skip left := by
  induction block with
  | done number => rfl
  | broken stop => rfl
  | statement number name rest inductionHypothesis => exact inductionHypothesis
  | branch number condition body alternative rest _ _ inductionHypothesis =>
      rw [onDone, skip, skip, inductionHypothesis]
      cases Nesting.enter? Nesting.blockCost left with
      | none => rfl
      | some inner =>
          simp only
          cases body.skip inner with
          | error problem => rfl
          | ok last => cases alternative.skip inner <;> rfl
  | loop number condition body rest _ inductionHypothesis =>
      rw [onDone, skip, skip, inductionHypothesis]
      cases Nesting.enter? Nesting.blockCost left with
      | none => rfl
      | some inner =>
          simp only
          cases body.skip inner <;> rfl
  | iterate number count body rest _ inductionHypothesis =>
      rw [onDone, skip, skip, inductionHypothesis]
      cases Nesting.enter? Nesting.blockCost left with
      | none => rfl
      | some inner =>
          simp only
          cases body.skip inner <;> rfl

/-- No part of the block is malformed. -/
def Sound : Block → Prop
  | .done _ => True
  | .broken _ => False
  | .statement _ _ rest => rest.Sound
  | .branch _ _ body alternative rest => body.Sound ∧ alternative.Sound ∧ rest.Sound
  | .loop _ _ body rest => body.Sound ∧ rest.Sound
  | .iterate _ _ body rest => body.Sound ∧ rest.Sound

/-- How many blocks are open at once where the block nests deepest. -/
def height : Block → Nat
  | .done _ => 0
  | .broken _ => 0
  | .statement _ _ rest => rest.height
  | .branch _ _ body alternative rest => max (max body.height alternative.height + 1) rest.height
  | .loop _ _ body rest => max (body.height + 1) rest.height
  | .iterate _ _ body rest => max (body.height + 1) rest.height

/-- A sound block has an end. -/
theorem Sound.ending_eq_ok {block : Block} (sound : block.Sound) : ∃ last, block.ending = .ok last := by
  induction block with
  | done number => exact ⟨number, rfl⟩
  | broken stop => exact sound.elim
  | statement number name rest inductionHypothesis => exact inductionHypothesis sound
  | branch number condition body alternative rest _ _ inductionHypothesis =>
      exact inductionHypothesis sound.2.2
  | loop number condition body rest _ inductionHypothesis => exact inductionHypothesis sound.2
  | iterate number count body rest _ inductionHypothesis => exact inductionHypothesis sound.2

/-- A block can be skipped exactly if it is sound and there is room for its height. -/
theorem skip_eq_ok_iff {block : Block} {left last : Nat} :
    block.skip left = .ok last ↔
      block.Sound ∧ Nesting.blockCost * block.height ≤ left ∧ block.ending = .ok last := by
  have afterLoop {body rest : Block} {left last number : Nat} {condition : String}
      (bodyHypothesis : ∀ {left last}, body.skip left = .ok last ↔
        body.Sound ∧ Nesting.blockCost * body.height ≤ left ∧ body.ending = .ok last)
      (restHypothesis : ∀ {left last}, rest.skip left = .ok last ↔
        rest.Sound ∧ Nesting.blockCost * rest.height ≤ left ∧ rest.ending = .ok last) :
      (loop number condition body rest).skip left = .ok last ↔ (body.Sound ∧ rest.Sound) ∧
        Nesting.blockCost * max (body.height + 1) rest.height ≤ left ∧ rest.ending = .ok last := by
    rw [skip_loop_eq_ok]
    simp only [bodyHypothesis, restHypothesis, Nesting.blockCost]
    constructor
    · rintro ⟨inner, room, ⟨_, bodySound, bodyRoom, _⟩, restSound, restRoom, ended⟩
      exact ⟨⟨bodySound, restSound⟩, by omega, ended⟩
    · rintro ⟨⟨bodySound, restSound⟩, room, ended⟩
      obtain ⟨reached, bodyEnded⟩ := bodySound.ending_eq_ok
      exact ⟨left - 4, by omega, ⟨reached, bodySound, by omega, bodyEnded⟩, restSound, by omega, ended⟩
  induction block generalizing left last with
  | done number => simp [skip, Sound, height, ending]
  | broken stop => simp [skip, Sound]
  | statement number name rest inductionHypothesis => exact inductionHypothesis
  | branch number condition body alternative rest bodyHypothesis alternativeHypothesis restHypothesis =>
      rw [skip_branch_eq_ok]
      simp only [bodyHypothesis, alternativeHypothesis, restHypothesis, Sound, height, ending,
        Nesting.blockCost]
      constructor
      · rintro ⟨inner, room, ⟨_, bodySound, bodyRoom, _⟩, ⟨_, alternativeSound, alternativeRoom, _⟩,
          restSound, restRoom, ended⟩
        exact ⟨⟨bodySound, alternativeSound, restSound⟩, by omega, ended⟩
      · rintro ⟨⟨bodySound, alternativeSound, restSound⟩, room, ended⟩
        obtain ⟨reached, bodyEnded⟩ := bodySound.ending_eq_ok
        obtain ⟨reached', alternativeEnded⟩ := alternativeSound.ending_eq_ok
        exact ⟨left - 4, by omega, ⟨reached, bodySound, by omega, bodyEnded⟩,
          ⟨reached', alternativeSound, by omega, alternativeEnded⟩, restSound, by omega, ended⟩
  | loop number condition body rest bodyHypothesis restHypothesis =>
      exact afterLoop bodyHypothesis restHypothesis
  | iterate number count body rest bodyHypothesis restHypothesis =>
      rw [skip_iterate number count left ""]
      exact afterLoop bodyHypothesis restHypothesis

/-- Skipping a sound block can only fail by nesting. -/
theorem Sound.skip_cases {block : Block} (sound : block.Sound) (left : Nat) :
    (∃ last, block.skip left = .ok last) ∨ block.skip left = .error .nestingTooDeep := by
  have afterLoop {body rest : Block} {number : Nat} {condition : String} (left : Nat)
      (bodyCases : ∀ left, (∃ last, body.skip left = .ok last) ∨ body.skip left = .error .nestingTooDeep)
      (restCases : ∀ left, (∃ last, rest.skip left = .ok last) ∨ rest.skip left = .error .nestingTooDeep) :
      (∃ last, (loop number condition body rest).skip left = .ok last) ∨
        (loop number condition body rest).skip left = .error .nestingTooDeep := by
    rw [skip]
    cases Nesting.enter? Nesting.blockCost left with
    | none => exact Or.inr rfl
    | some inner =>
        rcases bodyCases inner with ⟨reached, bodySkipped⟩ | tooDeep
        · simpa only [bodySkipped] using restCases left
        · simp [tooDeep]
  induction block generalizing left with
  | done number => exact Or.inl ⟨number, rfl⟩
  | broken stop => exact sound.elim
  | statement number name rest inductionHypothesis => exact inductionHypothesis sound left
  | branch number condition body alternative rest bodyHypothesis alternativeHypothesis restHypothesis =>
      obtain ⟨bodySound, alternativeSound, restSound⟩ := sound
      rw [skip]
      cases Nesting.enter? Nesting.blockCost left with
      | none => exact Or.inr rfl
      | some inner =>
          rcases bodyHypothesis bodySound inner with ⟨_, bodySkipped⟩ | tooDeep
          · rcases alternativeHypothesis alternativeSound inner with ⟨_, alternativeSkipped⟩ | tooDeep
            · simpa only [bodySkipped, alternativeSkipped] using restHypothesis restSound left
            · simp [bodySkipped, tooDeep]
          · simp [tooDeep]
  | loop number condition body rest bodyHypothesis restHypothesis =>
      exact afterLoop left (bodyHypothesis sound.1) (restHypothesis sound.2)
  | iterate number count body rest bodyHypothesis restHypothesis =>
      rw [skip_iterate number count left ""]
      exact afterLoop left (bodyHypothesis sound.1) (restHypothesis sound.2)

/-- Where there is no room for its height, a sound block nests too deeply. -/
theorem Sound.skip_of_lt {block : Block} (sound : block.Sound) {left : Nat}
    (tight : left < Nesting.blockCost * block.height) : block.skip left = .error .nestingTooDeep := by
  rcases sound.skip_cases left with ⟨last, skipped⟩ | tooDeep
  · obtain ⟨_, room, _⟩ := skip_eq_ok_iff.mp skipped
    exact absurd room (Nat.not_le.mpr tight)
  · exact tooDeep

end Block

/-- A closed body is skipped exactly if the block in it is skipped and ends inside its range. -/
theorem Program.skip_closeBody_eq_ok {header : Header} {number stop left last : Nat} {block : Block} :
    (closeBody header number stop block).skip left = .ok last ↔ block.skip left = .ok last ∧ last < stop := by
  rw [closeBody, Block.skip_onDone]
  cases block.skip left with
  | error problem => simp
  | ok reached =>
      by_cases outside : stop ≤ reached
      · simp only [if_pos outside, Block.fault, Block.skip, reduceCtorEq, false_iff, Except.ok.injEq]
        omega
      · simp only [if_neg outside, Block.skip, Except.ok.injEq]
        omega

/-- A section is skipped exactly if the block in it reaches the end of its range. -/
theorem Program.skip_sectionAt_eq_ok {program : Program} {start stop left last : Nat} {depth : Int}
    (ordered : start ≤ stop) :
    (program.sectionAt start stop depth).skip left = .ok last ↔
      last = stop ∧ (program.block start stop depth).skip left = .ok stop := by
  rw [sectionAt, Block.skip_onDone]
  cases skipped : (program.block start stop depth).skip left with
  | error problem => simp
  | ok reached =>
      obtain ⟨_, _, ended⟩ := Block.skip_eq_ok_iff.mp skipped
      have bounds := ending_block_bounds ordered ended
      by_cases early : reached < stop
      · simp only [if_pos early, Block.fault, Block.skip, reduceCtorEq, false_iff, Except.ok.injEq]
        omega
      · simp only [if_neg early, Block.skip, Except.ok.injEq]
        omega

end GridRobot
