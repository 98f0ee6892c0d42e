import GridRobot.Workspace
import Mathlib.Data.List.Induction

namespace GridRobot

namespace FileTree

variable {tree tree' tree'' : FileTree} {place other reached : List String} {entry : Entry}
  {directory parts : List String} {path : Path} {content content' : Content}
  {written written' : List (List String)}

theorem lookup_replace_self (place : List String) (entry : Entry) (entries : List (List String × Entry)) :
    (replace place entry entries).lookup place = some entry := by
  induction entries with
  | nil => simp [replace]
  | cons head rest inductionHypothesis =>
      rw [replace]
      split
      · simp
      · rename_i distinct
        rw [List.lookup_cons, beq_false_of_ne (Ne.symm distinct)]
        exact inductionHypothesis

theorem lookup_replace_of_ne (distinct : other ≠ place) (entry : Entry)
    (entries : List (List String × Entry)) :
    (replace place entry entries).lookup other = entries.lookup other := by
  induction entries with
  | nil => simp [replace, List.lookup_cons, beq_false_of_ne distinct]
  | cons head rest inductionHypothesis =>
      obtain ⟨key, old⟩ := head
      rw [replace]
      split
      · rename_i same
        subst same
        simp only [List.lookup_cons, beq_false_of_ne distinct]
      · simp only [List.lookup_cons, inductionHypothesis]

/-- Of two entries at one place the later one counts. -/
theorem replace_replace (place : List String) (first second : Entry) (entries : List (List String × Entry)) :
    replace place second (replace place first entries) = replace place second entries := by
  induction entries with
  | nil => simp [replace]
  | cons head rest inductionHypothesis =>
      by_cases same : head.1 = place <;> simp [replace, same, inductionHypothesis]

theorem entry?_insert_self (below : place ≠ []) :
    FileTree.entry? (tree.insert place entry) place = some entry := by
  rw [ entry?, if_neg below]
  exact lookup_replace_self place entry tree.entries

theorem entry?_insert_of_ne (distinct : other ≠ place) :
    FileTree.entry? (tree.insert place entry) other = tree.entry? other := by
  rw [ entry?, entry?]
  split
  · rfl
  · exact lookup_replace_of_ne distinct entry tree.entries

theorem insert_insert (tree : FileTree) (place : List String) (first second : Entry) :
    (tree.insert place first).insert place second = tree.insert place second := by
  rw [insert, insert, insert, replace_replace]

/-- Everything in a tree is in another one, apart from files at the places that are written. -/
structure Extends (tree tree' : FileTree) (written : List (List String)) : Prop where
  directories : ∀ place, tree.entry? place = some .directory → tree'.entry? place = some .directory
  entries : ∀ place entry, place ∉ written → tree.entry? place = some entry → tree'.entry? place = some entry

namespace Extends

theorem refl (tree : FileTree) (written : List (List String)) : tree.Extends tree written :=
  ⟨fun _ there => there, fun _ _ _ there => there⟩

theorem trans (first : tree.Extends tree' written) (second : tree'.Extends tree'' written') :
    tree.Extends tree'' (written ++ written') where
  directories := fun place there => second.directories place (first.directories place there)
  entries := by
    intro place entry kept there
    rw [List.mem_append, not_or] at kept
    exact second.entries place entry kept.2 (first.entries place entry kept.1 there)

/-- A walk leads to the same place. -/
theorem walk_eq (extended : tree.Extends tree' written) (walked : tree.walk place parts = .ok reached) :
    tree'.walk place parts = .ok reached := by
  induction parts generalizing place with
  | nil => exact walked
  | cons part rest inductionHypothesis =>
      rw [walk] at walked ⊢
      split at walked
      · cases walked
      · cases walked
      · rename_i there
        rw [extended.directories place there]
        exact inductionHypothesis walked

theorem locate_eq (extended : tree.Extends tree' written) (located : tree.locate directory path = .ok place) :
    tree'.locate directory path = .ok place :=
  extended.walk_eq located

end Extends

/-- A walk that succeeds follows the path. -/
theorem follow_of_walk (walked : tree.walk place parts = .ok reached) : reached = Path.follow place parts := by
  induction parts generalizing place with
  | nil =>
      cases walked
      rfl
  | cons part rest inductionHypothesis =>
      rw [walk] at walked
      split at walked
      · cases walked
      · cases walked
      · exact inductionHypothesis walked

theorem resolveParts_of_locate (located : tree.locate directory path = .ok place) :
    place = path.resolveParts directory :=
  follow_of_walk located

theorem read_eq_ok : tree.read directory path = .ok content ↔
    ∃ place, tree.locate directory path = .ok place ∧ tree.entry? place = some (.file content) := by
  rw [read]
  cases tree.locate directory path with
  | error error => simp
  | ok place =>
      cases there : tree.entry? place with
      | none => simp [there]
      | some entry => cases entry <;> simp [there]

/-- What is read of a file that is not written stays. -/
theorem Extends.read_eq (extended : tree.Extends tree' written) (kept : path.resolveParts directory ∉ written)
    (readable : tree.read directory path = .ok content) : tree'.read directory path = .ok content := by
  obtain ⟨place, located, there⟩ := read_eq_ok.mp readable
  refine read_eq_ok.mpr ⟨place, extended.locate_eq located, ?_⟩
  rw [← resolveParts_of_locate located] at kept
  exact extended.entries place _ kept there

theorem loadTrace_eq_ok {trace : Trace} :
    tree.loadTrace directory path = .ok trace ↔ tree.read directory path = .ok (.trace trace) := by
  rw [loadTrace]
  cases tree.read directory path with
  | error error => cases error <;> simp
  | ok content => cases content <;> simp

/-- A map is loaded from what its file holds. -/
theorem loadMap_eq_ok {map : World} : tree.loadMap directory path = .ok map ↔
    ∃ content text, tree.read directory path = .ok content ∧
      Text.decodeUtf8 ((bytesOf content).map UInt8.toNat) = .ok text ∧
      Map.parse ((Text.sourceLines (Text.unifyNewlines text)).map String.ofList) = .ok map := by
  rw [loadMap, readLines, readText]
  cases tree.read directory path with
  | error error => cases error <;> simp
  | ok content =>
      cases decoded : Text.decodeUtf8 ((bytesOf content).map UInt8.toNat) with
      | error error => simp [decoded]
      | ok text =>
          simp only [decoded, Except.ok.injEq, exists_and_left, exists_eq_left']
          cases Map.parse ((Text.sourceLines (Text.unifyNewlines text)).map String.ofList) with
          | error error => exact ⟨nofun, nofun⟩
          | ok world => constructor <;> rintro ⟨⟩ <;> rfl

/-- A file can be put at a place: there is one, or the place is free and lies in a directory. -/
def Accepts (tree : FileTree) (place : List String) : Prop :=
  (∃ content, tree.entry? place = some (.file content)) ∨
    tree.entry? place = none ∧ tree.entry? place.dropLast = some .directory

theorem Accepts.ne_nil (accepts : tree.Accepts place) : place ≠ [] := by
  rintro rfl
  rcases accepts with ⟨content, there⟩ | ⟨free, _⟩
  · cases there
  · cases free

theorem write_eq_ok : tree.write directory path content = .ok tree' ↔
    ∃ place, tree.locate directory path = .ok place ∧ tree.Accepts place ∧
      tree' = tree.insert place (.file content) := by
  rw [write]
  cases tree.locate directory path with
  | error error => simp
  | ok place =>
      cases there : tree.entry? place with
      | some entry => cases entry <;> simp [Accepts, there, eq_comm]
      | none =>
          cases above : tree.entry? place.dropLast with
          | none => simp [Accepts, there, above]
          | some entry => cases entry <;> simp [Accepts, there, above, eq_comm]

/-- Whether a file can be written does not depend on what it shall hold. -/
theorem write_of_write (stored : tree.write directory path content = .ok tree') (content' : Content) :
    ∃ tree'', tree.write directory path content' = .ok tree'' := by
  obtain ⟨place, located, accepts, _⟩ := write_eq_ok.mp stored
  exact ⟨_, write_eq_ok.mpr ⟨place, located, accepts, rfl⟩⟩

theorem extends_insert (free : tree.entry? place ≠ some .directory) (entry : Entry) :
    tree.Extends (tree.insert place entry) [place] where
  directories := by
    intro other there
    rw [entry?_insert_of_ne]
    · exact there
    · rintro rfl
      exact free there
  entries := by
    intro other entry' kept there
    rw [entry?_insert_of_ne (List.ne_of_not_mem_cons kept)]
    exact there

theorem Accepts.entry?_ne (accepts : tree.Accepts place) : tree.entry? place ≠ some .directory := by
  rcases accepts with ⟨content, there⟩ | ⟨free, _⟩
  · simp [there]
  · simp [free]

/-- Writing a file leaves all others as they are. -/
theorem extends_write (stored : tree.write directory path content = .ok tree') :
    tree.Extends tree' [path.resolveParts directory] := by
  obtain ⟨place, located, accepts, rfl⟩ := write_eq_ok.mp stored
  rw [← resolveParts_of_locate located]
  exact extends_insert accepts.entry?_ne _

/-- What is written is read back. -/
theorem read_of_write (stored : tree.write directory path content = .ok tree') :
    tree'.read directory path = .ok content := by
  have extended := extends_write stored
  obtain ⟨place, located, accepts, rfl⟩ := write_eq_ok.mp stored
  exact read_eq_ok.mpr ⟨place, extended.locate_eq located, entry?_insert_self accepts.ne_nil⟩

/-- Writing a file again is the same as writing it only then. -/
theorem write_write (stored : tree.write directory path content = .ok tree') (content' : Content) :
    tree'.write directory path content' = tree.write directory path content' := by
  have extended := extends_write stored
  obtain ⟨place, located, accepts, rfl⟩ := write_eq_ok.mp stored
  have again : tree.write directory path content' = .ok (tree.insert place (.file content')) :=
    write_eq_ok.mpr ⟨place, located, accepts, rfl⟩
  rw [again, write_eq_ok]
  refine ⟨place, extended.locate_eq located, .inl ⟨content, entry?_insert_self accepts.ne_nil⟩, ?_⟩
  rw [insert_insert]

theorem makeDirectory_eq_ok : tree.makeDirectory directory path = .ok tree' ↔
    ∃ place, tree.locate directory path = .ok place ∧ tree.entry? place = none ∧
      tree' = tree.insert place .directory := by
  rw [makeDirectory]
  cases tree.locate directory path with
  | error error => simp
  | ok place => cases there : tree.entry? place <;> simp [there, eq_comm]

/-- Making a directory leaves everything as it is. -/
theorem extends_makeDirectory (made : tree.makeDirectory directory path = .ok tree') :
    tree.Extends tree' [] := by
  obtain ⟨place, _, free, rfl⟩ := makeDirectory_eq_ok.mp made
  have kept (other : List String) (entry : Entry) (there : tree.entry? other = some entry) :
      FileTree.entry? (tree.insert place .directory) other = some entry := by
    rw [entry?_insert_of_ne]
    · exact there
    · rintro rfl
      simp [free] at there
  exact ⟨fun other there => kept other _ there, fun other entry _ there => kept other entry there⟩

/-- What every new directory keeps is kept when a directory is made with those above it. -/
theorem ensureDirectory_keeps (invariant : FileTree → Prop)
    (kept : ∀ tree path made, invariant tree → tree.makeDirectory directory path = .ok made → invariant made)
    (fuel : Nat) (holds : invariant tree) : invariant (ensureDirectory directory fuel tree path).tree := by
  have same (tree : FileTree) (path : Path) (error : FileError) :
      (tree.unlessDirectory directory path error).tree = tree := by
    rw [unlessDirectory]
    split <;> rfl
  -- The fuel counts the directories above that may be missing.
  induction fuel generalizing tree path with
  | zero =>
      rw [ensureDirectory]
      split
      · rename_i made done
        exact kept tree path made holds done
      · exact holds
      · rw [same]
        exact holds
  | succ fuel inductionHypothesis =>
      rw [ensureDirectory]
      split
      · rename_i made done
        exact kept tree path made holds done
      · have above : invariant (ensureDirectory directory fuel tree path.parent).tree :=
          inductionHypothesis holds
        simp only
        split
        · exact above
        · split
          · rename_i made done
            exact kept _ path made above done
          · rw [same]
            exact above
      · rw [same]
        exact holds

theorem extends_ensureParent (tree : FileTree) (directory : List String) (path : Path) :
    tree.Extends (tree.ensureParent directory path).tree [] := by
  apply ensureDirectory_keeps (fun reached => tree.Extends reached []) _ _ (Extends.refl tree [])
  intro reached place made extended done
  exact extended.trans (extends_makeDirectory done)

/-- Stores a file and makes the directories above it that are missing. -/
def store (tree : FileTree) (directory : List String) (path : Path) (content : Content) :
    Except FileError FileTree :=
  match (tree.ensureParent directory path).error with
  | some error => .error error
  | none => (tree.ensureParent directory path).tree.write directory path content

theorem store_eq_ok : tree.store directory path content = .ok tree' ↔
    (tree.ensureParent directory path).error = none ∧
      (tree.ensureParent directory path).tree.write directory path content = .ok tree' := by
  rw [store]
  cases (tree.ensureParent directory path).error <;> simp

/-- Storing a file leaves all others as they are. -/
theorem extends_store (stored : tree.store directory path content = .ok tree') :
    tree.Extends tree' [path.resolveParts directory] :=
  (extends_ensureParent tree directory path).trans (extends_write (store_eq_ok.mp stored).2)

theorem read_of_store (stored : tree.store directory path content = .ok tree') :
    tree'.read directory path = .ok content :=
  read_of_write (store_eq_ok.mp stored).2

/-- Every entry lies in a directory, and the working directory is one of the tree. -/
structure Rooted (tree : FileTree) (directory : List String) : Prop where
  parents : ∀ place entry, tree.entry? place = some entry → tree.entry? place.dropLast = some .directory
  working : tree.entry? directory = some .directory
  plain : ".." ∉ directory

namespace Rooted

/-- An entry may be added in a directory where there is none. -/
theorem insert (rooted : tree.Rooted directory) (free : tree.entry? place ≠ some .directory)
    (above : tree.entry? place.dropLast = some .directory) (entry : Entry) :
    (tree.insert place entry).Rooted directory where
  parents := by
    have below : place ≠ [] := by
      rintro rfl
      exact free rfl
    have shorter : place.dropLast ≠ place := by
      intro same
      have size := congrArg List.length same
      rw [List.length_dropLast] at size
      have filled := List.length_pos_iff.mpr below
      omega
    intro other added there
    by_cases same : other = place
    · subst same
      rw [entry?_insert_of_ne shorter]
      exact above
    · rw [entry?_insert_of_ne same] at there
      have parent := rooted.parents other added there
      rw [entry?_insert_of_ne]
      · exact parent
      · intro inside
        rw [inside] at parent
        exact free parent
  working := (extends_insert free entry).directories _ rooted.working
  plain := rooted.plain

/-- Whatever a path leads to lies in a directory. -/
theorem walk_above (rooted : tree.Rooted directory) (above : tree.entry? place.dropLast = some .directory)
    (walked : tree.walk place parts = .ok reached) : tree.entry? reached.dropLast = some .directory := by
  induction parts generalizing place with
  | nil =>
      cases walked
      exact above
  | cons part rest inductionHypothesis =>
      rw [walk] at walked
      split at walked
      · cases walked
      · cases walked
      · rename_i there
        apply inductionHypothesis _ walked
        split
        · exact rooted.parents _ _ above
        · rw [List.dropLast_concat]
          exact there

theorem locate_above (rooted : tree.Rooted directory) (located : tree.locate directory path = .ok place) :
    tree.entry? place.dropLast = some .directory := by
  apply rooted.walk_above _ located
  split
  · rfl
  · exact rooted.parents _ _ rooted.working

theorem write (rooted : tree.Rooted directory) (stored : tree.write directory path content = .ok tree') :
    tree'.Rooted directory := by
  obtain ⟨place, located, accepts, rfl⟩ := write_eq_ok.mp stored
  exact rooted.insert accepts.entry?_ne (rooted.locate_above located) _

theorem makeDirectory (rooted : tree.Rooted directory) (made : tree.makeDirectory directory path = .ok tree') :
    tree'.Rooted directory := by
  obtain ⟨place, located, free, rfl⟩ := makeDirectory_eq_ok.mp made
  exact rooted.insert (by simp [free]) (rooted.locate_above located) _

theorem ensureParent (rooted : tree.Rooted directory) (path : Path) :
    (tree.ensureParent directory path).tree.Rooted directory :=
  ensureDirectory_keeps (fun reached => reached.Rooted directory)
    (fun _ _ _ rooted made => rooted.makeDirectory made) _ rooted

theorem store (rooted : tree.Rooted directory) (stored : tree.store directory path content = .ok tree') :
    tree'.Rooted directory :=
  (rooted.ensureParent path).write (store_eq_ok.mp stored).2

end Rooted

/-- Two dots are never left in what a path leads to. -/
theorem plain_follow (plain : ".." ∉ place) (parts : List String) : ".." ∉ Path.follow place parts := by
  induction parts generalizing place with
  | nil => exact plain
  | cons part rest inductionHypothesis =>
      rw [Path.follow]
      apply inductionHypothesis
      split
      · intro member
        exact plain (List.dropLast_subset place member)
      · rename_i named
        rw [List.mem_append, List.mem_singleton, not_or]
        exact ⟨plain, Ne.symm named⟩

theorem walk_append (tree : FileTree) (place first second : List String) :
    tree.walk place (first ++ second) =
      (tree.walk place first).bind fun reached => tree.walk reached second := by
  induction first generalizing place with
  | nil => rfl
  | cons part rest inductionHypothesis =>
      rw [List.cons_append, walk, walk]
      split
      · rfl
      · rfl
      · exact inductionHypothesis _

/-- A place is reached from the root along its own names. -/
theorem Rooted.walk_self (rooted : tree.Rooted directory) (above : tree.entry? place.dropLast = some .directory)
    (plain : ".." ∉ place) : tree.walk [] place = .ok place := by
  -- From the last name on: the directory above is reached along all names before it.
  induction place using List.reverseRecOn with
  | nil => rfl
  | append_singleton names name inductionHypothesis =>
      rw [List.dropLast_concat] at above
      rw [List.mem_append, List.mem_singleton, not_or] at plain
      rw [walk_append, inductionHypothesis (rooted.parents _ _ above) plain.1]
      show tree.walk names [name] = .ok (names ++ [name])
      rw [walk, above]
      simp only [if_neg (Ne.symm plain.2), walk]

/-- A file is read in the same way by its resolved path. -/
theorem Rooted.read_resolve (rooted : tree.Rooted directory)
    (readable : tree.read directory path = .ok content) :
    tree.read directory (path.resolve directory) = .ok content := by
  obtain ⟨place, located, there⟩ := read_eq_ok.mp readable
  refine read_eq_ok.mpr ⟨place, ?_, there⟩
  show tree.walk [] (path.resolveParts directory) = .ok place
  have plain : ".." ∉ place := by
    rw [resolveParts_of_locate located]
    apply plain_follow
    split
    · exact List.not_mem_nil
    · exact rooted.plain
  rw [← resolveParts_of_locate located]
  exact rooted.walk_self (rooted.parents _ _ there) plain

end FileTree

section
variable {ε σ α β : Type} {part : EStateM ε σ α} {next : α → EStateM ε σ β} {state reached : σ} {value : α}
  {error : ε}

/-- What comes after a part that succeeds works on what the part leaves. -/
theorem bind_of_ok (done : part state = .ok value reached) : (part >>= next) state = next value reached := by
  show EStateM.bind part next state = next value reached
  rw [EStateM.bind, done]

/-- A part that fails is the end of the whole. -/
theorem bind_of_error (failed : part state = .error error reached) :
    (part >>= next) state = .error error reached := by
  show EStateM.bind part next state = .error error reached
  rw [EStateM.bind, failed]

end

theorem mapError_eq_ok {ε ε' α : Type} {change : ε → ε'} {part : Except ε α} {value : α} :
    part.mapError change = .ok value ↔ part = .ok value := by
  cases part <;> simp [Except.mapError]

theorem mapError_eq_error {ε ε' α : Type} {change : ε → ε'} {part : Except ε α} {error : ε'} :
    part.mapError change = .error error ↔ ∃ cause, part = .error cause ∧ change cause = error := by
  cases part <;> simp [Except.mapError]

namespace Job

variable {α β : Type} {job : Job α} {next : α → Job β} {workspace reached : Workspace} {value : α}
  {failure : Failure}

/-- The workspace that a job leaves behind, whether it fails or not. -/
def after (job : Job α) (workspace : Workspace) : Workspace :=
  match job workspace with
  | .ok _ reached => reached
  | .error _ reached => reached

/-- What a job gives, unless it fails. -/
def value? (job : Job α) (workspace : Workspace) : Option α :=
  match job workspace with
  | .ok value _ => some value
  | .error _ _ => none

theorem value?_eq_some : job.value? workspace = some value ↔ ∃ reached, job workspace = .ok value reached := by
  rw [value?]
  cases job workspace with
  | ok other reached => simp
  | error failure reached => simp

theorem bind_of_ok (done : job workspace = .ok value reached) :
    (job >>= next) workspace = next value reached :=
  GridRobot.bind_of_ok done

theorem bind_of_error (failed : job workspace = .error failure reached) :
    (job >>= next) workspace = .error failure reached :=
  GridRobot.bind_of_error failed

/-- What a job in two parts gives is left to the second one when the first is done. -/
theorem value?_bind_of_ok (done : job workspace = .ok value reached) :
    (job >>= next).value? workspace = (next value).value? reached := by
  rw [value?, bind_of_ok done]
  rfl

/-- A job in two parts succeeds if both parts do. -/
theorem bind_eq_ok {result : β} {last : Workspace} : (job >>= next) workspace = .ok result last ↔
    ∃ value reached, job workspace = .ok value reached ∧ next value reached = .ok result last := by
  show EStateM.bind job next workspace = .ok result last ↔ _
  rw [EStateM.bind]
  cases job workspace with
  | ok value reached => simp
  | error failure reached => simp

theorem ofExcept_eq_ok {operation : Except Failure α} :
    ofExcept operation workspace = .ok value reached ↔ operation = .ok value ∧ reached = workspace := by
  cases operation with
  | ok value => simp [ofExcept, pure, EStateM.pure, eq_comm]
  | error failure => exact ⟨nofun, nofun⟩

theorem ofFiles_eq_ok {operation : FileTree → List String → Except Failure α} :
    ofFiles operation workspace = .ok value reached ↔
      operation workspace.files workspace.directory = .ok value ∧ reached = workspace :=
  ofExcept_eq_ok

@[simp] theorem get_bind (next : Workspace → Job β) (workspace : Workspace) :
    (get >>= next) workspace = next workspace workspace := rfl

@[simp] theorem set_bind (reached : Workspace) (next : PUnit → Job β) (workspace : Workspace) :
    (set reached >>= next) workspace = next ⟨⟩ reached := rfl

@[simp] theorem pure_apply (value : α) (workspace : Workspace) :
    (pure value : Job α) workspace = .ok value workspace := rfl

@[simp] theorem ofExcept_ok (value : α) : ofExcept (.ok value) = pure value := rfl

theorem after_of_ok (done : job workspace = .ok value reached) : job.after workspace = reached := by
  rw [after, done]

theorem after_of_error (failed : job workspace = .error failure reached) : job.after workspace = reached := by
  rw [after, failed]

theorem after_bind_pure (job : Job α) (result : β) (workspace : Workspace) :
    (job >>= fun _ => pure result).after workspace = job.after workspace := by
  cases done : job workspace with
  | ok value reached => rw [after_of_ok done, after, bind_of_ok done, pure_apply]
  | error failure reached => rw [after_of_error done, after, bind_of_error done]

theorem ensureParent_eq (path : Path) (workspace : Workspace) :
    ensureParent path workspace =
      match (workspace.files.ensureParent workspace.directory path).error with
      | none => .ok () { workspace with files := (workspace.files.ensureParent workspace.directory path).tree }
      | some error =>
        .error (.file error)
          { workspace with files := (workspace.files.ensureParent workspace.directory path).tree } := by
  rw [ensureParent, get_bind, set_bind]
  cases (workspace.files.ensureParent workspace.directory path).error <;> rfl

theorem changeFiles_eq (operation : FileTree → List String → Except FileError FileTree)
    (workspace : Workspace) :
    changeFiles operation workspace =
      match operation workspace.files workspace.directory with
      | .ok files => .ok () { workspace with files := files }
      | .error error => .error (.file error) workspace := by
  rw [changeFiles, get_bind]
  cases operation workspace.files workspace.directory <;> rfl

/-- A picture is kept if its file can be stored; else only directories are made for it. -/
theorem saveFigure_eq (figure : Figure) (path : Path) (workspace : Workspace) :
    saveFigure figure path workspace =
      match workspace.files.store workspace.directory path .picture with
      | .ok tree => .ok () { workspace with files := tree, figures := workspace.figures ++ [figure] }
      | .error error =>
        .error (.file error)
          { workspace with files := (workspace.files.ensureParent workspace.directory path).tree } := by
  have made := ensureParent_eq path workspace
  rw [FileTree.store]
  cases found : (workspace.files.ensureParent workspace.directory path).error with
  | some error =>
      rw [found] at made
      exact bind_of_error made
  | none =>
      rw [found] at made
      rw [saveFigure, bind_of_ok made]
      have changed := changeFiles_eq (fun files directory => files.write directory path .picture)
        { workspace with files := (workspace.files.ensureParent workspace.directory path).tree }
      cases written : (workspace.files.ensureParent workspace.directory path).tree.write
          workspace.directory path .picture with
      | ok tree =>
          simp only [written] at changed
          rw [bind_of_ok changed]
          rfl
      | error error =>
          simp only [written] at changed
          exact bind_of_error changed

theorem saveFigure_of_store {path : Path} {tree : FileTree} (figure : Figure)
    (stored : workspace.files.store workspace.directory path .picture = .ok tree) :
    saveFigure figure path workspace =
      .ok () { workspace with files := tree, figures := workspace.figures ++ [figure] } := by
  rw [saveFigure_eq, stored]

theorem figures_of_saveFigure {path : Path} {figure : Figure}
    (saved : saveFigure figure path workspace = .ok () reached) :
    reached.figures = workspace.figures ++ [figure] := by
  rw [saveFigure_eq] at saved
  split at saved
  · cases saved
    rfl
  · cases saved

theorem after_saveFigure (figure : Figure) (path : Path) (workspace : Workspace) :
    ((saveFigure figure path).after workspace).directory = workspace.directory ∧
      (((saveFigure figure path).after workspace).files =
          (workspace.files.ensureParent workspace.directory path).tree ∨
        workspace.files.store workspace.directory path .picture =
          .ok ((saveFigure figure path).after workspace).files) := by
  rw [after, saveFigure_eq]
  cases workspace.files.store workspace.directory path .picture with
  | ok tree => exact ⟨rfl, Or.inr rfl⟩
  | error error => exact ⟨rfl, Or.inl rfl⟩

/-- Whether it can be stored or not, a picture leaves all files but its own as they are. -/
theorem extends_saveFigure (figure : Figure) (path : Path) (workspace : Workspace) :
    workspace.files.Extends ((saveFigure figure path).after workspace).files
      [path.resolveParts workspace.directory] := by
  rcases (after_saveFigure figure path workspace).2 with same | stored
  · rw [same]
    exact (FileTree.extends_ensureParent ..).trans (.refl _ [path.resolveParts workspace.directory])
  · exact FileTree.extends_store stored

theorem rooted_saveFigure (figure : Figure) (path : Path) (workspace : Workspace)
    (rooted : workspace.files.Rooted workspace.directory) :
    ((saveFigure figure path).after workspace).files.Rooted workspace.directory := by
  rcases (after_saveFigure figure path workspace).2 with same | stored
  · rw [same]
    exact rooted.ensureParent path
  · exact rooted.store stored

/-- All that a snapshot does is to save its picture. -/
theorem discard_saveSnapshot_bind (world : World) (path : Path) (title : Option String) (theme : Theme)
    (next : Unit → Job β) : (discard (saveSnapshot world path title theme) >>= next) =
      (saveFigure (.snapshot (.ofWorld world path title theme)) path >>= next) := by
  rw [saveSnapshot, Functor.discard, map_const, Function.comp_apply, map_eq_pure_bind, bind_assoc, bind_assoc]
  simp only [pure_bind]

end Job

end GridRobot
