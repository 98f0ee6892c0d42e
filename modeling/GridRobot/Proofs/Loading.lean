import GridRobot.Proofs.Newlines
import GridRobot.Proofs.Sessions

namespace GridRobot

namespace FileTree

variable {tree : FileTree} {directory : List String} {path : Path}

end FileTree

theorem Theme.find_eq_error {name : String} {failure : Failure} :
    find name = .error failure ↔ name ∉ all.map Theme.name ∧ failure = .refused .unknownTheme := by
  rw [find]
  split
  · next theme found =>
      have named := List.find?_some found
      rw [decide_eq_true_eq] at named
      have known : name ∈ all.map Theme.name := by
        rw [← named]
        exact List.mem_map_of_mem (List.mem_of_find?_eq_some found)
      exact ⟨nofun, fun ⟨unknown, _⟩ => absurd known unknown⟩
  · next none =>
      have unknown : name ∉ all.map Theme.name := by simpa using none
      rw [Except.error.injEq, eq_comm]
      exact ⟨fun same => ⟨unknown, same⟩, And.right⟩

/-- What is found has the name that was asked for. -/
theorem Theme.find_eq_ok {name : String} {theme : Theme} :
    find name = .ok theme ↔ theme ∈ all ∧ theme.name = name := by
  constructor
  · intro found
    rw [find] at found
    split at found
    · next other among =>
        cases found
        exact ⟨List.mem_of_find?_eq_some among, by simpa using List.find?_some among⟩
    · cases found
  · rintro ⟨among, rfl⟩
    simp only [all, List.mem_cons, List.not_mem_nil, or_false] at among
    rcases among with rfl | rfl <;> rfl

namespace Session

section
variable {settings : Settings} {workspace reached : Workspace} {sources : Sources} {failure : Failure}

end

end Session

end GridRobot
