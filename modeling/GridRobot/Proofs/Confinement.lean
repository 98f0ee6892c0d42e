import GridRobot.Path
import Mathlib.Logic.Relation

namespace GridRobot.Path

/-- A part that names a file or a directory. -/
def IsName (part : String) : Prop :=
  isPlainPart part = true ∧ part ≠ ".."

/-- One simplification of the parts of an absolute path: an empty part or a single dot is left out, two dots take
back the name before them, and at the root they lead nowhere. -/
inductive Shortens : List String → List String → Prop where
  | idle {part : String} (idle : isPlainPart part = false) (before after : List String) :
      Shortens (before ++ part :: after) (before ++ after)
  | back {name : String} (named : IsName name) (before after : List String) :
      Shortens (before ++ name :: ".." :: after) (before ++ after)
  | root (after : List String) : Shortens (".." :: after) after

/-- The parts of an absolute path lead to a place: they can be simplified to it, and no further. -/
structure LeadsTo (parts place : List String) : Prop where
  shortens : Relation.ReflTransGen Shortens parts place
  names : ∀ part ∈ place, IsName part

section
variable {parts parts' place : List String}

theorem follow_append (place first second : List String) :
    follow place (first ++ second) = follow (follow place first) second := by
  induction first generalizing place with
  | nil => rfl
  | cons part rest inductionHypothesis => exact inductionHypothesis _

/-- Names lead on from where one is. -/
theorem follow_names (names : ∀ part ∈ parts, IsName part) : follow place parts = place ++ parts := by
  induction parts generalizing place with
  | nil => exact (List.append_nil place).symm
  | cons part rest inductionHypothesis =>
      rw [List.forall_mem_cons] at names
      rw [follow, if_neg names.1.2, inductionHypothesis names.2, List.append_assoc]
      rfl

theorem filter_names (names : ∀ part ∈ parts, IsName part) : parts.filter isPlainPart = parts := by
  apply List.filter_eq_self.mpr
  intro part member
  exact (names part member).1

/-- From a place of names one gets to a place of names. -/
theorem isName_of_mem_follow (names : ∀ part ∈ place, IsName part)
    (plain : ∀ part ∈ parts, isPlainPart part = true) : ∀ part ∈ follow place parts, IsName part := by
  induction parts generalizing place with
  | nil => exact names
  | cons part rest inductionHypothesis =>
      rw [List.forall_mem_cons] at plain
      apply inductionHypothesis _ plain.2
      intro name member
      split at member
      · exact names name (List.dropLast_subset place member)
      · rename_i onward
        rcases List.mem_append.mp member with earlier | added
        · exact names name earlier
        · obtain rfl := List.mem_singleton.mp added
          exact ⟨plain.1, onward⟩

/-- A simplification does not change where the parts lead. -/
theorem Shortens.follow_eq (shortens : Shortens parts parts') :
    follow [] (parts.filter isPlainPart) = follow [] (parts'.filter isPlainPart) := by
  cases shortens with
  | idle idle before after => simp [idle]
  | @back name named before after =>
      have plain : isPlainPart ".." = true := by decide
      rw [List.filter_append, List.filter_append, follow_append, follow_append,
        List.filter_cons_of_pos named.1, List.filter_cons_of_pos plain]
      simp [follow, named.2]
  | root after =>
      have plain : isPlainPart ".." = true := by decide
      rw [List.filter_cons_of_pos plain]
      rfl

/-- Parts behind a place of names can be simplified to the place that they lead to from there. -/
theorem shortens_follow (names : ∀ part ∈ place, IsName part) (parts : List String) :
    Relation.ReflTransGen Shortens (place ++ parts) (follow place (parts.filter isPlainPart)) := by
  induction parts generalizing place with
  | nil =>
      rw [List.append_nil]
      exact .refl
  | cons part rest inductionHypothesis =>
      cases plain : isPlainPart part with
      | false =>
          rw [List.filter_cons_of_neg (by simp [plain])]
          exact .head (.idle plain place rest) (inductionHypothesis names)
      | true =>
          rw [List.filter_cons_of_pos plain, follow]
          split
          · rename_i up
            subst up
            -- Two dots take back the last name of the place, unless it is the root.
            rcases List.eq_nil_or_concat place with rfl | ⟨above, last, rfl⟩
            · exact .head (.root rest) (inductionHypothesis names)
            · have named : IsName last := names last (by simp)
              rw [List.concat_eq_append] at names ⊢
              rw [List.dropLast_concat, List.append_assoc]
              apply Relation.ReflTransGen.head (.back named above rest)
              apply inductionHypothesis
              intro part member
              exact names part (List.mem_append_left _ member)
          · rename_i onward
            rw [List.append_cons]
            apply inductionHypothesis
            intro name member
            rcases List.mem_append.mp member with earlier | added
            · exact names name earlier
            · obtain rfl := List.mem_singleton.mp added
              exact ⟨plain, onward⟩

theorem follow_eq_of_shortens (shortens : Relation.ReflTransGen Shortens parts parts') :
    follow [] (parts.filter isPlainPart) = follow [] (parts'.filter isPlainPart) := by
  induction shortens with
  | refl => rfl
  | tail _ last inductionHypothesis => exact inductionHypothesis.trans last.follow_eq

/-- The parts of an absolute path lead to one place only, and it is found by following them from the root. -/
theorem leadsTo_iff : LeadsTo parts place ↔ place = follow [] (parts.filter isPlainPart) := by
  have root : ∀ part ∈ ([] : List String), IsName part := nofun
  constructor
  · rintro ⟨shortens, names⟩
    rw [follow_eq_of_shortens shortens, filter_names names, follow_names names]
    rfl
  · rintro rfl
    apply LeadsTo.mk (shortens_follow root parts)
    apply isName_of_mem_follow root
    intro part member
    exact (List.mem_filter.mp member).2

end

section
variable {path base other : Path} {directory : List String} {text : List Char}

/-- What stands behind a slash is cut on its own. -/
theorem cutFrom_append (current first second : List Char) :
    cutFrom current (first ++ '/' :: second) = cutFrom current first ++ cutFrom [] second := by
  induction first generalizing current with
  | nil => rfl
  | cons char rest inductionHypothesis =>
      rw [List.cons_append, cutFrom, cutFrom]
      split
      · rw [inductionHypothesis, List.cons_append]
      · exact inductionHypothesis _

theorem rootOf_ne_none_iff : rootOf text ≠ .none ↔ text.head? = some '/' := by
  rw [rootOf]
  cases text with
  | nil => simp
  | cons first rest =>
      by_cases slash : first = '/'
      · subst slash
        simp only [List.takeWhile_cons, decide_true, if_true, List.length_cons, List.head?_cons, iff_true]
        split <;> simp_all
      · simp [slash]

/-- A path is another one or lies below it exactly if it starts with the parts of the other. -/
theorem mem_parents_iff (rooted : other.root = path.root) :
    path = other ∨ other ∈ path.parents ↔ other.parts <+: path.parts := by
  obtain ⟨root, parts⟩ := path
  obtain ⟨_, parts'⟩ := other
  subst rooted
  simp only [parents, List.mem_map, List.mem_reverse, List.mem_range, mk.injEq, true_and]
  constructor
  · rintro (rfl | ⟨count, _, rfl⟩)
    · exact List.prefix_refl parts
    · exact List.take_prefix count parts
  · intro starts
    rcases Nat.lt_or_eq_of_le starts.length_le with shorter | whole
    · exact Or.inr ⟨parts'.length, shorter, (List.prefix_iff_eq_take.mp starts).symm⟩
    · exact Or.inl (starts.eq_of_length whole).symm

/-- A path is accepted exactly if the parts of its place start with those of the base. -/
theorem resolveWithin_eq_ok {found : Path} : resolveWithin directory path base = .ok found ↔
    resolveParts directory base <+: resolveParts directory (base.join path) ∧
      found = resolve directory (base.join path) := by
  have inside := @mem_parents_iff (resolve directory (base.join path)) (resolve directory base) rfl
  simp only [resolveWithin, Bool.or_eq_true, decide_eq_true_eq, List.contains_iff_mem, inside]
  change (if resolveParts directory base <+: resolveParts directory (base.join path) then _ else _) = _ ↔ _
  split
  · rename_i within
    simp [within, eq_comm]
  · rename_i outside
    simp [outside]

theorem resolveWithin_eq_error
    (outside : ¬ resolveParts directory base <+: resolveParts directory (base.join path)) :
    resolveWithin directory path base = .error (.outsideBase path.text) := by
  have inside := @mem_parents_iff (resolve directory (base.join path)) (resolve directory base) rfl
  simp only [resolveWithin, Bool.or_eq_true, decide_eq_true_eq, List.contains_iff_mem, inside]
  exact if_neg outside

end

section
variable {directory : List String} {path base : String}

/-- The text that a path is resolved from: its own if it starts at the root, and else it stands behind the base. -/
def wholeText (base path : String) : List Char :=
  if path.toList.head? = some '/' then path.toList else base.toList ++ '/' :: path.toList

theorem isAbsolute_ofString : (ofString path).isAbsolute = true ↔ path.toList.head? = some '/' := by
  rw [← rootOf_ne_none_iff]
  exact decide_eq_true_iff

/-- The parts of an absolute path are followed from the root. -/
theorem resolveParts_ofString (absolute : path.toList.head? = some '/') :
    resolveParts directory (ofString path) = follow [] ((cutFrom [] path.toList).filter isPlainPart) := by
  rw [resolveParts, if_pos (isAbsolute_ofString.mpr absolute)]
  rfl

/-- A path behind an absolute base is resolved as one text, with a slash between them. -/
theorem resolveParts_join (absolute : base.toList.head? = some '/') :
    resolveParts directory ((ofString base).join (ofString path)) =
      follow [] ((cutFrom [] (wholeText base path)).filter isPlainPart) := by
  rw [join, wholeText]
  by_cases own : path.toList.head? = some '/'
  · rw [if_pos (isAbsolute_ofString.mpr own), if_pos own]
    exact resolveParts_ofString own
  · rw [if_neg (mt isAbsolute_ofString.mp own), if_neg own, cutFrom_append, List.filter_append, resolveParts]
    exact congrArg (follow · _) (if_pos (isAbsolute_ofString.mpr absolute))

end

/-- A path is confined to an absolute base. Where the path leads, taken from the base unless it is absolute itself, and
where the base leads is found by leaving out idle parts and taking back names before two dots, in whatever order. The
path is accepted exactly if its place starts with all names of the base, and is refused otherwise. What is accepted has
only names in it, and is accepted as it is when it is resolved again. -/
theorem resolution_stays_within_base (directory : List String) (path base : String)
    (absolute : base.toList.head? = some '/') :
    ∃ place basePlace : List String,
      (∀ other, LeadsTo (cutFrom [] (wholeText base path)) other ↔ other = place) ∧
      (∀ other, LeadsTo (cutFrom [] base.toList) other ↔ other = basePlace) ∧
      (∀ found, resolveWithin directory (ofString path) (ofString base) = .ok found ↔
        basePlace <+: place ∧ found = ⟨.slash, place⟩) ∧
      (¬ basePlace <+: place →
        resolveWithin directory (ofString path) (ofString base) = .error (.outsideBase (ofString path).text)) ∧
      ∀ found, resolveWithin directory (ofString path) (ofString base) = .ok found →
        (∀ part ∈ found.parts, part ≠ "" ∧ part ≠ "." ∧ part ≠ "..") ∧
          resolveWithin directory found (ofString base) = .ok found := by
  have joined := @resolveParts_join directory path base absolute
  have based := @resolveParts_ofString directory base absolute
  refine ⟨_, _, fun _ => leadsTo_iff, fun _ => leadsTo_iff, ?_, ?_, ?_⟩
  · intro found
    rw [resolveWithin_eq_ok, resolve, joined, based]
  · intro outside
    apply resolveWithin_eq_error
    rwa [joined, based]
  · intro found accepted
    rw [resolveWithin_eq_ok, resolve, joined, based] at accepted
    obtain ⟨inside, rfl⟩ := accepted
    have names := (leadsTo_iff.mpr (rfl : follow [] ((cutFrom [] (wholeText base path)).filter isPlainPart) = _)).names
    constructor
    · intro part member
      obtain ⟨plain, onward⟩ := names part member
      simp only [isPlainPart, Bool.and_eq_true, decide_eq_true_eq] at plain
      exact ⟨plain.1, plain.2, onward⟩
    · have again : resolveParts directory ((ofString base).join
          ⟨.slash, follow [] ((cutFrom [] (wholeText base path)).filter isPlainPart)⟩) =
            follow [] ((cutFrom [] (wholeText base path)).filter isPlainPart) := follow_names names
      rw [resolveWithin_eq_ok, resolve, again, based]
      exact ⟨inside, rfl⟩

theorem resolution_stays_within_base_sibling :
    "/srv//maps/.".toList.head? = some '/' ∧
      resolveWithin [] (ofString "../maps/./old/../new") (ofString "/srv//maps/.") =
        .ok ⟨.slash, ["srv", "maps", "new"]⟩ ∧
      resolveWithin [] ⟨.slash, ["srv", "maps", "new"]⟩ (ofString "/srv//maps/.") =
        .ok ⟨.slash, ["srv", "maps", "new"]⟩ ∧
      resolveWithin [] (ofString "/srv/maps-old/new") (ofString "/srv//maps/.") =
        .error (.outsideBase "/srv/maps-old/new") := by
  have absolute : "/srv//maps/.".toList.head? = some '/' := by decide
  obtain ⟨place, basePlace, leads, baseLeads, accepts, _, again⟩ :=
    resolution_stays_within_base [] "../maps/./old/../new" "/srv//maps/." absolute
  obtain rfl := (leads ["srv", "maps", "new"]).mp (leadsTo_iff.mpr (by decide +kernel))
  obtain rfl := (baseLeads ["srv", "maps"]).mp (leadsTo_iff.mpr (by decide +kernel))
  have accepted := (accepts ⟨.slash, ["srv", "maps", "new"]⟩).mpr ⟨by decide, rfl⟩
  refine ⟨absolute, accepted, (again _ accepted).2, ?_⟩
  obtain ⟨place, basePlace, leads, baseLeads, _, refuses, _⟩ :=
    resolution_stays_within_base [] "/srv/maps-old/new" "/srv//maps/." absolute
  obtain rfl := (leads ["srv", "maps-old", "new"]).mp (leadsTo_iff.mpr (by decide +kernel))
  obtain rfl := (baseLeads ["srv", "maps"]).mp (leadsTo_iff.mpr (by decide +kernel))
  rw [refuses (by decide), show (ofString "/srv/maps-old/new").text = "/srv/maps-old/new" by decide +kernel]

end GridRobot.Path
