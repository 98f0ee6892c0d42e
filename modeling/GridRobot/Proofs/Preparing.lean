import GridRobot.CommandLine.Runner
import GridRobot.Proofs.Documents
import GridRobot.Proofs.Loading

namespace GridRobot

theorem bind_eq_error {ε α β : Type} {part : Except ε α} {next : α → Except ε β} {error : ε} :
    (part >>= next) = .error error ↔
      part = .error error ∨ ∃ value, part = .ok value ∧ next value = .error error := by
  cases part with
  | error other => simp [bind, Except.bind]
  | ok value => simp [bind, Except.bind]

theorem bind_eq_ok {ε α β : Type} {part : Except ε α} {next : α → Except ε β} {result : β} :
    (part >>= next) = .ok result ↔ ∃ value, part = .ok value ∧ next value = .ok result := by
  cases part with
  | error other => simp [bind, Except.bind]
  | ok value => simp [bind, Except.bind]

/-- A failure that is the user's fault. -/
def Failure.IsRefusal (failure : Failure) : Prop :=
  ∃ refusal, failure = .refused refusal

namespace Json

variable {key : String} {value : Json} {failure : Failure}

theorem asBool_eq_error (failed : value.asBool key = .error failure) : failure.IsRefusal := by
  rw [asBool.eq_def] at failed
  split at failed
  · cases failed
  · split at failed
    · cases failed
    · split at failed
      · cases failed
      · cases failed
        exact ⟨_, rfl⟩
  · cases failed
    exact ⟨_, rfl⟩

theorem asPath_eq_error (failed : value.asPath key = .error failure) : failure.IsRefusal := by
  rw [asPath.eq_def] at failed
  split at failed
  · cases failed
  · cases failed
  · cases failed
    exact ⟨_, rfl⟩

/-- Only an infinite number is more than refused. -/
theorem asInt_eq_error (failed : value.asInt key = .error failure) :
    failure.IsRefusal ∨ ∃ negative, value = .real (.infinite negative) ∧ failure = .overflow .infinite := by
  rw [asInt.eq_def] at failed
  split at failed
  · cases failed
  · cases failed
    exact Or.inl ⟨_, rfl⟩
  · cases failed
    exact Or.inr ⟨_, rfl, rfl⟩
  · split at failed
    · cases failed
    · cases failed
      exact Or.inl ⟨_, rfl⟩
  · obtain ⟨error, _, rfl⟩ := mapError_eq_error.mp failed
    exact Or.inl ⟨_, rfl⟩
  · cases failed
    exact Or.inl ⟨_, rfl⟩

/-- A document that is no object. -/
def IsPlain (document : Json) : Prop :=
  ∀ fields, document ≠ .object fields

theorem field?_eq_error {document : Json} :
    document.field? key = .error failure ↔ document.IsPlain ∧ failure = .notAnObject := by
  cases document <;> simp [field?, IsPlain, eq_comm]

end Json

/-- Every setting is given, so that none is asked of a document. -/
structure GivenSettings.Complete (given : GivenSettings) : Prop where
  banner : given.banner ≠ none
  beepers : given.beepers ≠ none
  map : given.map ≠ none
  program : given.program ≠ none
  delay : given.delay ≠ none
  display : given.display ≠ none
  trace : given.trace ≠ none
  snapshot : given.snapshot ≠ none
  runId : given.runId ≠ none
  theme : given.theme ≠ none

namespace Settings

/-- Settings that a run can have. -/
structure Valid (settings : Settings) : Prop where
  beepers : 0 ≤ settings.beepers
  delay : 0 ≤ settings.delay
  runId : settings.runId ≠ ""
  theme : settings.theme ∈ Theme.all.map Theme.name

section
variable (given : GivenSettings) (document : Json)

def bannerChoice : Except Failure (Option Path) :=
  choose (given.banner.map some) document "banner" (some (Path.ofString defaultBanner)) (Json.asPath "banner")

def beepersChoice : Except Failure Int :=
  choose given.beepers document "beepers" 0 (Json.asInt "beepers")

def delayChoice : Except Failure Int :=
  choose given.delay document "frame_delay" defaultDelay (Json.asInt "frame_delay")

/-- Every setting is the one that is given, or else that of the document, or else the default. -/
structure Chosen (settings : Settings) : Prop where
  banner : bannerChoice given document = .ok settings.banner
  beepers : beepersChoice given document = .ok settings.beepers
  map : choose given.map document "map" (Path.ofString defaultMap) anyPath = .ok settings.map
  program : choose given.program document "program" (Path.ofString defaultProgram) anyPath = .ok settings.program
  delay : delayChoice given document = .ok settings.delay
  display : choose given.display document "display" true (Json.asBool "display") = .ok settings.display
  trace : choose (given.trace.map some) document "trace" none (Json.asPath "trace") = .ok settings.trace
  snapshot : choose (given.snapshot.map some) document "snapshot" none (Json.asPath "snapshot") =
    .ok settings.snapshot
  runId : choose given.runId document "run_id" defaultRunId anyText = .ok settings.runId
  theme : choose given.theme document "theme" defaultTheme anyName = .ok settings.theme

/-- What breaks off the choice of settings without a refusal: a document that is no object while a setting is
not given, and an infinite number where a whole one is asked for and all settings before it can be chosen. -/
inductive Breaks : Failure → Prop
  | plain (plain : document.IsPlain) (partly : ¬given.Complete) : Breaks .notAnObject
  | beepers {banner : Option Path} {negative : Bool} (before : bannerChoice given document = .ok banner)
      (missing : given.beepers = none)
      (infinite : document.field? "beepers" = .ok (some (.real (.infinite negative)))) :
      Breaks (.overflow .infinite)
  | delay {banner : Option Path} {beepers : Int} {negative : Bool}
      (before : bannerChoice given document = .ok banner) (count : beepersChoice given document = .ok beepers)
      (missing : given.delay = none)
      (infinite : document.field? "frame_delay" = .ok (some (.real (.infinite negative)))) :
      Breaks (.overflow .infinite)

end

section
variable {α : Type} {given : Option α} {document : Json} {key : String} {default value : α}
  {read : Json → Except Failure α} {failure : Failure}

theorem anyText_eq_error {value : Json} (failed : anyText value = .error failure) : failure.IsRefusal := by
  cases failed

theorem anyName_eq_error {value : Json} (failed : anyName value = .error failure) : failure.IsRefusal := by
  cases failed

theorem anyPath_eq_error {value : Json} (failed : anyPath value = .error failure) : failure.IsRefusal := by
  cases failed

theorem choose_eq_error : choose given document key default read = .error failure ↔ given = none ∧
    (document.IsPlain ∧ failure = .notAnObject ∨
      ∃ value, document.field? key = .ok (some value) ∧ read value = .error failure) := by
  rw [← @Json.field?_eq_error key]
  cases given with
  | some value => simp [choose]
  | none =>
      simp only [choose, true_and]
      cases document.field? key with
      | error other => simp
      | ok found => cases found <;> simp

theorem field?_of_plain (plain : document.IsPlain) : document.field? key = .error .notAnObject :=
  Json.field?_eq_error.mpr ⟨plain, rfl⟩

theorem not_plain_of_field {found : Option Json} (object : document.field? key = .ok found) :
    ¬document.IsPlain :=
  fun plain => nomatch object.symm.trans (field?_of_plain plain)

/-- A document that is no object is good for nothing that is not given. -/
theorem given_of_choose (plain : document.IsPlain) (chosen : choose given document key default read = .ok value) :
    given ≠ none := by
  rintro rfl
  cases chosen.symm.trans (choose_eq_error.mpr ⟨rfl, Or.inl ⟨plain, rfl⟩⟩)

/-- Where any value will do, an object is always good for a choice. -/
theorem exists_choice (fields : ¬document.IsPlain) (reads : ∀ value, ∃ result, read value = .ok result) :
    ∃ value, choose given document key default read = .ok value := by
  cases made : choose given document key default read with
  | ok value => exact ⟨value, rfl⟩
  | error failure =>
      obtain ⟨_, ⟨plain, _⟩ | ⟨value, _, refused⟩⟩ := choose_eq_error.mp made
      · exact absurd plain fields
      · obtain ⟨result, accepted⟩ := reads value
        cases accepted.symm.trans refused

end

section
variable {given : GivenSettings} {document : Json} {settings : Settings} {failure : Failure}

theorem Chosen.complete (chosen : Chosen given document settings) (plain : document.IsPlain) : given.Complete where
  banner := fun missing => given_of_choose plain chosen.banner (by rw [missing]; rfl)
  beepers := given_of_choose plain chosen.beepers
  map := given_of_choose plain chosen.map
  program := given_of_choose plain chosen.program
  delay := given_of_choose plain chosen.delay
  display := given_of_choose plain chosen.display
  trace := fun missing => given_of_choose plain chosen.trace (by rw [missing]; rfl)
  snapshot := fun missing => given_of_choose plain chosen.snapshot (by rw [missing]; rfl)
  runId := given_of_choose plain chosen.runId
  theme := given_of_choose plain chosen.theme

/-- The settings as they are chosen, before any check. -/
def choices (given : GivenSettings) (document : Json) : Except Failure Settings := do
  let banner ← bannerChoice given document
  let beepers ← beepersChoice given document
  let map ← choose given.map document "map" (Path.ofString defaultMap) anyPath
  let program ← choose given.program document "program" (Path.ofString defaultProgram) anyPath
  let delay ← delayChoice given document
  let display ← choose given.display document "display" true (Json.asBool "display")
  let trace ← choose (given.trace.map some) document "trace" none (Json.asPath "trace")
  let snapshot ← choose (given.snapshot.map some) document "snapshot" none (Json.asPath "snapshot")
  let runId ← choose given.runId document "run_id" defaultRunId anyText
  let theme ← choose given.theme document "theme" defaultTheme anyName
  return { beepers, map, program, delay, display, banner, trace, snapshot, runId, theme }

/-- The check of settings that are chosen: their theme comes first. -/
def checkAll (settings : Settings) : Except Failure Settings := do
  let theme ← Theme.find settings.theme
  { settings with theme := theme.name }.check.mapError .refused

theorem ofDocument_eq (given : GivenSettings) (document : Json) :
    ofDocument given document = choices given document >>= checkAll := by
  simp only [ofDocument, choices, checkAll, bind_assoc, pure_bind]
  rfl

theorem checkAll_eq_ok {result : Settings} : checkAll settings = .ok result ↔ result = settings ∧ settings.Valid := by
  simp only [checkAll, bind_eq_ok, Theme.find_eq_ok, mapError_eq_ok, check_eq_ok]
  constructor
  · rintro ⟨theme, ⟨among, named⟩, same, beepers, delay, runId⟩
    rw [named] at same
    exact ⟨same, beepers, delay, runId, by rw [← named]; exact List.mem_map_of_mem among⟩
  · rintro ⟨rfl, valid⟩
    obtain ⟨theme, among, named⟩ := List.mem_map.mp valid.theme
    exact ⟨theme, ⟨among, named⟩, by rw [named], valid.beepers, valid.delay, valid.runId⟩

theorem checkAll_eq_error (failed : checkAll settings = .error failure) : failure.IsRefusal := by
  rcases bind_eq_error.mp failed with unknown | ⟨theme, _, refused⟩
  · exact ⟨_, (Theme.find_eq_error.mp unknown).2⟩
  · obtain ⟨refusal, _, rfl⟩ := mapError_eq_error.mp refused
    exact ⟨refusal, rfl⟩

theorem choices_eq_ok : choices given document = .ok settings ↔ Chosen given document settings := by
  simp only [choices, bind_eq_ok]
  constructor
  · rintro ⟨_, banner, _, beepers, _, map, _, program, _, delay, _, display, _, trace, _, snapshot, _, runId, _, theme,
      same⟩
    cases same
    exact ⟨banner, beepers, map, program, delay, display, trace, snapshot, runId, theme⟩
  · intro chosen
    exact ⟨_, chosen.banner, _, chosen.beepers, _, chosen.map, _, chosen.program, _, chosen.delay, _,
      chosen.display, _, chosen.trace, _, chosen.snapshot, _, chosen.runId, _, chosen.theme, rfl⟩

/-- Settings are taken from a document if all of them can be chosen and are valid. -/
theorem ofDocument_eq_ok :
    ofDocument given document = .ok settings ↔ Chosen given document settings ∧ settings.Valid := by
  simp only [ofDocument_eq, bind_eq_ok, choices_eq_ok, checkAll_eq_ok]
  constructor
  · rintro ⟨_, chosen, rfl, valid⟩
    exact ⟨chosen, valid⟩
  · rintro ⟨chosen, valid⟩
    exact ⟨settings, chosen, rfl, valid⟩

theorem Breaks.of_missing (partly : ¬given.Complete) (plain : document.IsPlain ∧ failure = .notAnObject) :
    Breaks given document failure := by
  obtain ⟨plain, rfl⟩ := plain
  exact .plain plain partly

section
variable {α : Type} {field : Option α} {key : String} {default : α} {read : Json → Except Failure α}

/-- A choice fails since the value of the document is refused, or since the document has no fields. -/
theorem refused_or_breaks (asked : given.Complete → field ≠ none)
    (refuses : ∀ {value failure}, read value = .error failure → failure.IsRefusal)
    (failed : choose field document key default read = .error failure) :
    failure.IsRefusal ∧ ¬document.IsPlain ∨ Breaks given document failure := by
  obtain ⟨missing, plain | ⟨value, found, refused⟩⟩ := choose_eq_error.mp failed
  · exact Or.inr (.of_missing (fun complete => asked complete missing) plain)
  · exact Or.inl ⟨refuses refused, not_plain_of_field found⟩

end

/-- The choice of a whole number fails by refusal, by a document that is no object, or by an infinite number. -/
theorem asInt_failed {field : Option Int} {key : String} {default : Int} (asked : given.Complete → field ≠ none)
    (failed : choose field document key default (Json.asInt key) = .error failure) :
    (failure.IsRefusal ∧ ¬document.IsPlain ∨ Breaks given document failure) ∨
      field = none ∧ failure = .overflow .infinite ∧
        ∃ negative, document.field? key = .ok (some (.real (.infinite negative))) := by
  obtain ⟨missing, plain | ⟨value, found, refused⟩⟩ := choose_eq_error.mp failed
  · exact Or.inl (Or.inr (.of_missing (fun complete => asked complete missing) plain))
  · rcases Json.asInt_eq_error refused with refusal | ⟨negative, rfl, overflows⟩
    · exact Or.inl (Or.inl ⟨refusal, not_plain_of_field found⟩)
    · exact Or.inr ⟨missing, overflows, negative, found⟩

/-- A choice fails by refusal, or it breaks off. The settings are gone through in their order. -/
theorem choices_eq_error (failed : choices given document = .error failure) :
    failure.IsRefusal ∧ ¬document.IsPlain ∨ Breaks given document failure := by
  simp only [choices, bind_eq_error] at failed
  rcases failed with failed | ⟨banner, bannerChosen, failed⟩
  · exact refused_or_breaks (fun complete => by simpa using complete.banner) Json.asPath_eq_error failed
  rcases failed with failed | ⟨beepers, beepersChosen, failed⟩
  · rcases asInt_failed GivenSettings.Complete.beepers failed with known | ⟨missing, rfl, negative, infinite⟩
    · exact known
    · exact Or.inr (.beepers bannerChosen missing infinite)
  rcases failed with failed | ⟨map, -, failed⟩
  · exact refused_or_breaks GivenSettings.Complete.map anyPath_eq_error failed
  rcases failed with failed | ⟨program, -, failed⟩
  · exact refused_or_breaks GivenSettings.Complete.program anyPath_eq_error failed
  rcases failed with failed | ⟨delay, -, failed⟩
  · rcases asInt_failed GivenSettings.Complete.delay failed with known | ⟨missing, rfl, negative, infinite⟩
    · exact known
    · exact Or.inr (.delay bannerChosen beepersChosen missing infinite)
  rcases failed with failed | ⟨display, -, failed⟩
  · exact refused_or_breaks GivenSettings.Complete.display Json.asBool_eq_error failed
  rcases failed with failed | ⟨trace, -, failed⟩
  · exact refused_or_breaks (fun complete => by simpa using complete.trace) Json.asPath_eq_error failed
  rcases failed with failed | ⟨snapshot, -, failed⟩
  · exact refused_or_breaks (fun complete => by simpa using complete.snapshot) Json.asPath_eq_error failed
  rcases failed with failed | ⟨runId, -, failed⟩
  · exact refused_or_breaks GivenSettings.Complete.runId anyText_eq_error failed
  rcases failed with failed | ⟨theme, -, failed⟩
  · exact refused_or_breaks GivenSettings.Complete.theme anyName_eq_error failed
  · cases failed

/-- A choice of settings that fails is refused, or it breaks off. -/
theorem ofDocument_eq_error (failed : ofDocument given document = .error failure) :
    failure.IsRefusal ∧ (document.IsPlain → given.Complete) ∨ Breaks given document failure := by
  rw [ofDocument_eq, bind_eq_error] at failed
  rcases failed with failed | ⟨start, chosen, failed⟩
  · exact (choices_eq_error failed).imp_left fun ⟨refusal, fields⟩ => ⟨refusal, fun plain => absurd plain fields⟩
  · exact Or.inl ⟨checkAll_eq_error failed, (choices_eq_ok.mp chosen).complete⟩

theorem infinite_choice {field : Option Int} {key : String} {default : Int} {negative : Bool} (missing : field = none)
    (infinite : document.field? key = .ok (some (.real (.infinite negative)))) :
    choose field document key default (Json.asInt key) = .error (.overflow .infinite) :=
  choose_eq_error.mpr ⟨missing, Or.inr ⟨_, infinite, rfl⟩⟩

theorem Breaks.ofDocument_eq (breaks : Breaks given document failure) :
    ofDocument given document = .error failure := by
  cases breaks with
  | plain plain partly =>
      -- All settings would have to be given before anything else could be found wrong.
      cases made : ofDocument given document with
      | ok settings => exact absurd ((ofDocument_eq_ok.mp made).1.complete plain) partly
      | error other =>
          rcases ofDocument_eq_error made with ⟨_, complete⟩ | breaks
          · exact absurd (complete plain) partly
          · cases breaks with
            | plain => rfl
            | beepers _ _ infinite => exact absurd plain (not_plain_of_field infinite)
            | delay _ _ _ infinite => exact absurd plain (not_plain_of_field infinite)
  | @beepers banner negative before missing infinite =>
      exact bind_eq_error.mpr (Or.inr ⟨banner, before,
        bind_eq_error.mpr (Or.inl (infinite_choice missing infinite))⟩)
  | @delay banner beepers negative before count missing infinite =>
      have fields := not_plain_of_field infinite
      obtain ⟨map, mapped⟩ := @exists_choice _ given.map _ "map" (Path.ofString defaultMap) anyPath fields
        fun value => ⟨_, rfl⟩
      obtain ⟨program, programmed⟩ := @exists_choice _ given.program _ "program" (Path.ofString defaultProgram)
        anyPath fields fun value => ⟨_, rfl⟩
      refine bind_eq_error.mpr (Or.inr ⟨banner, before, ?_⟩)
      refine bind_eq_error.mpr (Or.inr ⟨beepers, count, ?_⟩)
      refine bind_eq_error.mpr (Or.inr ⟨map, mapped, ?_⟩)
      refine bind_eq_error.mpr (Or.inr ⟨program, programmed, ?_⟩)
      exact bind_eq_error.mpr (Or.inl (infinite_choice missing infinite))

end

end Settings

namespace CommandLine

section
variable {fuel : Nat} {words : List String} {parsed : ParsedOptions} {path : String} {text : List Char}
  {workspace : Workspace}

/-- What a settings document that can be read leads to. -/
theorem readDocument_eq {path : Path} (readable : workspace.files.readText workspace.directory path = .ok text) :
    readDocument (some path) workspace =
      match Json.parse (String.ofList text) with
      | .ok value => .ok (.document value) workspace
      | .error (.malformed fault) =>
        if fault.problem = .nestedTooDeep then .error .nestingTooDeep workspace
        else .ok (.misused s!"Config file is not valid JSON: {path.text}: {fault.message}") workspace
      | .error (.tooManyDigits count) => .error (.refused (.numeral (.tooManyDigits count))) workspace := by
  rw [readDocument, Job.get_bind, readable]
  dsimp only
  cases Json.parse (String.ofList text) with
  | ok value => rfl
  | error error =>
      cases error with
      | tooManyDigits count => rfl
      | malformed fault =>
          dsimp only
          split <;> rfl

/-- Options that are accepted and name a document lead to its reading. -/
theorem runner_eq (accepted : Options.parse runnerOptions false words = .ok parsed) (whole : parsed.extra = [])
    (asked : parsed.text? "--config" = some path) :
    runner fuel words = readDocument (some (Path.ofString path)) >>= fun
      | .misused message => usageExit message
      | .document document =>
        match Settings.ofDocument (givenSettings parsed) document with
        | .error (.refused refusal) => usageExit refusal.message
        | .error failure => throw failure
        | .ok settings => runWith fuel settings := by
  rw [runner, accepted]
  dsimp only
  rw [whole, asked, if_neg (fun different => different rfl)]
  rfl

/-- What a document leads to once it is read. -/
theorem runner_of_document {document : Json} (accepted : Options.parse runnerOptions false words = .ok parsed)
    (whole : parsed.extra = []) (asked : parsed.text? "--config" = some path)
    (readable : workspace.files.readText workspace.directory (Path.ofString path) = .ok text)
    (read : Json.parse (String.ofList text) = .ok document) :
    runner fuel words workspace =
      match Settings.ofDocument (givenSettings parsed) document with
      | .error (.refused refusal) => .ok 2 (workspace.printError s!"error: {refusal.message}\n")
      | .error failure => .error failure workspace
      | .ok settings => runWith fuel settings workspace := by
  have found := readDocument_eq readable
  rw [read] at found
  rw [runner_eq accepted whole asked, Job.bind_of_ok found]
  dsimp only
  cases Settings.ofDocument (givenSettings parsed) document with
  | ok settings => rfl
  | error failure => cases failure <;> rfl

end

/-- Bad settings are usage errors, but for four ways to break off. Let the words of a run be accepted and name a
settings document that can be read as text. A document that is malformed is a usage error, unless reading it ends in a
number with too many digits, which must then stand in it in a row, or in too many arrays and objects inside each
other, which must then be opened in it: these end the command with a failure. From a document that is read, the
settings are chosen and the run starts with them if they are valid, and else it is a usage error; only a document that
is no object while a setting is not given, and an infinite number for the beepers or the delay, end the command with a
failure. -/
theorem bad_settings_are_usage_errors (fuel : Nat) (words : List String) (workspace : Workspace)
    (parsed : ParsedOptions) (path : String) (text : List Char)
    (accepted : Options.parse runnerOptions false words = .ok parsed) (whole : parsed.extra = [])
    (asked : parsed.text? "--config" = some path)
    (readable : workspace.files.readText workspace.directory (Path.ofString path) = .ok text) :
    (∀ count, Json.parse (String.ofList text) = .error (.tooManyDigits count) →
      Numeral.maxDigits < count ∧ Json.HasDigits text count ∧
        runner fuel words workspace = .error (.refused (.numeral (.tooManyDigits count))) workspace) ∧
    (∀ fault, Json.parse (String.ofList text) = .error (.malformed fault) →
      (fault.problem = .nestedTooDeep → Json.maxNesting < text.countP Json.isOpening ∧
        runner fuel words workspace = .error .nestingTooDeep workspace) ∧
      (fault.problem ≠ .nestedTooDeep → runner fuel words workspace = .ok 2 (workspace.printError
        s!"error: Config file is not valid JSON: {(Path.ofString path).text}: {fault.message}\n"))) ∧
    ∀ document, Json.parse (String.ofList text) = .ok document →
      (∀ failure, Settings.Breaks (givenSettings parsed) document failure →
        runner fuel words workspace = .error failure workspace) ∧
      ((∀ failure, ¬Settings.Breaks (givenSettings parsed) document failure) →
        (∃ settings, Settings.Chosen (givenSettings parsed) document settings ∧ settings.Valid ∧
          runner fuel words workspace = runWith fuel settings workspace) ∨
        (∀ settings, Settings.Chosen (givenSettings parsed) document settings → ¬settings.Valid) ∧
          ∃ refusal, Settings.ofDocument (givenSettings parsed) document = .error (.refused refusal) ∧
            runner fuel words workspace = .ok 2 (workspace.printError s!"error: {refusal.message}\n")) := by
  have found := readDocument_eq readable
  have started := @runner_eq fuel words parsed path accepted whole asked
  refine ⟨?_, ?_, ?_⟩
  · intro count failed
    obtain ⟨long, row⟩ := Json.hasDigits_of_parse failed
    rw [String.toList_ofList] at row
    rw [failed] at found
    exact ⟨long, row, by rw [started]; exact Job.bind_of_error found⟩
  · intro fault failed
    rw [failed] at found
    dsimp only at found
    constructor
    · intro deep
      have opened := Json.opened_of_parse failed deep
      rw [String.toList_ofList] at opened
      rw [if_pos deep] at found
      exact ⟨opened, by rw [started]; exact Job.bind_of_error found⟩
    · intro other
      rw [if_neg other] at found
      rw [started, Job.bind_of_ok found]
      rfl
  · intro document read
    have done := @runner_of_document fuel _ _ _ _ _ _ accepted whole asked readable read
    constructor
    · intro failure breaks
      rw [breaks.ofDocument_eq] at done
      rw [done]
      cases breaks <;> rfl
    · intro free
      cases made : Settings.ofDocument (givenSettings parsed) document with
      | ok settings =>
          obtain ⟨chosen, valid⟩ := Settings.ofDocument_eq_ok.mp made
          rw [made] at done
          exact Or.inl ⟨settings, chosen, valid, done⟩
      | error failure =>
          rcases Settings.ofDocument_eq_error made with ⟨⟨refusal, rfl⟩, _⟩ | breaks
          · refine Or.inr ⟨?_, refusal, rfl, ?_⟩
            · intro settings chosen valid
              cases made.symm.trans (Settings.ofDocument_eq_ok.mpr ⟨chosen, valid⟩)
            · rw [made] at done
              exact done
          · exact absurd breaks (free failure)

/-- A directory with a settings document. -/
def withDocument (document : String) : Workspace where
  directory := ["home"]
  files := ⟨[(["home"], .directory), (["home", "run.json"], Session.plainFile document)]⟩

theorem bad_settings_are_usage_errors_neon :
    runner 20 ["--config", "run.json"] (withDocument "\x7b\"beepers\": 2, \"theme\": \"neon\"\x7d") =
        .ok 2 ((withDocument "\x7b\"beepers\": 2, \"theme\": \"neon\"\x7d").printError
          "error: theme must be one of dark, default\n") ∧
      runner 20 ["--config", "run.json"] (withDocument "[]") = .error .notAnObject (withDocument "[]") := by
  have accepted : Options.parse runnerOptions false ["--config", "run.json"] =
      .ok { values := [("--config", .text "run.json")] } := by decide +kernel
  constructor
  · obtain ⟨_, _, read⟩ := bad_settings_are_usage_errors 20 _
      (withDocument "\x7b\"beepers\": 2, \"theme\": \"neon\"\x7d") _ "run.json"
      "\x7b\"beepers\": 2, \"theme\": \"neon\"\x7d".toList accepted rfl rfl (by decide +kernel)
    obtain ⟨_, settled⟩ := read (.object [("beepers", .int 2), ("theme", .string "neon")]) rfl
    have refused : Settings.ofDocument (givenSettings { values := [("--config", .text "run.json")] })
        (.object [("beepers", .int 2), ("theme", .string "neon")]) = .error (.refused .unknownTheme) := by
      decide +kernel
    have free : ∀ failure, ¬Settings.Breaks (givenSettings { values := [("--config", .text "run.json")] })
        (.object [("beepers", .int 2), ("theme", .string "neon")]) failure := by
      intro failure breaks
      cases refused.symm.trans breaks.ofDocument_eq
      cases breaks
    rcases settled free with ⟨settings, chosen, valid, _⟩ | ⟨_, refusal, same, done⟩
    · cases refused.symm.trans (Settings.ofDocument_eq_ok.mpr ⟨chosen, valid⟩)
    · cases refused.symm.trans same
      exact done
  · obtain ⟨_, _, read⟩ := bad_settings_are_usage_errors 20 _ (withDocument "[]") _ "run.json" "[]".toList accepted
      rfl rfl (by decide +kernel)
    exact (read (.array []) rfl).1 _ (.plain nofun fun complete => complete.banner rfl)

/-- An infinite number of beepers is no usage error. -/
theorem infinite_beepers_escape :
    runner 20 ["--config", "run.json"] (withDocument "\x7b\"beepers\": Infinity\x7d") =
      .error (.overflow .infinite) (withDocument "\x7b\"beepers\": Infinity\x7d") := by
  have accepted : Options.parse runnerOptions false ["--config", "run.json"] =
      .ok { values := [("--config", .text "run.json")] } := by decide +kernel
  have readable : (withDocument "\x7b\"beepers\": Infinity\x7d").files.readText ["home"] (Path.ofString "run.json") =
      .ok "\x7b\"beepers\": Infinity\x7d".toList := by decide +kernel
  have read : Json.parse (String.ofList "\x7b\"beepers\": Infinity\x7d".toList) =
      .ok (.object [("beepers", .real (.infinite false))]) := rfl
  have breaks : Settings.Breaks (givenSettings { values := [("--config", .text "run.json")] })
      (.object [("beepers", .real (.infinite false))]) (.overflow .infinite) := .beepers rfl rfl rfl
  rw [runner_of_document accepted rfl rfl readable read, breaks.ofDocument_eq]

end CommandLine

end GridRobot
