/-
This file reads command-line options.

An option may be shortened as long as no other option starts the same way, and its value may follow
as the next word or after an equals sign.
-/

import GridRobot.Numeral
import GridRobot.Text.Quoted

namespace GridRobot

inductive OptionKind where
  | text
  | integer
  | switch
  | help
  deriving DecidableEq, Repr

structure OptionSpec where
  names : List String
  kind : OptionKind
  required : Bool := false
  deriving DecidableEq, Repr

namespace OptionSpec

/-- How messages name an option. -/
def label (spec : OptionSpec) : String :=
  "/".intercalate spec.names

def takesValue (spec : OptionSpec) : Bool :=
  spec.kind = .text || spec.kind = .integer

def helpOption : OptionSpec :=
  ⟨["-h", "--help"], .help, false⟩

end OptionSpec

inductive UsageError where
  | ambiguous (word : String) (candidates : List String)
  | expectedValue (label : String)
  | ignoredValue (label value : String)
  | notAnInteger (label value : String)
  | missing (labels : List String)
  | unrecognized (words : List String)
  | unknownCommand (word : String) (commands : List String)
  deriving DecidableEq, Repr

def UsageError.message : UsageError → String
  | .ambiguous word candidates =>
    s!"ambiguous option: {word} could match " ++ ", ".intercalate candidates
  | .expectedValue label => s!"argument {label}: expected one argument"
  | .ignoredValue label value =>
    s!"argument {label}: ignored explicit argument {Text.quoted value}"
  | .notAnInteger label value => s!"argument {label}: invalid int value: {Text.quoted value}"
  | .missing labels => "the following arguments are required: " ++ ", ".intercalate labels
  | .unrecognized words => "unrecognized arguments: " ++ " ".intercalate words
  | .unknownCommand word commands =>
    s!"argument command: invalid choice: {Text.quoted word} (choose from " ++
      ", ".intercalate (commands.map fun command : String => Text.quoted command) ++ ")"

/-- Why the options lead to no action. -/
inductive Interruption where
  | help
  | usage (error : UsageError)
  deriving DecidableEq, Repr

inductive OptionValue where
  | text (value : String)
  | integer (value : Int)
  | switch (value : Bool)
  deriving DecidableEq, Repr

/-- Values by the first name of their option, last given first; the words that no option takes; and
the words of a command, from its name on. -/
structure ParsedOptions where
  values : List (String × OptionValue) := []
  extra : List String := []
  command : Option (List String) := none
  deriving DecidableEq, Repr

namespace ParsedOptions

def text? (parsed : ParsedOptions) (name : String) : Option String :=
  match parsed.values.lookup name with
  | some (.text value) => some value
  | _ => none

def integer? (parsed : ParsedOptions) (name : String) : Option Int :=
  match parsed.values.lookup name with
  | some (.integer value) => some value
  | _ => none

def switch? (parsed : ParsedOptions) (name : String) : Option Bool :=
  match parsed.values.lookup name with
  | some (.switch value) => some value
  | _ => none

end ParsedOptions

namespace Options

/-- What a word is on its own. `glued` marks a value that stands directly after a single letter. -/
inductive Word where
  | option (spec : OptionSpec) (name : String) (value : Option String) (glued : Bool)
  | unknown
  | plain
  | dashes
  deriving DecidableEq, Repr

/-- All names with their options, in the order of declaration. -/
def namesOf (specs : List OptionSpec) : List (String × OptionSpec) :=
  specs.flatMap fun spec => spec.names.map fun name => (name, spec)

/-- The part before the first equals sign, and the part after it if there is one. -/
def splitEquals (word : List Char) : List Char × Option (List Char) :=
  match word.dropWhile (· ≠ '=') with
  | [] => (word, none)
  | _ :: value => (word.takeWhile (· ≠ '='), some value)

/-- A newline at the very end is passed over. -/
def dropFinalNewline (text : List Char) : List Char :=
  if text.getLast? = some '\n' then text.dropLast else text

/-- A minus sign before digits, of which a point may stand before the last ones. -/
def isNegativeNumber : List Char → Bool
  | '-' :: rest =>
    let number := dropFinalNewline rest
    let afterDigits := number.dropWhile Text.isDigit
    match afterDigits with
    | [] => !number.isEmpty
    | '.' :: fraction => !fraction.isEmpty && fraction.all Text.isDigit
    | _ => false
  | _ => false

/-- The options that a word may stand for when it is no full name. -/
def candidates (specs : List OptionSpec) (word : List Char) :
    List (String × OptionSpec × Option String × Bool) :=
  match word with
  | '-' :: '-' :: _ =>
    let (start, value) := splitEquals word
    ((namesOf specs).filter fun (name, _) => start.isPrefixOf name.toList).map
      fun (name, spec) => (name, spec, value.map String.ofList, false)
  | _ =>
    (namesOf specs).filterMap fun (name, spec) =>
      if name.toList = word.take 2 then some (name, spec, some (String.ofList (word.drop 2)), true)
      else if word.isPrefixOf name.toList then some (name, spec, none, false)
      else none

/-- A word that starts with a dash is an option if it is one of its names or the start of one; it
is plain if it could be a number or holds a space. -/
def readWord (specs : List OptionSpec) (word : String) : Except UsageError Word :=
  let chars := word.toList
  if chars.head? ≠ some '-' then .ok .plain
  else
    match (namesOf specs).lookup word with
    | some spec => .ok (.option spec word none false)
    | none =>
      if chars.length = 1 then .ok .plain
      else
        let (start, value) := splitEquals chars
        match value, (namesOf specs).lookup (String.ofList start) with
        | some value, some spec =>
          .ok (.option spec (String.ofList start) (some (String.ofList value)) false)
        | _, _ =>
          match candidates specs chars with
          | [(name, spec, value, glued)] => .ok (.option spec name value glued)
          | [] =>
            if isNegativeNumber chars || chars.contains ' ' then .ok .plain else .ok .unknown
          | several => .error (.ambiguous word (several.map fun candidate => candidate.1))

/-- The words with what they are; after two dashes all words are plain. -/
def readWords (specs : List OptionSpec) : List String → Except UsageError (List (String × Word))
  | [] => .ok []
  | word :: rest =>
    if word = "--" then .ok ((word, .dashes) :: rest.map fun plain => (plain, .plain))
    else
      match readWord specs word with
      | .error error => .error error
      | .ok kind =>
        match readWords specs rest with
        | .error error => .error error
        | .ok others => .ok ((word, kind) :: others)

def readValue (spec : OptionSpec) (value : String) : Except UsageError OptionValue :=
  match spec.kind with
  | .integer =>
    match Numeral.integer value with
    | .ok number => .ok (.integer number)
    | .error _ => .error (.notAnInteger spec.label value)
  | _ => .ok (.text value)

/-- A switch is turned off by the names that start with `--no-`. -/
def switchValue (name : String) : OptionValue :=
  .switch (!"--no-".toList.isPrefixOf name.toList)

def store (spec : OptionSpec) (value : OptionValue) (parsed : ParsedOptions) : ParsedOptions :=
  { parsed with values := (spec.names.headD "", value) :: parsed.values }

def storeValue (spec : OptionSpec) (value : String) (parsed : ParsedOptions) :
    Except Interruption ParsedOptions :=
  match readValue spec value with
  | .error error => .error (.usage error)
  | .ok read => .ok (store spec read parsed)

def addExtra (word : String) (parsed : ParsedOptions) : ParsedOptions :=
  { parsed with extra := parsed.extra ++ [word] }

/-- Takes options from the front. Where there are commands, the first plain word starts one, and
all words from it on belong to it. -/
def consume (hasCommands : Bool) :
    List (String × Word) → ParsedOptions → Except Interruption ParsedOptions
  | [], parsed => .ok parsed
  | (word, .unknown) :: rest, parsed => consume hasCommands rest (addExtra word parsed)
  | (word, .plain) :: rest, parsed =>
    if hasCommands then .ok { parsed with command := some (word :: rest.map Prod.fst) }
    else consume hasCommands rest (addExtra word parsed)
  | (word, .dashes) :: rest, parsed =>
    if hasCommands && !rest.isEmpty then
      .ok { parsed with command := some (word :: rest.map Prod.fst) }
    else consume hasCommands rest (addExtra word parsed)
  | (_, .option spec name value glued) :: rest, parsed =>
    match spec.takesValue, value with
    | true, some value =>
      match storeValue spec value parsed with
      | .error interruption => .error interruption
      | .ok parsed => consume hasCommands rest parsed
    | true, none =>
      match rest with
      | (value, .plain) :: rest =>
        match storeValue spec value parsed with
        | .error interruption => .error interruption
        | .ok parsed => consume hasCommands rest parsed
      | _ => .error (.usage (.expectedValue spec.label))
    | false, some value =>
      if glued && value.toList.head? ≠ some '-' then .error .help
      else .error (.usage (.ignoredValue spec.label value))
    | false, none =>
      if spec.kind = .help then .error .help
      else consume hasCommands rest (store spec (switchValue name) parsed)

def missing (specs : List OptionSpec) (parsed : ParsedOptions) : List String :=
  (specs.filter fun spec =>
    spec.required && (parsed.values.lookup (spec.names.headD "")).isNone).map OptionSpec.label

/-- Reads options; words that nothing takes are kept in `extra`. -/
def parse (specs : List OptionSpec) (hasCommands : Bool) (words : List String) :
    Except Interruption ParsedOptions :=
  let specs := OptionSpec.helpOption :: specs
  match readWords specs words with
  | .error error => .error (.usage error)
  | .ok read =>
    match consume hasCommands read {} with
    | .error interruption => .error interruption
    | .ok parsed =>
      match missing specs parsed with
      | [] => .ok parsed
      | labels => .error (.usage (.missing labels))

end Options

end GridRobot
