import GridRobot.Json.Parser
import Mathlib.Data.List.Infix
import Mathlib.Data.List.TakeWhile

namespace GridRobot.Json

def isOpening (char : Char) : Bool :=
  char = '[' || char = '\x7b'

/-- A text holds a row of so many digits. -/
def HasDigits (text : List Char) (count : Nat) : Prop :=
  ∃ digits, digits <:+: text ∧ digits.length = count ∧ ∀ digit ∈ digits, isAsciiDigit digit = true

/-- What a reader answers to a text: it leaves an end of it, or the text holds too many digits in a row, or it opens
more arrays and objects than may be open, or it is malformed. -/
inductive Within {α : Type} (nesting : Nat) (text : List Char) : Except ReadError (α × Cursor) → Prop
  | read {value : α} {next : Cursor} (left : next.rest <:+ text) : Within nesting text (.ok (value, next))
  | overlong {count : Nat} (long : Numeral.maxDigits < count) (row : HasDigits text count) :
      Within nesting text (.error (.tooManyDigits count))
  | nested {position : Nat} (opened : nesting < text.countP isOpening) :
      Within nesting text (.error (.misread .nestedTooDeep position))
  | misread {problem : JsonProblem} {position : Nat} (other : problem ≠ .nestedTooDeep) :
      Within nesting text (.error (.misread problem position))

variable {α β : Type} {nesting : Nat} {text whole : List Char}

theorem HasDigits.mono {count : Nat} (row : HasDigits text count) (inside : text <:+: whole) :
    HasDigits whole count := by
  obtain ⟨digits, among, size, all⟩ := row
  exact ⟨digits, among.trans inside, size, all⟩

namespace Within

variable {result : Except ReadError (α × Cursor)} {next : α × Cursor → Except ReadError (β × Cursor)}

theorem mono (within : Within nesting text result) (inside : text <:+ whole) : Within nesting whole result := by
  cases within with
  | read left => exact .read (left.trans inside)
  | overlong long row => exact .overlong long (row.mono inside.isInfix)
  | nested opened => exact .nested (opened.trans_le (inside.sublist.countP_le))
  | misread other => exact .misread other

/-- A bracket that is open takes one of the nesting away. -/
theorem opened {char : Char} (within : Within nesting text result) (opening : isOpening char = true) :
    Within (nesting + 1) (char :: text) result := by
  cases within with
  | read left => exact .read (left.trans (List.suffix_cons char text))
  | overlong long row => exact .overlong long (row.mono (List.suffix_cons char text).isInfix)
  | nested opened =>
      apply Within.nested
      rw [List.countP_cons_of_pos opening]
      exact Nat.succ_lt_succ opened
  | misread other => exact .misread other

/-- A reader that goes on where another one has stopped. -/
theorem bind (first : Within nesting text result)
    (second : ∀ value rest, rest.rest <:+ text → Within nesting rest.rest (next (value, rest))) :
    Within nesting text (result >>= next) := by
  cases first with
  | @read value rest left => exact (second value rest left).mono left
  | overlong long row => exact .overlong long row
  | nested opened => exact .nested opened
  | misread other => exact .misread other

end Within

theorem Cursor.rest_advance (cursor : Cursor) (count : Nat) : (cursor.advance count).rest <:+ cursor.rest :=
  List.drop_suffix count cursor.rest

theorem Cursor.rest_skipSpace (cursor : Cursor) : cursor.skipSpace.rest <:+ cursor.rest :=
  cursor.rest_advance _

theorem Cursor.rest_advance_skipSpace (cursor : Cursor) (count : Nat) :
    (cursor.advance count).skipSpace.rest <:+ cursor.rest :=
  (Cursor.rest_skipSpace _).trans (cursor.rest_advance count)

theorem Cursor.rest_inside {cursor : Cursor} {char : Char} {tail : List Char} (front : cursor.rest = char :: tail) :
    (cursor.advance 1).skipSpace.rest <:+ tail := by
  have after : (cursor.advance 1).rest = tail := by
    rw [Cursor.advance, front]
    rfl
  rw [← after]
  exact Cursor.rest_skipSpace _

theorem within_readUnicodeEscape (cursor : Cursor) : Within nesting cursor.rest (readUnicodeEscape cursor) := by
  rw [readUnicodeEscape]
  split
  · exact .misread nofun
  · split
    · exact .misread nofun
    · have after := cursor.rest_advance 4
      dsimp only
      split
      · split
        · exact .misread nofun
        · split
          · exact .read ((Cursor.rest_advance _ 6).trans after)
          · exact .read after
      · exact .read after

theorem within_readString (start fuel : Nat) (read : List WideChar) (cursor : Cursor) :
    Within nesting cursor.rest (readString start fuel read cursor) := by
  induction fuel generalizing read cursor with
  | zero => exact .misread nofun
  | succ fuel inductionHypothesis =>
      rw [readString]
      split
      · exact .misread nofun
      · exact .read (cursor.rest_advance 1)
      · exact .misread nofun
      · exact ((within_readUnicodeEscape _).bind fun char rest _ => inductionHypothesis _ rest).mono
          (cursor.rest_advance 2)
      · split
        · exact .misread nofun
        · exact (inductionHypothesis _ _).mono (cursor.rest_advance 2)
      · split
        · exact .misread nofun
        · exact (inductionHypothesis _ _).mono (cursor.rest_advance 1)

theorem wholeDigits_eq (text : List Char) :
    wholeDigits text <+: text ∧ ∀ digit ∈ wholeDigits text, isAsciiDigit digit = true := by
  rw [wholeDigits.eq_def]
  split
  · exact ⟨⟨_, rfl⟩, List.forall_mem_singleton.mpr rfl⟩
  · exact ⟨List.takeWhile_prefix _, fun digit => List.mem_takeWhile_imp⟩

theorem unsigned_suffix (text : List Char) :
    (if text.head? = some '-' then text.drop 1 else text) <:+ text := by
  split
  · exact List.drop_suffix 1 text
  · exact List.suffix_rfl

theorem within_readNumber (cursor : Cursor) : Within nesting cursor.rest (readNumber cursor) := by
  have unsigned := (unsigned_suffix cursor.rest).isInfix
  rw [readNumber]
  dsimp only
  generalize (if cursor.rest.head? = some '-' then cursor.rest.drop 1 else cursor.rest) = body at unsigned ⊢
  obtain ⟨front, digits⟩ := wholeDigits_eq body
  split
  · exact .misread nofun
  · generalize exponentPart _ = power
    cases power with
    | some power => exact .read (cursor.rest_advance _)
    | none =>
        dsimp only
        generalize fractionDigits _ = fraction
        by_cases plain : fraction.isEmpty = true
        · rw [if_pos plain]
          by_cases long : Numeral.maxDigits < (wholeDigits body).length
          · rw [if_pos long]
            exact .overlong long ⟨_, front.isInfix.trans unsigned, rfl, digits⟩
          · rw [if_neg long]
            exact .read (cursor.rest_advance _)
        · rw [if_neg plain]
          exact .read (cursor.rest_advance _)

theorem within_readWord? {result : Json × Cursor} (cursor : Cursor) (found : readWord? cursor = some result) :
    Within nesting cursor.rest (.ok result) := by
  obtain ⟨word, _, rfl⟩ := Option.map_eq_some_iff.mp found
  exact .read (cursor.rest_advance _)

section
variable {fuel : Nat}

/-- An array or an object may be opened here unless all nesting is used up. -/
theorem within_opening {char : Char} {tail : List Char} {cursor : Cursor} (opening : isOpening char = true)
    (front : cursor.rest = char :: tail) :
    Within 0 cursor.rest (.error (.misread .nestedTooDeep cursor.position) : Except ReadError (α × Cursor)) := by
  apply Within.nested
  rw [front, List.countP_cons_of_pos opening]
  exact Nat.succ_pos _

theorem within_readValue (items : ∀ nesting cursor, Within nesting cursor.rest (readItems fuel nesting cursor))
    (fields : ∀ nesting known cursor, Within nesting cursor.rest (readFields fuel nesting known cursor))
    (nesting : Nat) (cursor : Cursor) : Within nesting cursor.rest (readValue (fuel + 1) nesting cursor) := by
  rw [readValue.eq_def]
  dsimp only
  split
  · refine Within.mono ?_ (cursor.rest_advance 1)
    exact (within_readString _ _ _ _).bind fun text next _ => .read List.suffix_rfl
  · next bracket => exact within_opening rfl bracket
  · next brace => exact within_opening rfl brace
  · next bracket =>
      rw [bracket]
      apply Within.opened _ rfl
      refine Within.mono ?_ (Cursor.rest_inside bracket)
      split
      · exact .read (Cursor.rest_advance _ 1)
      · exact (items _ _).bind fun others next _ => .read List.suffix_rfl
  · next brace =>
      rw [brace]
      apply Within.opened _ rfl
      refine Within.mono ?_ (Cursor.rest_inside brace)
      split
      · exact .read (Cursor.rest_advance _ 1)
      · exact (fields _ _ _).bind fun others next _ => .read List.suffix_rfl
  · split
    · next found => exact within_readWord? cursor found
    · exact within_readNumber cursor

theorem within_readItems (values : ∀ nesting cursor, Within nesting cursor.rest (readValue fuel nesting cursor))
    (items : ∀ nesting cursor, Within nesting cursor.rest (readItems fuel nesting cursor)) (nesting : Nat)
    (cursor : Cursor) : Within nesting cursor.rest (readItems (fuel + 1) nesting cursor) := by
  rw [readItems]
  refine (values nesting cursor).bind fun item next _ => ?_
  refine Within.mono ?_ next.rest_skipSpace
  dsimp only
  split
  · exact .read (Cursor.rest_advance _ 1)
  · refine Within.mono ?_ (Cursor.rest_advance_skipSpace _ 1)
    exact (items nesting _).bind fun others last _ => .read List.suffix_rfl
  · exact .misread nofun

theorem within_readFields (values : ∀ nesting cursor, Within nesting cursor.rest (readValue fuel nesting cursor))
    (fields : ∀ nesting known cursor, Within nesting cursor.rest (readFields fuel nesting known cursor))
    (nesting : Nat) (known : List (WideString × Json)) (cursor : Cursor) :
    Within nesting cursor.rest (readFields (fuel + 1) nesting known cursor) := by
  rw [readFields]
  split
  · refine Within.mono ?_ (cursor.rest_advance 1)
    refine (within_readString _ _ _ _).bind fun key next _ => ?_
    refine Within.mono ?_ next.rest_skipSpace
    dsimp only
    split
    · refine Within.mono ?_ (Cursor.rest_advance_skipSpace _ 1)
      refine (values nesting _).bind fun value after _ => ?_
      refine Within.mono ?_ after.rest_skipSpace
      dsimp only
      split
      · exact .read (Cursor.rest_advance _ 1)
      · exact (fields nesting _ _).mono (Cursor.rest_advance_skipSpace _ 1)
      · exact .misread nofun
    · exact .misread nofun
  · exact .misread nofun

end

/-- All readers stay within their text. The induction is on the fuel, for all readers at once. -/
theorem within_readers (fuel : Nat) :
    (∀ nesting cursor, Within nesting cursor.rest (readValue fuel nesting cursor)) ∧
      (∀ nesting cursor, Within nesting cursor.rest (readItems fuel nesting cursor)) ∧
      ∀ nesting known cursor, Within nesting cursor.rest (readFields fuel nesting known cursor) := by
  induction fuel with
  | zero => exact ⟨fun _ _ => .misread nofun, fun _ _ => .misread nofun, fun _ _ _ => .misread nofun⟩
  | succ fuel inductionHypothesis =>
      obtain ⟨values, items, fields⟩ := inductionHypothesis
      exact ⟨within_readValue items fields, within_readItems values items, within_readFields values fields⟩

theorem within_readDocument {error : ReadError} (failed : readDocument text = .error error) :
    Within maxNesting text (.error error : Except ReadError (Json × Cursor)) := by
  rw [readDocument] at failed
  split at failed
  · cases failed
    exact .misread nofun
  · have within := ((within_readers (2 * text.length + 1)).1 maxNesting (Cursor.mk 0 text).skipSpace).mono
      (Cursor.rest_skipSpace _)
    generalize readValue _ _ _ = result at failed within
    cases within with
    | read left =>
        change (if _ then _ else _) = _ at failed
        split at failed
        · cases failed
        · cases failed
          exact .misread nofun
    | overlong long row =>
        cases failed
        exact .overlong long row
    | nested opened =>
        cases failed
        exact .nested opened
    | misread other =>
        cases failed
        exact .misread other

theorem parse_eq_error {text : String} {error : JsonError} (failed : parse text = .error error) :
    ∃ cause, readDocument text.toList = .error cause ∧ locate text.toList cause = error := by
  rw [parse] at failed
  cases read : readDocument text.toList with
  | ok value =>
      rw [read] at failed
      cases failed
  | error cause =>
      rw [read] at failed
      exact ⟨cause, rfl, Except.error.inj failed⟩

/-- Only a text with too long a row of digits has too many of them. -/
theorem hasDigits_of_parse {text : String} {count : Nat} (failed : parse text = .error (.tooManyDigits count)) :
    Numeral.maxDigits < count ∧ HasDigits text.toList count := by
  obtain ⟨cause, read, located⟩ := parse_eq_error failed
  cases within_readDocument read with
  | overlong long row =>
      cases located
      exact ⟨long, row⟩
  | nested opened => cases located
  | misread other => cases located

/-- Only a text with many opening brackets is nested too deep. -/
theorem opened_of_parse {text : String} {fault : JsonFault} (failed : parse text = .error (.malformed fault))
    (deep : fault.problem = .nestedTooDeep) : maxNesting < text.toList.countP isOpening := by
  obtain ⟨cause, read, located⟩ := parse_eq_error failed
  cases within_readDocument read with
  | overlong long row => cases located
  | nested opened => exact opened
  | misread other =>
      cases located
      exact absurd deep other

end GridRobot.Json
