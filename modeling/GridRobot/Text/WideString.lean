/-
This file holds texts that may have surrogates in them. The escapes of a document can write such texts, and no
encoding can.
-/

namespace GridRobot

/-- A character, or a surrogate: one half of a pair of code units, without the other half. -/
inductive WideChar where
  | char (char : Char)
  | surrogate (offset : Fin 2048)
  deriving DecidableEq, Repr

structure WideString where
  letters : List WideChar
  deriving DecidableEq, Repr

namespace WideChar

def firstSurrogate : Nat := 0xd800

/-- The code unit of a surrogate. -/
def unitOf (offset : Fin 2048) : Nat :=
  firstSurrogate + offset

/-- What a code unit stands for on its own. -/
def ofUnit (unit : Nat) : WideChar :=
  if below : firstSurrogate ≤ unit ∧ unit - firstSurrogate < 2048 then .surrogate ⟨unit - firstSurrogate, below.2⟩
  else .char (Char.ofNat unit)

def isEncodable : WideChar → Bool
  | .char _ => true
  | .surrogate _ => false

/-- A surrogate is shown as the replacement character. -/
def shown : WideChar → Char
  | .char letter => letter
  | .surrogate _ => '\ufffd'

end WideChar

namespace WideString

def ofString (text : String) : WideString :=
  ⟨text.toList.map .char⟩

instance : Coe String WideString := ⟨ofString⟩

/-- A text can be encoded if it has no surrogates. -/
def isEncodable (text : WideString) : Bool :=
  text.letters.all WideChar.isEncodable

def shown (text : WideString) : String :=
  String.ofList (text.letters.map WideChar.shown)

@[simp] theorem shown_ofString (text : String) : (ofString text).shown = text := by
  have same : WideChar.shown ∘ WideChar.char = id := funext fun _ => rfl
  rw [shown, ofString, List.map_map, same, List.map_id, String.ofList_toList]

theorem isEncodable_ofString (text : String) : (ofString text).isEncodable = true := by
  rw [isEncodable, ofString, List.all_map]
  exact List.all_eq_true.mpr fun _ _ => rfl

@[simp] theorem ofString_inj {first second : String} : ofString first = ofString second ↔ first = second := by
  refine ⟨fun same => ?_, congrArg ofString⟩
  rw [← shown_ofString first, same, shown_ofString]

end WideString

end GridRobot
