/-
This file holds the instructions that a program defines.
-/

import GridRobot.Fault

namespace GridRobot

/-- The lines of an instruction's body, from the first up to but not including the last. -/
structure Span where
  start : Nat
  stop : Nat
  start_le_stop : start ≤ stop
  deriving DecidableEq, Repr

namespace Span

def ofBounds? (start stop : Int) : Option Span :=
  if bounds : 0 ≤ start ∧ start ≤ stop then
    some ⟨start.toNat, stop.toNat, by omega⟩
  else none

def length (span : Span) : Nat :=
  span.stop - span.start

/-- The first number above the indices of 63 bits. -/
def indexLimit : Nat := 9223372036854775808

/-- A length is reported only if it fits an index. -/
def reportedLength? (span : Span) : Option Nat :=
  if span.length < indexLimit then some span.length else none

end Span

/-- Names and bodies in the order of their definition. -/
structure Registry where
  entries : List (String × Span) := []
  deriving DecidableEq, Repr

namespace Registry

def find? (registry : Registry) (name : String) : Option Span :=
  registry.entries.lookup name

def contains (registry : Registry) (name : String) : Bool :=
  (registry.find? name).isSome

/-- A name is available if it is neither built in nor defined. -/
def checkAvailable (registry : Registry) (name : String) (line : Option Int) : Except Fault Unit :=
  if (Action.ofName? name).isSome then .error ⟨.builtInName name, line⟩
  else if registry.contains name then .error ⟨.takenName name, line⟩
  else .ok ()

def define (registry : Registry) (name : String) (span : Span) (line : Option Int) :
    Except Fault Registry :=
  match registry.checkAvailable name line with
  | .error fault => .error fault
  | .ok () => .ok ⟨registry.entries ++ [(name, span)]⟩

end Registry

end GridRobot
