/-
This file holds the conditions that a program can ask about the world.
-/

import GridRobot.World.Basic

namespace GridRobot

inductive Side where
  | front
  | left
  | right
  deriving DecidableEq, Repr

inductive Condition where
  | clear (side : Side)
  | blocked (side : Side)
  | nextToBeeper
  | notNextToBeeper
  | facing (direction : Direction)
  | notFacing (direction : Direction)
  | beeperInBag
  deriving DecidableEq, Repr

namespace Condition

/-- The name of every condition. -/
def table : List (String × Condition) :=
  [("front-is-clear", .clear .front), ("front-is-blocked", .blocked .front),
    ("left-is-clear", .clear .left), ("left-is-blocked", .blocked .left),
    ("right-is-clear", .clear .right), ("right-is-blocked", .blocked .right),
    ("next-to-a-beeper", .nextToBeeper), ("not-next-to-a-beeper", .notNextToBeeper),
    ("facing-north", .facing .north), ("not-facing-north", .notFacing .north),
    ("facing-south", .facing .south), ("not-facing-south", .notFacing .south),
    ("facing-east", .facing .east), ("not-facing-east", .notFacing .east),
    ("facing-west", .facing .west), ("not-facing-west", .notFacing .west),
    ("beeper-in-bag", .beeperInBag)]

def ofName? (name : String) : Option Condition :=
  table.lookup name

end Condition

def World.isBlockedOn (world : World) : Side → Bool
  | .front => world.frontIsBlocked
  | .left => world.leftIsBlocked
  | .right => world.rightIsBlocked

def Condition.holds (world : World) : Condition → Bool
  | .clear side => !world.isBlockedOn side
  | .blocked side => world.isBlockedOn side
  | .nextToBeeper => world.nextToBeeper
  | .notNextToBeeper => !world.nextToBeeper
  | .facing direction => world.robot.facing = direction
  | .notFacing direction => world.robot.facing ≠ direction
  | .beeperInBag => world.beeperInBag

/-- The truth of a named condition, if there is one of that name. -/
def World.ask? (world : World) (name : String) : Option Bool :=
  (Condition.ofName? name).map (Condition.holds world)

end GridRobot
