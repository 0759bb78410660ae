-- What an operation tells the operator of a simulation, besides what it returns.

namespace PointForce

inductive Level
  | warning
  | error
  deriving DecidableEq, Repr

inductive Event
  | missingBody (actuator : String)
  | shortMultipliers
  | crossedBounds
  | leftInactive (actuator : String)
  deriving DecidableEq, Repr

def Event.level : Event → Level
  | missingBody _    => .error
  | shortMultipliers => .warning
  | crossedBounds    => .warning
  | leftInactive _   => .warning

structure Logged (β : Type) where
  value  : β
  events : List Event := []
  deriving DecidableEq, Repr

namespace Logged

variable {β γ : Type}

def map (f : β → γ) (x : Logged β) : Logged γ where
  value  := f x.value
  events := x.events

def andThen (x : Logged β) (f : β → Logged γ) : Logged γ where
  value  := (f x.value).value
  events := x.events ++ (f x.value).events

def noting (x : Logged β) (events : List Event) : Logged β where
  value  := x.value
  events := x.events ++ events

end Logged
end PointForce
