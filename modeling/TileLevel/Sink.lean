import TileLevel.Placement

/-!
# Sinks

What creates the things that a level asks for: a game, the board preview, a recorder. A sink is a
transition on a state of its own, which may refuse a command; delivery of a list of commands stops
at the first refusal.
-/

namespace TileLevel

/-! ## §1 Refusals -/

/-- Why a sink refuses a command, with the sink's own words. -/
inductive SinkError where
  /-- It cannot create this kind of thing -/
  | unsupported (reason : String)
  /-- The position is outside what it can hold -/
  | outOfBounds (reason : String)
  | failed (reason : String)
deriving DecidableEq, Repr

def SinkError.message : SinkError → String
  | .unsupported reason => "Unsupported placement: " ++ reason
  | .outOfBounds reason => "Placement out of bounds: " ++ reason
  | .failed reason => "Instantiation failed: " ++ reason

/-! ## §2 Delivery -/

/-- Takes commands one at a time. A refusal may change the state too. -/
structure Sink (State : Type) where
  instantiate : Command → State → Option SinkError × State

namespace Sink

variable {State : Type}

/-- Delivers commands in order until one is refused, and counts those that were not. -/
def deliverFrom (sink : Sink State) (count : Nat) :
    List Command → State → Except SinkError Nat × State
  | [], state => (.ok count, state)
  | command :: rest, state =>
    match sink.instantiate command state with
    | (none, state) => sink.deliverFrom (count + 1) rest state
    | (some refusal, state) => (.error refusal, state)

def instantiateAll (sink : Sink State) (commands : List Command) (state : State) :
    Except SinkError Nat × State :=
  sink.deliverFrom 0 commands state

/-! ## §3 Recorders -/

/-- Keeps every command, in order. -/
def recorder : Sink (Array Command) where
  instantiate command recorded := (none, recorded.push command)

/-- Refuses the commands that `refuse` has an answer for, and leaves the others to `sink`. -/
def refusing (refuse : Command → Option SinkError) (sink : Sink State) : Sink State where
  instantiate command state :=
    match refuse command with
    | some refusal => (some refusal, state)
    | none => sink.instantiate command state

end Sink

end TileLevel
