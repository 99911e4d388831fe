import SelectionCompiler.CompileError
import SelectionCompiler.Registry

/-!
# Compilation sessions

A compilation carries the registry of variables and the log of events from step to step, and ends
in a text or in an error.  The session that was reached is there in either case: after an error it
holds the variables and events that came before it.
-/

namespace SelectionCompiler

/-- What a compilation has gathered so far. -/
structure Session where
  registry : Registry
  /-- The events in the order in which they happened. -/
  log : List Event
deriving DecidableEq

namespace Session

/-- The session before the first step: no variable was met and nothing was reported. -/
def start : Session :=
  ⟨Registry.empty, []⟩

/-- A session that goes on with the given registry and an empty log. -/
def resume (registry : Registry) : Session :=
  ⟨registry, []⟩

/-- The session after an event was reported. -/
def note (session : Session) (event : Event) : Session :=
  { session with log := session.log ++ [event] }

/-- The session after a use was registered.  What became of it is reported. -/
def use (session : Session) (usage : Usage) : Session :=
  ⟨session.registry.register usage, session.log ++ session.registry.eventsOf usage⟩

end Session

/-- A step of a compilation. -/
abbrev Compile (α : Type) := ExceptT CompileError (StateM Session) α

namespace Compile

/-- Reports an event. -/
def note (event : Event) : Compile Unit :=
  modify fun session => session.note event

/-- Registers the use of a variable. -/
def use (usage : Usage) : Compile Unit :=
  modify fun session => session.use usage

/-- Makes a step in a session: its result, and the session that it leads to. -/
def runFrom {α : Type} (step : Compile α) (session : Session) :
    Except CompileError α × Session :=
  step.run.run session

end Compile

end SelectionCompiler
