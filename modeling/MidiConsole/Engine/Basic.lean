import MidiConsole.Journal

namespace MidiConsole

open Text

/-- An engine. Engines of one configuration are told apart by their numbers. -/
structure Engine where
  number : Nat
  config : EngineConfig
  deriving DecidableEq

/-- The place of the engine, and how many engines have been made so far. -/
structure EngineRoom where
  made : Nat := 0
  engine : Option Engine := none
  deriving DecidableEq

namespace Engine

def clientName (engine : Engine) : String :=
  engine.config.clientName

def inspect (engine : Engine) : Inspection :=
  .record "Library" [("config", engine.config.inspect)] true

variable {ν : Type}

def make (config : EngineConfig) : Journaled ν EngineRoom Engine := do
  let number ← Journaled.reading EngineRoom.made
  Journaled.update fun room => { room with made := number + 1 }
  pure ⟨number, config⟩

/-- Start the engine unless it has been started. The engine is in place before
anything is logged; a later start with another configuration only says so. -/
def start (config : EngineConfig) : Journaled ν EngineRoom Engine := do
  match ← Journaled.reading EngineRoom.engine with
  | none => do
      let engine ← make config
      Journaled.update fun room => { room with engine := some engine }
      Journaled.log (.started engine.config)
      pure engine
  | some engine =>
      if engine.config = config then
        pure engine
      else do
        Journaled.log (.configIgnored engine.config config)
        pure engine

end Engine

/-- The engine in its place, and the one that the first start to return has given. -/
structure EngineSession where
  room : EngineRoom := {}
  first : Option Engine := none
  deriving DecidableEq

namespace EngineSession

inductive Command where
  | start (config : EngineConfig)
  | get
  | inspect
  | inspectConfig (config : EngineConfig)
  deriving DecidableEq

inductive Reply where
  | started (engine : Engine) (isFirst : Bool)
  | engine (engine : Option Engine)
  | text (text : Option String)
  | config (text : String) (isDefault : Bool)
  deriving DecidableEq

abbrev Act (α : Type) : Type :=
  Journaled Empty EngineSession α

def start (config : EngineConfig) : Act Reply := do
  let engine ← Journaled.within room (fun room session => { session with room })
    (Engine.start config)
  let first ← Journaled.reading fun session => session.first.getD engine
  Journaled.update fun session => { session with first := some first }
  pure (.started engine (engine = first))

def perform : Command → Act Reply
  | .start config => start config
  | .get => Reply.engine <$> Journaled.reading fun session => session.room.engine
  | .inspect =>
      Journaled.reading fun session =>
        .text (session.room.engine.map fun engine => engine.inspect.compact)
  | .inspectConfig config => pure (.config config.inspect.compact (config = {}))

end EngineSession

end MidiConsole
