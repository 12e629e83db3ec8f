import ChatEngine.Config.Basic
import ChatEngine.Directory
import ChatEngine.Processor
import ChatEngine.Router
import ChatEngine.Scheduler

/-!
# Bots

The state of a bot: what it was given, its plugins and what they keep, and where in its life it
is. Plugins are registered and resources added before the bot runs.
-/
namespace ChatEngine

/-- A resource to release when a run ends. -/
structure Closer (σ : Type) where
  name : String
  close : Effect (Host σ) Unit

/-- What the surroundings provide: the chat service, its stream, and services for plugins. -/
structure Surroundings (σ : Type) where
  driver : ChatDriver σ
  connect : Effect σ Unit := pure ()
  disconnect : Effect σ Unit := pure ()
  users : Option (UserFinder σ) := none
  reactor : Option (Reactor σ) := none
  uploader : Option (Uploader σ) := none
  /-- Where messages outside of replies go; the chat driver if there is none. -/
  sender : Option (Sender σ) := none
  handleSignals : Bool := false

/-- The task that reads the stream. -/
inductive Dispatcher where
  | absent
  | reading
  /-- Told to stop reading. -/
  | cancelled
  | finished
  deriving DecidableEq, Repr

abbrev BotName := Option String

/-- The name in texts; none is an empty list. -/
def BotName.text (name : BotName) : String := name.getD "[]"

/-- The name as a value; none is an empty list. -/
def BotName.value (name : BotName) : Value := (name.map Value.str).getD (.list [])

/-- A bot. -/
structure Bot (σ : Type) where
  name : BotName
  config : BotConfig
  given : Surroundings σ
  registry : PluginRegistry σ
  closers : List (Closer σ) := []
  tracker : ResponseTracker
  host : Host σ
  identity : Option Identity := none
  running : Bool := false
  stopping : Bool := false
  invalidAuth : Bool := false
  router : Option Router := none
  /-- Whether the partitions of the router have workers. -/
  working : Bool := false
  /-- The partitions whose workers have something to do, in the order in which they got it. -/
  woken : List Nat := []
  dispatcher : Dispatcher := .absent
  scheduler : Option (Scheduler σ) := none

def engineVersion : String := "1.0.0"

namespace Bot

variable {σ : Type}

/-- A bot that has not run yet. The configured cache size has to be positive. -/
def create? (name : BotName) (config : BotConfig) (given : Surroundings σ) (version : String)
    (host : Host σ) : Except Fault (Bot σ) :=
  match ResponseTracker.create? config.responseCacheSize with
  | some tracker => .ok {
      name, config, given, tracker, host
      registry := { botName := name.text, version, location := config.timeLocation } }
  | none => .error (.worded .invalidValue (ResponseTracker.refusal config.responseCacheSize))

/-- Registers a plugin; its actions come after those registered before. -/
def register (b : Bot σ) (p : Plugin σ) : Except RegistrationError (Bot σ) :=
  (b.registry.register p).map fun registry => { b with registry }

/-- Adds a resource to release when a run ends, before those added earlier. -/
def addCloser (b : Bot σ) (c : Closer σ) : Bot σ := { b with closers := b.closers ++ [c] }

section
variable [Clocked σ]

def driver (b : Bot σ) : ChatDriver (Host σ) := b.given.driver.outside.metered

def sender (b : Bot σ) : Sender (Host σ) :=
  match b.given.sender with
  | some send => fun text channel => Host.outside (send text channel)
  | none => b.driver.sender

def services (b : Bot σ) (p : Plugin σ) : Services (Host σ) where
  userFinder := b.given.users.map fun find =>
    UserFinder.metered (cachedFinder fun userId => Host.outside (find userId))
  logger := some { debug := b.config.debug, context := [("plugin", .str p.name)] }
  reactor := b.given.reactor.map fun add =>
    Reactor.metered fun name item => Host.outside (add name item)
  uploader := b.given.uploader.map fun send =>
    Uploader.metered fun params => Host.outside (send params)
  sender := some b.sender

def processor (b : Bot σ) : Processor σ where
  dialog := {
    commands := b.registry.commands
    hearActions := b.registry.hearActions
    identity := b.identity }
  outbox := {
    driver := b.driver
    defaults := {
      threaded := b.config.threadedReplies
      broadcast := b.config.broadcastThreadedReplies } }

end

end Bot

end ChatEngine
