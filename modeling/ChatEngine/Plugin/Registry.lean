import ChatEngine.ActionId
import ChatEngine.Plugin.Help

/-!
# The plugin registry

The registry of a bot's plugins. Plugins are registered until the registry is sealed, which adds
the built-in help; their actions then stand in registration order, the help command last.
-/
namespace ChatEngine

variable {σ : Type}

/-- A command or hear action with its plugin and identity. -/
structure RegisteredAction (σ : Type) where
  plugin : Plugin σ
  action : Action σ
  id : ActionId

namespace RegisteredAction

/-- The message as the action sees it. A namespaced command only applies to messages that start
with the plugin's name and a blank, and sees what follows. -/
def prepare (r : RegisteredAction σ) (message : IncomingMessage) : Option IncomingMessage :=
  if r.id.kind = .command && r.plugin.namespaced then
    (Text.dropStart? (r.plugin.name ++ " ") message.normalizedText).map fun rest =>
      { message with normalizedText := Text.trim rest }
  else some message

end RegisteredAction

/-- A scheduled action with its plugin and its place in the plugin's list. -/
structure RegisteredSchedule (σ : Type) where
  plugin : Plugin σ
  action : ScheduledAction σ
  index : Nat

namespace RegisteredSchedule

def jobId (r : RegisteredSchedule σ) : String := ActionId.jobText r.plugin.name r.index

def jobName (r : RegisteredSchedule σ) : String :=
  r.plugin.name ++ ": " ++ r.action.wording

end RegisteredSchedule

/-- Why a plugin is not registered. -/
inductive RegistrationError where
  | sealed (name : String)
  | reserved (name : String)
  | taken (name : String)
  deriving DecidableEq, Repr

namespace RegistrationError

def message : RegistrationError → String
  | .sealed name => s!"Can't register plugin [{name}] once the bot started"
  | .reserved name => s!"Plugin name [{name}] is reserved"
  | .taken name => s!"A plugin named [{name}] is already registered"

def fault (e : RegistrationError) : Fault := ⟨.registration, e.message⟩

end RegistrationError

/-- The plugins of a bot, in registration order. -/
structure PluginRegistry (σ : Type) where
  botName : String
  version : String
  location : String := "Local"
  plugins : List (Plugin σ) := []
  /-- The built-in help, once the registry is sealed. -/
  help : Option (Plugin σ) := none

def Plugin.registeredCommands (p : Plugin σ) : List (RegisteredAction σ) :=
  p.commands.zipIdx.map fun (a, i) => ⟨p, a, ⟨p.name, .command, i⟩⟩

def Plugin.registeredHearActions (p : Plugin σ) : List (RegisteredAction σ) :=
  p.hearActions.zipIdx.map fun (a, i) => ⟨p, a, ⟨p.name, .hear, i⟩⟩

def Plugin.registeredSchedules (p : Plugin σ) : List (RegisteredSchedule σ) :=
  p.scheduledActions.zipIdx.map fun (a, i) => ⟨p, a, i⟩

namespace PluginRegistry

def isSealed (r : PluginRegistry σ) : Bool := r.help.isSome

/-- Registers a plugin. Names identify the actions whose replies are edited later, so they are
distinct and differ from the built-in help's. -/
def register (r : PluginRegistry σ) (p : Plugin σ) :
    Except RegistrationError (PluginRegistry σ) :=
  if r.isSealed then .error (.sealed p.name)
  else if p.name = Help.pluginName then .error (.reserved p.name)
  else if r.plugins.any (·.name == p.name) then .error (.taken p.name)
  else .ok { r with plugins := r.plugins ++ [p] }

def close (r : PluginRegistry σ) : PluginRegistry σ :=
  if r.isSealed then r
  else { r with help := some (Help.plugin r.botName r.version r.location r.plugins) }

def all (r : PluginRegistry σ) : List (Plugin σ) := r.plugins ++ r.help.toList

def commands (r : PluginRegistry σ) : List (RegisteredAction σ) :=
  r.close.all.flatMap Plugin.registeredCommands

def hearActions (r : PluginRegistry σ) : List (RegisteredAction σ) :=
  r.close.all.flatMap Plugin.registeredHearActions

def schedules (r : PluginRegistry σ) : List (RegisteredSchedule σ) :=
  r.close.all.flatMap Plugin.registeredSchedules

def inject (r : PluginRegistry σ) (services : Plugin σ → Services (Host σ)) : PluginRegistry σ :=
  { r with plugins := r.plugins.map fun p => { p with services := services p } }

end PluginRegistry

end ChatEngine
