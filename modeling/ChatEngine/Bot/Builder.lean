import ChatEngine.Bot.Basic

/-!
# Assembling a bot

Assembling a bot. Plugins are added as they are or made by factories; the first factory that fails
ends the assembly, and its fault is what building the bot gives.
-/
namespace ChatEngine

variable {σ : Type}

/-- What a factory makes: a plugin, and the resource that it holds. -/
structure Made (σ : Type) where
  plugin : Plugin σ
  closer : Option (Closer σ) := none

/-- A bot in assembly. -/
structure BotBuilder (σ : Type) where
  name : BotName
  config : BotConfig
  plugins : List (Plugin σ) := []
  closers : List (Closer σ) := []
  failure : Option Fault := none
  log : Log := []

namespace BotBuilder

def withPlugin (b : BotBuilder σ) (p : Plugin σ) : BotBuilder σ :=
  if b.failure.isSome then b else { b with plugins := b.plugins ++ [p] }

def withCloser (b : BotBuilder σ) (c : Closer σ) : BotBuilder σ :=
  { b with closers := b.closers ++ [c] }

def add (b : BotBuilder σ) (fields : List (String × Value)) (made : Except Fault (Made σ)) :
    BotBuilder σ :=
  match made with
  | .ok m => { b with plugins := b.plugins ++ [m.plugin], closers := b.closers ++ m.closer.toList }
  | .error fault =>
    { b with
      failure := some fault
      log := ⟨.error, "plugin_creation_failed", fields ++ [("error", .str fault.text)]⟩ :: b.log }

def withFactory (b : BotBuilder σ) (factory : Unit → Except Fault (Made σ)) : BotBuilder σ :=
  if b.failure.isSome then b else b.add [] (factory ())

def withConfigurable (b : BotBuilder σ) (name : String)
    (factory : List (String × Value) → Except Fault (Made σ)) : BotBuilder σ :=
  if b.failure.isSome then b
  else b.add [("plugin", .str name)] <|
    match b.config.plugin name with
    | .ok config => factory config
    | .error e => .error e.fault

def build (b : BotBuilder σ) (given : Surroundings σ) (version : String) (host : Host σ) :
    Except Fault (Bot σ) := do
  if let some fault := b.failure then throw fault
  let bot ← Bot.create? b.name b.config given version host
  let bot ← b.plugins.foldlM (fun bot p => (bot.register p).mapError RegistrationError.fault) bot
  return b.closers.foldl Bot.addCloser bot

end BotBuilder

end ChatEngine
