import ChatEngine.Decimal.Integer

/-!
# Action identities

Identities of the actions that produce answers.
-/
namespace ChatEngine

/-- What an action reacts to. -/
inductive ActionKind where
  | command
  | hear
  | fallback
  deriving DecidableEq, Repr

def ActionKind.text : ActionKind → String
  | .command => "command"
  | .hear => "hearAction"
  | .fallback => "defaultAction"

/-- The identity of an action: its plugin, its kind and its place in the plugin's list. -/
structure ActionId where
  plugin : String
  kind : ActionKind
  index : Nat
  deriving DecidableEq, Repr

namespace ActionId

/-- What is printed for an identity: a plugin, what it offers, and the place among that. -/
def printed (plugin offer : String) (index : Int) : String :=
  plugin ++ "." ++ offer ++ "[" ++ Decimal.intText index ++ "]"

def text (id : ActionId) : String := printed id.plugin id.kind.text id.index

def fallback : ActionId := ⟨"default", .fallback, 0⟩

def jobText (plugin : String) (index : Nat) : String := printed plugin "scheduled" index

end ActionId

end ChatEngine
