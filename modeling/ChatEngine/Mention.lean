import ChatEngine.Message

/-!
# Mentions of the bot

Mentions of the bot at the start of a text. Accepted are the mention markup, with a colon after
it or not, and the bot's id or name followed by a colon, or between an at sign and a blank.
-/
namespace ChatEngine

open Text

namespace Identity

/-- The openings, apart from the mention markup, that address the bot. -/
def openings (i : Identity) : List String :=
  let forms (name : String) : List String := [name ++ ":", "@" ++ name ++ " "]
  forms i.idText ++ match i.userName with
    | none | some "" => []
    | some name => forms name

end Identity

def dropOpening? (openings : List String) (cs : List Char) : Option (List Char) :=
  openings.findSome? fun opening => dropLead? opening.toList cs

def dropColon : List Char → List Char
  | ':' :: rest => rest
  | cs => cs

/-- Strips a leading mention of the bot: whether there was one, and the rest, trimmed. -/
def stripMention (text : String) (identity : Option Identity) : Bool × String :=
  let trimmed := trimChars text.toList
  match identity with
  | none => (false, String.ofList trimmed)
  | some i =>
    match dropLead? i.mention.toList trimmed with
    | some rest => (true, String.ofList (trimChars (dropColon rest)))
    | none =>
      match dropOpening? i.openings trimmed with
      | some rest => (true, String.ofList (trimChars rest))
      | none => (false, String.ofList trimmed)

end ChatEngine
