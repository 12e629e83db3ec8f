import ChatEngine.Driver
import ChatEngine.Plugin.Service

/-!
# Requests to Slack

Requests to the web interface of Slack. A request leaves out the arguments that are empty.
-/
namespace ChatEngine.Slack

/-- A request. -/
inductive Request where
  | authenticate
  | post (message : Outgoing)
  | update (id : MessageId) (text : String) (blocks : Option (List Value))
  | delete (id : MessageId)
  | whisper (message : Whisper)
  | react (name : String) (item : MessageId)
  | upload (params : Upload)
  | userInfo (userId : String)

namespace Request

def method : Request → String
  | authenticate => "auth_test"
  | post _ => "chat_postMessage"
  | update .. => "chat_update"
  | delete _ => "chat_delete"
  | whisper _ => "chat_postEphemeral"
  | react .. => "reactions_add"
  | upload _ => "files_upload_v2"
  | userInfo _ => "users_info"

/-- A text argument, left out if it is missing or empty. -/
def textArgument (name : String) (value : Option String) : List (String × Value) :=
  (value.filter (!·.isEmpty)).toList.map fun s => (name, .str s)

def blocksArgument (blocks : Option (List Value)) : List (String × Value) :=
  (blocks.filter (!·.isEmpty)).toList.map fun b => ("blocks", .list b)

def threadArguments (message : Outgoing) : List (String × Value) :=
  match textArgument "thread_ts" message.thread with
  | [] => []
  | thread => thread ++ [("reply_broadcast", .bool message.broadcast)]

/-- The channels of an upload: one by itself, several as a list. -/
def channelArguments : List String → List (String × Value)
  | [] => []
  | [channel] => [("channel", .str channel)]
  | channels => [("channels", .list (channels.map .str))]

def arguments : Request → List (String × Value)
  | authenticate => []
  | post m =>
    [("channel", .str m.channel), ("text", .str m.text)] ++ threadArguments m
      ++ blocksArgument m.blocks
  | update id text blocks =>
    [("channel", .str id.channel), ("ts", .str id.timestamp), ("text", .str text)]
      ++ blocksArgument blocks
  | delete id => [("channel", .str id.channel), ("ts", .str id.timestamp)]
  | whisper m =>
    [("channel", .str m.channel), ("user", .str m.userId), ("text", .str m.text)]
      ++ textArgument "thread_ts" m.thread ++ blocksArgument m.blocks
  | react name item =>
    [("channel", .str item.channel), ("timestamp", .str item.timestamp), ("name", .str name)]
  | upload u =>
    channelArguments u.channels
      ++ (u.content.map fun s => ("content", Value.str s)).toList
      ++ (u.filePath.map fun s => ("file", Value.str s)).toList
      ++ textArgument "filename" u.filename ++ textArgument "title" u.title
      ++ textArgument "initial_comment" u.initialComment
      ++ textArgument "thread_ts" u.threadTimestamp
  | userInfo userId => [("user", .str userId)]

end Request

/-- What a request is answered with. -/
inductive Reply where
  | answer (data : Value)
  /-- The request was understood and refused, for a reason with a code. -/
  | refused (code : String)

def refusalText (code : String) : String :=
  "The request failed: " ++ code ++ "\nThe server responded with: "
    ++ (Value.map [("ok", .bool false), ("error", .str code)]).text

def credentialRefusals : List String :=
  ["invalid_auth", "not_authed", "account_inactive", "token_revoked"]

end ChatEngine.Slack
