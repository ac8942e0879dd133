/-!
What the console can be told to do.
-/
namespace ChaincodeConsole

inductive Command where
  | chat (conversation : Option String)
  | ask (prompt : String) (conversation : Option String) (json : Bool)
  | listConversations
  | showConversation (id : String)
  | listCommits
  | showDiff (hash file : String)
  | showFile (path : String)
  | storeFile (path : String) (source : Option String)
  | listFiles (dir : String)
  | followLogs (node : Int)
  | download (output : Option String)
  | historyPath
  | historyShow (limit : Nat)
  | historyClear
  | historyExport (path : String)
  | configShow
  | configInit (force : Bool)
  deriving DecidableEq, Repr

structure Invocation where
  config : String
  project : Option Int
  command : Command
  deriving DecidableEq, Repr

namespace Invocation

def programName : String := "ledgerpilot"

def version : String := "0.1.0"

def defaultConfig : String := "config/default.toml"

end Invocation
end ChaincodeConsole
