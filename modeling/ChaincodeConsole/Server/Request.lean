import ChaincodeConsole.Chat.Message
import ChaincodeConsole.Server.Url
import ChaincodeConsole.Settings.Basic
import ChaincodeConsole.Text.Base64

/-!
What the server can be asked for, and the request that asks for it. Identifiers become part of
the path as they are; other values go into the query or the body.
-/
namespace ChaincodeConsole

inductive Method where
  | get
  | post
  deriving DecidableEq, Repr

def Method.name : Method → String
  | .get => "GET"
  | .post => "POST"

structure ChatRequest where
  conversation : Option String
  project : Int
  messages : List HistoryEntry
  deriving DecidableEq, Repr

inductive Endpoint where
  | conversations (project : Int)
  | conversation (project : Int) (id : String)
  | commits (project : Int)
  | commitDiff (project : Int) (hash file : String)
  | fileContent (project : Int) (path : String)
  | storeFile (project : Int) (path content : String)
  | listFiles (project : Int) (dir : String)
  | chat (request : ChatRequest)
  | nodeLogs (node : Int)
  | archive (project : Int)
  deriving DecidableEq, Repr

def ChatRequest.toJson (r : ChatRequest) : Json :=
  .object ((r.conversation.map fun id => ("conversationId", Json.string id)).toList ++
    [("projectId", .ofInt r.project), ("messages", .array (r.messages.map HistoryEntry.toJson))])

namespace Endpoint

def projectPath (project : Int) : String := "/api/v1/chaincode-projects/" ++ toString project

def path : Endpoint → String
  | .conversations project => "/api/v1/ai/" ++ toString project ++ "/conversations"
  | .conversation project id => "/api/v1/ai/" ++ toString project ++ "/conversations/" ++ id
  | .commits project => projectPath project ++ "/commits"
  | .commitDiff project hash _ => projectPath project ++ "/commits/" ++ hash ++ "/diff"
  | .fileContent project _ => projectPath project ++ "/files/read"
  | .storeFile project _ _ => projectPath project ++ "/files/write"
  | .listFiles project _ => projectPath project ++ "/files/list"
  | .chat request => "/api/v1/ai/" ++ toString request.project ++ "/chat"
  | .nodeLogs node => "/api/v1/nodes/" ++ toString node ++ "/logs"
  | .archive project => projectPath project ++ "/download"

def query : Endpoint → Option (List (String × String))
  | .commitDiff _ _ file => some [("file", file)]
  | .fileContent _ path => some [("path", path)]
  | .listFiles _ dir => some [("dir", dir)]
  | .nodeLogs _ => some [("follow", "true")]
  | .conversations _ | .conversation _ _ | .commits _ => some []
  | .storeFile _ _ _ | .chat _ | .archive _ => none

def body : Endpoint → Option Json
  | .chat request => some request.toJson
  | .storeFile _ path content =>
    some (.object [("path", .string path), ("content", .string content)])
  | _ => none

def method (e : Endpoint) : Method := if e.body.isSome then .post else .get

def accept : Endpoint → String
  | .chat _ | .nodeLogs _ => "text/event-stream"
  | _ => "*/*"

end Endpoint

structure Server where
  baseUrl : String
  authorization : Option String
  deriving DecidableEq, Repr

namespace Server

def authorization? (s : ServerSettings) : Option String :=
  if !s.apiToken.isEmpty then some ("Bearer " ++ s.apiToken)
  else if !s.username.isEmpty then
    some ("Basic " ++ Text.base64 (Text.utf8 (s.username ++ ":" ++ s.password)))
  else none

def dropSlashes (cs : List Char) : List Char := (cs.reverse.dropWhile (· == '/')).reverse

def ofSettings (s : ServerSettings) : Server :=
  ⟨String.ofList (dropSlashes s.baseUrl.toList), authorization? s⟩

end Server

structure Request where
  method : Method
  url : Url
  accept : String
  authorization : Option String
  body : Option Json
  deriving DecidableEq, Repr

namespace Request

inductive Fault where
  | address (fault : Url.Fault)
  | credentials
  | scheme (url : Url)
  | host (url : Url)
  deriving DecidableEq, Repr

def Fault.message : Fault → String
  | .address fault => fault.message
  | .credentials => "failed to parse header value"
  | .scheme _ => "URL scheme is not allowed"
  | .host _ => "Parsed Url is not a valid Uri"

def Fault.url? : Fault → Option Url
  | .scheme url | .host url => some url
  | _ => none

def isHeaderChar (c : Char) : Bool := c == '\t' || (32 ≤ c.toNat && c.toNat != 127)

/-- Characters that an address may have in its host and a request may not. -/
def isStrayHostChar (c : Char) : Bool := ['"', '\x60', '\x7b', '\x7d'].contains c

def make (server : Server) (e : Endpoint) : Except Fault Request := do
  let url ← (Url.ofText (server.baseUrl ++ e.path)).mapError .address
  if !url.hasHost then throw (.scheme url)
  else if !(server.authorization.getD "").toList.all isHeaderChar then throw .credentials
  else
    let url := (e.query.map url.withQuery).getD url
    if url.scheme ≠ "http" ∧ url.scheme ≠ "https" then throw (.scheme url)
    else if (url.host.getD "").toList.any isStrayHostChar then throw (.host url)
    else return ⟨e.method, url, e.accept, server.authorization, e.body⟩

end Request
end ChaincodeConsole
