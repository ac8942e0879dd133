import ChaincodeConsole.Json.Shape
import ChaincodeConsole.Server.Commit
import ChaincodeConsole.Server.Conversation
import ChaincodeConsole.Server.ProjectFile
import ChaincodeConsole.Server.Request
import ChaincodeConsole.Text.Utf8

/-!
What comes back from the server: nothing, or a status and a body that arrives in chunks and may
break off. A body of JSON may hold its content under `data`.
-/
namespace ChaincodeConsole

structure Reply where
  status : Nat
  chunks : List (List UInt8)
  complete : Bool
  deriving DecidableEq, Repr

inductive Trouble where
  | notMade (fault : Request.Fault)
  | notSent (url : String)
  | cut
  deriving DecidableEq, Repr

abbrev Delivery := Except Trouble Reply

namespace Trouble

def message : Trouble → String
  | .notMade fault =>
    "builder error" ++ (fault.url?.map fun u => " for url (" ++ u.text ++ ")").getD ""
  | .notSent url => "error sending request for url (" ++ url ++ ")"
  | .cut => "error decoding response body"

def causes : Trouble → List String
  | .notMade fault => [fault.message]
  | .notSent _ =>
    ["client error (Connect)", "tcp connect error", "Network is unreachable (os error 101)"]
  | .cut => []

end Trouble

/-- Why a request failed. Stopping it counts as no failure to be reported. -/
inductive Failure where
  | status (code : Nat) (body : String)
  | transport (trouble : Trouble)
  | decode (message : String)
  | storage
  | aborted
  deriving DecidableEq, Repr

namespace Failure

def message : Failure → String
  | .status code body => "server returned " ++ toString code ++ ": " ++ body
  | .transport trouble => "request failed: " ++ trouble.message
  | .decode message => "unexpected response body: " ++ message
  | .storage => "i/o error"
  | .aborted => "request aborted"

def chain (f : Failure) : String :=
  let causes := match f with
    | .transport trouble => trouble.message :: trouble.causes
    | .decode message => [message]
    | _ => []
  String.intercalate ": " (f.message :: causes)

def isAborted : Failure → Bool
  | .aborted => true
  | _ => false

def status? : Failure → Option Nat
  | .status code _ => some code
  | _ => none

end Failure

namespace Reply

def isSuccess (r : Reply) : Bool := 200 ≤ r.status && r.status < 300

def bytes (r : Reply) : List UInt8 := r.chunks.flatten

def text (r : Reply) : Except Failure String :=
  if r.complete then .ok (Text.lossy r.bytes) else .error (.transport .cut)

/-- The failure that a refusal means; a body that broke off is left out. -/
def refusal (r : Reply) : Failure :=
  .status r.status (if r.complete then Text.lossy r.bytes else "")

def unwrapped : Json → Json
  | .object members => (Json.member? "data" members).getD (.object members)
  | j => j

def json (r : Reply) : Except Failure Json := do
  match Json.ofText (← r.text) with
  | .ok j => return unwrapped j
  | .error e => throw (.decode e.message)

end Reply

namespace Delivery

def accepted (d : Delivery) : Except Failure Reply :=
  match d with
  | .error trouble => .error (.transport trouble)
  | .ok r => if r.isSuccess then .ok r else .error r.refusal

def content (read : Json → Json.Shaped α) (d : Delivery) : Except Failure α := do
  match read (← (← d.accepted).json) with
  | .ok a => return a
  | .error e => throw (.decode e.message)

def conversations (d : Delivery) : Except Failure (List Conversation) :=
  d.content (Json.toList? Conversation.ofJson)

def conversation (d : Delivery) : Except Failure Conversation := d.content Conversation.ofJson

def commits (d : Delivery) : Except Failure (List Commit) := d.content (Json.toList? Commit.ofJson)

def listing (d : Delivery) : Except Failure (List FileEntry) :=
  d.content (Json.toList? FileEntry.ofJson)

def file (path : String) (d : Delivery) : Except Failure FileContent :=
  (d.content FileContent.ofJson).map fun f => if f.path.isEmpty then { f with path := path } else f

def diff (d : Delivery) : Except Failure String := do
  let body ← (← d.accepted).text
  match Json.ofText? body with
  | none => return body
  | some j =>
    let j := Reply.unwrapped j
    return (((j.get? "diff").bind Json.asString?) <|> j.asString?).getD body

def written (d : Delivery) : Except Failure Unit := d.accepted.map fun _ => ()

end Delivery
end ChaincodeConsole
