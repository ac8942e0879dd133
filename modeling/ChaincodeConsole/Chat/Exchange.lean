import ChaincodeConsole.Chat.Turn

/-!
Turns run to their end. Without an interrupt all events of the reply are taken, and reloads that
they begin end before the turn is closed; with one that comes first the stream is stopped before
its reply.
-/
namespace ChaincodeConsole

namespace Turn

def hear (t : Turn) (input : StreamInput) : Option Turn := do
  let t ← t.step (.stream input)
  t.run (List.replicate t.unsent.length .send)

def deliverAll (t : Turn) : Turn := t.queue.foldl take { t with queue := [] }

def endReloads (t : Turn) (listing : Option (List FileEntry)) : Turn :=
  t.dialogue.files.running.foldl (fun t reload =>
    (t.step (.reloaded reload listing)).getD t) t

end Turn

namespace Dialogue

def turn (d : Dialogue) (now : Timestamp) (prompt : String) (reply : ChatRequest → Delivery)
    (listing : Delivery) : Option (List Emission × Dialogue) := do
  let t := Turn.start d now prompt
  let t ← (reply t.dialogue.request).inputs.foldlM Turn.hear t
  (t.deliverAll.endReloads listing.listing.toOption).close? now

def interruptedTurn (d : Dialogue) (now : Timestamp) (prompt : String) :
    Option (List Emission × Dialogue) := do
  let t ← (Turn.start d now prompt).run [.interrupt, .stream .stop]
  t.close? now

end Dialogue
end ChaincodeConsole
