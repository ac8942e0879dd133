import ChaincodeConsole.Server.Reply
import ChaincodeConsole.Stream.Decoder

/-!
Receiving a stream as it arrives: the request waits for its reply, then the body is read chunk by
chunk until it ends, breaks off or is stopped. What has been received is passed on at once.
-/
namespace ChaincodeConsole

inductive StreamInput where
  | unsent (trouble : Trouble)
  | refused (failure : Failure)
  | accepted
  | chunk (bytes : List UInt8)
  | close
  | cut
  | stop
  deriving DecidableEq, Repr

def Delivery.inputs (d : Delivery) : List StreamInput :=
  match d with
  | .error trouble => [.unsent trouble]
  | .ok r =>
    if r.isSuccess then
      .accepted :: r.chunks.map .chunk ++ [if r.complete then .close else .cut]
    else [.refused r.refusal]

inductive EventStream where
  | waiting
  | reading (d : Stream.Decoder)
  | ended (outcome : Except Failure Stream.Stats)

namespace EventStream

def step (s : EventStream) (input : StreamInput) : Option (List Event × EventStream) :=
  match s, input with
  | .waiting, .unsent trouble => some ([], .ended (.error (.transport trouble)))
  | .waiting, .refused failure => some ([], .ended (.error failure))
  | .waiting, .accepted => some ([], .reading .start)
  | .reading d, .chunk bytes =>
    let (events, d) := d.push bytes
    some (events, .reading d)
  | .reading d, .close =>
    let (events, d) := d.finish
    some (events, .ended (.ok d.stats))
  | .reading _, .cut => some ([], .ended (.error (.transport .cut)))
  | .waiting, .stop | .reading _, .stop => some ([], .ended (.error .aborted))
  | _, _ => none

def run (s : EventStream) : List StreamInput → Option (List Event × EventStream)
  | [] => some ([], s)
  | i :: rest => do
    let (events, s) ← s.step i
    let (more, s) ← run s rest
    return (events ++ more, s)

end EventStream

def Delivery.logLines (d : Delivery) : List String × Option Failure :=
  match d.accepted with
  | .error f => ([], some f)
  | .ok r =>
    let (lines, decoder) := r.chunks.foldl (fun (lines, decoder) chunk =>
      let (more, decoder) := Stream.TextDecoder.push decoder chunk
      (lines ++ more, decoder)) (([] : List String), Stream.TextDecoder.start)
    if r.complete then (lines ++ decoder.finish.1.toList, none)
    else (lines, some (.transport .cut))

end ChaincodeConsole
