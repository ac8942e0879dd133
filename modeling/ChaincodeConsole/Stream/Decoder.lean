import ChaincodeConsole.Event
import ChaincodeConsole.Stream.Line

/-!
Decoders of chunked streams: one for the events of a chat, which counts the payloads that are no
event and passes over them, and one for plain lines of text.
-/
namespace ChaincodeConsole.Stream

structure Stats where
  events : Nat
  malformed : Nat
  unknown : Nat
  deriving DecidableEq, Repr

namespace Stats

def none : Stats := ⟨0, 0, 0⟩

def count (s : Stats) : Except Event.DecodeError Event → Stats
  | .ok _ => { s with events := s.events + 1 }
  | .error (.unknownType _) => { s with unknown := s.unknown + 1 }
  | .error _ => { s with malformed := s.malformed + 1 }

end Stats

def outcomes (lines : List String) : List (Except Event.DecodeError Event) :=
  (lines.filterMap payload?).map Event.decode

structure Decoder where
  buffer : Buffer
  stats : Stats
  deriving DecidableEq, Repr

namespace Decoder

def start : Decoder := ⟨.empty, .none⟩

def take (d : Decoder) (buffer : Buffer) (lines : List String) : List Event × Decoder :=
  let found := outcomes lines
  (found.filterMap (·.toOption), ⟨buffer, found.foldl .count d.stats⟩)

def push (d : Decoder) (chunk : List UInt8) : List Event × Decoder :=
  let (lines, buffer) := d.buffer.push chunk
  d.take buffer lines

def finish (d : Decoder) : List Event × Decoder :=
  let (line, buffer) := d.buffer.finish
  d.take buffer line.toList

def decodeAll (chunks : List (List UInt8)) : List Event × Stats :=
  let (events, d) := chunks.foldl (fun (events, d) chunk =>
    let (more, d) := push d chunk
    (events ++ more, d)) (([] : List Event), start)
  let (last, d) := d.finish
  (events ++ last, d.stats)

end Decoder

structure TextDecoder where
  buffer : Buffer
  deriving DecidableEq, Repr

namespace TextDecoder

def start : TextDecoder := ⟨.empty⟩

def push (d : TextDecoder) (chunk : List UInt8) : List String × TextDecoder :=
  let (lines, buffer) := d.buffer.push chunk
  (lines.filterMap payload?, ⟨buffer⟩)

def finish (d : TextDecoder) : Option String × TextDecoder :=
  let (line, buffer) := d.buffer.finish
  (line.bind payload?, ⟨buffer⟩)

end TextDecoder
end ChaincodeConsole.Stream
