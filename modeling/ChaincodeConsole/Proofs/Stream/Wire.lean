import ChaincodeConsole.Proofs.Stream.Decoding
import ChaincodeConsole.Proofs.Stream.Payloads
import ChaincodeConsole.Proofs.Text.Encoding

/-! Events on the wire. Each is written as a data line of its own, and decoding the lines gives
the events that were written, in whatever chunks their bytes arrive. -/
namespace ChaincodeConsole.Stream

/-- How a data line is written: a blank may follow its mark, a carriage return may end it. -/
structure Framing where
  spaced : Bool
  returned : Bool
  deriving DecidableEq, Repr

namespace Framing

def line (f : Framing) (e : Event) : String :=
  (if f.spaced then "data: " else "data:") ++ e.toJson.text ++
    (if f.returned then "\r\n" else "\n")

def lead (f : Framing) : List Char := if f.spaced then [' '] else []

def trail (f : Framing) : List Char := if f.returned then ['\r'] else []

def bytes (f : Framing) (e : Event) : List UInt8 :=
  Text.utf8Chars (dataMark ++ f.lead ++ e.toJson.chars ++ f.trail)

end Framing

def written (framed : List (Framing × Event)) : List UInt8 :=
  framed.flatMap fun (f, e) => Text.utf8 (f.line e)

theorem lineBytes (f : Framing) (e : Event) : Text.utf8 (f.line e) = f.bytes e ++ [10] := by
  have feed : Text.utf8Chars ['\n'] = [10] := rfl
  have chars : (f.line e).toList = (dataMark ++ f.lead ++ e.toJson.chars ++ f.trail) ++ ['\n'] := by
    obtain ⟨spaced, returned⟩ := f
    cases spaced <;> cases returned <;> simp [Framing.line, Framing.lead, Framing.trail, Json.text,
      dataMark]
  rw [Text.utf8, chars, Text.encodedAppend, feed, Framing.bytes]

theorem bytesPlain (f : Framing) {e : Event} (printed : Json.Printed e.toJson.chars) :
    10 ∉ f.bytes e := by
  have mark : ∀ c ∈ dataMark, c.toNat ≠ 10 := by simp [dataMark]
  have lead : ∀ c ∈ f.lead, c.toNat ≠ 10 := by
    unfold Framing.lead
    split <;> simp
  have trail : ∀ c ∈ f.trail, c.toNat ≠ 10 := by
    unfold Framing.trail
    split <;> simp
  have text : ∀ c ∈ e.toJson.chars, c.toNat ≠ 10 := fun c inside feed => by
    have shown := printed c inside
    omega
  refine Text.encodedPlain fun c held feed => ?_
  simp only [List.mem_append] at held
  rcases held with ((here | here) | here) | here
  · exact mark c here feed
  · exact lead c here feed
  · exact text c here feed
  · exact trail c here feed

theorem bytesReturn (f : Framing) (e : Event) :
    withoutReturn (f.bytes e) = Text.utf8Chars (dataMark ++ f.lead ++ e.toJson.chars) := by
  have last : Text.utf8Chars ['\r'] = [13] := rfl
  have brace : Text.utf8Chars ['}'] = [125] := rfl
  obtain ⟨spaced, returned⟩ := f
  cases returned with
  | true =>
    rw [Framing.bytes, Framing.trail, if_pos rfl, Text.encodedAppend _ ['\r'], last, withoutReturn,
      if_pos List.getLast?_concat, List.dropLast_concat]
  | false =>
    -- The last byte is that of the closing brace.
    obtain ⟨front, ends⟩ : ∃ front, e.toJson.chars = front ++ ['}'] := ⟨'{' :: _, rfl⟩
    have bytes : Framing.bytes ⟨spaced, false⟩ e =
        Text.utf8Chars (dataMark ++ Framing.lead ⟨spaced, false⟩ ++ e.toJson.chars) := by
      rw [Framing.bytes, Framing.trail, if_neg Bool.false_ne_true, List.append_nil]
    have other : (Framing.bytes ⟨spaced, false⟩ e).getLast? ≠ some 13 := by
      rw [bytes, ends, ← List.append_assoc, Text.encodedAppend, brace, List.getLast?_concat]
      decide
    rw [withoutReturn, if_neg other, bytes]

theorem eventPayload (f : Framing) (e : Event) :
    linePayload (f.bytes e) = some e.toJson.text := by
  have blank : f.lead.all Text.isBlank = true := by
    unfold Framing.lead
    split <;> rfl
  have kept : Text.trimChars e.toJson.chars = e.toJson.chars := Text.trimKept rfl rfl _
  have rest : Text.trimChars (f.lead ++ e.toJson.chars) = e.toJson.chars := by
    rw [Text.trimLead blank, kept]
  have front : Text.lossyChars (withoutReturn (f.bytes e)) =
      dataMark ++ (f.lead ++ e.toJson.chars) := by
    rw [bytesReturn, Text.lossyEncoded, List.append_assoc]
  have dropped : (dataMark ++ (f.lead ++ e.toJson.chars)).drop 5 = f.lead ++ e.toJson.chars := rfl
  have carries : carriesPayload (f.bytes e) = true := by
    have filled : (f.lead ++ e.toJson.chars).all Text.isBlank = false := by
      by_contra all
      rw [Bool.not_eq_false, ← Text.trimNil, rest] at all
      cases all
    have other : (e.toJson.chars != endMark) = true := rfl
    rw [carriesPayload, front, carriesData, dropped, filled, rest, other]
    simp
  rw [linePayload, if_pos carries, front, dropped, rest, Json.text]

theorem writtenLines (framed : List (Framing × Event))
    (printed : ∀ p ∈ framed, Json.Printed p.2.toJson.chars) :
    endedLines (written framed) = framed.map (fun p => p.1.bytes p.2) ∧
      openLine (written framed) = [] := by
  have joined : written framed = (framed.map fun p => p.1.bytes p.2).flatMap (· ++ [10]) := by
    simp only [written, lineBytes, List.flatMap_map]
  have plain : ∀ line ∈ framed.map (fun p => p.1.bytes p.2), 10 ∉ line := by
    intro line inside
    obtain ⟨p, held, rfl⟩ := List.mem_map.mp inside
    exact bytesPlain p.1 (printed p held)
  rw [joined]
  exact linesJoined plain

theorem textPrinted {e : Event} (fits : e.Fits) (exact : e.floatFree = true) :
    Json.Printed e.toJson.chars := by
  have fit := Event.membersFit fits exact
  exact Json.objectPrinted fun m inside => Json.fitsPrinted (fit m inside).1 (fit m inside).2

theorem writtenOutcomes {framed : List (Framing × Event)}
    (again : ∀ p ∈ framed, Event.decode p.2.toJson.text = .ok p.2) :
    (framed.map fun p => p.1.bytes p.2).filterMap lineOutcome =
      framed.map fun p => .ok p.2 := by
  induction framed with
  | nil => rfl
  | cons p framed ih =>
    obtain ⟨head, others⟩ := List.forall_mem_cons.mp again
    have first : lineOutcome (p.1.bytes p.2) = some (.ok p.2) := by
      rw [lineOutcome, eventPayload, Option.map_some, head]
    rw [List.map_cons, List.filterMap_cons_some first, ih others, List.map_cons]

theorem writtenEvents {framed : List (Framing × Event)}
    (again : ∀ p ∈ framed, Event.decode p.2.toJson.text = .ok p.2) :
    (framed.map fun p => p.1.bytes p.2).filterMap lineEvent = framed.map Prod.snd := by
  have found : lineEvent = fun line => (lineOutcome line).bind (·.toOption) := rfl
  rw [found, ← List.filterMap_filterMap, writtenOutcomes again, List.filterMap_map]
  exact List.filterMap_eq_map_iff_forall_eq_some.mpr fun _ _ => rfl

theorem writtenTally {framed : List (Framing × Event)}
    (again : ∀ p ∈ framed, Event.decode p.2.toJson.text = .ok p.2) :
    tally (framed.map fun p => p.1.bytes p.2) = ⟨framed.length, 0, 0⟩ := by
  rw [tally, writtenOutcomes again]
  simp [isEvent, isMalformed, isUnknown, List.countP_map, Function.comp_def]

/-- Events that were decoded and hold no floating number come through the wire as they are. -/
theorem eventsSurvive {framed : List (Framing × Event)} (decoded : ∀ p ∈ framed, p.2.Decoded)
    (exact : ∀ p ∈ framed, p.2.floatFree = true) {chunks : List (List UInt8)}
    (cut : chunks.flatten = written framed) :
    (Decoder.start.feed chunks).1 = framed.map Prod.snd ∧
      (Decoder.start.feed chunks).2 = ⟨.empty, ⟨framed.length, 0, 0⟩⟩ ∧
      Decoder.decodeAll chunks = (framed.map Prod.snd, ⟨framed.length, 0, 0⟩) := by
  have fits : ∀ p ∈ framed, p.2.Fits := fun p inside => Event.decodedFits (decoded p inside)
  have again : ∀ p ∈ framed, Event.decode p.2.toJson.text = .ok p.2 := fun p inside =>
    Event.decodeAgain (fits p inside) (exact p inside)
  obtain ⟨lines, rest⟩ := writtenLines framed fun p inside =>
    textPrinted (fits p inside) (exact p inside)
  have law := Decoder.followsFeed chunks
  rw [cut] at law
  have events : (Decoder.start.feed chunks).1 = framed.map Prod.snd := by
    rw [law.lines.found, lines, writtenEvents again]
  have stats : (Decoder.start.feed chunks).2.stats = ⟨framed.length, 0, 0⟩ := by
    rw [law.stats, lines, writtenTally again]
  have held : (Decoder.start.feed chunks).2.buffer.pending = [] := law.lines.pending.trans rest
  have whole : (Decoder.start.feed chunks).2 = ⟨.empty, ⟨framed.length, 0, 0⟩⟩ := by
    generalize (Decoder.start.feed chunks).2 = d at held stats
    obtain ⟨⟨pending⟩, counts⟩ := d
    cases held
    cases stats
    rfl
  refine ⟨events, whole, ?_⟩
  rw [Decoder.decodeAllFeed, events, whole]
  simp [Decoder.finish, Decoder.take, Buffer.finish, Buffer.empty, outcomes]

def wireSample : List (Framing × Event) :=
  [(⟨true, false⟩, .reply "a\n"),
    (⟨false, true⟩, .tool .execute
      ⟨"1", "", none, some (.array [.number (.negative 1), .null]), none, some ""⟩)]

theorem bytewiseSurvive :
    (∀ p ∈ wireSample, p.2.Decoded) ∧ (∀ p ∈ wireSample, p.2.floatFree = true) ∧
    Decoder.decodeAll ((written wireSample).map fun b => [b]) =
      (wireSample.map Prod.snd, ⟨2, 0, 0⟩) := by
  have decoded : ∀ p ∈ wireSample, p.2.Decoded := by
    simp only [wireSample, List.forall_mem_cons]
    exact ⟨⟨"\x7b\"type\":\"llm\",\"content\":\"a\\n\"\x7d", by rfl⟩,
      ⟨"\x7b\"type\":\"tool_execute\",\"toolCallID\":\"1\",\"args\":[-1,null],\"error\":\"\"\x7d",
        by rfl⟩, nofun⟩
  have exact : ∀ p ∈ wireSample, p.2.floatFree = true := by decide
  have cut : ((written wireSample).map fun b => [b]).flatten = written wireSample := by
    rw [← List.flatMap_def, List.flatMap_singleton']
  exact ⟨decoded, exact, (eventsSurvive decoded exact cut).2.2⟩

end ChaincodeConsole.Stream
