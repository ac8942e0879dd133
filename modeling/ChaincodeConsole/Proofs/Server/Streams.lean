import ChaincodeConsole.Proofs.Stream.Decoding
import ChaincodeConsole.Server.EventStream

/-! A stream of events by what it has heard: nothing yet, the chunks of a body so far, or an end
of one kind. The events that it has passed on are those of the chunks, and at the end of the body
also that of a last line without an end. -/
namespace ChaincodeConsole

def Delivery.failure? : Delivery → Option Failure
  | .error trouble => some (.transport trouble)
  | .ok r =>
    if r.isSuccess then if r.complete then none else some (.transport .cut) else some r.refusal

def StreamInput.chunk? : StreamInput → Option (List UInt8)
  | .chunk bytes => some bytes
  | _ => none

namespace EventStream

open ChaincodeConsole.Stream (Decoder)

def heardChunks (chunks : List (List UInt8)) : List StreamInput := .accepted :: chunks.map .chunk

inductive Heard : List StreamInput → List Event → EventStream → Prop where
  | nothing : Heard [] [] .waiting
  | unsent (trouble : Trouble) : Heard [.unsent trouble] [] (.ended (.error (.transport trouble)))
  | refused (failure : Failure) : Heard [.refused failure] [] (.ended (.error failure))
  | stopped : Heard [.stop] [] (.ended (.error .aborted))
  | reading (chunks : List (List UInt8)) :
      Heard (heardChunks chunks) (Decoder.start.feed chunks).1
        (.reading (Decoder.start.feed chunks).2)
  | closed (chunks : List (List UInt8)) :
      Heard (heardChunks chunks ++ [.close]) (Decoder.decodeAll chunks).1
        (.ended (.ok (Decoder.decodeAll chunks).2))
  | cut (chunks : List (List UInt8)) :
      Heard (heardChunks chunks ++ [.cut]) (Decoder.start.feed chunks).1
        (.ended (.error (.transport .cut)))
  | stoppedReading (chunks : List (List UInt8)) :
      Heard (heardChunks chunks ++ [.stop]) (Decoder.start.feed chunks).1
        (.ended (.error .aborted))

theorem feedSnoc (chunks : List (List UInt8)) (chunk : List UInt8) :
    Decoder.start.feed (chunks ++ [chunk]) =
      ((Decoder.start.feed chunks).1 ++ ((Decoder.start.feed chunks).2.push chunk).1,
        ((Decoder.start.feed chunks).2.push chunk).2) := by
  rw [Decoder.feed, List.foldl_append]
  rfl

theorem heardSnoc (chunks : List (List UInt8)) (chunk : List UInt8) :
    heardChunks chunks ++ [.chunk chunk] = heardChunks (chunks ++ [chunk]) := by
  simp [heardChunks]

theorem heardStep {inputs : List StreamInput} {events more : List Event} {s next : EventStream}
    (heard : Heard inputs events s) {input : StreamInput}
    (step : s.step input = some (more, next)) :
    Heard (inputs ++ [input]) (events ++ more) next := by
  cases heard with
  | nothing =>
    cases input with
    | unsent trouble => cases step; exact .unsent trouble
    | refused failure => cases step; exact .refused failure
    | accepted => cases step; exact .reading []
    | stop => cases step; exact .stopped
    | chunk | close | cut => cases step
  | reading chunks =>
    cases input with
    | chunk bytes =>
      cases step
      have law := Heard.reading (chunks ++ [bytes])
      rwa [feedSnoc, ← heardSnoc] at law
    | close => cases step; exact .closed chunks
    | cut => cases step; simpa using Heard.cut chunks
    | stop => cases step; simpa using Heard.stoppedReading chunks
    | unsent | refused | accepted => cases step
  | unsent | refused | stopped | closed | cut | stoppedReading => cases input <;> cases step

theorem heardBytes (chunks : List (List UInt8)) :
    (heardChunks chunks).filterMap StreamInput.chunk? = chunks := by
  rw [heardChunks, List.filterMap_cons_none rfl, List.filterMap_map]
  exact List.filterMap_some

theorem heardBytesEnd (chunks : List (List UInt8)) {last : StreamInput}
    (quiet : last.chunk? = .none) :
    (heardChunks chunks ++ [last]).filterMap StreamInput.chunk? = chunks := by
  rw [List.filterMap_append, heardBytes, List.filterMap_cons_none quiet, List.filterMap_nil,
    List.append_nil]

theorem heardPrefix {inputs : List StreamInput} {events : List Event} {s : EventStream}
    (heard : Heard inputs events s) :
    events <+: (Decoder.decodeAll (inputs.filterMap StreamInput.chunk?)).1 := by
  have fed (chunks : List (List UInt8)) :
      (Decoder.start.feed chunks).1 <+: (Decoder.decodeAll chunks).1 := by
    rw [Decoder.decodeAllFeed]
    exact List.prefix_append _ _
  cases heard with
  | nothing | unsent | refused | stopped => exact List.nil_prefix
  | reading chunks => rw [heardBytes]; exact fed chunks
  | closed chunks => exact ⟨[], by rw [List.append_nil, heardBytesEnd chunks rfl]⟩
  | cut chunks | stoppedReading chunks => rw [heardBytesEnd chunks rfl]; exact fed chunks

inductive Serves : Delivery → List StreamInput → Prop where
  | unsent (trouble : Trouble) : Serves (.error trouble) [.unsent trouble]
  | refused {r : Reply} (refused : r.isSuccess = false) : Serves (.ok r) [.refused r.refusal]
  | delivered {r : Reply} (success : r.isSuccess = true) :
      Serves (.ok r) (heardChunks r.chunks ++ [if r.complete then .close else .cut])

theorem servesInputs (d : Delivery) : Serves d d.inputs := by
  cases d with
  | error trouble => exact .unsent trouble
  | ok r =>
    rw [Delivery.inputs]
    split
    · rename_i success
      exact .delivered success
    · rename_i failed
      exact .refused (by simpa using failed)

theorem chunksAlike {chunks others : List (List UInt8)} {last other : StreamInput}
    (quiet : last.chunk? = .none) (neither : other.chunk? = .none)
    (alike : heardChunks chunks ++ [last] <+: heardChunks others ++ [other]) :
    chunks = others ∧ last = other := by
  -- The first input that is no chunk ends both, so it stands at the same place.
  have aligned : ∀ (a b : List (List UInt8)),
      a.map StreamInput.chunk ++ [last] <+: b.map StreamInput.chunk ++ [other] →
        a = b ∧ last = other := by
    intro a
    induction a with
    | nil =>
      intro b begins
      cases b with
      | nil => exact ⟨rfl, (List.cons_prefix_cons.mp begins).1⟩
      | cons chunk b => rw [(List.cons_prefix_cons.mp begins).1] at quiet; cases quiet
    | cons chunk a ih =>
      intro b begins
      cases b with
      | nil => rw [← (List.cons_prefix_cons.mp begins).1] at neither; cases neither
      | cons first b =>
        obtain ⟨same, rest⟩ := List.cons_prefix_cons.mp begins
        cases same
        obtain ⟨chunks, ends⟩ := ih b rest
        exact ⟨congrArg _ chunks, ends⟩
  exact aligned chunks others (List.cons_prefix_cons.mp alike).2

theorem unstopped (chunks : List (List UInt8)) {last : StreamInput} (goes : last ≠ .stop) :
    (heardChunks chunks ++ [last]).filter (· != .stop) = heardChunks chunks ++ [last] := by
  refine List.filter_eq_self.mpr fun input inside => ?_
  simp only [heardChunks, List.cons_append, List.mem_cons, List.mem_append, List.mem_map,
    List.not_mem_nil, or_false] at inside
  rcases inside with rfl | ⟨_, _, rfl⟩ | rfl
  · rfl
  · rfl
  · simpa using goes

theorem servedBody {chunks : List (List UInt8)} {last : StreamInput} (quiet : last.chunk? = .none)
    {reply : Delivery} (served : heardChunks chunks ++ [last] <+: reply.inputs) :
    ∃ r, reply = .ok r ∧ r.isSuccess = true ∧ r.chunks = chunks ∧
      last = if r.complete then .close else .cut := by
  have serves := servesInputs reply
  generalize reply.inputs = all at serves served
  cases serves with
  | unsent | refused => cases (List.cons_prefix_cons.mp served).1
  | @delivered r success =>
    obtain ⟨same, ends⟩ := chunksAlike quiet (by split <;> rfl) served
    exact ⟨r, rfl, success, same.symm, ends⟩

theorem heardEnd {inputs : List StreamInput} {events : List Event}
    {outcome : Except Failure Stream.Stats} (heard : Heard inputs events (.ended outcome))
    {reply : Delivery} (served : inputs.filter (· != .stop) <+: reply.inputs) :
    (∀ stats, outcome = .ok stats → ∃ r, reply = .ok r ∧ r.isSuccess = true ∧
      r.complete = true ∧ Decoder.decodeAll r.chunks = (events, stats)) ∧
    ∀ f, outcome = .error f → if f.isAborted then .stop ∈ inputs else reply.failure? = some f := by
  generalize ending : EventStream.ended outcome = s at heard
  have serves := servesInputs reply
  cases heard with
  | nothing | reading => cases ending
  | unsent trouble =>
    cases ending
    refine ⟨nofun, ?_⟩
    rintro _ ⟨⟩
    generalize reply.inputs = all at serves served
    cases serves with
    | unsent =>
      cases (List.cons_prefix_cons.mp served).1
      exact rfl
    | refused | delivered => cases (List.cons_prefix_cons.mp served).1
  | refused failure =>
    cases ending
    refine ⟨nofun, ?_⟩
    rintro _ ⟨⟩
    generalize reply.inputs = all at serves served
    cases serves with
    | refused failed =>
      cases (List.cons_prefix_cons.mp served).1
      simp [Delivery.failure?, failed, Reply.refusal, Failure.isAborted]
    | unsent | delivered => cases (List.cons_prefix_cons.mp served).1
  | stopped | stoppedReading chunks =>
    cases ending
    refine ⟨nofun, ?_⟩
    rintro _ ⟨⟩
    simp [Failure.isAborted]
  | closed chunks =>
    cases ending
    rw [unstopped chunks (by simp)] at served
    obtain ⟨r, rfl, success, rfl, ends⟩ := servedBody rfl served
    refine ⟨?_, nofun⟩
    rintro _ ⟨⟩
    cases whole : r.complete with
    | false => simp [whole] at ends
    | true => exact ⟨r, rfl, success, whole, rfl⟩
  | cut chunks =>
    cases ending
    rw [unstopped chunks (by simp)] at served
    obtain ⟨r, rfl, success, rfl, ends⟩ := servedBody rfl served
    refine ⟨nofun, ?_⟩
    rintro _ ⟨⟩
    cases whole : r.complete with
    | false => simp [Delivery.failure?, success, whole, Failure.isAborted]
    | true => simp [whole] at ends

end EventStream
end ChaincodeConsole
