import ChaincodeConsole.Proofs.Stream.Lines
import ChaincodeConsole.Stream.Decoder

/-! Decoders of chunked streams read line by line: what they give for a stream is what its lines
give one by one, in order, and the counts are those of the lines. Neither the cuts between the
chunks nor a line that gives nothing makes a difference to the others. -/
namespace ChaincodeConsole.Stream

def lineOutcome (line : List UInt8) : Option (Except Event.DecodeError Event) :=
  (linePayload line).map Event.decode

def lineEvent (line : List UInt8) : Option Event := (lineOutcome line).bind (·.toOption)

def isEvent : Except Event.DecodeError Event → Bool
  | .ok _ => true
  | .error _ => false

def isUnknown : Except Event.DecodeError Event → Bool
  | .error (.unknownType _) => true
  | _ => false

def isMalformed (found : Except Event.DecodeError Event) : Bool :=
  !isEvent found && !isUnknown found

def tally (lines : List (List UInt8)) : Stats :=
  let found := lines.filterMap lineOutcome
  ⟨found.countP isEvent, found.countP isMalformed, found.countP isUnknown⟩

def Stats.total (s : Stats) : Nat := s.events + s.malformed + s.unknown

structure ByLine {α : Type} (read : List UInt8 → Option α) (bytes : List UInt8) (found : List α)
    (buffer : Buffer) : Prop where
  found : found = (endedLines bytes).filterMap read
  pending : buffer.pending = openLine bytes

theorem ByLine.noFeed {α : Type} {read : List UInt8 → Option α} {bytes found buffer}
    (law : ByLine read bytes found buffer) : 10 ∉ buffer.pending := by
  rw [law.pending]
  exact openLinePlain bytes

theorem byLineStart {α : Type} (read : List UInt8 → Option α) : ByLine read [] [] .empty :=
  ⟨rfl, rfl⟩

theorem byLineUnique {α : Type} {read : List UInt8 → Option α} {bytes found buffer found' buffer'}
    (left : ByLine read bytes found buffer) (right : ByLine read bytes found' buffer') :
    found = found' ∧ buffer = buffer' := by
  obtain ⟨pending⟩ := buffer
  obtain ⟨pending'⟩ := buffer'
  have held : pending = pending' := left.pending.trans right.pending.symm
  exact ⟨left.found.trans right.found.symm, by rw [held]⟩

theorem ByLine.push {α : Type} {read : List UInt8 → Option α} {bytes found buffer}
    (law : ByLine read bytes found buffer) {ofText : String → Option α}
    (reads : ∀ line, ofText (lineText line) = read line) (chunk : List UInt8) :
    ByLine read (bytes ++ chunk) (found ++ (buffer.push chunk).1.filterMap ofText)
      (buffer.push chunk).2 := by
  rw [Buffer.pushLines law.pending]
  constructor
  · rw [(linesAppend bytes chunk).1, List.filterMap_append, ← law.found, List.filterMap_map]
    simp only [Function.comp_def, reads]
  · rfl

theorem ByLine.skip {α : Type} {read : List UInt8 → Option α}
    {before line after : List UInt8} {found found' buffer buffer'}
    (law : ByLine read (before ++ line ++ 10 :: after) found buffer)
    (without : ByLine read (before ++ after) found' buffer')
    (begins : before = [] ∨ before.getLast? = some 10) (plain : 10 ∉ line)
    (nothing : read line = none) : found' = found ∧ buffer' = buffer := by
  obtain ⟨full, kept, held⟩ := lineSkipped begins plain after
  refine byLineUnique without ⟨?_, law.pending.trans held⟩
  rw [law.found, full, kept, List.filterMap_append, List.filterMap_append,
    List.filterMap_cons_none nothing]

theorem outcomesOfLines (lines : List (List UInt8)) :
    outcomes (lines.map lineText) = lines.filterMap lineOutcome := by
  simp only [outcomes, List.filterMap_map, List.map_filterMap, Function.comp_def, payloadOfLine]
  rfl

theorem countFold (found : List (Except Event.DecodeError Event)) (s : Stats) :
    found.foldl .count s =
      ⟨s.events + found.countP isEvent, s.malformed + found.countP isMalformed,
        s.unknown + found.countP isUnknown⟩ := by
  induction found generalizing s with
  | nil => rfl
  | cons x found ih =>
    rw [List.foldl_cons, ih]
    simp only [List.countP_cons]
    cases x with
    | ok e => simp [Stats.count, isEvent, isUnknown, isMalformed, Nat.add_right_comm, Nat.add_assoc]
    | error e =>
      cases e <;> simp [Stats.count, isEvent, isUnknown, isMalformed, Nat.add_right_comm,
        Nat.add_assoc]

theorem tallyFold (before lines : List (List UInt8)) :
    (outcomes (lines.map lineText)).foldl .count (tally before) = tally (before ++ lines) := by
  simp [outcomesOfLines, countFold, tally]

theorem kindsTotal (found : List (Except Event.DecodeError Event)) :
    found.countP isEvent + found.countP isMalformed + found.countP isUnknown = found.length := by
  induction found with
  | nil => rfl
  | cons x found ih =>
    simp only [List.countP_cons, List.length_cons, ← ih]
    cases x with
    | ok e => simp [isEvent, isUnknown, isMalformed]; omega
    | error e => cases e <;> simp [isEvent, isUnknown, isMalformed] <;> omega

theorem tallyTotal (lines : List (List UInt8)) :
    (tally lines).total = lines.countP carriesPayload := by
  rw [Stats.total, tally, kindsTotal, List.length_filterMap_eq_countP]
  congr 1
  funext line
  by_cases carries : carriesPayload line <;>
    simp_all [lineOutcome, linePayload, carriesPayload]

namespace Decoder

def feed (d : Decoder) (chunks : List (List UInt8)) : List Event × Decoder :=
  chunks.foldl (fun (events, d) chunk =>
    let (more, d) := push d chunk
    (events ++ more, d)) (([] : List Event), d)

-- Decoding a whole stream is feeding it, then its end.
theorem decodeAllFeed (chunks : List (List UInt8)) :
    decodeAll chunks =
      ((start.feed chunks).1 ++ (start.feed chunks).2.finish.1,
        (start.feed chunks).2.finish.2.stats) := rfl

def textEvent (line : String) : Option Event :=
  (payload? line).bind fun p => (Event.decode p).toOption

theorem takeEvents (d : Decoder) (buffer : Buffer) (lines : List String) :
    (d.take buffer lines).1 = lines.filterMap textEvent := by
  simp only [take, outcomes, List.filterMap_map, List.filterMap_filterMap]
  rfl

theorem eventOfLine (line : List UInt8) : textEvent (lineText line) = lineEvent line := by
  rw [textEvent, payloadOfLine, lineEvent, lineOutcome, Option.bind_map]
  rfl

structure Follows (events : List Event) (d : Decoder) (bytes : List UInt8) : Prop where
  lines : ByLine lineEvent bytes events d.buffer
  stats : d.stats = tally (endedLines bytes)

theorem followsPush {events d bytes} (law : Follows events d bytes) (chunk : List UInt8) :
    Follows (events ++ (d.push chunk).1) (d.push chunk).2 (bytes ++ chunk) := by
  constructor
  · have next := law.lines.push eventOfLine chunk
    rw [← takeEvents d (d.buffer.push chunk).2] at next
    exact next
  · have counted := tallyFold (endedLines bytes) (endedLines (openLine bytes ++ chunk))
    rw [← (linesAppend bytes chunk).1, ← law.stats] at counted
    simpa only [push, take, Buffer.pushLines law.lines.pending] using counted

theorem followsFeed (chunks : List (List UInt8)) :
    Follows (start.feed chunks).1 (start.feed chunks).2 chunks.flatten := by
  -- The fold starts anywhere: at what was given and held after the bytes before these chunks.
  suffices ∀ (events : List Event) (d : Decoder) (bytes : List UInt8), Follows events d bytes →
      let fed := chunks.foldl (fun (events, d) chunk =>
        let (more, d) := push d chunk
        (events ++ more, d)) (events, d)
      Follows fed.1 fed.2 (bytes ++ chunks.flatten) by
    simpa [feed] using this [] start [] ⟨byLineStart _, rfl⟩
  induction chunks with
  | nil =>
    intro events d bytes law
    simpa using law
  | cons chunk chunks ih =>
    intro events d bytes law
    simpa [List.append_assoc] using ih _ _ _ (followsPush law chunk)

theorem lineEventNil : lineEvent [] = none := by decide

theorem finishEvent {events d bytes} (law : Follows events d bytes) :
    d.finish.1 = (lineEvent (openLine bytes)).toList := by
  simp only [finish, takeEvents, Buffer.finishLines, law.lines.pending]
  by_cases bare : openLine bytes = []
  · simp [bare, lineEventNil]
  · simp only [if_neg bare, Option.toList_some, List.filterMap_cons, eventOfLine]
    cases lineEvent (openLine bytes) <;> rfl

theorem finishStats {events d bytes} (law : Follows events d bytes) :
    d.finish.2.stats = tally (endedLines bytes ++ [openLine bytes]) := by
  rw [← tallyFold, ← law.stats]
  simp only [finish, take, Buffer.finishLines, law.lines.pending]
  by_cases bare : openLine bytes = []
  · simp [bare, show outcomes [lineText []] = [] from rfl, show outcomes [] = [] from rfl]
  · simp [if_neg bare]

theorem finishTwice (d : Decoder) : d.finish.2.finish = ([], d.finish.2) := by
  simp [finish, take, Buffer.finishLines, Buffer.empty, show outcomes [] = [] from rfl]

theorem followsUnique {bytes events d events' d'} (left : Follows events d bytes)
    (right : Follows events' d' bytes) : (events, d) = (events', d') := by
  obtain ⟨buffer, stats⟩ := d
  obtain ⟨buffer', stats'⟩ := d'
  obtain ⟨found, held⟩ := byLineUnique left.lines right.lines
  have counts : stats = stats' := left.stats.trans right.stats.symm
  rw [found, show buffer = buffer' from held, counts]

theorem feedRechunked {chunks other : List (List UInt8)} (same : other.flatten = chunks.flatten) :
    start.feed other = start.feed chunks :=
  followsUnique (same ▸ followsFeed other) (followsFeed chunks)

theorem skipLine {before line after : List UInt8} {chunks other : List (List UInt8)}
    (begins : before = [] ∨ before.getLast? = some 10) (plain : 10 ∉ line)
    (nothing : lineEvent line = none) (whole : chunks.flatten = before ++ line ++ 10 :: after)
    (without : other.flatten = before ++ after) : (decodeAll other).1 = (decodeAll chunks).1 := by
  obtain ⟨found, -⟩ := ByLine.skip (whole ▸ (followsFeed chunks).lines)
    (without ▸ (followsFeed other).lines) begins plain nothing
  rw [decodeAllFeed, decodeAllFeed, found, finishEvent (followsFeed other),
    finishEvent (followsFeed chunks), whole, without, (lineSkipped begins plain after).2.2]

end Decoder

namespace TextDecoder

def feed (d : TextDecoder) (chunks : List (List UInt8)) : List String × TextDecoder :=
  chunks.foldl (fun (lines, d) chunk =>
    let (more, d) := push d chunk
    (lines ++ more, d)) (([] : List String), d)

theorem byLineFeed (chunks : List (List UInt8)) :
    ByLine linePayload chunks.flatten (start.feed chunks).1 (start.feed chunks).2.buffer := by
  suffices ∀ (lines : List String) (d : TextDecoder) (bytes : List UInt8),
      ByLine linePayload bytes lines d.buffer →
      let fed := chunks.foldl (fun (lines, d) chunk =>
        let (more, d) := push d chunk
        (lines ++ more, d)) (lines, d)
      ByLine linePayload (bytes ++ chunks.flatten) fed.1 fed.2.buffer by
    simpa [feed] using this [] start [] (byLineStart _)
  induction chunks with
  | nil =>
    intro lines d bytes law
    simpa using law
  | cons chunk chunks ih =>
    intro lines d bytes law
    have next : ByLine linePayload (bytes ++ chunk) (lines ++ (d.push chunk).1)
        (d.push chunk).2.buffer := law.push payloadOfLine chunk
    simpa only [List.foldl_cons, List.flatten_cons, List.append_assoc] using ih _ _ _ next

theorem finishPayload {d : TextDecoder} {lines bytes}
    (law : ByLine linePayload bytes lines d.buffer) :
    d.finish = (linePayload (openLine bytes), start) := by
  simp only [finish, Buffer.finishLines, law.pending]
  by_cases bare : openLine bytes = []
  · simp [bare, start, show linePayload [] = .none by decide]
  · simp [if_neg bare, payloadOfLine, start]

theorem feedRechunked {chunks other : List (List UInt8)} (same : other.flatten = chunks.flatten) :
    start.feed other = start.feed chunks := by
  obtain ⟨found, held⟩ := byLineUnique (same ▸ byLineFeed other) (byLineFeed chunks)
  exact Prod.ext found (congrArg TextDecoder.mk held)

theorem skipLine {before line after : List UInt8} {chunks other : List (List UInt8)}
    (begins : before = [] ∨ before.getLast? = some 10) (plain : 10 ∉ line)
    (nothing : linePayload line = none) (whole : chunks.flatten = before ++ line ++ 10 :: after)
    (without : other.flatten = before ++ after) : start.feed other = start.feed chunks := by
  obtain ⟨found, held⟩ := ByLine.skip (whole ▸ byLineFeed chunks) (without ▸ byLineFeed other)
    begins plain nothing
  exact Prod.ext found (congrArg TextDecoder.mk held)

end TextDecoder

/-- What an event decoder gives and counts for a stream that came in some chunks, then at its
end, and what makes no difference to it. -/
structure EventLaw (chunks : List (List UInt8)) (bytes : List UInt8) (found : List Event)
    (d : Decoder) : Prop where
  events : found = (endedLines bytes).filterMap lineEvent
  pending : d.buffer.pending = openLine bytes
  noFeed : 10 ∉ d.buffer.pending
  stats : d.stats = tally (endedLines bytes)
  counted : d.stats.total = (endedLines bytes).countP carriesPayload
  last : d.finish.1 = (lineEvent (openLine bytes)).toList
  lastStats : d.finish.2.stats = tally (endedLines bytes ++ [openLine bytes])
  lastCounted : d.finish.2.stats.total =
    (endedLines bytes ++ [openLine bytes]).countP carriesPayload
  finished : d.finish.2.finish = ([], d.finish.2)
  rechunked : ∀ other : List (List UInt8), other.flatten = bytes →
    Decoder.start.feed other = (found, d)
  skipped : ∀ before line after other, (before = [] ∨ before.getLast? = some 10) → 10 ∉ line →
    lineEvent line = none → bytes = before ++ line ++ 10 :: after →
    other.flatten = before ++ after → (Decoder.decodeAll other).1 = (Decoder.decodeAll chunks).1

structure TextLaw (bytes : List UInt8) (found : List String) (d : TextDecoder) : Prop where
  lines : found = (endedLines bytes).filterMap linePayload
  pending : d.buffer.pending = openLine bytes
  noFeed : 10 ∉ d.buffer.pending
  last : d.finish.1 = linePayload (openLine bytes)
  finished : d.finish.2.finish = (none, d.finish.2)
  rechunked : ∀ other : List (List UInt8), other.flatten = bytes →
    TextDecoder.start.feed other = (found, d)
  skipped : ∀ before line after other, (before = [] ∨ before.getLast? = some 10) → 10 ∉ line →
    linePayload line = none → bytes = before ++ line ++ 10 :: after →
    other.flatten = before ++ after → TextDecoder.start.feed other = (found, d)

theorem streamsByLine (chunks : List (List UInt8)) :
    EventLaw chunks chunks.flatten (Decoder.start.feed chunks).1 (Decoder.start.feed chunks).2 ∧
      TextLaw chunks.flatten (TextDecoder.start.feed chunks).1
        (TextDecoder.start.feed chunks).2 := by
  have law := Decoder.followsFeed chunks
  have plain := TextDecoder.byLineFeed chunks
  constructor
  · exact {
      events := law.lines.found
      pending := law.lines.pending
      noFeed := law.lines.noFeed
      stats := law.stats
      counted := by rw [law.stats, tallyTotal]
      last := Decoder.finishEvent law
      lastStats := Decoder.finishStats law
      lastCounted := by rw [Decoder.finishStats law, tallyTotal]
      finished := Decoder.finishTwice _
      rechunked := fun _ same => Decoder.feedRechunked same
      skipped := fun _ _ _ _ begins noFeed nothing whole without =>
        Decoder.skipLine begins noFeed nothing whole without }
  · exact {
      lines := plain.found
      pending := plain.pending
      noFeed := plain.noFeed
      last := by rw [TextDecoder.finishPayload plain]
      finished := by
        rw [TextDecoder.finishPayload plain]
        exact TextDecoder.finishPayload (byLineStart _)
      rechunked := fun _ same => TextDecoder.feedRechunked same
      skipped := fun _ _ _ _ begins noFeed nothing whole without =>
        TextDecoder.skipLine begins noFeed nothing whole without }

end ChaincodeConsole.Stream
