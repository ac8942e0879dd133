import ChaincodeConsole.Proofs.Chat.Courses

/-! Which listing of the project's files is shown. The listing that has come last counts, in
whatever order the reloads end. The one begun last is waited for. When it fails, or when an older one
comes behind it, a listing from before the last change is shown. -/
namespace ChaincodeConsole

/-- A request for the listing: a reload by its number, or one for a command, after so many changes
of the files. -/
inductive ListingRequest where
  | reload (number : Nat)
  | direct (changes : Nat)
  deriving DecidableEq, Repr

namespace ListingRequest

/-- How many changes of the files came before the request. Each begins the next reload. -/
def changes : ListingRequest → Nat
  | .reload number => number + 1
  | .direct changes => changes

end ListingRequest

inductive FileNews where
  | changed (tool : String)
  | answered (request : ListingRequest) (listing : Option (List FileEntry))
  deriving DecidableEq, Repr

namespace FileNews

def change? : FileNews → Option String
  | .changed tool => some tool
  | .answered .. => none

def listing? : FileNews → Option (ListingRequest × List FileEntry)
  | .changed _ => none
  | .answered request listing => listing.map (request, ·)

def changes (told : List FileNews) : Nat := (told.filterMap change?).length

def came (told : List FileNews) : List (ListingRequest × List FileEntry) :=
  told.filterMap listing?

/-- Behind every listing from before the last change has come one of the reload that this change
began. -/
def CaughtUp (told : List FileNews) : Prop :=
  ∀ n, changes told = n + 1 → ∀ front older rest, came told = front ++ older :: rest →
    older.1.changes ≤ n → ∃ entries, (.reload n, entries) ∈ rest

theorem changesAppend (front rest : List FileNews) :
    changes (front ++ rest) = changes front + changes rest := by
  rw [changes, List.filterMap_append, List.length_append]
  rfl

theorem cameChanged (told : List FileNews) (tool : String) :
    came (told ++ [.changed tool]) = came told := by
  simp [came, listing?]

theorem cameAnswered (told : List FileNews) (request : ListingRequest)
    (listing : Option (List FileEntry)) :
    came (told ++ [.answered request listing]) =
      came told ++ (listing.map (request, ·)).toList := by
  rw [came, List.filterMap_append]
  cases listing <;> simp [came, listing?]

theorem cameMember {told : List FileNews} {request : ListingRequest} {entries : List FileEntry} :
    (request, entries) ∈ came told ↔ .answered request (some entries) ∈ told := by
  rw [came, List.mem_filterMap]
  constructor
  · rintro ⟨news, member, listing⟩
    cases news with
    | changed tool => cases listing
    | answered request listing =>
      obtain ⟨_, rfl, same⟩ := Option.map_eq_some_iff.mp listing
      cases same
      exact member
  · exact fun member => ⟨_, member, rfl⟩

end FileNews

open FileNews (changes came CaughtUp)

namespace FileList

structure Follows (told : List FileNews) (l : FileList) : Prop where
  begun : l.begun = changes told
  last : (came told).getLast?.map (·.2) = (l.arrived.getLast? <|> l.known)
  running : ∀ n ∈ l.running, n < l.begun
  ended : ∀ n < l.begun, n ∉ l.running → ∃ listing, .answered (.reload n) listing ∈ told
  awaited : ∀ n, l.begun = n + 1 → l.awaited = some n ∨ n ∉ l.running
  past : ∀ request listing, .answered request listing ∈ told → request.changes ≤ l.begun
  /-- A command asks for the listing only while none has come. -/
  asked : ∀ listing ∈ (came told).tail, ∃ n, listing.1 = .reload n

theorem followsUnknown : Follows [] unknown := by
  constructor <;> simp [unknown, FileNews.changes, FileNews.came]

theorem followsBegin {told : List FileNews} {l : FileList} (law : Follows told l) (tool : String) :
    Follows (told ++ [.changed tool]) l.beginReload where
  begun := by
    rw [FileNews.changesAppend, ← law.begun]
    rfl
  last := FileNews.cameChanged told tool ▸ law.last
  running n running := by
    rcases List.mem_append.mp running with before | now
    · exact Nat.lt_succ_of_lt (law.running n before)
    · rw [List.mem_singleton.mp now]
      exact Nat.lt_succ_self _
  ended n begun ended := by
    obtain ⟨still, new⟩ := not_or.mp (List.mem_append.not.mp ended)
    have old : n < l.begun :=
      lt_of_le_of_ne (Nat.le_of_lt_succ begun) (List.mem_singleton.not.mp new)
    obtain ⟨listing, told⟩ := law.ended n old still
    exact ⟨listing, List.mem_append_left _ told⟩
  awaited n begun := .inl (congrArg some (Nat.succ.inj begun))
  past request listing told := by
    rcases List.mem_append.mp told with before | now
    · exact Nat.le_succ_of_le (law.past request listing before)
    · cases List.mem_singleton.mp now
  asked := FileNews.cameChanged told tool ▸ law.asked

theorem followsAnswered {told : List FileNews} {l next : FileList} {request : ListingRequest}
    {listing : Option (List FileEntry)} (law : Follows told l)
    (past : request.changes ≤ l.begun) (asked : came told = [] ∨ ∃ n, request = .reload n)
    (same : next.begun = l.begun ∧ next.awaited = l.awaited)
    (still : ∀ n ∈ next.running, n ∈ l.running)
    (ended : ∀ n ∈ l.running, n ∉ next.running → request = .reload n)
    (last : (next.arrived.getLast? <|> next.known) =
      (listing <|> (l.arrived.getLast? <|> l.known))) :
    Follows (told ++ [.answered request listing]) next where
  begun := by
    rw [same.1, FileNews.changesAppend, law.begun]
    rfl
  last := by
    rw [FileNews.cameAnswered, last, ← law.last]
    cases listing <;> simp
  running n running := same.1 ▸ law.running n (still n running)
  ended n begun done := by
    by_cases before : n ∈ l.running
    · rw [ended n before done]
      exact ⟨listing, List.mem_append_right _ List.mem_cons_self⟩
    · obtain ⟨listing, told⟩ := law.ended n (same.1 ▸ begun) before
      exact ⟨listing, List.mem_append_left _ told⟩
  awaited n begun := by
    rw [same.2]
    exact (law.awaited n (same.1 ▸ begun)).imp_right fun done running => done (still n running)
  past other listing told := by
    rw [same.1]
    rcases List.mem_append.mp told with before | now
    · exact law.past other listing before
    · cases List.mem_singleton.mp now
      exact past
  asked := by
    rw [FileNews.cameAnswered]
    cases listing with
    | none => simpa using law.asked
    | some entries =>
      cases before : came told with
      | nil => nofun
      | cons first rest =>
        have reloads := law.asked
        rw [before] at asked reloads
        intro other member
        rcases List.mem_append.mp member with earlier | same
        · exact reloads other earlier
        · rw [List.mem_singleton.mp same]
          exact asked.resolve_left (List.cons_ne_nil first rest)

theorem followsEnd {told : List FileNews} {l next : FileList} {reload : Nat}
    {outcome : Option (List FileEntry)} (law : Follows told l)
    (ok : l.endReload reload outcome = some next) :
    Follows (told ++ [.answered (.reload reload) outcome]) next := by
  unfold endReload at ok
  split at ok
  · rename_i running
    cases ok
    refine followsAnswered law (law.running reload (List.contains_iff_mem.mp running))
      (.inr ⟨reload, rfl⟩) ⟨rfl, rfl⟩
      (fun n still => (List.mem_filter.mp still).1) (fun n before done => ?_) ?_
    · have same : n = reload := by simpa [before] using done
      rw [same]
    · cases outcome <;> simp
  · cases ok

theorem followsReceive {told : List FileNews} {l next : FileList} (law : Follows told l)
    (ok : l.receive = some next) : Follows told next := by
  unfold receive at ok
  split at ok
  · cases ok
  · rename_i listing rest arrived
    cases ok
    refine ⟨law.begun, ?_, law.running, law.ended, law.awaited, law.past, law.asked⟩
    rw [law.last, arrived, List.getLast?_cons]
    cases rest.getLast? <;> rfl

theorem followsCatchUp {told : List FileNews} {l : FileList} (law : Follows told l)
    (settled : l.isSettled = true) : Follows told l.catchUp where
  begun := law.begun
  last := law.last
  running := law.running
  ended := law.ended
  awaited n begun := .inr <| by
    rcases law.awaited n begun with awaited | ended
    · show n ∉ l.running
      simpa [isSettled, awaited] using settled
    · exact ended
  past := law.past
  asked := law.asked

def asks (l : FileList) (answer : Except Failure (List FileEntry)) : List FileNews :=
  match l.catchUp.known with
  | some _ => []
  | none => [.answered (.direct l.begun) answer.toOption]

theorem refreshCases (l : FileList) (answer : Except Failure (List FileEntry)) :
    (∃ listing, l.catchUp.known = some listing ∧ l.asks answer = [] ∧
        l.refresh answer = (.ok listing, l.catchUp)) ∨
      l.catchUp.known = none ∧ l.asks answer = [.answered (.direct l.begun) answer.toOption] ∧
        l.refresh answer = (answer, { l.catchUp with known := answer.toOption }) := by
  have unchanged (c : FileList) (unknown : c.known = none) : { c with known := none } = c := by
    cases c
    cases unknown
    rfl
  unfold asks refresh
  cases known : l.catchUp.known with
  | some listing => exact .inl ⟨listing, rfl, rfl, by simp only [known]⟩
  | none =>
    refine .inr ⟨rfl, rfl, ?_⟩
    cases answer with
    | ok listing => simp only [known, Except.toOption]
    | error f => simp only [known, Except.toOption, unchanged]

theorem followsRefresh {told : List FileNews} {l : FileList} (law : Follows told l)
    (settled : l.isSettled = true) (answer : Except Failure (List FileEntry)) :
    Follows (told ++ l.asks answer) (l.refresh answer).2 := by
  have caught := followsCatchUp law settled
  rcases l.refreshCases answer with ⟨listing, -, asks, refreshed⟩ | ⟨unknown, asks, refreshed⟩
  · rw [asks, refreshed, List.append_nil]
    exact caught
  · have nothing : came told = [] := by
      have last : (came told).getLast?.map (·.2) = l.catchUp.known := law.last
      rwa [unknown, Option.map_eq_none_iff, List.getLast?_eq_none_iff] at last
    rw [asks, refreshed]
    refine followsAnswered caught (Nat.le_of_eq rfl) (.inl nothing) ⟨rfl, rfl⟩
      (fun n still => still) (fun n before done => absurd before done) ?_
    rw [unknown]
    cases answer <;> rfl

theorem refreshLast {told : List FileNews} {l : FileList} (law : Follows told l)
    (answer : Except Failure (List FileEntry)) :
    (came (told ++ l.asks answer)).getLast?.map (·.2) = (l.refresh answer).1.toOption ∧
      ∀ f, (l.refresh answer).1 = .error f → answer = .error f := by
  have last : (came told).getLast?.map (·.2) = l.catchUp.known := law.last
  rcases l.refreshCases answer with ⟨listing, known, asks, refreshed⟩ | ⟨unknown, asks, refreshed⟩
  · rw [asks, refreshed, List.append_nil, last, known]
    exact ⟨rfl, nofun⟩
  · rw [unknown, Option.map_eq_none_iff] at last
    rw [asks, refreshed, FileNews.cameAnswered]
    refine ⟨?_, fun _ failed => failed⟩
    cases answer with
    | ok listing => simp [Except.toOption]
    | error f => simp [Except.toOption, last]

/-- What is shown of what has come: the last listing, and a failure only if there is none. It was
asked for after the last change exactly if the listings have caught up with that change, of which
the reload has ended. -/
structure Shown (told : List FileNews) (answer shown : Except Failure (List FileEntry)) : Prop where
  listing : ∀ entries, shown = .ok entries → ∃ request,
    (came told).getLast? = some (request, entries) ∧
      (request.changes = changes told ↔ CaughtUp told)
  failure : ∀ f, shown = .error f → answer = .error f ∧ came told = []
  waited : ∀ n, changes told = n + 1 → ∃ outcome, .answered (.reload n) outcome ∈ told

theorem caughtUpIff {told : List FileNews} {l : FileList} (law : Follows told l)
    {request : ListingRequest} {entries : List FileEntry}
    (last : (came told).getLast? = some (request, entries)) :
    request.changes = changes told ↔ CaughtUp told := by
  have past := law.past request _ (FileNews.cameMember.mp (List.mem_of_getLast? last))
  rw [law.begun] at past
  constructor
  · intro recent n count front older rest split before
    rw [split, List.getLast?_append, List.getLast?_cons] at last
    cases ends : rest.getLast? with
    | none =>
      -- The older listing itself would be the last one.
      rw [ends] at last
      cases Option.some.inj last
      dsimp only at before
      omega
    | some latest =>
      rw [ends] at last
      cases Option.some.inj last
      have member := List.mem_of_getLast? ends
      have behind : (request, entries) ∈ (came told).tail := by
        rw [split]
        cases front with
        | nil => exact member
        | cons first front => exact List.mem_append_right _ (List.mem_cons_of_mem _ member)
      obtain ⟨reload, rfl⟩ := law.asked _ behind
      obtain rfl : reload = n := Nat.succ.inj (recent.trans count)
      exact ⟨entries, member⟩
  · intro caught
    cases count : changes told with
    | zero => omega
    | succ n =>
      obtain ⟨front, split⟩ := List.getLast?_eq_some_iff.mp last
      by_contra old
      rw [count] at past
      have older : request.changes ≤ n := by omega
      obtain ⟨_, behind⟩ := caught n count front (request, entries) [] split older
      cases behind

theorem refreshShown {told : List FileNews} {l : FileList} (law : Follows told l)
    (settled : l.isSettled = true) (answer : Except Failure (List FileEntry)) :
    Shown (told ++ l.asks answer) answer (l.refresh answer).1 := by
  have after := followsRefresh law settled answer
  have waited : (l.refresh answer).2.awaited = none := by
    rcases l.refreshCases answer with ⟨listing, -, -, refreshed⟩ | ⟨-, -, refreshed⟩ <;>
      rw [refreshed] <;> rfl
  obtain ⟨last, failed⟩ := refreshLast law answer
  generalize told ++ l.asks answer = told at after last ⊢
  constructor
  · intro entries shown
    rw [shown] at last
    obtain ⟨⟨request, _⟩, found, rfl⟩ := Option.map_eq_some_iff.mp last
    exact ⟨request, found, caughtUpIff after found⟩
  · intro f shown
    rw [shown] at last
    exact ⟨failed f shown, List.getLast?_eq_none_iff.mp (Option.map_eq_none_iff.mp last)⟩
  · intro n count
    have ended : n ∉ (l.refresh answer).2.running :=
      (after.awaited n (after.begun.trans count)).resolve_left (by rw [waited]; nofun)
    exact after.ended n (by rw [after.begun, count]; exact Nat.lt_succ_self n) ended

end FileList

namespace Turn

def changing (t : Turn) (e : Event) : List FileNews :=
  match (t.dialogue.session.apply e).completed with
  | some (name, _) => if (ToolKind.ofName name).mutatesFiles then [.changed name] else []
  | none => []

theorem followsTake {told : List FileNews} {t : Turn} (law : t.dialogue.files.Follows told)
    (e : Event) : (t.take e).dialogue.files.Follows (told ++ t.changing e) := by
  cases completed : (t.dialogue.session.apply e).completed with
  | none => simpa [take, changing, completed] using law
  | some result =>
    obtain ⟨name, result⟩ := result
    cases mutates : (ToolKind.ofName name).mutatesFiles with
    | false => simpa [take, changing, completed, mutates] using law
    | true => simpa [take, changing, completed, mutates] using FileList.followsBegin law name

end Turn

namespace Chat

def news (c : Chat) (step : Step) (_ : Chat) : List FileNews :=
  match c, step with
  | .idle d, .files answer => d.files.asks answer
  | .idle _, .reloaded reload outcome => [.answered (.reload reload) outcome]
  | .busy _, .turn (.reloaded reload outcome) => [.answered (.reload reload) outcome]
  | .busy t, .turn .deliver =>
    match t.queue with
    | [] => []
    | e :: _ => t.changing e
  | _, _ => []

theorem followsStep {told : List FileNews} {c next : Chat} {step : Step}
    (law : c.dialogue.files.Follows told) (moved : c.Moved step next) :
    next.dialogue.files.Follows (told ++ c.news step next) := by
  have quiet (law : next.dialogue.files.Follows told) (silent : c.news step next = []) :
      next.dialogue.files.Follows (told ++ c.news step next) := by
    rwa [silent, List.append_nil]
  cases moved with
  | resume | reset => exact quiet law rfl
  | prompt d now text => exact quiet ((Dialogue.recordFiles _ now).symm ▸ law) rfl
  | close t now outcome terminal => exact quiet ((Dialogue.recordFiles _ now).symm ▸ law) rfl
  | reloaded d ended => exact FileList.followsEnd law ended
  | files answer terminal settled => exact FileList.followsRefresh law settled answer
  | @turn t next step moved =>
    cases moved with
    | stream | send | preview | interrupt => exact quiet law rfl
    | @deliver e rest next =>
      rw [news, next]
      exact Turn.followsTake law e
    | reloaded ended => exact FileList.followsEnd law ended
    | receive received => exact quiet (FileList.followsReceive law received) rfl

theorem listingShown (project : Int) (options : TerminalOptions) (transcript : Option Transcript)
    (steps : List Step) (d : Dialogue) (answer : Except Failure (List FileEntry))
    (ran : (idle (.start project options transcript)).run steps = some (.idle d))
    (waited : d.files.isSettled = true) :
    ∃ files shown, d.showFiles answer = { d with files := files }.writeListing shown ∧
      FileList.Shown ((idle (.start project options transcript)).log news
        (steps ++ [.files answer])) answer shown := by
  have law := runLaw (fun told c => c.dialogue.files.Follows told) followsStep
    FileList.followsUnknown ran
  rw [List.nil_append] at law
  have told : (idle (.start project options transcript)).log news (steps ++ [.files answer]) =
      (idle (.start project options transcript)).log news steps ++ d.files.asks answer :=
    logSnoc ran (if_pos waited)
  rw [told]
  exact ⟨_, _, rfl, FileList.refreshShown law waited answer⟩

def wrote (id : String) : List UInt8 :=
  Text.utf8 ("data: \x7b\"type\":\"tool_result\",\"toolCallID\":\"" ++ id ++
    "\",\"name\":\"write_file\",\"result\":1\x7d\n")

def writing (ids : List String) (reloads : List (Nat × Option (List FileEntry))) : List Step :=
  [.prompt Turn.noon "q", .turn (.stream .accepted)] ++
    ids.flatMap (fun id => [.turn (.stream (.chunk (wrote id))), .turn .send, .turn .deliver]) ++
    reloads.map (fun (reload, outcome) => .turn (.reloaded reload outcome)) ++
    [.turn (.stream .close), .close Turn.noon]

def oldFiles : List FileEntry := [⟨"a", "a", false, none⟩]

def newFiles : List FileEntry := [⟨"b", "b", false, none⟩]

def begins : Chat := .idle Turn.fresh

def idleFiles? : Chat → Option FileList
  | .idle d => some d.files
  | .busy _ => none

theorem idleRan {steps : List Step} {files : FileList}
    (ends : (begins.run steps).bind idleFiles? = some files) :
    ∃ d, begins.run steps = some (.idle d) ∧ d.files = files := by
  obtain ⟨c, ran, idle⟩ := Option.bind_eq_some_iff.mp ends
  cases c with
  | idle d => exact ⟨d, ran, Option.some.inj idle⟩
  | busy t => cases idle

def reloadedSteps : List Step :=
  .files (.ok oldFiles) :: writing ["1"] [(0, some newFiles)]

theorem reloadedShown : ∃ d, begins.run reloadedSteps = some (.idle d) ∧
    d.files.isSettled = true ∧
    ∃ files shown, d.showFiles (.ok oldFiles) = { d with files := files }.writeListing shown ∧
      FileList.Shown (begins.log news (reloadedSteps ++ [.files (.ok oldFiles)]))
        (.ok oldFiles) shown := by
  have ends : (begins.run reloadedSteps).bind idleFiles? =
      some ⟨some oldFiles, [newFiles], 1, [], some 0⟩ := by decide +kernel
  obtain ⟨d, ran, files⟩ := idleRan ends
  have waited : d.files.isSettled = true := by rw [files]; rfl
  exact ⟨d, ran, waited, listingShown 3 ⟨false, false, true, 20⟩ none reloadedSteps d
    (.ok oldFiles) ran waited⟩

def ShowsStale (steps : List Step) (answer : Except Failure (List FileEntry))
    (entries : List FileEntry) : Prop :=
  ∃ d, begins.run steps = some (.idle d) ∧ d.files.isSettled = true ∧
    (∃ files, d.showFiles answer = { d with files := files }.writeListing (.ok entries)) ∧
    ∀ other ∈ came (begins.log news (steps ++ [.files answer])), other.2 = entries →
      other.1.changes < changes (begins.log news (steps ++ [.files answer]))

theorem staleFiles {steps : List Step} {answer : Except Failure (List FileEntry)}
    {entries : List FileEntry} {files : FileList}
    (ends : (begins.run steps).bind idleFiles? = some files) (settled : files.isSettled = true)
    (shown : (files.refresh answer).1 = .ok entries)
    (old : ∀ other ∈ came (begins.log news (steps ++ [.files answer])), other.2 = entries →
      other.1.changes < changes (begins.log news (steps ++ [.files answer]))) :
    ShowsStale steps answer entries := by
  obtain ⟨d, ran, rfl⟩ := idleRan ends
  refine ⟨d, ran, settled, ⟨(d.files.refresh answer).2, ?_⟩, old⟩
  rw [← shown]
  rfl

def failedSteps : List Step := .files (.ok oldFiles) :: writing ["1"] [(0, none)]

def overtakenSteps : List Step := writing ["1", "2"] [(1, some newFiles), (0, some oldFiles)]

theorem staleShown : ShowsStale failedSteps (.ok newFiles) oldFiles ∧
    ShowsStale overtakenSteps (.ok newFiles) oldFiles := by
  have failed : (begins.run failedSteps).bind idleFiles? =
      some ⟨some oldFiles, [], 1, [], some 0⟩ := by decide +kernel
  have overtaken : (begins.run overtakenSteps).bind idleFiles? =
      some ⟨none, [newFiles, oldFiles], 2, [], some 1⟩ := by decide +kernel
  exact ⟨staleFiles failed rfl rfl (by decide +kernel),
    staleFiles overtaken rfl rfl (by decide +kernel)⟩

end Chat
end ChaincodeConsole
