import ChaincodeConsole.Proofs.Server.Segments
import ChaincodeConsole.Server.Request

/-! Identifiers in addresses. One that is written with plain characters becomes a segment of its own
in the path of a request, and no other request has that path. One with a mark of addresses in it,
an escape, or a step leaves its segment. -/
namespace ChaincodeConsole

namespace Endpoint

def front : Endpoint → List String
  | .conversations project | .chat ⟨_, project, _⟩ => ["api", "v1", "ai", toString project]
  | .conversation project _ => ["api", "v1", "ai", toString project, "conversations"]
  | .commits project | .archive project => ["api", "v1", "chaincode-projects", toString project]
  | .commitDiff project _ _ => ["api", "v1", "chaincode-projects", toString project, "commits"]
  | .fileContent project _ | .storeFile project _ _ | .listFiles project _ =>
    ["api", "v1", "chaincode-projects", toString project, "files"]
  | .nodeLogs node => ["api", "v1", "nodes", toString node]

def name : Endpoint → String
  | .conversations _ => "conversations"
  | .conversation _ id => id
  | .commits _ => "commits"
  | .commitDiff _ hash _ => hash
  | .fileContent _ _ => "read"
  | .storeFile _ _ _ => "write"
  | .listFiles _ _ => "list"
  | .chat _ => "chat"
  | .nodeLogs _ => "logs"
  | .archive _ => "download"

def back : Endpoint → List String
  | .commitDiff _ _ _ => ["diff"]
  | _ => []

def identifier? : Endpoint → Option String
  | .conversation _ id => some id
  | .commitDiff _ hash _ => some hash
  | _ => none

def queryText (e : Endpoint) : Option String :=
  (e.query.map Text.formPairs).bind fun cs => if cs.isEmpty then none else some (String.ofList cs)

def tail (e : Endpoint) : List Char :=
  e.front.flatMap (·.toList ++ ['/']) ++ (e.name.toList ++ e.back.flatMap ('/' :: ·.toList))

theorem pathIs (e : Endpoint) : e.path = "/" ++ String.ofList e.tail := by
  apply String.toList_injective
  delta path
  cases e <;> dsimp only [projectPath, tail, front, name, back] <;> simp

theorem naturalDigits (n : Nat) : ∀ c ∈ (toString n).toList, c.isDigit = true := by
  rw [Nat.toString_eq_ofList_toDigits, String.toList_ofList]
  exact fun c => Nat.isDigit_of_mem_toDigits (by decide) (by decide)

theorem naturalInjective {m n : Nat} (same : toString m = toString n) : m = n := by
  rw [Nat.toString_eq_ofList_toDigits, Nat.toString_eq_ofList_toDigits] at same
  simpa using congrArg (Nat.ofDigitChars 10 · 0) (String.ofList_injective same)

theorem negativeWritten (n : Nat) :
    (toString (Int.negSucc n)).toList = '-' :: (toString (n + 1)).toList :=
  String.toList_append

theorem integerInjective {a b : Int} (same : toString a = toString b) : a = b := by
  have apart (m n : Nat) : toString m ≠ toString (Int.negSucc n) := by
    intro same
    have digits := naturalDigits m
    rw [same, negativeWritten] at digits
    cases digits '-' List.mem_cons_self
  cases a with
  | ofNat m =>
    cases b with
    | ofNat n => exact congrArg Int.ofNat (naturalInjective same)
    | negSucc n => exact absurd same (apart m n)
  | negSucc m =>
    cases b with
    | ofNat n => exact absurd same.symm (apart n m)
    | negSucc n =>
      have digits := congrArg String.toList same
      rw [negativeWritten, negativeWritten] at digits
      have whole := naturalInjective (String.toList_injective (List.cons.inj digits).2)
      rw [Nat.succ.inj whole]

theorem integerWord (n : Int) : Url.Word (toString n).toList := by
  have natural (n : Nat) : Url.Word (toString n).toList := fun c inside => by
    simp [Url.isWordChar, Char.isAlphanum, naturalDigits n c inside]
  cases n with
  | ofNat n => exact natural n
  | negSucc n =>
    rw [negativeWritten]
    exact List.forall_mem_cons.mpr ⟨by decide, natural (n + 1)⟩

theorem frontWords (e : Endpoint) : ∀ s ∈ e.front, Url.Word s.toList := by
  have integer (n : Int) : Url.Word n.repr.toList := integerWord n
  cases e <;> simp +decide [front, integer]

theorem backCases (e : Endpoint) : e.back = [] ∨
    e.back = ["diff"] ∧ ∃ key value, e.query = some [(key, value)] := by
  cases e with
  | commitDiff _ _ file => exact .inr ⟨rfl, "file", file, rfl⟩
  | _ => exact .inl rfl

theorem diffWord : Url.Word "diff".toList := by decide

/-- What is asked for keeps to its segment. -/
structure Plain (e : Endpoint) : Prop where
  segment : Url.Plain e.name.toList
  closed : e.back = [] → Url.Closed e.name.toList

theorem wordsPlain {e : Endpoint} (fixed : e.identifier? = none) : e.Plain := by
  have word : Url.Word e.name.toList := by
    cases e with
    | conversation _ _ => cases fixed
    | commitDiff _ _ _ => cases fixed
    | _ =>
      dsimp only [name]
      decide
  exact ⟨Url.wordPlain word, fun _ => Url.wordClosed word⟩

def asked (e : Endpoint) (u : Url) : Url := (e.query.map u.withQuery).getD u

end Endpoint

/-- The server's address and credentials allow requests, and its address ends in a path. -/
structure Server.At (s : Server) (u : Url) : Prop where
  read : Url.ofText (s.baseUrl ++ "/") = .ok u
  web : u.scheme = "http" ∨ u.scheme = "https"
  hosted : u.hasHost = true
  sound : (u.host.getD "").toList.any Request.isStrayHostChar = false
  queryless : u.query = none
  bare : u.fragment = none
  credentials : (s.authorization.getD "").toList.all Request.isHeaderChar = true

namespace Endpoint

theorem askedKeeps (e : Endpoint) (u : Url) : (e.asked u).scheme = u.scheme ∧
    (e.asked u).host = u.host ∧ (e.asked u).segments = u.segments ∧
      (e.asked u).fragment = u.fragment := by
  unfold asked
  cases e.query <;> exact ⟨rfl, rfl, rfl, rfl⟩

theorem madeAt {s : Server} {u : Url} (ready : s.At u) : ∃ held : List (List Char),
    u.segments = held.reverse.map String.ofList ++ [""] ∧ ∀ e : Endpoint, ∃ r,
      Request.make s e = .ok r ∧ r.url = e.asked (u.behind held (Url.tidied e.tail)) := by
  have web : Url.mannerOf u.scheme = .web := by
    rcases ready.web with plain | secure
    · rw [plain]
      decide
    · rw [secure]
      decide
  obtain ⟨held, own, goes⟩ := Url.addressGoesOn ready.read web ready.queryless ready.bare
  refine ⟨held, own, fun e => ?_⟩
  have read := goes e.tail
  rw [String.append_assoc, ← pathIs] at read
  have scheme : (e.asked (u.behind held (Url.tidied e.tail))).scheme = u.scheme := by
    rw [(askedKeeps e _).1, Url.behindScheme]
  have host : (e.asked (u.behind held (Url.tidied e.tail))).host = u.host := by
    rw [(askedKeeps e _).2.1, Url.behindHost]
  have hosted : (u.behind held (Url.tidied e.tail)).hasHost = true := by
    rw [Url.hasHost, Url.behindHost]
    exact ready.hosted
  have allowed : ¬(u.scheme ≠ "http" ∧ u.scheme ≠ "https") :=
    fun ⟨plain, secure⟩ => ready.web.elim plain secure
  refine ⟨⟨e.method, _, e.accept, s.authorization, e.body⟩, ?_, rfl⟩
  unfold Request.make
  rw [read]
  simp only [Except.mapError, bind, Except.bind, hosted, ready.credentials, ← asked.eq_1, scheme,
    host, ready.sound, allowed, Bool.not_true, Bool.false_eq_true, if_false]
  rfl

/-- A request has the documented segments, one of which decodes to the name of what is asked for,
and nothing but the documented query behind them. -/
structure Stays (u : Url) (e : Endpoint) (r : Request) : Prop where
  kept : ∃ segment, Text.percentDecoded segment.toList = Text.utf8 e.name ∧ r.url = { u with
    segments := u.segments.dropLast ++ e.front ++ segment :: e.back
    query := e.queryText
    fragment := none }

theorem frontHeld (e : Endpoint) (held : List (List Char)) :
    ((e.front.map String.toList).reverse ++ held).reverse.map String.ofList =
      held.reverse.map String.ofList ++ e.front := by
  simp

theorem plainPath {e : Endpoint} (plain : e.Plain) (u : Url) (held : List (List Char)) :
    u.behind held (Url.tidied e.tail) = { u with
      segments := held.reverse.map String.ofList ++ e.front ++
        String.ofList (Text.percentChars Url.keptInPath e.name.toList) :: e.back
      query := none
      fragment := none } := by
  rw [tail, Url.behindWords e.frontWords]
  rcases backCases e with last | ⟨more, -⟩
  · have whole := Url.tidiedClosed plain.segment (plain.closed last)
    rw [last, List.flatMap_nil, List.append_nil, whole, plain.segment.behindLast, frontHeld]
  · rw [more, List.flatMap_singleton, plain.segment.tidiedOn, plain.segment.behindOn,
      Url.tidiedWord diffWord, (Url.wordPlain diffWord).behindLast, Url.wordKept diffWord,
      List.reverse_cons, List.map_append, frontHeld]
    simp

theorem askedQuery {e : Endpoint} {u : Url} (queryless : u.query = none) :
    e.asked u = { u with query := e.queryText } := by
  unfold asked queryText
  cases e.query with
  | none =>
    cases u
    cases queryless
    rfl
  | some pairs =>
    cases pairs <;> simp [Url.withQuery, queryless, Text.formPairs]

theorem queryOne {e : Endpoint} {key value : String} (asks : e.query = some [(key, value)]) :
    e.queryText = some (String.ofList (Text.formPairs [(key, value)])) := by
  have filled : (Text.formPairs [(key, value)]).isEmpty = false := by
    simp [Text.formOne]
  rw [queryText, asks, Option.map_some, Option.bind_some, filled, if_neg Bool.false_ne_true]

theorem askedAlone {e : Endpoint} {u : Url} {key value : String}
    (asks : e.query = some [(key, value)]) (query : (e.asked u).query = e.queryText) :
    u.query.getD "" = "" := by
  cases old : (u.query.getD "").toList with
  | nil => exact String.toList_eq_nil_iff.mp old
  | cons c cs =>
    have written : (e.asked u).query =
        some (String.ofList (c :: cs ++ '&' :: Text.formPairs [(key, value)])) := by
      rw [asked, asks, Option.map_some, Option.getD_some]
      simp only [Url.withQuery, old]
      rfl
    rw [written, queryOne asks] at query
    have longer := congrArg List.length (String.ofList_injective (Option.some.inj query))
    simp only [List.length_append, List.length_cons] at longer
    omega

theorem plainStays {u : Url} {held : List (List Char)}
    (own : u.segments = held.reverse.map String.ofList ++ [""]) {e : Endpoint} (plain : e.Plain)
    {r : Request} (url : r.url = e.asked (u.behind held (Url.tidied e.tail))) : e.Stays u r := by
  refine ⟨String.ofList (Text.percentChars Url.keptInPath e.name.toList), ?_, ?_⟩
  · rw [String.toList_ofList, Text.decodedEncoded Url.keptSound]
    exact Text.decodedIff.mpr plain.segment.unescaped
  · rw [url, plainPath plain, askedQuery rfl, own, List.dropLast_concat]

theorem staysPlain {u : Url} {held : List (List Char)}
    (own : u.segments = held.reverse.map String.ofList ++ [""]) {e : Endpoint} {r : Request}
    (url : r.url = e.asked (u.behind held (Url.tidied e.tail))) (stays : e.Stays u r) :
    e.Plain := by
  obtain ⟨segment, decoded, made⟩ := stays
  obtain ⟨-, -, segments, fragment⟩ := askedKeeps e (u.behind held (Url.tidied e.tail))
  have query : (e.asked (u.behind held (Url.tidied e.tail))).query = e.queryText := by
    rw [← url, made]
  rw [← url, made] at segments fragment
  rw [own, List.dropLast_concat] at segments
  rw [tail, Url.behindWords e.frontWords] at segments fragment query
  rw [← frontHeld] at segments
  rcases backCases e with last | ⟨more, key, value, asks⟩
  · rw [last, List.flatMap_nil, List.append_nil] at segments
    obtain ⟨plain, closed⟩ := Url.lastWhole segments.symm decoded
    exact ⟨plain, fun _ => closed⟩
  · have queryless := askedAlone asks query
    rw [more, List.flatMap_singleton] at segments fragment queryless
    have plain := Url.innerWhole diffWord rfl fragment.symm queryless segments.symm decoded
    exact ⟨plain, by simp [more]⟩

theorem staysAlone {u : Url} {e other : Endpoint} {r : Request}
    (named : e.identifier?.isSome = true) (stays : e.Stays u r) (others : other.Stays u r) :
    other = e := by
  obtain ⟨segment, decoded, made⟩ := stays
  obtain ⟨segment', decoded', made'⟩ := others
  rw [made] at made'
  have query : e.queryText = other.queryText := congrArg Url.query made'
  have segments := congrArg Url.segments made'
  simp only [List.append_assoc, List.append_cancel_left_eq] at segments
  have alike (same : segment = segment') : e.name = other.name := by
    subst same
    exact Text.utf8Injective (decoded.symm.trans decoded')
  cases e with
  | conversation project id =>
    cases other <;> simp only [front, back, List.cons_append, List.nil_append, List.cons.injEq,
      String.reduceEq, reduceCtorEq, and_true, true_and, and_false, false_and] at segments
    case conversation project' id' =>
      obtain ⟨projects, same⟩ := segments
      obtain rfl : id = id' := alike same
      obtain rfl : project = project' := integerInjective projects
      rfl
  | commitDiff project hash file =>
    cases other <;> simp only [front, back, List.cons_append, List.nil_append, List.cons.injEq,
      String.reduceEq, reduceCtorEq, and_true, true_and, and_false] at segments
    case commitDiff project' hash' file' =>
      obtain ⟨projects, same⟩ := segments
      obtain rfl : hash = hash' := alike same
      obtain rfl : project = project' := integerInjective projects
      rw [queryOne rfl, queryOne rfl, Option.some.injEq, String.ofList_inj, Text.formOne,
        Text.formOne, List.append_cancel_left_eq, List.cons.injEq] at query
      obtain rfl : file = file' := String.toList_injective (Text.formInjective query.2)
      rfl
  | _ => cases named

/-- For a server that can be asked, every endpoint makes a request. It stays with its endpoint
exactly if the endpoint is plain. Then, if it has an identifier, no other endpoint makes the same
request, unless it is one with an identifier that is not plain. -/
theorem identifiersKept {s : Server} {u : Url} (ready : s.At u) (e : Endpoint) :
    ∃ r, Request.make s e = .ok r ∧ (e.Stays u r ↔ e.Plain) ∧
      (e.identifier?.isSome = true → e.Plain → ∀ other : Endpoint,
        (other.identifier?.isSome = true → other.Plain) → Request.make s other = .ok r →
          other = e) := by
  obtain ⟨held, own, makes⟩ := madeAt ready
  obtain ⟨r, made, url⟩ := makes e
  refine ⟨r, made, ⟨staysPlain own url, fun plain => plainStays own plain url⟩, ?_⟩
  intro named plain other unlessPlain same
  have otherPlain : other.Plain := by
    cases id : other.identifier? with
    | none => exact wordsPlain id
    | some id' => exact unlessPlain (by rw [id]; rfl)
  obtain ⟨twin, otherMade, otherUrl⟩ := makes other
  obtain rfl : twin = r := Except.ok.inj (otherMade.symm.trans same)
  exact staysAlone named (plainStays own plain url) (plainStays own otherPlain otherUrl)

def loopback : Server := ⟨"http://[::1]:8080", none⟩

def loopbackUrl : Url := ⟨"http", some "[::1]", some 8080, true, [""], none, none⟩

theorem loopbackKept : loopback.At loopbackUrl ∧ ∃ r,
    Request.make loopback (.commitDiff 3 "100% é" "a b") = .ok r ∧
      (commitDiff 3 "100% é" "a b").Stays loopbackUrl r ∧
        ∀ other : Endpoint, (other.identifier?.isSome = true → other.Plain) →
          Request.make loopback other = .ok r → other = .commitDiff 3 "100% é" "a b" := by
  have ready : loopback.At loopbackUrl :=
    ⟨by decide +kernel, .inl rfl, rfl, by decide +kernel, rfl, rfl, rfl⟩
  have plain : (commitDiff 3 "100% é" "a b").Plain :=
    ⟨⟨by simp [name, Url.marks], by decide, Text.decodedIff.mp (by decide)⟩,
      fun last => by cases last⟩
  obtain ⟨r, made, stays, alone⟩ := identifiersKept ready (.commitDiff 3 "100% é" "a b")
  exact ⟨ready, r, made, stays.mpr plain, alone rfl plain⟩

theorem identifierClimbs : ∃ r, Request.make loopback (.conversation 3 "../conversations") = .ok r ∧
    Request.make loopback (.conversations 3) = .ok r := by
  refine ⟨⟨.get, { loopbackUrl with
    segments := ["api", "v1", "ai", "3", "conversations"] }, "*/*", none, none⟩, ?_, ?_⟩
  · decide +kernel
  · decide +kernel

end Endpoint

end ChaincodeConsole
