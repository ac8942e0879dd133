import ChaincodeConsole.Proofs.Chat.Sessions
import ChaincodeConsole.Terminal

/-! A terminal in the course of a session. What an operation prints is a piece, which depends on
the session and on the options; how it is put on the screen depends on the two flags alone, the
text that is open and the preview that is drawn. -/
namespace ChaincodeConsole

/-- What is to be printed: nothing, text of the reply, or a block on lines of its own, with the
view that is kept of it. -/
inductive Piece where
  | nothing
  | text (delta : String)
  | block (texts : List String) (view : Option View)
  deriving DecidableEq, Repr

namespace Terminal

def erasure (t : Terminal) : List Emission := if t.previewShown then [.erase] else []

def lineEnd (t : Terminal) : List Emission := if t.inText then [.lasting "\n"] else []

def speech (t : Terminal) (delta : String) : String :=
  if t.inText then delta else t.paint .cyan "assistant> " ++ delta

def put (t : Terminal) : Piece → Written
  | .nothing => ([], t)
  | .text delta =>
    (t.erasure ++ [.lasting (t.speech delta)], { t with inText := true, previewShown := false })
  | .block texts view =>
    (t.erasure ++ t.lineEnd ++ texts.map .lasting,
      { t with inText := false, previewShown := false, lastView := view <|> t.lastView })

theorem finishTurnPuts (t : Terminal) : t.finishTurn = t.put (.block [] none) := by
  obtain ⟨options, inText, previewShown, lastView⟩ := t
  cases inText <;> cases previewShown <;> rfl

theorem printLinePuts (text : String) (t : Terminal) :
    t.printLine text = t.put (.block [text ++ "\n"] none) := by
  rw [printLine, finishTurnPuts]
  simp [andThen, write, put]

theorem onTextPuts (delta : String) (t : Terminal) : t.onText delta = t.put (.text delta) := by
  obtain ⟨options, inText, previewShown, lastView⟩ := t
  cases inText <;> cases previewShown <;> rfl

def callPiece (o : TerminalOptions) (phase : Phase) (call : ToolCall) : Piece :=
  let t := start o
  let v := Display.call call o.maxViewLines
  match phase with
  | .start => .block [t.paint .grey ("⚙ " ++ call.name) ++ "\n"] none
  | .update => .nothing
  | .execute => if o.showArguments && !v.lines.isEmpty then .block [t.viewText v] none else .nothing
  | .result => .block [t.viewText v] (some v)

theorem onCallPuts (phase : Phase) (call : ToolCall) (t : Terminal) :
    t.onCall phase call = t.put (callPiece t.options phase call) := by
  cases phase with
  | start => exact printLinePuts _ t
  | update => rfl
  | execute =>
    simp only [onCall, callPiece]
    split
    · rw [finishTurnPuts]
      simp only [andThen, printView, write, put, List.map_nil, List.append_nil, List.map_cons]
      rfl
    · rfl
  | result =>
    simp only [onCall, callPiece, finishTurnPuts]
    simp only [andThen, printView, write, put, List.map_nil, List.append_nil, List.map_cons]
    rfl

def changePiece (o : TerminalOptions) (s : Session) : Change → Piece
  | .text delta => .text delta
  | .tool id phase =>
    match s.findCall? id with
    | some call => callPiece o phase call
    | none => .nothing
  | .stepsExhausted message =>
    .block [(start o).paint .yellow
      (limitText message ++ "; send a follow-up to let the assistant continue") ++ "\n"] none
  | .ignored => .nothing

theorem onChangePuts (s : Session) (change : Change) (t : Terminal) :
    t.onChange s change = t.put (changePiece t.options s change) := by
  cases change with
  | text delta => exact onTextPuts delta t
  | tool id phase =>
    simp only [onChange, changePiece]
    cases s.findCall? id with
    | none => rfl
    | some call => exact onCallPuts phase call t
  | stepsExhausted message => exact printLinePuts _ t
  | ignored => rfl

end Terminal

structure Screen where
  session : Session
  terminal : Terminal
  deriving DecidableEq, Repr

namespace Screen

inductive Step where
  | act (a : Session.Action)
  | line (text : String)
  | notice (text : String)
  | error (text : String)
  | finishTurn
  | tick
  deriving DecidableEq, Repr

def Step.isTick : Step → Bool
  | .tick => true
  | _ => false

/-- The steps that leave the cursor on a line of its own, with nothing to be continued. -/
def Step.isClosing : Step → Bool
  | .line _ | .notice _ | .error _ | .finishTurn => true
  | .act _ | .tick => false

def write (c : Screen) (f : Terminal → Written) : List Emission × Screen :=
  let (out, t) := f c.terminal
  (out, { c with terminal := t })

def step (c : Screen) : Step → List Emission × Screen
  | .act (.event e) =>
    let a := c.session.apply e
    { c with session := a.session }.write (Terminal.onChange a.session a.change)
  | .act a => ([], { c with session := c.session.act a })
  | .line text => c.write (Terminal.line text)
  | .notice text => c.write (Terminal.notice text)
  | .error text => c.write (Terminal.showError text)
  | .finishTurn => c.write Terminal.finishTurn
  | .tick => c.write (Terminal.preview c.session)

def run (c : Screen) : List Step → List Emission × Screen
  | [] => ([], c)
  | x :: rest =>
    let (out, next) := c.step x
    let (more, last) := next.run rest
    (out ++ more, last)

def sessionAfter (s : Session) : Step → Session
  | .act a => s.act a
  | _ => s

def piece (o : TerminalOptions) (s : Session) : Step → Piece
  | .act (.event e) => Terminal.changePiece o (s.apply e).session (s.apply e).change
  | .act _ | .tick => .nothing
  | .line text => .block [text ++ "\n"] none
  | .notice text => .block [(Terminal.start o).paint .grey text ++ "\n"] none
  | .error text => .block [(Terminal.start o).paint .red ("error: " ++ text) ++ "\n"] none
  | .finishTurn => .block [] none

theorem stepPuts (c : Screen) {x : Step} (other : x.isTick = false) :
    c.step x = ((c.terminal.put (piece c.terminal.options c.session x)).1,
      ⟨sessionAfter c.session x, (c.terminal.put (piece c.terminal.options c.session x)).2⟩) := by
  cases x with
  | act a =>
    cases a with
    | event e =>
      simp only [step, write, Terminal.onChangePuts]
      rfl
    | _ => rfl
  | line text | notice text | error text =>
    simp only [step, write, Terminal.line, Terminal.notice, Terminal.showError,
      Terminal.printLinePuts]
    rfl
  | finishTurn =>
    simp only [step, write, Terminal.finishTurnPuts]
    rfl
  | tick => cases other

/-- All that a step can do. A tick draws the preview, or there is nothing to show. -/
inductive Steps (c : Screen) : Step → List Emission × Screen → Prop where
  | puts {x : Step} (other : x.isTick = false) :
      Steps c x ((c.terminal.put (piece c.terminal.options c.session x)).1,
        ⟨sessionAfter c.session x, (c.terminal.put (piece c.terminal.options c.session x)).2⟩)
  | silent : Steps c .tick ([], c)
  | drawn (text : String) (interactive : c.terminal.options.interactive = true)
      (closed : c.terminal.inText = false) :
      Steps c .tick ([.erase, .preview text],
        { c with terminal := { c.terminal with previewShown := true } })

theorem stepCases (c : Screen) (x : Step) : c.Steps x (c.step x) := by
  cases tick : x.isTick with
  | false =>
    rw [stepPuts c tick]
    exact .puts tick
  | true =>
    cases x with
    | tick =>
      simp only [step, write, Terminal.preview]
      split
      · exact .silent
      · rename_i drawn
        simp only [Bool.or_eq_true, Bool.not_eq_true', not_or, Bool.not_eq_false,
          Bool.not_eq_true] at drawn
        split
        · exact .drawn _ drawn.1 drawn.2
        · exact .silent
    | _ => cases tick

theorem runAppend (c : Screen) (front rest : List Step) :
    c.run (front ++ rest) = ((c.run front).1 ++ ((c.run front).2.run rest).1,
      ((c.run front).2.run rest).2) := by
  induction front generalizing c with
  | nil => rfl
  | cons x front ih =>
    simp only [List.cons_append, run, ih, List.append_assoc]

end Screen
end ChaincodeConsole
