import ChaincodeConsole.Proofs.Terminal.Screens
import Mathlib.Data.List.Induction

/-! Lines of plain output, without colours and previews. The text of the reply stays open until
something else is printed, and then its line is ended first; all else that is printed begins and
ends a line. -/
namespace ChaincodeConsole

def EndsLine (text : String) : Prop := text.toList.getLast? = some '\n'

namespace Emission

def AtLineStart (out : List Emission) : Prop := ∀ c ∈ (joined out).toList.getLast?, c = '\n'

theorem joinedAppend (a b : List Emission) : joined (a ++ b) = joined a ++ joined b := by
  rw [joined, List.map_append, String.join_append]
  rfl

theorem joinedOne (text : String) : joined [.lasting text] = text := by
  simp [joined, Emission.text]

theorem endedStart {out : List Emission} {e : Emission} (ends : EndsLine e.text) :
    AtLineStart (out ++ [e]) := by
  intro c last
  have one : joined [e] = e.text := by simp [joined]
  rw [joinedAppend, one, String.toList_append, List.getLast?_append, Option.mem_def, ends,
    Option.some_or] at last
  exact (Option.some.inj last).symm

theorem endedLines {out more : List Emission} (begins : AtLineStart out ∨ more ≠ [])
    (ends : ∀ e ∈ more, EndsLine e.text) : AtLineStart (out ++ more) := by
  rcases List.eq_nil_or_concat more with rfl | ⟨front, e, rfl⟩
  · rw [List.append_nil]
    exact begins.resolve_right (absurd rfl)
  · rw [List.concat_eq_append, ← List.append_assoc]
    exact endedStart (ends e (by simp))

end Emission

def Piece.delta? : Piece → Option String
  | .text delta => some delta
  | _ => none

namespace Terminal

theorem feedEnds (text : String) : EndsLine (text ++ "\n") := by
  rw [EndsLine, String.toList_append, List.getLast?_append]
  rfl

theorem viewEnds (t : Terminal) (v : View) : EndsLine (t.viewText v) := by
  have lines (text : String) (ends : EndsLine text) (more : List ViewLine) :
      EndsLine (text ++ String.join (more.map t.viewLine)) := by
    induction more generalizing text with
    | nil => simpa using ends
    | cons line more ih =>
      rw [List.map_cons, String.join_cons, ← String.append_assoc]
      refine ih _ ?_
      rw [viewLine, ← String.append_assoc]
      exact feedEnds _
  exact lines _ (feedEnds _) v.lines

theorem callEnds {o : TerminalOptions} {phase : Phase} {call : ToolCall} {texts : List String}
    {view : Option View} (piece : callPiece o phase call = .block texts view) :
    ∀ text ∈ texts, EndsLine text := by
  cases phase with
  | start =>
    cases piece
    simpa using feedEnds _
  | update => cases piece
  | execute =>
    simp only [callPiece] at piece
    split at piece <;> cases piece
    simpa using viewEnds _ _
  | result =>
    cases piece
    simpa using viewEnds _ _

theorem changeEnds {o : TerminalOptions} {s : Session} {change : Change} {texts : List String}
    {view : Option View} (piece : changePiece o s change = .block texts view) :
    ∀ text ∈ texts, EndsLine text := by
  cases change with
  | text delta => cases piece
  | tool id phase =>
    simp only [changePiece] at piece
    split at piece
    · exact callEnds piece
    · cases piece
  | stepsExhausted message =>
    cases piece
    simpa using feedEnds _
  | ignored => cases piece

end Terminal

namespace Screen

open Emission (AtLineStart joined)

theorem blockEnds {o : TerminalOptions} {s : Session} {x : Step} {texts : List String}
    {view : Option View} (block : piece o s x = .block texts view) :
    ∀ text ∈ texts, EndsLine text := by
  cases x with
  | act a =>
    cases a with
    | event e => exact Terminal.changeEnds block
    | _ => cases block
  | line text | notice text | error text =>
    cases block
    simpa using Terminal.feedEnds _
  | finishTurn =>
    cases block
    nofun
  | tick => cases block

def spoken? (c : Screen) : Step → Option String
  | .act (.event e) =>
    match (c.session.apply e).change with
    | .text delta => some delta
    | _ => none
  | _ => none

def spoken (c : Screen) : List Step → List String
  | [] => []
  | x :: rest => (c.spoken? x).toList ++ (c.step x).2.spoken rest

/-- Every step adds text to the reply or prints nothing. -/
def Unbroken (c : Screen) : List Step → Prop
  | [] => True
  | x :: rest => ((c.spoken? x).isSome ∨ (c.step x).1 = []) ∧ (c.step x).2.Unbroken rest

def Speaking (c : Screen) (steps : List Step) : Prop :=
  ∃ before x after, steps = before ++ x :: after ∧ ((c.run before).2.spoken? x).isSome ∧
    ((c.run (before ++ [x])).2.run after).1 = []

/-- The lines in the output of a run: everything begins a line but what goes on with the text of the
reply or ends it. -/
structure Disciplined (c : Screen) (steps : List Step) : Prop where
  begins : ∀ front x rest before e after, steps = front ++ x :: rest →
    ((c.run front).2.step x).1 = before ++ e :: after →
    AtLineStart ((c.run front).1 ++ before) ∨ c.Speaking front ∧ before = [] ∧
      (e = .lasting "\n" ∨ ∃ delta, (c.run front).2.spoken? x = some delta ∧ e = .lasting delta)
  series : ∀ front x more rest, steps = front ++ x :: more ++ rest → ¬c.Speaking front →
    ((c.run front).2.spoken? x).isSome → (c.run front).2.Unbroken (x :: more) →
    joined ((c.run front).2.run (x :: more)).1 =
      "assistant> " ++ String.join ((c.run front).2.spoken (x :: more))
  closes : ∀ front x rest, steps = front ++ x :: rest → x.isClosing = true →
    AtLineStart (c.run (front ++ [x])).1

structure Plain (c : Screen) : Prop where
  colour : c.terminal.options.colour = false
  interactive : c.terminal.options.interactive = false
  preview : c.terminal.previewShown = false

inductive Prints (inText : Bool) : Option String → List Emission → Bool → Prop where
  | nothing : Prints inText none [] inText
  | text (delta : String) : Prints inText (some delta)
      [.lasting (if inText then delta else "assistant> " ++ delta)] true
  | block (texts : List String) (lines : ∀ text ∈ texts, EndsLine text) : Prints inText none
      ((if inText then [.lasting "\n"] else []) ++ texts.map .lasting) false

theorem blockLines (inText : Bool) {texts : List String} (lines : ∀ text ∈ texts, EndsLine text) :
    ∀ e ∈ (if inText then [.lasting "\n"] else []) ++ texts.map Emission.lasting,
      EndsLine e.text := by
  intro e inside
  rcases List.mem_append.mp inside with feed | block
  · cases inText with
    | true =>
      cases List.mem_singleton.mp feed
      rfl
    | false => cases feed
  · obtain ⟨text, used, rfl⟩ := List.mem_map.mp block
    exact lines text used

theorem spokenPiece (c : Screen) (x : Step) :
    c.spoken? x = (piece c.terminal.options c.session x).delta? := by
  have silent (o : TerminalOptions) (phase : Phase) (call : ToolCall) :
      (Terminal.callPiece o phase call).delta? = none := by
    cases phase with
    | execute =>
      simp only [Terminal.callPiece]
      split <;> rfl
    | _ => rfl
  cases x with
  | act a =>
    cases a with
    | event e =>
      simp only [spoken?, piece]
      cases (c.session.apply e).change with
      | tool id phase =>
        simp only [Terminal.changePiece]
        split
        · exact (silent _ _ _).symm
        · rfl
      | _ => rfl
    | _ => rfl
  | _ => rfl

theorem stepPrints {c : Screen} (plain : c.Plain) (x : Step) : (c.step x).2.Plain ∧
    Prints c.terminal.inText (c.spoken? x) (c.step x).1 (c.step x).2.terminal.inText := by
  have moves := c.stepCases x
  generalize c.step x = moved at moves ⊢
  cases moves with
  | silent => exact ⟨plain, .nothing⟩
  | drawn text interactive => cases plain.interactive.symm.trans interactive
  | puts =>
    have spoken := c.spokenPiece x
    have erasure : c.terminal.erasure = [] := by simp [Terminal.erasure, plain.preview]
    cases printed : piece c.terminal.options c.session x with
    | nothing =>
      rw [printed] at spoken
      rw [spoken]
      exact ⟨⟨plain.colour, plain.interactive, plain.preview⟩, .nothing⟩
    | text delta =>
      rw [printed] at spoken
      rw [spoken]
      refine ⟨⟨plain.colour, plain.interactive, rfl⟩, ?_⟩
      simp only [Terminal.put, erasure, List.nil_append, Terminal.speech, Terminal.paint,
        plain.colour, Bool.false_eq_true, if_false]
      exact .text delta
    | block texts view =>
      rw [printed] at spoken
      rw [spoken]
      refine ⟨⟨plain.colour, plain.interactive, rfl⟩, ?_⟩
      simp only [Terminal.put, erasure, List.nil_append, Terminal.lineEnd]
      exact .block texts (blockEnds printed)

theorem runSnoc (c : Screen) (front : List Step) (x : Step) : c.run (front ++ [x]) =
    ((c.run front).1 ++ ((c.run front).2.step x).1, ((c.run front).2.step x).2) := by
  rw [runAppend]
  simp only [run, List.append_nil]

theorem speakingSnoc (c : Screen) (front : List Step) (x : Step) : c.Speaking (front ++ [x]) ↔
    ((c.run front).2.spoken? x).isSome ∨ c.Speaking front ∧ ((c.run front).2.step x).1 = [] := by
  constructor
  · rintro ⟨before, y, after, split, said, nothing⟩
    rcases List.eq_nil_or_concat after with rfl | ⟨after, z, rfl⟩
    · obtain ⟨rfl, last⟩ := List.append_inj' split rfl
      cases last
      exact .inl said
    · rw [List.concat_eq_append] at split nothing
      have same : front ++ [x] = before ++ y :: after ++ [z] := by simpa using split
      obtain ⟨rfl, last⟩ := List.append_inj' same rfl
      cases last
      rw [runSnoc, List.append_eq_nil_iff] at nothing
      refine .inr ⟨⟨before, y, after, rfl, said, nothing.1⟩, ?_⟩
      have same : before ++ y :: after = before ++ [y] ++ after := by simp
      rw [same, runAppend]
      exact nothing.2
  · rintro (said | ⟨⟨before, y, after, rfl, said, nothing⟩, rest⟩)
    · exact ⟨front, x, [], rfl, said, rfl⟩
    · refine ⟨before, y, after ++ [x], by simp, said, ?_⟩
      have same : before ++ y :: after = before ++ [y] ++ after := by simp
      rw [same, runAppend] at rest
      rw [runSnoc, nothing]
      exact rest

/-- The flag of a terminal tells whether text was printed last; if not, a line has ended. -/
structure Follows (c : Screen) (front : List Step) : Prop where
  plain : (c.run front).2.Plain
  speaking : (c.run front).2.terminal.inText = true ↔ c.Speaking front
  ended : (c.run front).2.terminal.inText = false → AtLineStart (c.run front).1

theorem followsStep {c : Screen} {front : List Step} (follows : c.Follows front) (x : Step) :
    c.Follows (front ++ [x]) := by
  obtain ⟨plain, speaking, ended⟩ := follows
  obtain ⟨still, prints⟩ := stepPrints plain x
  have speaks := c.speakingSnoc front x
  have after := c.runSnoc front x
  generalize (c.run front).2.terminal.inText = inText at *
  generalize told : (c.run front).2.spoken? x = said at *
  generalize ((c.run front).2.step x).1 = out at *
  generalize later : ((c.run front).2.step x).2 = next at *
  generalize flag : next.terminal.inText = now at *
  refine ⟨by rw [after]; exact still, ?_, ?_⟩
  · rw [after, speaks, ← speaking, flag]
    cases prints with
    | nothing => simp
    | text delta => simp
    | block texts lines => cases inText <;> simp
  · rw [after, flag]
    cases prints with
    | nothing =>
      rw [List.append_nil]
      exact ended
    | text delta => nofun
    | block texts lines =>
      intro
      refine Emission.endedLines ?_ (blockLines _ lines)
      cases inText with
      | true => exact .inr (by simp)
      | false => exact .inl (ended rfl)

theorem followsRun {c : Screen} (start : c.Follows []) (front : List Step) : c.Follows front := by
  induction front using List.reverseRecOn with
  | nil => exact start
  | append_singleton front x ih => exact followsStep ih x

theorem openSeries {c : Screen} (plain : c.Plain) (inText : c.terminal.inText = true)
    {more : List Step} (unbroken : c.Unbroken more) :
    joined (c.run more).1 = String.join (c.spoken more) := by
  induction more generalizing c with
  | nil => rfl
  | cons x more ih =>
    obtain ⟨still, prints⟩ := stepPrints plain x
    obtain ⟨first, rest⟩ := unbroken
    rw [run, spoken]
    dsimp only
    rw [Emission.joinedAppend, String.join_append]
    generalize (c.step x).1 = out at *
    generalize c.spoken? x = said at *
    generalize flag : (c.step x).2.terminal.inText = now at *
    rw [inText] at prints
    cases prints with
    | nothing => rw [ih still flag rest]; rfl
    | text delta =>
      rw [ih still flag rest, if_pos rfl, Emission.joinedOne]
      simp
    | block texts lines => simp at first

theorem firstSeries {c : Screen} (plain : c.Plain) (closed : c.terminal.inText = false) {x : Step}
    {more : List Step} (said : (c.spoken? x).isSome) (unbroken : (c.step x).2.Unbroken more) :
    joined (c.run (x :: more)).1 = "assistant> " ++ String.join (c.spoken (x :: more)) := by
  obtain ⟨still, prints⟩ := stepPrints plain x
  rw [run, spoken]
  dsimp only
  rw [Emission.joinedAppend, String.join_append]
  generalize (c.step x).1 = out at *
  generalize c.spoken? x = told at *
  generalize flag : (c.step x).2.terminal.inText = now at *
  rw [closed] at prints
  cases prints with
  | nothing | block => cases said
  | text delta =>
    rw [openSeries still flag unbroken, if_neg Bool.false_ne_true, Emission.joinedOne]
    simp [String.append_assoc]

theorem printsBegin {inText now : Bool} {said : Option String} {e : Emission}
    {out earlier before after : List Emission} (prints : Prints inText said out now)
    (printed : out = before ++ e :: after)
    (ended : inText = false → AtLineStart earlier) :
    AtLineStart (earlier ++ before) ∨ inText = true ∧ before = [] ∧
      (e = .lasting "\n" ∨ ∃ delta, said = some delta ∧ e = .lasting delta) := by
  cases before with
  | nil =>
    cases inText with
    | false =>
      rw [List.append_nil]
      exact .inl (ended rfl)
    | true =>
      refine .inr ⟨rfl, rfl, ?_⟩
      cases prints with
      | nothing => cases printed
      | text delta =>
        cases printed
        exact .inr ⟨delta, rfl, rfl⟩
      | block texts lines =>
        cases printed
        exact .inl rfl
  | cons b before =>
    cases prints with
    | nothing => cases printed
    | text delta => simp at printed
    | block texts lines =>
      have ends := blockLines inText lines
      rw [printed] at ends
      refine .inl (Emission.endedLines (.inr (List.cons_ne_nil b before)) fun d inside => ?_)
      exact ends d (List.mem_append_left _ inside)

theorem closingEnds (c : Screen) {x : Step} (closing : x.isClosing = true) :
    (c.step x).2.terminal.inText = false := by
  cases x with
  | act | tick => cases closing
  | _ =>
    rw [stepPuts c rfl]
    rfl

theorem outputDisciplined (session : Session) (showArguments : Bool) (maxViewLines : Nat)
    (steps : List Step) :
    Disciplined ⟨session, .start ⟨false, false, showArguments, maxViewLines⟩⟩ steps := by
  generalize begun : (⟨session, .start ⟨false, false, showArguments, maxViewLines⟩⟩ : Screen) = c
  have follows (front : List Step) : c.Follows front := by
    refine followsRun ?_ front
    subst begun
    exact ⟨⟨rfl, rfl, rfl⟩, by simp [run, Terminal.start, Speaking], fun _ => nofun⟩
  refine ⟨?_, ?_, ?_⟩
  · intro front x rest before e after _ printed
    obtain ⟨plain, speaking, ended⟩ := follows front
    rcases printsBegin (stepPrints plain x).2 printed ended with line | ⟨inText, first⟩
    · exact .inl line
    · exact .inr ⟨speaking.mp inText, first⟩
  · intro front x more rest _ silent said unbroken
    obtain ⟨plain, speaking, -⟩ := follows front
    have closed : (c.run front).2.terminal.inText = false := by
      simpa using fun inText => silent (speaking.mp inText)
    exact firstSeries plain closed said unbroken.2
  · intro front x rest _ closing
    refine (follows (front ++ [x])).ended ?_
    rw [runSnoc]
    exact closingEnds _ closing

end Screen
end ChaincodeConsole
