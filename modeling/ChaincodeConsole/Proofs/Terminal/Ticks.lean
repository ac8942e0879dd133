import ChaincodeConsole.Proofs.Terminal.Screens
import ChaincodeConsole.Proofs.Tool.Breaks

/-! Progress previews in the output of a terminal. A tick writes nothing that lasts and changes
nothing that later output depends on, but for the flag that has the preview erased first. So the
lasting output is the same with ticks and without them, wherever they come. An erase clears the row
of the cursor: of a preview with line feeds the rows above the last one stay. Rows end at line feeds
alone, so a terminal is taken to be wide enough. -/
namespace ChaincodeConsole

/-- What previews have left on a screen, in the rows above that of the cursor and in that one. -/
structure Remains where
  above : List (List Char)
  row : List Char
  deriving DecidableEq, Repr

namespace Remains

def nothing : Remains := ⟨[], []⟩

def put (r : Remains) (c : Char) : Remains :=
  if c = '\n' then ⟨r.above ++ [r.row], []⟩ else ⟨r.above, r.row ++ [c]⟩

def draw (r : Remains) (text : String) : Remains := text.toList.foldl put r

def after (r : Remains) : Emission → Remains
  | .lasting _ => r
  | .preview text => r.draw text
  | .erase => { r with row := [] }

theorem putAbove (above : List (List Char)) (r : Remains) (cs : List Char) :
    cs.foldl put ⟨above ++ r.above, r.row⟩ =
      ⟨above ++ (cs.foldl put r).above, (cs.foldl put r).row⟩ := by
  induction cs generalizing r with
  | nil => rfl
  | cons c cs ih =>
    have first : put ⟨above ++ r.above, r.row⟩ c = ⟨above ++ (r.put c).above, (r.put c).row⟩ := by
      unfold put
      split
      · rw [List.append_assoc]
      · rfl
    rw [List.foldl_cons, List.foldl_cons, first, ih]

theorem drawAbove {r : Remains} (free : r.row = []) (text : String) :
    (r.draw text).above = r.above ++ (nothing.draw text).above := by
  have whole := putAbove r.above nothing text.toList
  rw [nothing, List.append_nil] at whole
  rw [draw, show r = ⟨r.above, []⟩ by rw [← free], whole]
  rfl

theorem drawRows (text : String) : (nothing.draw text).above.length = rows text := by
  have each (r : Remains) (cs : List Char) :
      (cs.foldl put r).above.length = r.above.length + cs.count '\n' := by
    induction cs generalizing r with
    | nil => rfl
    | cons c cs ih =>
      rw [List.foldl_cons, ih, put]
      split
      · rename_i feed
        simp [feed]
        omega
      · rename_i other
        simp [other]
  exact (each nothing text.toList).trans (Nat.zero_add _)

theorem drawSingle (text : String) : (nothing.draw text).above = [] ↔ OneLine text := by
  rw [← List.length_eq_zero_iff, drawRows, rowsNone]

theorem nothingIff {r : Remains} (free : r.row = []) : r = nothing ↔ r.above = [] := by
  cases r
  cases free
  simp [nothing]

end Remains

namespace Emission

def preview? : Emission → Option String
  | .preview text => some text
  | _ => none

theorem previewInside {out : List Emission} {text : String} :
    text ∈ out.filterMap preview? ↔ .preview text ∈ out := by
  rw [List.mem_filterMap]
  constructor
  · rintro ⟨e, inside, same⟩
    cases e with
    | preview text =>
      cases same
      exact inside
    | _ => cases same
  · exact fun inside => ⟨_, inside, rfl⟩

def remains (out : List Emission) : Remains := out.foldl Remains.after .nothing

/-- Whether a preview stands in the row of the cursor, which is all that an erase reaches. -/
def shownAfter (shown : Bool) (out : List Emission) : Bool :=
  out.foldl (fun shown e => match e with
    | .lasting _ => shown
    | .preview _ => true
    | .erase => false) shown

def Clean (shown : Bool) : List Emission → Prop
  | [] => True
  | .lasting _ :: rest => shown = false ∧ Clean false rest
  | .preview _ :: rest => shown = false ∧ Clean true rest
  | .erase :: rest => Clean false rest

theorem shownAppend (shown : Bool) (a b : List Emission) :
    shownAfter shown (a ++ b) = shownAfter (shownAfter shown a) b := List.foldl_append

theorem cleanAppend {shown : Bool} {a b : List Emission} :
    Clean shown (a ++ b) ↔ Clean shown a ∧ Clean (shownAfter shown a) b := by
  induction a generalizing shown with
  | nil => simp [Clean, shownAfter]
  | cons e a ih =>
    cases e with
    | lasting text =>
      cases shown with
      | true => simp [Clean]
      | false => simpa [Clean, shownAfter] using ih
    | preview text =>
      cases shown with
      | true => simp [Clean]
      | false => simpa [Clean, shownAfter] using ih
    | erase => exact ih

theorem shownKept {out : List Emission} (kept : .erase ∉ out) : shownAfter true out = true := by
  induction out with
  | nil => rfl
  | cons e out ih =>
    obtain ⟨head, tail⟩ := not_or.mp (List.mem_cons.not.mp kept)
    cases e with
    | erase => exact absurd rfl head
    | _ => exact ih tail

theorem shownErased {shown : Bool} {front rest : List Emission} {text : String}
    (gone : shownAfter shown (front ++ .preview text :: rest) = false) : .erase ∈ rest := by
  by_contra kept
  rw [shownAppend] at gone
  cases (shownKept kept).symm.trans gone

theorem cleanErased {shown : Bool} {front mid rest : List Emission} {text later : String}
    (clean : Clean shown (front ++ .preview text :: mid ++ .lasting later :: rest)) :
    .erase ∈ mid := by
  obtain ⟨-, first, -⟩ := cleanAppend.mp clean
  exact shownErased first

/-- Every preview begins a row, so what it leaves above is up to its text alone. -/
theorem cleanRemains {shown : Bool} {out : List Emission} (clean : Clean shown out) {r : Remains}
    (free : shown = false → r.row = []) :
    (out.foldl Remains.after r).above =
        r.above ++ (out.filterMap preview?).flatMap (fun t => (Remains.nothing.draw t).above) ∧
      (shownAfter shown out = false → (out.foldl Remains.after r).row = []) := by
  induction out generalizing shown r with
  | nil => exact ⟨(List.append_nil _).symm, free⟩
  | cons e out ih =>
    cases e with
    | lasting text => exact ih (clean.1 ▸ clean.2) free
    | preview text =>
      obtain ⟨above, row⟩ := ih (r := r.draw text) clean.2 nofun
      rw [Remains.drawAbove (free clean.1)] at above
      refine ⟨?_, row⟩
      have first : (preview text :: out).filterMap preview? = text :: out.filterMap preview? := rfl
      rw [first, List.flatMap_cons, ← List.append_assoc]
      exact above
    | erase => exact ih clean fun _ => rfl

end Emission

namespace Terminal

open Emission (shownAfter Clean)

structure Alike (t u : Terminal) : Prop where
  options : t.options = u.options
  inText : t.inText = u.inText
  lastView : t.lastView = u.lastView

@[simp] theorem erasureLasting (t : Terminal) : t.erasure.filter Emission.isLasting = [] := by
  unfold erasure
  split <;> rfl

theorem putAlike {t u : Terminal} (alike : t.Alike u) (p : Piece) :
    (t.put p).1.filter Emission.isLasting = (u.put p).1.filter Emission.isLasting ∧
      (t.put p).2.Alike (u.put p).2 := by
  obtain ⟨options, inText, lastView⟩ := alike
  cases p with
  | nothing => exact ⟨rfl, options, inText, lastView⟩
  | text delta => exact ⟨by simp [put, speech, paint, options, inText], options, rfl, lastView⟩
  | block texts view =>
    refine ⟨by simp [put, lineEnd, inText], options, rfl, ?_⟩
    simp only [put, lastView]

theorem putClean (t : Terminal) (p : Piece) : Clean t.previewShown (t.put p).1 ∧
    (t.put p).2.previewShown = shownAfter t.previewShown (t.put p).1 := by
  have lasting (texts : List String) : Clean false (texts.map .lasting) ∧
      shownAfter false (texts.map .lasting) = false := by
    induction texts with
    | nil => exact ⟨trivial, rfl⟩
    | cons text texts ih => exact ⟨⟨rfl, ih.1⟩, ih.2⟩
  obtain ⟨options, inText, previewShown, lastView⟩ := t
  cases p with
  | nothing => exact ⟨trivial, rfl⟩
  | text delta => cases previewShown <;> simp [put, erasure, Clean, shownAfter]
  | block texts view =>
    obtain ⟨clean, closed⟩ := lasting texts
    cases inText <;> cases previewShown <;>
      simp only [put, erasure, lineEnd, if_true, Bool.false_eq_true, if_false, List.nil_append,
        List.singleton_append]
    · exact ⟨clean, closed.symm⟩
    · exact ⟨clean, closed.symm⟩
    · exact ⟨⟨rfl, clean⟩, closed.symm⟩
    · exact ⟨⟨rfl, clean⟩, closed.symm⟩

theorem openText {t : Terminal} {p : Piece} (inText : t.inText = true)
    (nothing : (t.put p).1.filter Emission.isLasting = []) : (t.put p).2.inText = true := by
  cases p with
  | nothing => exact inText
  | text delta => rfl
  | block texts view =>
    -- A block ends the open line first, which is something that lasts.
    simp [put, lineEnd, inText, Emission.isLasting] at nothing

end Terminal

namespace Screen

open Emission (shownAfter Clean)

theorem ticksPassed {c d : Screen} (session : c.session = d.session)
    (alike : c.terminal.Alike d.terminal) (steps : List Step) :
    (c.run steps).1.filter Emission.isLasting =
      (d.run (steps.filter (!·.isTick))).1.filter Emission.isLasting := by
  induction steps generalizing c d with
  | nil => rfl
  | cons x rest ih =>
    rw [run]
    dsimp only
    rw [List.filter_append]
    have moves := c.stepCases x
    generalize c.step x = moved at moves ⊢
    cases moves with
    | silent => exact ih session alike
    | drawn text => exact ih session ⟨alike.options, alike.inText, alike.lastView⟩
    | puts other =>
      have same : piece c.terminal.options c.session x = piece d.terminal.options d.session x := by
        rw [session, alike.options]
      obtain ⟨first, after⟩ :=
        Terminal.putAlike alike (piece c.terminal.options c.session x)
      rw [List.filter_cons_of_pos (by simp [other]), run]
      dsimp only
      rw [List.filter_append, stepPuts d other, ← same]
      dsimp only
      exact congrArg₂ (· ++ ·) first (ih (congrArg (sessionAfter · x) session) after)

theorem stepClean (c : Screen) (x : Step) : Clean c.terminal.previewShown (c.step x).1 ∧
    (c.step x).2.terminal.previewShown = shownAfter c.terminal.previewShown (c.step x).1 := by
  have moves := c.stepCases x
  generalize c.step x = moved at moves ⊢
  cases moves with
  | puts => exact Terminal.putClean c.terminal _
  | silent => exact ⟨trivial, rfl⟩
  | drawn => exact ⟨⟨rfl, trivial⟩, rfl⟩

theorem runClean (c : Screen) (steps : List Step) : Clean c.terminal.previewShown (c.run steps).1 ∧
    (c.run steps).2.terminal.previewShown =
      shownAfter c.terminal.previewShown (c.run steps).1 := by
  induction steps generalizing c with
  | nil => exact ⟨trivial, rfl⟩
  | cons x rest ih =>
    obtain ⟨first, after⟩ := c.stepClean x
    obtain ⟨later, last⟩ := ih (c.step x).2
    rw [run]
    dsimp only
    rw [after] at later last
    exact ⟨Emission.cleanAppend.mpr ⟨first, later⟩, last.trans (Emission.shownAppend ..).symm⟩

theorem closingHides (c : Screen) {x : Step} (closing : x.isClosing = true) :
    (c.step x).2.terminal.previewShown = false := by
  cases x with
  | act | tick => cases closing
  | _ =>
    rw [stepPuts c rfl]
    rfl

theorem textOpens {c : Screen} {e : Event} {delta : String}
    (change : (c.session.apply e).change = .text delta) :
    (c.step (.act (.event e))).2.terminal.inText = true := by
  rw [stepPuts c rfl, piece, change]
  rfl

theorem textStaysOpen {c : Screen} {steps : List Step} (inText : c.terminal.inText = true)
    (nothing : (c.run steps).1.filter Emission.isLasting = []) :
    (c.run steps).2.terminal.inText = true := by
  induction steps generalizing c with
  | nil => exact inText
  | cons x rest ih =>
    rw [run] at nothing ⊢
    dsimp only at nothing ⊢
    rw [List.filter_append, List.append_eq_nil_iff] at nothing
    refine ih ?_ nothing.2
    have moves := c.stepCases x
    generalize c.step x = moved at moves nothing ⊢
    cases moves with
    | puts => exact Terminal.openText inText nothing.1
    | silent | drawn => exact inText

theorem tickInText {c : Screen} (inText : c.terminal.inText = true) : (c.step .tick).1 = [] := by
  have moves := c.stepCases .tick
  generalize c.step .tick = moved at moves ⊢
  cases moves with
  | puts other => cases other
  | silent => rfl
  | drawn text interactive closed => cases inText.symm.trans closed

structure Leaves (out : List Emission) : Prop where
  row : (Emission.remains out).row = []
  above : (Emission.remains out).above =
    (out.filterMap Emission.preview?).flatMap fun text => (Remains.nothing.draw text).above
  nothing : Emission.remains out = .nothing ↔ ∀ text, .preview text ∈ out → OneLine text

structure Erases (c : Screen) (steps : List Step) : Prop where
  lasting : (c.run steps).1.filter Emission.isLasting =
    (c.run (steps.filter (!·.isTick))).1.filter Emission.isLasting
  erased : ∀ front text between later rest,
    (c.run steps).1 = front ++ .preview text :: between ++ .lasting later :: rest →
    .erase ∈ between
  /-- From a piece of the reply's text on, until something else is written that lasts. -/
  quiet : ∀ front e delta between rest,
    steps = front ++ .act (.event e) :: between ++ .tick :: rest →
    ((c.run front).2.session.apply e).change = .text delta →
    (((c.run (front ++ [.act (.event e)])).2.run between).1).filter Emission.isLasting = [] →
    ((c.run (front ++ .act (.event e) :: between)).2.step .tick).1 = []
  closed : ∀ before x rest, steps = before ++ x :: rest → x.isClosing = true →
    Leaves (c.run (before ++ [x])).1

theorem leavesClean {out : List Emission} (clean : Clean false out)
    (hidden : shownAfter false out = false) : Leaves out := by
  obtain ⟨above, row⟩ := Emission.cleanRemains (r := .nothing) clean fun _ => rfl
  rw [← Emission.remains] at above row
  refine ⟨row hidden, above, ?_⟩
  rw [Remains.nothingIff (row hidden), above, Remains.nothing, List.nil_append,
    List.flatMap_eq_nil_iff]
  refine forall_congr' fun text => ?_
  rw [Emission.previewInside, ← Remains.nothing, Remains.drawSingle]

theorem previewsErased (session : Session) (options : TerminalOptions) (steps : List Step) :
    Erases ⟨session, .start options⟩ steps where
  lasting := ticksPassed rfl ⟨rfl, rfl, rfl⟩ steps
  erased := by
    intro front text between later rest whole
    have clean := (runClean ⟨session, .start options⟩ steps).1
    rw [whole] at clean
    exact Emission.cleanErased clean
  quiet := by
    intro front e delta between rest whole change nothing
    refine tickInText ?_
    rw [show front ++ .act (.event e) :: between = front ++ [.act (.event e)] ++ between by simp,
      runAppend]
    refine textStaysOpen ?_ nothing
    rw [runAppend]
    exact textOpens change
  closed := by
    intro before x rest whole closing
    obtain ⟨clean, shown⟩ := runClean ⟨session, .start options⟩ (before ++ [x])
    refine leavesClean clean (shown.symm.trans ?_)
    rw [runAppend]
    exact closingHides _ closing

def commandEvent : Event :=
  .tool .update { ToolEvent.ofId "1" with
    name := "run_terminal_cmd", arguments := some "\x7b\"command\":\"a\\nb" }

theorem commandLeft : Emission.remains (run ⟨.empty, .start ⟨false, true, true, 20⟩⟩
    [.act (.event commandEvent), .tick, .finishTurn]).1 = ⟨["⋯ Run a".toList], []⟩ := by
  decide +kernel

example : (run ⟨.empty, .start ⟨false, true, true, 20⟩⟩
      [.act (.event (.tool .start { ToolEvent.ofId "1" with name := "write_file" })), .tick, .tick,
        .act (.event (.reply "x")), .tick, .notice "stopped"]).1 =
    [.lasting "⚙ write_file\n", .erase, .preview "⋯ Write … (0 bytes)", .erase,
      .preview "⋯ Write … (0 bytes)", .erase, .lasting "assistant> x", .lasting "\n",
      .lasting "stopped\n"] := by decide +kernel

end Screen
end ChaincodeConsole
