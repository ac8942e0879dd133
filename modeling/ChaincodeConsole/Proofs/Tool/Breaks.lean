import ChaincodeConsole.Proofs.Tool.Truncation
import ChaincodeConsole.Terminal

/-! Line feeds in the views of tool calls. Blocks of text are cut into lines and counts have none,
but what a title names, the command of a call that runs and the entries of a listing are taken as
they are. A view is made of single lines exactly if these texts are, and then it takes one row of
the terminal for its title and one for each of its lines. -/
namespace ChaincodeConsole

def OneLine (text : String) : Prop := '\n' ∉ text.toList

instance (text : String) : Decidable (OneLine text) :=
  inferInstanceAs (Decidable ('\n' ∉ text.toList))

theorem oneLineAppend {a b : String} : OneLine (a ++ b) ↔ OneLine a ∧ OneLine b := by
  simp [OneLine, not_or]

theorem oneLineJoin {texts : List String} :
    OneLine (String.join texts) ↔ ∀ text ∈ texts, OneLine text := by
  induction texts with
  | nil => simp [OneLine]
  | cons text texts ih => rw [String.join_cons, oneLineAppend, ih, List.forall_mem_cons]

namespace Text

theorem linesFromFree {held cs : List Char} (free : '\n' ∉ held) :
    ∀ line ∈ linesFrom held cs, '\n' ∉ line := by
  induction cs generalizing held with
  | nil =>
    rw [linesFrom]
    split
    · nofun
    · simpa using free
  | cons c cs ih =>
    rw [linesFrom]
    split
    · intro line inside
      rcases List.mem_cons.mp inside with rfl | later
      · have fewer : dropOne '\r' held ⊆ held := by
          cases held with
          | nil => exact List.Subset.refl _
          | cons d held =>
            rw [dropOne]
            split
            · exact List.subset_cons_self d held
            · exact List.Subset.refl _
        exact fun feed => free (fewer (List.mem_reverse.mp feed))
      · exact ih List.not_mem_nil line later
    · rename_i other
      exact ih fun feed => (List.mem_cons.mp feed).elim (fun same => other same.symm) free

theorem linesOneLine (s : String) : ∀ line ∈ lines s, OneLine line := by
  intro line inside
  obtain ⟨cs, piece, rfl⟩ := List.mem_map.mp inside
  rw [OneLine, String.toList_ofList]
  exact linesFromFree List.not_mem_nil cs piece

theorem naturalOneLine (n : Nat) : OneLine (toString n) := by
  rw [Nat.toString_eq_ofList_toDigits, OneLine, String.toList_ofList]
  intro feed
  cases Nat.isDigit_of_mem_toDigits (by decide) (by decide) feed

theorem integerOneLine (n : Int) : OneLine (toString n) := by
  cases n with
  | ofNat n => exact naturalOneLine n
  | negSucc n => exact oneLineAppend.mpr ⟨by decide, naturalOneLine (n + 1)⟩

end Text

/-- How many rows a terminal moves down by when the text is written. -/
def rows (text : String) : Nat := text.toList.count '\n'

theorem rowsAppend (a b : String) : rows (a ++ b) = rows a + rows b := by
  simp [rows]

theorem rowsNone {text : String} : rows text = 0 ↔ OneLine text := List.count_eq_zero

namespace View

structure Lined (v : View) : Prop where
  title : OneLine v.title
  lines : ∀ l ∈ v.lines, OneLine l.text

structure Adds (v w : View) : Prop where
  title : w.title = v.title
  lines : ∃ more, w.lines = v.lines ++ more ∧ ∀ l ∈ more, OneLine l.text

theorem addsSelf (v : View) : v.Adds v := ⟨rfl, [], (List.append_nil _).symm, nofun⟩

theorem addsBoth {u v w : View} (first : u.Adds v) (second : v.Adds w) : u.Adds w := by
  obtain ⟨title, front, split, ones⟩ := first
  obtain ⟨same, back, more, others⟩ := second
  have all : w.lines = u.lines ++ (front ++ back) := by rw [more, split, List.append_assoc]
  refine ⟨same.trans title, front ++ back, all, fun l inside => ?_⟩
  exact (List.mem_append.mp inside).elim (ones l) (others l)

theorem pushAdds (v : View) (style : LineStyle) {text : String} (one : OneLine text) :
    v.Adds (v.push style text) :=
  ⟨rfl, [⟨style, text⟩], rfl, by simpa using one⟩

theorem pushBlockAdds (v : View) (style : LineStyle) (text : String) :
    v.Adds (v.pushBlock style text) := by
  refine ⟨rfl, _, rfl, fun l inside => ?_⟩
  obtain ⟨line, piece, rfl⟩ := List.mem_map.mp inside
  exact Text.linesOneLine text line piece

/-- The first of some things as many as may be shown; all if there is no bound. -/
def kept {α : Type} (most : Nat) (things : List α) : List α :=
  if most = 0 then things else things.take most

theorem keptMap {α β : Type} (most : Nat) (f : α → β) (things : List α) :
    kept most (things.map f) = (kept most things).map f := by
  unfold kept
  split
  · rfl
  · exact (List.map_take ..).symm

theorem keptSubset {α : Type} {most : Nat} {things : List α} : kept most things ⊆ things := by
  unfold kept
  split
  · exact List.Subset.refl _
  · exact List.take_subset _ _

theorem truncateLines (v : View) (most : Nat) :
    (kept most (v.truncate most).lines = kept most v.lines) ∧
    ((v.truncate most).lines = kept most v.lines ∨
      ∃ hidden, (v.truncate most).lines = kept most v.lines ++ [hiddenLine hidden]) := by
  by_cases fits : most = 0 ∨ v.lines.length ≤ most
  · rw [truncateWhole fits]
    refine ⟨rfl, .inl ?_⟩
    unfold kept
    split
    · rfl
    · rename_i bound
      exact (List.take_of_length_le (fits.resolve_left bound)).symm
  · obtain ⟨bound, long⟩ := not_or.mp fits
    rw [truncateCut (Nat.pos_of_ne_zero bound) (Nat.lt_of_not_le long)]
    simp only [kept, if_neg bound]
    refine ⟨?_, .inr ⟨_, rfl⟩⟩
    have all : (v.lines.take most).length = most :=
      List.length_take_of_le (Nat.le_of_not_le long)
    rw [List.take_append_of_le_length (Nat.le_of_eq all.symm), List.take_take, Nat.min_self]

theorem truncateOnes (v : View) (most : Nat) :
    (∀ l ∈ (v.truncate most).lines, OneLine l.text) ↔ ∀ l ∈ kept most v.lines, OneLine l.text := by
  rcases (v.truncateLines most).2 with same | ⟨hidden, cut⟩
  · rw [same]
  · have count : OneLine (hiddenLine hidden).text :=
      oneLineAppend.mpr ⟨oneLineAppend.mpr ⟨by decide, Text.naturalOneLine hidden⟩, by decide⟩
    rw [cut, List.forall_mem_append]
    simp [count]

theorem truncateLength (v : View) {most : Nat} (bound : 0 < most) :
    (v.truncate most).lines.length ≤ most + 1 := by
  have few : (kept most v.lines).length ≤ most := by
    rw [kept, if_neg (Nat.ne_of_gt bound)]
    exact List.length_take_le most v.lines
  rcases (v.truncateLines most).2 with same | ⟨hidden, cut⟩
  · rw [same]
    exact Nat.le_succ_of_le few
  · rw [cut, List.length_append]
    exact Nat.succ_le_succ few

end View

namespace Display

open View (kept)

def titleTexts (kind : ToolKind) (args : Json) : List String :=
  match kind with
  | .readFile | .writeFile | .editFile | .deleteFile => (stringAt? pathKeys args).toList
  | .listDir => (stringAt? dirKeys args).toList
  | .fileSearch => (stringAt? queryKeys args).toList
  | .grepSearch => (stringAt? queryKeys args).toList ++ (stringAt? includeKeys args).toList
  | .runTerminalCmd => (stringAt? commandKeys args).toList
  | .other name => [name]

def commandTexts (kind : ToolKind) (args : Json) : List String :=
  match kind with
  | .runTerminalCmd => (stringAt? commandKeys args).toList
  | _ => []

def listed? (result : Json) : Option (List Json) :=
  asList? result <|> listingKeys.findSome? fun key => (result.get? key).bind asList?

def entryTexts (kind : ToolKind) (result : Json) : List String :=
  match kind with
  | .listDir | .fileSearch | .grepSearch => ((listed? result).getD []).map itemLabel
  | _ => []

def lineTexts (c : ToolCall) : List String :=
  match c.status with
  | .started | .streaming => []
  | .executing => commandTexts (ToolKind.ofName c.name) c.parsed
  | .completed | .failed =>
    if c.error.isSome then []
    else entryTexts (ToolKind.ofName c.name) (c.result.getD .null)

theorem orEllipsisOne (text : Option String) :
    OneLine (orEllipsis text) ↔ ∀ t ∈ text.toList, OneLine t := by
  cases text with
  | none => simp [orEllipsis, OneLine]
  | some t =>
    by_cases empty : t = ""
    · simp [orEllipsis, empty, OneLine]
    · simp [orEllipsis, empty]

theorem titleOne (kind : ToolKind) (args : Json) :
    OneLine (title kind args) ↔ ∀ t ∈ titleTexts kind args, OneLine t := by
  have lead {text rest : String} (plain : OneLine text) :
      OneLine (text ++ rest) ↔ OneLine rest := by rw [oneLineAppend, and_iff_right plain]
  have trail {text front : String} (plain : OneLine text) :
      OneLine (front ++ text) ↔ OneLine front := by rw [oneLineAppend, and_iff_left plain]
  cases kind with
  | readFile | writeFile | editFile | deleteFile | runTerminalCmd =>
    rw [title, lead (by decide)]
    exact orEllipsisOne _
  | listDir =>
    rw [title, lead (by decide), titleTexts]
    cases stringAt? dirKeys args <;> simp [OneLine]
  | fileSearch =>
    rw [title, trail (by decide), lead (by decide)]
    exact orEllipsisOne _
  | grepSearch =>
    rw [title, oneLineAppend, trail (by decide), lead (by decide), orEllipsisOne, titleTexts,
      List.forall_mem_append]
    refine and_congr_right fun _ => ?_
    cases stringAt? includeKeys args with
    | none => simp [OneLine]
    | some included =>
      have joint : OneLine " in " := by decide
      simp [lead joint]
  | other name => simp [title, titleTexts]

/-- A view of single lines under a title, or with a line for each of the given texts. -/
structure Takes (kind : ToolKind) (args : Json) (texts : List String) (v : View) : Prop where
  title : v.title = title kind args
  lines : (∀ l ∈ v.lines, OneLine l.text) ∧ texts = [] ∨
    ∃ style lead, OneLine lead ∧ v.lines = texts.map fun t => ⟨style, lead ++ t⟩

theorem addsTakes {kind : ToolKind} {args : Json} (tone : Tone) {v : View}
    (adds : (View.titled (title kind args) tone).Adds v) : Takes kind args [] v := by
  obtain ⟨same, more, split, ones⟩ := adds
  refine ⟨same, .inl ⟨?_, rfl⟩⟩
  rw [split]
  exact ones

theorem pushTextAdds (v : View) (style : LineStyle) (text : Option String) :
    v.Adds (pushText? v style text) := by
  cases text with
  | none => exact v.addsSelf
  | some text => exact v.pushBlockAdds style text

theorem pushEditAdds (v : View) (args : Json) : v.Adds (pushEdit v args) :=
  View.addsBoth (View.addsBoth (pushTextAdds v _ _) (pushTextAdds _ _ _)) (pushTextAdds _ _ _)

theorem pushValueAdds (v : View) (value : Json) : v.Adds (pushValue v value) := by
  unfold pushValue
  split
  · exact v.addsSelf
  · exact v.addsSelf
  · exact v.pushBlockAdds _ _
  · exact v.pushBlockAdds _ _

def withErrors (result : Json) (v : View) : View :=
  ((result.get? "stderr").bind Json.asString?).elim v fun stderr =>
    if Text.blank stderr then v else v.pushBlock .error stderr

def withExit (result : Json) (v : View) : View :=
  ((result.get? "exit_code").bind asInt?).elim v fun code =>
    if code = 0 then v
    else { v with tone := .error }.push .error ("exit code " ++ toString code)

theorem pushOutputParts (v : View) (result : Json) : pushOutput v result =
    withExit result (withErrors result (v.pushBlock .code (resultText result))) := by
  unfold pushOutput withExit withErrors
  cases (result.get? "stderr").bind Json.asString? <;>
    cases (result.get? "exit_code").bind asInt? <;> rfl

theorem withErrorsAdds (result : Json) (v : View) : v.Adds (withErrors result v) := by
  unfold withErrors
  cases (result.get? "stderr").bind Json.asString? with
  | none => exact v.addsSelf
  | some stderr =>
    rw [Option.elim_some]
    split
    · exact v.addsSelf
    · exact v.pushBlockAdds _ _

theorem withExitAdds (result : Json) (v : View) : v.Adds (withExit result v) := by
  unfold withExit
  cases (result.get? "exit_code").bind asInt? with
  | none => exact v.addsSelf
  | some code =>
    have exitLine : OneLine ("exit code " ++ toString code) :=
      oneLineAppend.mpr ⟨by decide, Text.integerOneLine code⟩
    rw [Option.elim_some]
    split
    · exact v.addsSelf
    · obtain ⟨title, lines⟩ := v.pushAdds .error exitLine
      exact ⟨title, lines⟩

theorem pushOutputAdds (v : View) (result : Json) : v.Adds (pushOutput v result) := by
  rw [pushOutputParts]
  have errors := View.addsBoth (v.pushBlockAdds .code (resultText result)) (withErrorsAdds result _)
  exact View.addsBoth errors (withExitAdds result _)

theorem updateTakes (kind : ToolKind) (args : Json) : Takes kind args [] (update kind args) := by
  refine addsTakes .running ?_
  cases kind with
  | writeFile => exact pushTextAdds _ _ _
  | editFile => exact pushEditAdds _ _
  | other name => exact pushValueAdds _ _
  | _ => exact View.addsSelf _

theorem countedOne {lead : String} (plain : OneLine lead) (n : Nat) {trail : String}
    (ends : OneLine trail) : OneLine (lead ++ toString n ++ trail) :=
  oneLineAppend.mpr ⟨oneLineAppend.mpr ⟨plain, Text.naturalOneLine n⟩, ends⟩

theorem executeTakes (kind : ToolKind) (args : Json) :
    Takes kind args (commandTexts kind args) (execute kind args) := by
  cases kind with
  | writeFile =>
    exact addsTakes .running (View.pushAdds _ _ (countedOne (by decide) _ (by decide)))
  | editFile => exact addsTakes .running (pushEditAdds _ _)
  | runTerminalCmd =>
    simp only [execute, commandTexts]
    cases stringAt? commandKeys args with
    | none => exact addsTakes .running (View.addsSelf _)
    | some command => exact ⟨rfl, .inr ⟨.code, "$ ", by decide, rfl⟩⟩
  | readFile =>
    refine addsTakes .running ?_
    simp only [execute]
    split
    · refine View.pushAdds _ _ (oneLineAppend.mpr ⟨?_, Text.naturalOneLine _⟩)
      exact countedOne (by decide) _ (by decide)
    · exact View.addsSelf _
  | other name => exact addsTakes .running (pushValueAdds _ _)
  | _ => exact addsTakes .running (View.addsSelf _)

theorem pushAll (v : View) (items : List String) :
    (items.foldl (fun v item => v.push .plain item) v).title = v.title ∧
    (items.foldl (fun v item => v.push .plain item) v).lines =
      v.lines ++ items.map (⟨.plain, ·⟩) := by
  induction items generalizing v with
  | nil => simp
  | cons item items ih =>
    obtain ⟨title, lines⟩ := ih (v.push .plain item)
    refine ⟨title, ?_⟩
    rw [List.foldl_cons, lines, View.push, List.append_assoc]
    rfl

theorem resultItemsArray {result : Json} {values : List Json}
    (array : listed? result = some values) : resultItems result = values.map itemLabel := by
  rw [listed?] at array
  rw [resultItems, array]

theorem resultItemsText {result : Json} (text : listed? result = none) :
    resultItems result = (Text.lines (resultText result)).filter (!Text.blank ·) := by
  rw [listed?] at text
  rw [resultItems, text]

theorem listingTakes {kind : ToolKind} (args result : Json) (listing : kind = .listDir ∨
    kind = .fileSearch ∨ kind = .grepSearch) :
    Takes kind args (entryTexts kind result) (success kind args result) := by
  have entries : entryTexts kind result = ((listed? result).getD []).map itemLabel := by
    rcases listing with rfl | rfl | rfl <;> rfl
  have shown : success kind args result =
      if (resultItems result).isEmpty then
        (View.titled (title kind args) .success).push .muted "no results"
      else (resultItems result).foldl (fun v item => v.push .plain item)
        (View.titled (title kind args) .success) := by
    rcases listing with rfl | rfl | rfl <;> rfl
  obtain ⟨same, lines⟩ := pushAll (View.titled (title kind args) .success) (resultItems result)
  rw [shown, entries]
  split
  · rename_i empty
    have bare : ((listed? result).getD []).map itemLabel = [] := by
      cases array : listed? result with
      | none => rfl
      | some values =>
        rw [resultItemsArray array] at empty
        exact List.isEmpty_iff.mp empty
    rw [bare]
    exact addsTakes .success (View.pushAdds _ _ (by decide))
  · refine ⟨same, ?_⟩
    rw [lines]
    cases array : listed? result with
    | none =>
      rw [resultItemsText array]
      refine .inl ⟨fun l inside => ?_, rfl⟩
      obtain ⟨line, used, rfl⟩ := List.mem_map.mp inside
      exact Text.linesOneLine _ line (List.mem_filter.mp used).1
    | some values =>
      rw [resultItemsArray array]
      refine .inr ⟨.plain, "", by decide, ?_⟩
      simp [View.titled]

theorem successTakes (kind : ToolKind) (args result : Json) :
    Takes kind args (entryTexts kind result) (success kind args result) := by
  cases kind with
  | readFile => exact addsTakes .success (View.pushBlockAdds _ _ _)
  | writeFile =>
    exact addsTakes .success (View.pushAdds _ _ (countedOne (by decide) _ (by decide)))
  | editFile =>
    refine addsTakes .success ?_
    simp only [success]
    split
    · exact pushEditAdds _ _
    · exact View.addsBoth (pushEditAdds _ _) (View.pushBlockAdds _ _ _)
  | deleteFile => exact addsTakes .success (View.pushAdds _ _ (by decide))
  | listDir => exact listingTakes args result (.inl rfl)
  | fileSearch => exact listingTakes args result (.inr (.inl rfl))
  | grepSearch => exact listingTakes args result (.inr (.inr rfl))
  | runTerminalCmd => exact addsTakes .success (pushOutputAdds _ _)
  | other name => exact addsTakes .success (pushValueAdds _ _)

theorem callTakes (c : ToolCall) :
    Takes (ToolKind.ofName c.name) c.parsed (lineTexts c) (call c 0) := by
  have whole (v : View) : v.truncate 0 = v := View.truncateWhole (.inl rfl)
  rw [call, whole, lineTexts]
  cases c.status with
  | started | streaming => exact updateTakes _ _
  | executing => exact executeTakes _ _
  | completed | failed =>
    simp only [result]
    cases c.error with
    | none =>
      rw [whole]
      exact successTakes _ _ _
    | some error =>
      rw [whole]
      exact addsTakes .error (View.pushBlockAdds _ _ _)

theorem callFrame (c : ToolCall) (most : Nat) : (call c most).title = (call c 0).title ∧
    ((∀ l ∈ (call c most).lines, OneLine l.text) ↔
      ∀ l ∈ kept most (call c 0).lines, OneLine l.text) := by
  rw [callTruncates]
  generalize call c 0 = full
  split
  · refine ⟨?_, ?_⟩
    · rw [(View.truncateFrame _ most).1, (View.truncateFrame _ most).1]
    · rw [View.truncateOnes, (full.truncateLines most).1]
  · exact ⟨(full.truncateFrame most).1, full.truncateOnes most⟩

theorem callLined (c : ToolCall) (most : Nat) : (call c most).Lined ↔
    (∀ t ∈ titleTexts (ToolKind.ofName c.name) c.parsed, OneLine t) ∧
      ∀ t ∈ kept most (lineTexts c), OneLine t := by
  obtain ⟨title, lines⟩ := callTakes c
  obtain ⟨same, shown⟩ := callFrame c most
  have texts : (∀ l ∈ (call c most).lines, OneLine l.text) ↔
      ∀ t ∈ kept most (lineTexts c), OneLine t := by
    rw [shown]
    rcases lines with ⟨ones, bare⟩ | ⟨style, lead, plain, taken⟩
    · rw [bare]
      exact iff_of_true (fun l inside => ones l (View.keptSubset inside)) (by simp [kept])
    · rw [taken, View.keptMap, List.forall_mem_map]
      exact forall₂_congr fun t _ => by rw [oneLineAppend, and_iff_right plain]
  rw [← titleOne, ← texts, ← title, ← same]
  exact ⟨fun lined => ⟨lined.title, lined.lines⟩, fun both => ⟨both.1, both.2⟩⟩

theorem callLength (c : ToolCall) {most : Nat} (bound : 0 < most) :
    (call c most).lines.length ≤ most + 1 := View.truncateLength _ bound

end Display

namespace Terminal

theorem rowsPaint (t : Terminal) (c : Colour) (text : String) :
    rows (t.paint c text) = rows text := by
  unfold paint
  split
  · rw [Colour.paint, rowsAppend, rowsAppend]
    cases c <;> simp [Colour.sequence, rows]
  · rfl

theorem rowsLine (t : Terminal) (l : ViewLine) : rows (t.viewLine l) = rows l.text + 1 := by
  have marker : rows l.style.marker = 0 := by cases l.style <;> rfl
  rw [viewLine, rowsAppend, rowsAppend, rowsPaint, rowsAppend, marker]
  simp [rows, Nat.add_comm]

theorem rowsLines (t : Terminal) (ls : List ViewLine) :
    rows (String.join (ls.map t.viewLine)) = rows (String.join (ls.map (·.text))) + ls.length := by
  induction ls with
  | nil => rfl
  | cons l ls ih =>
    rw [List.map_cons, String.join_cons, rowsAppend, ih, rowsLine, List.map_cons, String.join_cons,
      rowsAppend, List.length_cons]
    omega

theorem rowsView (t : Terminal) (v : View) : rows (t.viewText v) =
    rows v.title + rows (String.join (v.lines.map (·.text))) + (v.lines.length + 1) := by
  have feed : rows "\n" = 1 := rfl
  have indent : rows "  " = 0 := rfl
  rw [viewText, rowsAppend, rowsAppend, rowsAppend, rowsPaint, rowsLines, feed, indent]
  omega

theorem viewRows (t : Terminal) (v : View) :
    rows (t.viewText v) = v.lines.length + 1 ↔ v.Lined := by
  rw [rowsView, Nat.add_eq_right, Nat.add_eq_zero_iff, rowsNone, rowsNone, oneLineJoin,
    List.forall_mem_map]
  exact ⟨fun both => ⟨both.1, both.2⟩, fun lined => ⟨lined.title, lined.lines⟩⟩

theorem previewOne (active : ToolExecution) (arguments : String) :
    OneLine (previewText active arguments) ↔
      ∀ t ∈ Display.titleTexts (ToolKind.ofName active.name) (Json.preview arguments).value,
        OneLine t := by
  rw [previewText, oneLineAppend, oneLineAppend, oneLineAppend, oneLineAppend,
    (Display.updateTakes _ _).title, Display.titleOne]
  have lead : OneLine "⋯ " := by decide
  have bracket : OneLine " (" := by decide
  have unit : OneLine " bytes)" := by decide
  simp only [lead, bracket, unit, Text.naturalOneLine, and_true, true_and]

theorem drawnOne {t : Terminal} {s : Session} {text : String}
    (drawn : .preview text ∈ (t.preview s).1) : ∃ active arguments, s.active = some active ∧
      s.activeArguments? = some arguments ∧ (OneLine text ↔
        ∀ x ∈ Display.titleTexts (ToolKind.ofName active.name) (Json.preview arguments).value,
          OneLine x) := by
  unfold preview at drawn
  split at drawn
  · cases drawn
  · split at drawn
    · rename_i active arguments shown given
      have painted : text = t.paint .grey (previewText active arguments) := by simpa using drawn
      refine ⟨active, arguments, shown, given, ?_⟩
      rw [painted, ← rowsNone, rowsPaint, rowsNone]
      exact previewOne active arguments
    · cases drawn

end Terminal

namespace Display

open View (kept)

/-- Which texts of a call have to be single lines for its view, its preview and what a terminal
prints of it to be. -/
structure ByTexts (c : ToolCall) (most : Nat) (t : Terminal) : Prop where
  view : (call c most).Lined ↔
    (∀ text ∈ titleTexts (ToolKind.ofName c.name) c.parsed, OneLine text) ∧
      ∀ text ∈ kept most (lineTexts c), OneLine text
  preview : ∀ (s : Session) (drawn : String), .preview drawn ∈ (t.preview s).1 →
    ∃ active arguments, s.active = some active ∧ s.activeArguments? = some arguments ∧
      (OneLine drawn ↔
        ∀ text ∈ titleTexts (ToolKind.ofName active.name) (Json.preview arguments).value,
          OneLine text)
  printed : rows (t.viewText (call c most)) = (call c most).lines.length + 1 ↔
    (call c most).Lined
  fits : 0 < most → (call c most).Lined → rows (t.viewText (call c most)) ≤ most + 2

theorem viewsLined (c : ToolCall) (most : Nat) (t : Terminal) : ByTexts c most t where
  view := callLined c most
  preview _ _ drawn := Terminal.drawnOne drawn
  printed := t.viewRows _
  fits bound lined := by
    rw [(t.viewRows _).mpr lined]
    exact Nat.succ_le_succ (callLength c bound)

def brokenEntry : ToolCall :=
  { ToolCall.new "id" "list_dir" with
    status := .completed, result := some (.array [.string "a\nb\nc"]) }

def brokenCommand : ToolExecution := { brokenEntry.execution with name := "run_terminal_cmd" }

theorem linesBroken : (call brokenEntry 1).lines = [⟨.plain, "a\nb\nc"⟩] ∧
    ¬(call brokenEntry 1).Lined ∧
    1 + 2 < rows ((Terminal.start ⟨false, true, true, 1⟩).viewText (call brokenEntry 1)) ∧
    Terminal.previewText brokenCommand "\x7b\"command\":\"a\\nb" = "⋯ Run a\nb (16 bytes)" := by
  refine ⟨by decide +kernel, fun lined => ?_, by decide +kernel, by decide +kernel⟩
  exact absurd (lined.lines ⟨.plain, "a\nb\nc"⟩ (by decide +kernel)) (by decide)

end Display
end ChaincodeConsole
