import ChaincodeConsole.Proofs.Settings.Fields
import ChaincodeConsole.Proofs.Text.Decoding
import Mathlib.Tactic.ByContra

/-! What the settings are. Each is what the environment sets it to, or else what the file says, or
else its default. A text that is no configuration is an error; bytes that are no text are not. -/
namespace ChaincodeConsole

open Setting (Area)
open Toml (Value)

/-- What the environment sets a setting to: the address if it is not blank, without the blanks
around it, the token if it is not empty, the project if it is a number of 64 bits. -/
inductive Overrides.Sets (o : Overrides) : Setting → Value → Prop where
  | url {s : String} (given : o.url = some s) (filled : ∃ c ∈ s.toList, Text.isBlank c = false) :
      Sets o .baseUrl (.string (Text.trim s))
  | token {s : String} (given : o.token = some s) (filled : s ≠ "") : Sets o .apiToken (.string s)
  | project {s : String} {n : Int} (given : o.project = some s)
      (number : Text.int64? (Text.trim s) = some n) : Sets o .defaultProject (.integer n)

namespace Settings

def document? (file : Option (List UInt8)) : Option (List (String × Value)) :=
  (file.bind Text.strict?).bind Toml.read?

inductive Settled (file : Option (List UInt8)) (o : Overrides) (x : Setting) :
    Option Value → Prop where
  | environment {v : Value} (sets : o.Sets x v) : Settled file o x (some v)
  | file {v : Value} (unset : ∀ w, ¬o.Sets x w)
      (written : (document? file).bind x.written? = some v) : Settled file o x (some v)
  | default (unset : ∀ w, ¬o.Sets x w) (unwritten : (document? file).bind x.written? = none) :
      Settled file o x (defaults.value? x)

theorem blankIff (s : String) :
    (∃ c ∈ s.toList, Text.isBlank c = false) ↔ Text.blank s = false := by
  simp [Text.blank]

theorem overrideSets (s : Settings) {o : Overrides} {x : Setting} {v : Value} (sets : o.Sets x v) :
    (s.override o).value? x = some v := by
  cases sets with
  | url given filled =>
    have kept := (blankIff _).mp filled
    simp [value?, content, Setting.area, Area.shown, ServerSettings.value?, override, given,
      Option.filter, kept]
  | token given filled =>
    simp [value?, content, Setting.area, Area.shown, ServerSettings.value?, override, given,
      Option.filter, filled]
  | project given number =>
    simp [value?, content, Setting.area, Area.shown, ProjectSettings.value?, override, given,
      number]

theorem overrideKeeps (s : Settings) {o : Overrides} {x : Setting} (unset : ∀ w, ¬o.Sets x w) :
    (s.override o).value? x = s.value? x := by
  cases x with
  | baseUrl =>
    have dropped : o.url.filter (!Text.blank ·) = none := by
      refine Option.filter_eq_none_iff.mpr fun u given => ?_
      have blank : ¬Text.blank u = false := fun filled =>
        unset _ (.url given ((blankIff u).mpr filled))
      simpa using blank
    simp only [value?, content, Setting.area, Area.shown, ServerSettings.value?, override, dropped]
    rfl
  | apiToken =>
    have dropped : o.token.filter (!·.isEmpty) = none := by
      refine Option.filter_eq_none_iff.mpr fun t given => ?_
      have empty : ¬t ≠ "" := fun filled => unset _ (.token given filled)
      simpa using empty
    simp only [value?, content, Setting.area, Area.shown, ServerSettings.value?, override, dropped]
    rfl
  | defaultProject =>
    have dropped : (o.project.bind fun p => Text.int64? (Text.trim p)) = none := by
      refine Option.bind_eq_none_iff.mpr fun p given => ?_
      refine Option.eq_none_iff_forall_ne_some.mpr fun n number => ?_
      exact unset _ (.project given number)
    simp only [value?, content, Setting.area, Area.shown, ProjectSettings.value?, override, dropped]
    rfl
  | _ => rfl

theorem settled {file : Option (List UInt8)} {s : Settings}
    (loaded : ∀ x, s.value? x = ((document? file).bind x.written?).or (defaults.value? x))
    (o : Overrides) (x : Setting) : Settled file o x ((s.override o).value? x) := by
  by_cases set : ∃ v, o.Sets x v
  · obtain ⟨v, sets⟩ := set
    rw [overrideSets s sets]
    exact .environment sets
  · have unset : ∀ w, ¬o.Sets x w := not_exists.mp set
    rw [overrideKeeps s unset, loaded]
    cases written : (document? file).bind x.written? with
    | none => exact .default unset written
    | some v => exact .file unset written

theorem loadStray {bytes : List UInt8} (stray : ∀ text, bytes ≠ Text.utf8 text) (o : Overrides) :
    load? (some bytes) o = some (defaults.override o) := by
  simp only [load?, Option.bind_some, Text.strictNone.mpr stray]

theorem loadText (text : String) (o : Overrides) :
    load? (some (Text.utf8 text)) o = (ofText? text).map (·.override o) := by
  simp only [load?, Option.bind_some, Text.strictIff.mpr rfl]

theorem fileCases (file : Option (List UInt8)) :
    file.bind Text.strict? = none ∨ ∃ text, file = some (Text.utf8 text) := by
  cases file with
  | none => exact .inl rfl
  | some bytes =>
    cases read : Text.strict? bytes with
    | none => exact .inl read
    | some text => exact .inr ⟨text, congrArg some (Text.strictIff.mp read)⟩

theorem loadFails (file : Option (List UInt8)) (o : Overrides) :
    load? file o = none ↔ ∃ text, file = some (Text.utf8 text) ∧ ¬Valid text := by
  rcases fileCases file with unread | ⟨text, rfl⟩
  · have loaded : load? file o = some (defaults.override o) := by
      simp only [load?, unread]
    have apart : ¬∃ text, file = some (Text.utf8 text) ∧ ¬Valid text := by
      rintro ⟨text, rfl, -⟩
      rw [Option.bind_some, Text.strictIff.mpr rfl] at unread
      cases unread
    simp [loaded, apart]
  · rw [loadText, Option.map_eq_none_iff, ← Option.not_isSome_iff_eq_none, validIff]
    constructor
    · intro invalid
      exact ⟨text, rfl, invalid⟩
    · rintro ⟨other, same, invalid⟩
      exact Text.utf8Injective (Option.some.inj same) ▸ invalid

theorem loadSettles {file : Option (List UInt8)} {o : Overrides} {s : Settings}
    (loaded : load? file o = some s) (x : Setting) : Settled file o x (s.value? x) := by
  rcases fileCases file with unread | ⟨text, rfl⟩
  · simp only [load?, unread, Option.some.injEq] at loaded
    subst loaded
    exact settled (fun x => by simp [document?, unread]) o x
  · rw [loadText] at loaded
    obtain ⟨filed, read, rfl⟩ := Option.map_eq_some_iff.mp loaded
    obtain ⟨document, parsed, values⟩ := textRead read
    have held : document? (some (Text.utf8 text)) = some document := by
      rw [document?, Option.bind_some, Text.strictIff.mpr rfl, Option.bind_some, parsed]
    exact settled (fun x => by rw [held, values]; rfl) o x

/-- Loading fails exactly for a text that is no configuration, and otherwise each setting comes to
what the environment, the file or the defaults have for it, in that order. A file that is no text
counts as none: so failing for whatever is no configuration is the law of all files but these. -/
theorem settingsLoaded (file : Option (List UInt8)) (o : Overrides) :
    (load? file o = none ↔ ∃ text, file = some (Text.utf8 text) ∧ ¬Valid text) ∧
    (∀ s, load? file o = some s → ∀ x, Settled file o x (s.value? x)) ∧
    (∀ bytes, (∀ text, bytes ≠ Text.utf8 text) → load? (some bytes) o = load? none o) ∧
    ((load? file o = none ↔ ∃ bytes, file = some bytes ∧
        ¬∃ text, bytes = Text.utf8 text ∧ Valid text) ↔
      ∀ bytes, file = some bytes → ∃ text, bytes = Text.utf8 text) := by
  refine ⟨loadFails file o, fun _ => loadSettles, fun bytes stray => loadStray stray o, ?_⟩
  constructor
  · rintro law bytes rfl
    by_contra stray
    have failed : load? (some bytes) o = none := law.mpr ⟨bytes, rfl, fun ⟨text, written, _⟩ =>
      stray ⟨text, written⟩⟩
    rw [loadStray (not_exists.mp stray) o] at failed
    cases failed
  · intro texts
    rw [loadFails]
    constructor
    · rintro ⟨text, rfl, invalid⟩
      exact ⟨_, rfl, fun ⟨other, same, valid⟩ => invalid (Text.utf8Injective same ▸ valid)⟩
    · rintro ⟨bytes, rfl, invalid⟩
      obtain ⟨text, rfl⟩ := texts bytes rfl
      exact ⟨text, rfl, fun valid => invalid ⟨text, rfl, valid⟩⟩

theorem strayPassed : (∀ text, ([0xFF] : List UInt8) ≠ Text.utf8 text) ∧
    load? (some [0xFF]) ⟨none, none, none⟩ = some defaults :=
  ⟨Text.strictNone.mp rfl, rfl⟩

end Settings
end ChaincodeConsole
