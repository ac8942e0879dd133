import ChaincodeConsole.Proofs.Toml.Sections
import ChaincodeConsole.Settings.Reading
import Mathlib.Data.List.Nodup

/-! The settings one by one. Each has its place in an area of a document and takes values of one
kind, and a document of which all areas fit gives each setting what it says of it, or leaves it. -/
namespace ChaincodeConsole

open Toml (Value Section)

inductive Setting where
  | baseUrl
  | apiToken
  | username
  | password
  | connectTimeout
  | requestTimeout
  | defaultProject
  | previewInterval
  | showArguments
  | maxViewLines
  | transcriptEnabled
  | transcriptDir
  | logLevel
  | logDir
  deriving DecidableEq, Repr

namespace Setting

inductive Area where
  | server
  | project
  | chat
  | telemetry
  deriving DecidableEq, Repr

inductive Kind where
  | text
  | natural
  | integer
  | truth
  deriving DecidableEq, Repr

def Kind.Admits : Kind → Value → Prop
  | .text, v => ∃ s, v = .string s
  | .natural, v => ∃ n : Nat, v = .integer n
  | .integer, v => ∃ n, v = .integer n
  | .truth, v => ∃ b, v = .bool b

def Area.name : Area → String
  | .server => "server"
  | .project => "project"
  | .chat => "chat"
  | .telemetry => "telemetry"

def Area.settings : Area → List Setting
  | .server => [.baseUrl, .apiToken, .username, .password, .connectTimeout, .requestTimeout]
  | .project => [.defaultProject]
  | .chat => [.previewInterval, .showArguments, .maxViewLines, .transcriptEnabled, .transcriptDir]
  | .telemetry => [.logLevel, .logDir]

def area : Setting → Area
  | .baseUrl | .apiToken | .username | .password | .connectTimeout | .requestTimeout => .server
  | .defaultProject => .project
  | .previewInterval | .showArguments | .maxViewLines | .transcriptEnabled | .transcriptDir => .chat
  | .logLevel | .logDir => .telemetry

def name : Setting → String
  | .baseUrl => "base_url"
  | .apiToken => "api_token"
  | .username => "username"
  | .password => "password"
  | .connectTimeout => "connect_timeout_secs"
  | .requestTimeout => "request_timeout_secs"
  | .defaultProject => "default_project_id"
  | .previewInterval => "preview_interval_ms"
  | .showArguments => "show_arguments"
  | .maxViewLines => "max_view_lines"
  | .transcriptEnabled => "transcript_enabled"
  | .transcriptDir => "transcript_dir"
  | .logLevel => "log_level"
  | .logDir => "log_dir"

def kind : Setting → Kind
  | .baseUrl | .apiToken | .username | .password | .transcriptDir | .logLevel | .logDir => .text
  | .connectTimeout | .requestTimeout | .previewInterval | .maxViewLines => .natural
  | .defaultProject => .integer
  | .showArguments | .transcriptEnabled => .truth

theorem Area.nameInjective {p q : Area} (same : p.name = q.name) : p = q := by
  cases p <;> cases q <;> simp_all [name]

def Area.names (p : Area) : List String := p.settings.map Setting.name

/-- Whether a value can stand for an area: it gives entries, and those of the area's settings are
of their kinds. -/
def Area.Fits (p : Area) (v : Value) : Prop :=
  ∃ entries, v.given? p.names = some entries ∧
    ∀ e ∈ entries, ∀ x ∈ p.settings, x.name = e.1 → x.kind.Admits e.2

def written? (x : Setting) (document : List (String × Value)) : Option Value :=
  ((document.lookup x.area.name).bind (·.given? x.area.names)).bind (·.lookup x.name)

end Setting

open Setting (Area)

def ServerSettings.value? (s : ServerSettings) : Setting → Option Value
  | .baseUrl => some (.string s.baseUrl)
  | .apiToken => some (.string s.apiToken)
  | .username => some (.string s.username)
  | .password => some (.string s.password)
  | .connectTimeout => some (.integer s.connectTimeout)
  | .requestTimeout => some (.integer s.requestTimeout)
  | _ => none

def ProjectSettings.value? (s : ProjectSettings) : Setting → Option Value
  | .defaultProject => s.defaultId.map .integer
  | _ => none

def ChatSettings.value? (s : ChatSettings) : Setting → Option Value
  | .previewInterval => some (.integer s.previewInterval)
  | .showArguments => some (.bool s.showArguments)
  | .maxViewLines => some (.integer s.maxViewLines)
  | .transcriptEnabled => some (.bool s.transcriptEnabled)
  | .transcriptDir => some (.string s.transcriptDir)
  | _ => none

def TelemetrySettings.value? (s : TelemetrySettings) : Setting → Option Value
  | .logLevel => some (.string s.logLevel)
  | .logDir => some (.string s.logDir)
  | _ => none

def Setting.Area.Content : Area → Type
  | .server => ServerSettings
  | .project => ProjectSettings
  | .chat => ChatSettings
  | .telemetry => TelemetrySettings

def Setting.Area.shown : (p : Area) → p.Content → Setting → Option Value
  | .server => ServerSettings.value?
  | .project => ProjectSettings.value?
  | .chat => ChatSettings.value?
  | .telemetry => TelemetrySettings.value?

def Setting.Area.reader : (p : Area) → Section p.Content
  | .server => Settings.serverSection
  | .project => Settings.projectSection
  | .chat => Settings.chatSection
  | .telemetry => Settings.telemetrySection

namespace Settings

def content (s : Settings) : (p : Area) → p.Content
  | .server => s.server
  | .project => s.project
  | .chat => s.chat
  | .telemetry => s.telemetry

def value? (s : Settings) (x : Setting) : Option Value := x.area.shown (s.content x.area) x

def Valid (text : String) : Prop :=
  ∃ document, Toml.read? text = some document ∧
    ∀ e ∈ document, ∀ p : Area, p.name = e.1 → p.Fits e.2

/-- A section that has an area's settings for its fields, each with values of its kind, and puts
what it takes where the setting is. -/
structure Holds {δ : Type} (s : Section δ) (p : Area) (shown : δ → Setting → Option Value) :
    Prop where
  names : s.fields = p.names
  admits : ∀ x ∈ p.settings, ∀ draft v, (s.put draft x.name v).isSome = true ↔ x.kind.Admits v
  puts : ∀ x ∈ p.settings, ∀ draft v next, s.put draft x.name v = some next →
    ∀ y, shown next y = if y = x then some v else shown draft y

theorem stringRead {v : Value} {s : String} : v.string? = some s ↔ v = .string s := by
  cases v <;> simp [Value.string?]

theorem naturalRead {v : Value} {n : Nat} : v.nat? = some n ↔ v = .integer n := by
  cases v with
  | integer m =>
    cases m with
    | ofNat m =>
      change some m = some n ↔ Value.integer (m : Int) = .integer n
      rw [Option.some.injEq, Value.integer.injEq, Int.ofNat_inj]
    | negSucc m => simp [Value.nat?]
  | _ => simp [Value.nat?]

theorem integerRead {v : Value} {n : Int} : v.integer? = some n ↔ v = .integer n := by
  cases v <;> simp [Value.integer?]

theorem truthRead {v : Value} {b : Bool} : v.bool? = some b ↔ v = .bool b := by
  cases v <;> simp [Value.bool?]

theorem serverHolds : Holds serverSection .server ServerSettings.value? where
  names := rfl
  admits x inside draft v := by
    simp only [Area.settings, List.mem_cons, List.not_mem_nil, or_false] at inside
    rcases inside with rfl | rfl | rfl | rfl | rfl | rfl <;>
      simp [serverSection, Setting.name, Setting.kind, Setting.Kind.Admits,
        Option.isSome_iff_exists, stringRead, naturalRead]
  puts x inside draft v next put y := by
    simp only [Area.settings, List.mem_cons, List.not_mem_nil, or_false] at inside
    rcases inside with rfl | rfl | rfl | rfl | rfl | rfl <;>
      simp only [serverSection, Setting.name, Option.map_eq_some_iff, stringRead,
        naturalRead] at put <;>
      obtain ⟨value, rfl, rfl⟩ := put <;> cases y <;> rfl

theorem projectHolds : Holds projectSection .project ProjectSettings.value? where
  names := rfl
  admits x inside draft v := by
    cases List.mem_singleton.mp inside
    simp [projectSection, Setting.kind, Setting.Kind.Admits, Option.isSome_iff_exists, integerRead]
  puts x inside draft v next put y := by
    cases List.mem_singleton.mp inside
    simp only [projectSection, Option.map_eq_some_iff, integerRead] at put
    obtain ⟨value, rfl, rfl⟩ := put
    cases y <;> rfl

theorem chatHolds : Holds chatSection .chat ChatSettings.value? where
  names := rfl
  admits x inside draft v := by
    simp only [Area.settings, List.mem_cons, List.not_mem_nil, or_false] at inside
    rcases inside with rfl | rfl | rfl | rfl | rfl <;>
      simp [chatSection, Setting.name, Setting.kind, Setting.Kind.Admits, Option.isSome_iff_exists,
        stringRead, naturalRead, truthRead]
  puts x inside draft v next put y := by
    simp only [Area.settings, List.mem_cons, List.not_mem_nil, or_false] at inside
    rcases inside with rfl | rfl | rfl | rfl | rfl <;>
      simp only [chatSection, Setting.name, Option.map_eq_some_iff, stringRead, naturalRead,
        truthRead] at put <;>
      obtain ⟨value, rfl, rfl⟩ := put <;> cases y <;> rfl

theorem telemetryHolds : Holds telemetrySection .telemetry TelemetrySettings.value? where
  names := rfl
  admits x inside draft v := by
    simp only [Area.settings, List.mem_cons, List.not_mem_nil, or_false] at inside
    rcases inside with rfl | rfl <;>
      simp [telemetrySection, Setting.name, Setting.kind, Setting.Kind.Admits,
        Option.isSome_iff_exists, stringRead]
  puts x inside draft v next put y := by
    simp only [Area.settings, List.mem_cons, List.not_mem_nil, or_false] at inside
    rcases inside with rfl | rfl <;>
      simp only [telemetrySection, Setting.name, Option.map_eq_some_iff, stringRead] at put <;>
      obtain ⟨value, rfl, rfl⟩ := put <;> cases y <;> rfl

section
variable {δ : Type} {s : Section δ} {p : Area} {shown : δ → Setting → Option Value}

theorem namesApart (p : Area) : p.names.Nodup := by
  cases p <;> decide

theorem settingInside (x : Setting) : x ∈ x.area.settings := by
  cases x <;> decide

theorem Holds.fits (h : Holds s p shown) (draft : δ) (v : Value) :
    (s.read? draft v).isSome = true ↔ p.Fits v := by
  have known (x : Setting) (inside : x ∈ p.settings) : x.name ∈ s.fields :=
    h.names ▸ List.mem_map_of_mem inside
  have takes : s.Takes fun name v => ∀ x ∈ p.settings, x.name = name → x.kind.Admits v := by
    intro name field draft v
    rw [h.names] at field
    obtain ⟨x, inside, rfl⟩ := List.mem_map.mp field
    rw [h.admits x inside draft v]
    constructor
    · intro admitted y other same
      exact List.inj_on_of_nodup_map (namesApart p) other inside same ▸ admitted
    · intro all
      exact all x inside rfl
  rw [Toml.Section.readTaken takes, h.names]
  refine exists_congr fun entries => and_congr_right fun _ => forall₂_congr fun e _ => ?_
  constructor
  · intro all x inside same
    exact all (same ▸ List.mem_map_of_mem inside) x inside same
  · intro all _
    exact all

theorem Holds.owns (h : Holds s p shown) {x : Setting} (inside : x ∈ p.settings) :
    s.Owns x.name (shown · x) fun _ v => some (some v) where
  known := h.names ▸ List.mem_map_of_mem inside
  own draft v next put := by
    rw [h.puts x inside draft v next put x, if_pos rfl]
  other name field different draft v next put := by
    rw [h.names] at field
    obtain ⟨y, other, rfl⟩ := List.mem_map.mp field
    have apart : x ≠ y := fun same => different (same ▸ rfl)
    rw [h.puts y other draft v next put x, if_neg apart]

theorem Holds.read (h : Holds s p shown) {draft final : δ} {v : Value} (distinct : v.Distinct)
    (done : s.read? draft v = some final) {x : Setting} (inside : x ∈ p.settings) :
    shown final x = ((v.given? p.names).bind (·.lookup x.name)).or (shown draft x) := by
  rw [Toml.Section.readGiven, h.names] at done
  obtain ⟨entries, given, folded⟩ := Option.bind_eq_some_iff.mp done
  have shownLast := Toml.Section.ownedPart (h.owns inside)
    (Toml.givenKeys (namesApart p) distinct given) folded
  rw [given, Option.bind_some]
  cases found : entries.lookup x.name with
  | none =>
    rw [found] at shownLast
    exact (Option.some.inj shownLast).symm
  | some w =>
    rw [found] at shownLast
    exact (Option.some.inj shownLast).symm

theorem Holds.written (h : Holds s p shown) {document : List (String × Value)}
    (distinct : (Value.table document).Distinct) {draft final : δ}
    (done : (document.lookup p.name).elim (some draft) (s.read? draft) = some final) {x : Setting}
    (own : x.area = p) : shown final x = (x.written? document).or (shown draft x) := by
  cases distinct with
  | table _ inner =>
    unfold Setting.written?
    rw [own]
    cases found : document.lookup p.name with
    | none =>
      rw [found] at done
      cases done
      rfl
    | some v =>
      rw [found] at done
      exact h.read (inner _ (Toml.lookupInside found)) done (own ▸ settingInside x)

end

theorem areaHolds : (p : Area) → Holds p.reader p p.shown
  | .server => serverHolds
  | .project => projectHolds
  | .chat => chatHolds
  | .telemetry => telemetryHolds

theorem areaNames : documentSection.fields =
    [Area.server, .project, .chat, .telemetry].map Area.name := rfl

theorem areaNamed (p : Area) : p.name ∈ documentSection.fields := by
  cases p <;> decide

theorem documentPuts {p : Area} {draft next : Settings} {v : Value}
    (put : documentSection.put draft p.name v = some next) :
    p.reader.read? (draft.content p) v = some (next.content p) ∧
      ∀ q, q ≠ p → next.content q = draft.content q := by
  cases p <;> simp only [documentSection, Area.name, Option.map_eq_some_iff] at put <;>
    obtain ⟨x, read, rfl⟩ := put <;> refine ⟨read, fun q other => ?_⟩ <;>
      cases q <;> simp only [ne_eq, reduceCtorEq, not_true_eq_false] at other <;> rfl

theorem documentTakes :
    documentSection.Takes fun name v => ∀ p : Area, p.name = name → p.Fits v := by
  intro name field draft v
  rw [areaNames] at field
  obtain ⟨p, -, rfl⟩ := List.mem_map.mp field
  have area : (documentSection.put draft p.name v).isSome = true ↔ p.Fits v := by
    rw [← (areaHolds p).fits (draft.content p) v]
    cases p <;> simp only [documentSection, Area.name, Option.isSome_map] <;> rfl
  rw [area]
  constructor
  · intro fits q same
    exact Area.nameInjective same ▸ fits
  · intro all
    exact all p rfl

theorem documentOwns (p : Area) :
    documentSection.Owns p.name (content · p) p.reader.read? where
  known := areaNamed p
  own _ _ _ put := (documentPuts put).1
  other name field different draft v next put := by
    rw [areaNames] at field
    obtain ⟨q, -, rfl⟩ := List.mem_map.mp field
    exact (documentPuts put).2 p fun same => different (same ▸ rfl)

theorem documentRead {document : List (String × Value)}
    (distinct : (Value.table document).Distinct) {s : Settings}
    (read : documentSection.read? defaults (.table document) = some s) (x : Setting) :
    s.value? x = (x.written? document).or (defaults.value? x) := by
  have keys := Toml.givenKeys List.nodup_nil distinct rfl
  exact (areaHolds x.area).written distinct
    (Toml.Section.ownedPart (documentOwns x.area) keys read) rfl

theorem validIff (text : String) : (ofText? text).isSome = true ↔ Valid text := by
  unfold ofText? Valid
  cases Toml.read? text with
  | none => simp
  | some document =>
    have taken := Toml.Section.readTaken documentTakes defaults (.table document)
    simp only [Option.bind_some, taken, Value.given?, Option.some.injEq, exists_eq_left']
    refine forall₂_congr fun e _ => ?_
    constructor
    · intro all p same
      exact all (same ▸ areaNamed p) p same
    · intro all _
      exact all

theorem textRead {text : String} {s : Settings} (read : ofText? text = some s) :
    ∃ document, Toml.read? text = some document ∧
      ∀ x, s.value? x = (x.written? document).or (defaults.value? x) := by
  obtain ⟨document, parsed, read⟩ := Option.bind_eq_some_iff.mp read
  exact ⟨document, parsed, documentRead (Toml.readDistinct parsed) read⟩

end Settings
end ChaincodeConsole
