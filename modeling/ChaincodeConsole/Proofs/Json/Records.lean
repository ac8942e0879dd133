import ChaincodeConsole.Json.Shape

/-! Records read from objects. Where each key stands once, the members of an object are taken one
after the other: a field's value is put into the draft, any other member is passed over. -/
namespace ChaincodeConsole.Json.RecordShape

variable {ν δ : Type} {s : RecordShape ν δ}

inductive Takes (s : RecordShape ν δ) : δ → List (String × ν) → δ → Prop where
  | nil {draft : δ} : Takes s draft [] draft
  | other {draft final : δ} {key : String} {v : ν} {rest : List (String × ν)}
      (unknown : key ∉ s.fields) (later : Takes s draft rest final) :
      Takes s draft ((key, v) :: rest) final
  | field {draft next final : δ} {key : String} {v : ν} {rest : List (String × ν)}
      (known : key ∈ s.fields) (put : s.put draft key v = .ok next)
      (later : Takes s next rest final) : Takes s draft ((key, v) :: rest) final

def fieldsOf (s : RecordShape ν δ) (members : List (String × ν)) : List String :=
  (members.map Prod.fst).filter s.fields.contains

theorem takesOther {draft final : δ} {key : String} {v : ν} {rest : List (String × ν)}
    (unknown : key ∉ s.fields) :
    Takes s draft ((key, v) :: rest) final ↔ Takes s draft rest final := by
  constructor
  · intro takes
    cases takes with
    | other _ later => exact later
    | field known => exact absurd known unknown
  · exact .other unknown

theorem takesField {draft final : δ} {key : String} {v : ν} {rest : List (String × ν)}
    (known : key ∈ s.fields) : Takes s draft ((key, v) :: rest) final ↔
      ∃ next, s.put draft key v = .ok next ∧ Takes s next rest final := by
  constructor
  · intro takes
    cases takes with
    | other unknown => exact absurd known unknown
    | field _ put later => exact ⟨_, put, later⟩
  · rintro ⟨next, put, later⟩
    exact .field known put later

theorem takesAppend {draft next final : δ} {front back : List (String × ν)}
    (first : Takes s draft front next) (second : Takes s next back final) :
    Takes s draft (front ++ back) final := by
  induction first with
  | nil => exact second
  | other unknown _ ih => exact .other unknown (ih second)
  | field known put _ ih => exact .field known put (ih second)

theorem fieldPlain (plain : s.aliases = []) (key : String) :
    s.field? key = if s.fields.contains key then some key else none := by
  simp [field?, plain]

theorem putMembersTakes (plain : s.aliases = []) {members : List (String × ν)} {draft final : δ}
    {seen after : List String} (distinct : (members.map Prod.fst).Nodup)
    (fresh : ∀ key ∈ members.map Prod.fst, key ∉ seen) :
    s.putMembers draft seen members = .ok (final, after) ↔
      Takes s draft members final ∧ after = (s.fieldsOf members).reverse ++ seen := by
  induction members generalizing draft seen with
  | nil =>
    constructor
    · rintro ⟨⟩
      exact ⟨.nil, rfl⟩
    · rintro ⟨⟨⟩, rfl⟩
      rfl
  | cons m rest ih =>
    obtain ⟨key, v⟩ := m
    obtain ⟨new, others⟩ := List.nodup_cons.mp distinct
    obtain ⟨unseen, later⟩ := List.forall_mem_cons.mp fresh
    rw [putMembers, fieldPlain plain]
    cases known : s.fields.contains key with
    | false =>
      have unknown : key ∉ s.fields := by simpa using known
      have same : s.fieldsOf ((key, v) :: rest) = s.fieldsOf rest := by
        simp [fieldsOf, unknown]
      rw [takesOther unknown, same]
      exact ih others later
    | true =>
      have inside : key ∈ s.fields := by simpa using known
      have longer : s.fieldsOf ((key, v) :: rest) = key :: s.fieldsOf rest := by
        simp [fieldsOf, inside]
      have unheld : seen.contains key = false := by simpa using unseen
      rw [takesField inside, longer]
      simp only [if_true, unheld, Bool.false_eq_true, if_false]
      cases put : s.put draft key v with
      | error e => simp
      | ok next =>
        have apart : ∀ k ∈ rest.map Prod.fst, k ∉ key :: seen := fun k held =>
          List.not_mem_cons_of_ne_of_not_mem (fun same => new (same ▸ held)) (later k held)
        simp [ih others apart]

theorem ofMembersTakes (plain : s.aliases = []) {members : List (String × ν)} {draft final : δ}
    (distinct : (members.map Prod.fst).Nodup) :
    s.ofMembers draft members = .ok final ↔ Takes s draft members final ∧
      ∀ f ∈ s.fields, s.required f = true → f ∈ members.map Prod.fst := by
  have taken (final : δ) (after : List String) :
      s.putMembers draft [] members = .ok (final, after) ↔
        Takes s draft members final ∧ after = (s.fieldsOf members).reverse ++ [] :=
    putMembersTakes plain distinct fun _ _ => List.not_mem_nil
  simp only [ofMembers]
  cases put : s.putMembers draft [] members with
  | error e =>
    have untaken : ¬Takes s draft members final := fun takes => by
      cases put.symm.trans ((taken final _).mpr ⟨takes, rfl⟩)
    simp [untaken, bind, Except.bind]
  | ok pair =>
    obtain ⟨last, after⟩ := pair
    obtain ⟨takes, rfl⟩ := (taken last after).mp put
    have only : Takes s draft members final ↔ last = final := by
      constructor
      · intro other
        have same := (taken final _).mpr ⟨other, rfl⟩
        rw [put] at same
        cases same
        rfl
      · rintro rfl
        exact takes
    have complete : (s.fields.find? fun f => s.required f &&
        !((s.fieldsOf members).reverse ++ []).contains f) = none ↔
        ∀ f ∈ s.fields, s.required f = true → f ∈ members.map Prod.fst := by
      simp +contextual [List.find?_eq_none, fieldsOf]
    rw [only, ← complete]
    simp only [bind, Except.bind]
    cases s.fields.find? fun f => s.required f &&
        !((s.fieldsOf members).reverse ++ []).contains f with
    | some f => simp
    | none => simp

theorem readObject (s : RecordShape Json δ) (plain : s.aliases = [])
    {members : List (String × Json)} {draft final : δ} (distinct : (members.map Prod.fst).Nodup) :
    s.read draft (.object members) = .ok final ↔ Takes s draft members final ∧
      ∀ f ∈ s.fields, s.required f = true → f ∈ members.map Prod.fst :=
  ofMembersTakes plain distinct

end ChaincodeConsole.Json.RecordShape
