import ChaincodeConsole.Toml.Document

/-! The keys of a document. No table of it names a key twice: not the document, no table or inline
table within it, and none of several tables under one name. -/
namespace ChaincodeConsole.Toml

inductive Value.Distinct : Value → Prop where
  | string (s : String) : Distinct (.string s)
  | integer (n : Int) : Distinct (.integer n)
  | floating : Distinct .floating
  | bool (b : Bool) : Distinct (.bool b)
  | datetime : Distinct .datetime
  | array {items : List Value} (inner : ∀ v ∈ items, Distinct v) : Distinct (.array items)
  | table {entries : List (String × Value)} (keys : (entries.map Prod.fst).Nodup)
      (inner : ∀ e ∈ entries, Distinct e.2) : Distinct (.table entries)

inductive Node.Distinct : Node → Prop where
  | value {v : Value} (whole : v.Distinct) : Distinct (.value v)
  | table {implicit dotted : Bool} {t : List (String × Node)} (keys : (t.map Prod.fst).Nodup)
      (inner : ∀ e ∈ t, Distinct e.2) : Distinct (.table implicit dotted t)
  | tables {items : List (List (String × Node))} (keys : ∀ t ∈ items, (t.map Prod.fst).Nodup)
      (inner : ∀ t ∈ items, ∀ e ∈ t, Distinct e.2) : Distinct (.tables items)

namespace Node

theorem finishEntriesMap (t : Entries) :
    finishEntries t = t.map fun e => (e.1, e.2.finish) := by
  induction t with
  | nil => rfl
  | cons e t ih => rw [finishEntries, ih, List.map_cons]

theorem finishTablesMap (items : List Entries) :
    finishTables items = items.map fun t => .table (finishEntries t) := by
  induction items with
  | nil => rfl
  | cons t items ih => rw [finishTables, ih, List.map_cons]

theorem finishKeys (t : Entries) : (finishEntries t).map Prod.fst = t.map Prod.fst := by
  rw [finishEntriesMap, List.map_map]
  rfl

theorem finishTable {t : Entries} (keys : (t.map Prod.fst).Nodup)
    (inner : ∀ e ∈ t, e.2.finish.Distinct) : (Value.table (finishEntries t)).Distinct := by
  refine .table (finishKeys t ▸ keys) fun e inside => ?_
  rw [finishEntriesMap] at inside
  obtain ⟨node, held, rfl⟩ := List.mem_map.mp inside
  exact inner node held

theorem finishDistinct {n : Node} (distinct : n.Distinct) : n.finish.Distinct := by
  induction distinct with
  | value whole => simpa only [finish] using whole
  | table keys _ ih => simpa only [finish] using finishTable keys ih
  | @tables items keys _ ih =>
    rw [finish, finishTablesMap]
    refine .array fun v inside => ?_
    obtain ⟨t, held, rfl⟩ := List.mem_map.mp inside
    exact finishTable (keys t held) (ih t held)

end Node

namespace Entries

structure Distinct (t : Entries) : Prop where
  keys : (t.map Prod.fst).Nodup
  inner : ∀ e ∈ t, e.2.Distinct

theorem distinctNil : Distinct [] := ⟨List.nodup_nil, by simp⟩

theorem Distinct.table {t : Entries} (d : t.Distinct) (implicit dotted : Bool) :
    (Node.table implicit dotted t).Distinct := .table d.keys d.inner

theorem Distinct.tables {items : List Entries} (all : ∀ t ∈ items, Distinct t) :
    (Node.tables items).Distinct := .tables (fun t held => (all t held).keys) fun t held =>
  (all t held).inner

theorem ofTable {implicit dotted : Bool} {t : Entries}
    (distinct : (Node.table implicit dotted t).Distinct) : Distinct t := by
  cases distinct with
  | table keys inner => exact ⟨keys, inner⟩

theorem ofTables {items : List Entries} (distinct : (Node.tables items).Distinct) :
    ∀ t ∈ items, Distinct t := by
  cases distinct with
  | tables keys inner => exact fun t held => ⟨keys t held, inner t held⟩

theorem findInside {key : String} {t : Entries} {n : Node} (found : find? key t = some n) :
    (key, n) ∈ t := by
  induction t with
  | nil => cases found
  | cons e t ih =>
    rw [find?] at found
    split at found
    · rename_i same
      cases found
      exact same ▸ List.mem_cons_self
    · exact List.mem_cons_of_mem _ (ih found)

theorem putInside {key : String} {n : Node} {t : Entries} {e : String × Node}
    (inside : e ∈ put key n t) : e = (key, n) ∨ e ∈ t := by
  induction t with
  | nil => simpa [put] using inside
  | cons head t ih =>
    rw [put] at inside
    split at inside
    · rename_i same
      rw [List.mem_cons, same] at inside
      exact inside.imp_right (List.mem_cons_of_mem _)
    · rcases List.mem_cons.mp inside with rfl | later
      · exact .inr List.mem_cons_self
      · exact (ih later).imp_right (List.mem_cons_of_mem _)

theorem putDistinct {t : Entries} (d : t.Distinct) {n : Node} (distinct : n.Distinct)
    (key : String) : Distinct (put key n t) := by
  refine ⟨?_, fun e inside => ?_⟩
  · obtain ⟨keys, -⟩ := d
    induction t with
    | nil => simp [put]
    | cons head t ih =>
      obtain ⟨fresh, rest⟩ := List.nodup_cons.mp keys
      rw [put]
      split
      · exact List.nodup_cons.mpr ⟨fresh, rest⟩
      · rename_i other
        refine List.nodup_cons.mpr ⟨fun again => ?_, ih rest⟩
        obtain ⟨e, inside, same⟩ := List.mem_map.mp again
        rcases putInside inside with rfl | held
        · exact other same.symm
        · exact fresh (same ▸ List.mem_map_of_mem held)
  · rcases putInside inside with rfl | held
    · exact distinct
    · exact d.inner e held

theorem onLastEach {P : Entries → Prop} {f : Entries → Option Entries}
    (kept : ∀ t after, P t → f t = some after → P after) {items after : List Entries}
    (all : ∀ t ∈ items, P t) (done : onLast f items = some after) : ∀ t ∈ after, P t := by
  induction items generalizing after with
  | nil => cases done
  | cons t items ih =>
    obtain ⟨first, rest⟩ := List.forall_mem_cons.mp all
    cases items with
    | nil =>
      obtain ⟨last, changed, rfl⟩ := Option.map_eq_some_iff.mp done
      simpa using kept t last first changed
    | cons u items =>
      obtain ⟨later, changed, rfl⟩ := Option.map_eq_some_iff.mp done
      exact List.forall_mem_cons.mpr ⟨first, ih rest changed⟩

theorem atPathDistinct {f : Bool → Entries → Option Entries}
    (kept : ∀ isDotted t after, Distinct t → f isDotted t = some after → Distinct after)
    (dotted : Bool) (path : List String) {isDotted : Bool} {t after : Entries} (d : t.Distinct)
    (done : atPath dotted f path isDotted t = some after) : Distinct after := by
  induction path generalizing isDotted t after with
  | nil => exact kept isDotted t after d done
  | cons key path ih =>
    rw [atPath] at done
    split at done
    · obtain ⟨sub, changed, rfl⟩ := Option.map_eq_some_iff.mp done
      exact putDistinct d ((ih distinctNil changed).table true dotted) key
    · cases done
    · rename_i items found
      obtain ⟨later, changed, rfl⟩ := Option.map_eq_some_iff.mp done
      have all := ofTables (d.inner _ (findInside found))
      exact putDistinct d (Distinct.tables (onLastEach (fun t after => ih) all changed)) key
    · rename_i implicit isDotted sub found
      split at done
      · cases done
      · obtain ⟨later, changed, rfl⟩ := Option.map_eq_some_iff.mp done
        have inner := ofTable (d.inner _ (findInside found))
        exact putDistinct d ((ih inner changed).table implicit isDotted) key

theorem addEntryDistinct {path : List String} {key : String} {v : Value} {t after : Entries}
    (d : t.Distinct) (whole : v.Distinct) (added : addEntry path key v t = some after) :
    Distinct after := by
  refine atPathDistinct (fun isDotted t after d done => ?_) true path d added
  split at done
  · cases done
  · split at done
    · cases done
      exact putDistinct d (.value whole) key
    · cases done

theorem openTableDistinct {path : List String} {key : String} {t after : Entries} (d : t.Distinct)
    (opened : openTable path key t = some after) : Distinct after := by
  refine atPathDistinct (fun _ t after d done => ?_) false path d opened
  split at done
  · cases done
    exact putDistinct d (distinctNil.table false false) key
  · rename_i sub found
    cases done
    exact putDistinct d ((ofTable (d.inner _ (findInside found))).table false false) key
  · cases done

theorem openItemDistinct {path : List String} {key : String} {t after : Entries} (d : t.Distinct)
    (opened : openItem path key t = some after) : Distinct after := by
  refine atPathDistinct (fun _ t after d done => ?_) false path d opened
  split at done
  · cases done
    exact putDistinct d (Distinct.tables (by simpa using distinctNil)) key
  · rename_i items found
    cases done
    have all := ofTables (d.inner _ (findInside found))
    refine putDistinct d (Distinct.tables fun t held => ?_) key
    rcases List.mem_append.mp held with earlier | last
    · exact all t earlier
    · exact List.mem_singleton.mp last ▸ distinctNil
  · cases done

end Entries

theorem addAllDistinct {entries : List (List String × String × Value)} {held t : Entries}
    (inner : ∀ e ∈ entries, e.2.2.Distinct) (d : held.Distinct)
    (added : entries.foldlM (fun t (path, key, v) => Entries.addEntry path key v t) held = some t) :
    t.Distinct := by
  induction entries generalizing held with
  | nil => exact Option.some.inj added ▸ d
  | cons e entries ih =>
    obtain ⟨first, rest⟩ := List.forall_mem_cons.mp inner
    rw [List.foldlM_cons] at added
    obtain ⟨next, put, later⟩ := Option.bind_eq_some_iff.mp added
    exact ih rest (Entries.addEntryDistinct d first put) later

theorem inlineDistinct {entries : List (List String × String × Value)} {v : Value}
    (inner : ∀ e ∈ entries, e.2.2.Distinct) (made : inlineTable? entries = some v) :
    v.Distinct := by
  obtain ⟨t, added, rfl⟩ := Option.map_eq_some_iff.mp made
  have d := addAllDistinct inner Entries.distinctNil added
  exact Node.finishTable d.keys fun e held => Node.finishDistinct (d.inner e held)

theorem intDistinct {n : Int} {r rest : Rest} {v : Value} (read : int64Value n r = some (v, rest)) :
    v.Distinct := by
  unfold int64Value at read
  split at read
  · cases read
    exact .integer n
  · cases read

theorem floatDistinct {negative : Bool} {digits : List Char} {places : Nat} {cs rest : Rest}
    {v : Value} (read : floatValue negative digits places cs = some (v, rest)) : v.Distinct := by
  unfold floatValue at read
  dsimp only at read
  repeat' split at read
  all_goals cases read <;> exact .floating

theorem decimalDistinct {negative : Bool} {cs rest : Rest} {v : Value}
    (read : decimal negative cs = some (v, rest)) : v.Distinct := by
  unfold decimal at read
  split at read
  · cases read
    exact .floating
  · cases read
    exact .floating
  · split at read
    · cases read
    · split at read
      · split at read
        · exact floatDistinct read
        · cases read
      · exact floatDistinct read
      · exact floatDistinct read
      · exact intDistinct read

theorem basedDistinct {base : Nat} {isDigit : Char → Bool} {cs rest : Rest} {v : Value}
    (read : based base isDigit cs = some (v, rest)) : v.Distinct := by
  unfold based at read
  split at read
  · exact intDistinct read
  · cases read

theorem numberDistinct {cs rest : Rest} {v : Value} (read : number? cs = some (v, rest)) :
    v.Distinct := by
  unfold number? at read
  split at read
  · obtain ⟨r, -, same⟩ := Option.map_eq_some_iff.mp read
    cases same
    exact .datetime
  · split at read
    · exact basedDistinct read
    · exact basedDistinct read
    · exact basedDistinct read
    · exact decimalDistinct read
    · exact decimalDistinct read
    · exact decimalDistinct read

theorem scalarDistinct {cs rest : Rest} {v : Value} (read : scalar? cs = some (v, rest)) :
    v.Distinct := by
  unfold scalar? at read
  split at read
  · rename_i p word
    cases read
    unfold word? at word
    split at word
    all_goals cases word <;> exact .bool _
  · split at read
    · cases read
      exact .string _
    · exact numberDistinct read

structure ReadsDistinct (fuel : Nat) : Prop where
  value : ∀ depth cs v r, value? fuel depth cs = some (v, r) → v.Distinct
  items : ∀ depth cs vs r, items? fuel depth cs = some (vs, r) → ∀ v ∈ vs, v.Distinct
  entries : ∀ depth cs es r, entries? fuel depth cs = some (es, r) → ∀ e ∈ es, e.2.2.Distinct

theorem valueStep {fuel : Nat} (ih : ReadsDistinct fuel) {depth : Nat} {cs rest : Rest} {v : Value}
    (read : value? (fuel + 1) depth cs = some (v, rest)) : v.Distinct := by
  unfold value? at read
  split at read
  · split at read
    · cases read
    · obtain ⟨⟨vs, r⟩, inner, same⟩ := Option.map_eq_some_iff.mp read
      cases same
      exact .array (ih.items _ _ _ _ inner)
  · split at read
    · cases read
    · split at read
      · cases read
        exact .table List.nodup_nil (by simp)
      · split at read
        · rename_i inner
          obtain ⟨made, whole, same⟩ := Option.map_eq_some_iff.mp read
          cases same
          exact inlineDistinct (ih.entries _ _ _ _ inner) whole
        · cases read
  · exact scalarDistinct read

theorem itemsStep {fuel : Nat} (ih : ReadsDistinct fuel) {depth : Nat} {cs rest : Rest}
    {vs : List Value} (read : items? (fuel + 1) depth cs = some (vs, rest)) :
    ∀ v ∈ vs, v.Distinct := by
  unfold items? at read
  split at read
  · cases read
    simp
  · split at read
    · cases read
    · rename_i v r first
      have own := ih.value _ _ _ _ first
      split at read
      · obtain ⟨⟨later, r⟩, inner, same⟩ := Option.map_eq_some_iff.mp read
        cases same
        exact List.forall_mem_cons.mpr ⟨own, ih.items _ _ _ _ inner⟩
      · cases read
        simpa using own
      · cases read

theorem entriesStep {fuel : Nat} (ih : ReadsDistinct fuel) {depth : Nat} {cs rest : Rest}
    {es : List (List String × String × Value)}
    (read : entries? (fuel + 1) depth cs = some (es, rest)) : ∀ e ∈ es, e.2.2.Distinct := by
  unfold entries? at read
  split at read
  · split at read
    · cases read
    · rename_i v r first
      have own := ih.value _ _ _ _ first
      split at read
      · obtain ⟨⟨later, r⟩, inner, same⟩ := Option.map_eq_some_iff.mp read
        cases same
        exact List.forall_mem_cons.mpr ⟨own, ih.entries _ _ _ _ inner⟩
      · cases read
        simpa using own
      · cases read
  · cases read

theorem readsDistinct (fuel : Nat) : ReadsDistinct fuel := by
  induction fuel with
  | zero => constructor <;> intro depth cs v r read <;> simp [value?, items?, entries?] at read
  | succ fuel ih =>
    exact ⟨fun _ _ _ _ => valueStep ih, fun _ _ _ _ => itemsStep ih, fun _ _ _ _ => entriesStep ih⟩

theorem headerDistinct {close : List Char}
    {openWith : List String → String → Entries → Option Entries}
    (kept : ∀ path key t after, Entries.Distinct t → openWith path key t = some after →
      Entries.Distinct after) {b after : Builder} {cs rest : Rest} (d : b.root.Distinct)
    (read : header? close openWith b cs = some (after, rest)) : after.root.Distinct := by
  simp only [header?, bind, Option.bind_eq_some_iff] at read
  obtain ⟨⟨⟨path, key⟩, r⟩, -, read⟩ := read
  dsimp only at read
  split at read
  · obtain ⟨behind, -, opens⟩ := Option.bind_eq_some_iff.mp read
    obtain ⟨root, opened, same⟩ := Option.bind_eq_some_iff.mp opens
    cases same
    exact kept path key b.root root d opened
  · cases read

theorem entryDistinct {b after : Builder} {cs rest : Rest} (d : b.root.Distinct)
    (read : entry? b cs = some (after, rest)) : after.root.Distinct := by
  unfold entry? at read
  split at read
  · obtain ⟨⟨v, r⟩, value, read⟩ := Option.bind_eq_some_iff.mp read
    obtain ⟨behind, -, adds⟩ := Option.bind_eq_some_iff.mp read
    obtain ⟨root, added, same⟩ := Option.bind_eq_some_iff.mp adds
    cases same
    have whole := (readsDistinct _).value _ _ _ _ value
    exact Entries.atPathDistinct (fun _ t after d => Entries.addEntryDistinct d whole) false b.path
      d added
  · cases read

theorem lineDistinct {b after : Builder} {cs rest : Rest} (d : b.root.Distinct)
    (read : line? b cs = some (after, rest)) : after.root.Distinct := by
  unfold line? at read
  split at read
  · exact headerDistinct (fun _ _ _ _ => Entries.openItemDistinct) d read
  · exact headerDistinct (fun _ _ _ _ => Entries.openTableDistinct) d read
  · obtain ⟨r, -, same⟩ := Option.map_eq_some_iff.mp read
    cases same
    exact d
  · obtain ⟨r, -, same⟩ := Option.map_eq_some_iff.mp read
    cases same
    exact d
  · obtain ⟨r, -, same⟩ := Option.map_eq_some_iff.mp read
    cases same
    exact d
  · exact entryDistinct d read

theorem linesDistinct {fuel : Nat} {b after : Builder} {cs : Rest} (d : b.root.Distinct)
    (read : lines? fuel b cs = some after) : after.root.Distinct := by
  induction fuel generalizing b cs with
  | zero =>
    unfold lines? at read
    cases left : skipSpace cs with
    | nil =>
      rw [left] at read
      exact Option.some.inj read ▸ d
    | cons c r => simp [left] at read
  | succ fuel ih =>
    unfold lines? at read
    cases left : skipSpace cs with
    | nil =>
      rw [left] at read
      exact Option.some.inj read ▸ d
    | cons c r =>
      simp only [left] at read
      split at read
      · rename_i more
        exact ih (lineDistinct d more) read
      · cases read

theorem readDistinct {text : String} {entries : List (String × Value)}
    (read : read? text = some entries) : (Value.table entries).Distinct := by
  unfold read? at read
  obtain ⟨b, lines, rfl⟩ := Option.map_eq_some_iff.mp read
  have d := linesDistinct Entries.distinctNil lines
  exact Node.finishTable d.keys fun e held => Node.finishDistinct (d.inner e held)

end ChaincodeConsole.Toml
