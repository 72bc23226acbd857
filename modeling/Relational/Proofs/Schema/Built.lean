import Relational.Proofs.Schema.Document

/-!
# Definitions built by declarations

A table is defined by declarations that are added one after another. The text of a definition that was built in this
way reads back as the definition, whatever the order of the declarations.

Reading declares everything again in an order of its own: first the columns, then the key, then the constraints kind by
kind. So what carries the proof is not the order of the declarations but what each of them leaves behind, a definition
that is well formed and has the usual entries only.
-/

namespace Relational

/-- What is declared of a table. A column that is declared has the usual entries only. -/
inductive Declaration where
  | column (raw : Column) (usual : raw.written = [])
  | primaryKey (columns : List String)
  | unique (name : String) (columns : List String)
  | foreignKey (name : String) (fk : ForeignKey)
  | check (name condition : String)
  | index (name : String) (columns : List String) (isUnique : Bool)

/-- Adds a declaration to a definition. -/
def Declaration.addTo (s : Schema) : Declaration → Except Failure Schema
  | .column raw _ => do s.addColumn (← raw.declare)
  | .primaryKey columns => s.addPrimaryKey columns
  | .unique name columns => s.addUnique name columns
  | .foreignKey name fk => s.addForeignKey name fk
  | .check name condition => s.addCheck name condition
  | .index name columns isUnique => s.addIndex name columns isUnique

namespace Schema

/-- Defines a table by declarations, added in the order given. -/
def build (name description : String) (isTemp : Bool) (now : Timestamp) (declarations : List Declaration) :
    Except Failure Schema := do
  declarations.foldlM Declaration.addTo (← create name description isTemp now)

variable {s s' : Schema}

/-! ## What a declaration leaves behind -/

theorem create_usual {name description : String} {isTemp : Bool} {now : Timestamp} (hnow : now.Valid)
    (h : create name description isTemp now = .ok s) : s.Usual := by
  obtain ⟨-, h⟩ := check_bind_eq_ok.1 h
  cases h
  exact ⟨rfl, by simp, hnow, hnow⟩

theorem Usual.addColumn (hs : s.Usual) {c : Column} (hc : c.written = []) (h : s.addColumn c = .ok s') :
    s'.Usual := by
  obtain ⟨-, rfl⟩ := addColumn_eq_ok.1 h
  refine ⟨hs.written, ?_, hs.createdAt, hs.modifiedAt⟩
  rw [List.forall_mem_append, List.forall_mem_singleton]
  exact ⟨hs.columns, hc⟩

theorem markedIn_written {key : List String} {c : Column} (h : c.written = []) : (markedIn key c).written = [] := by
  unfold markedIn
  split
  · rw [Column.inPrimaryKey, h]
    rfl
  · exact h

theorem Usual.addPrimaryKey (hs : s.Usual) {columns : List String} (h : s.addPrimaryKey columns = .ok s') :
    s'.Usual := by
  obtain ⟨key, -, rfl⟩ := addPrimaryKey_eq_ok.1 h
  refine ⟨hs.written, ?_, hs.createdAt, hs.modifiedAt⟩
  intro d hd
  obtain ⟨c, hc, rfl⟩ := List.mem_map.1 hd
  exact markedIn_written (hs.columns c hc)

theorem Usual.addUnique (hs : s.Usual) {name : String} {columns : List String}
    (h : s.addUnique name columns = .ok s') : s'.Usual := by
  obtain ⟨-, key, -, rfl⟩ := addUnique_eq_ok.1 h
  exact ⟨hs.written, hs.columns, hs.createdAt, hs.modifiedAt⟩

theorem Usual.addForeignKey (hs : s.Usual) {name : String} {fk : ForeignKey}
    (h : s.addForeignKey name fk = .ok s') : s'.Usual := by
  obtain ⟨-, columns, -, -, rfl⟩ := addForeignKey_eq_ok.1 h
  exact ⟨hs.written, hs.columns, hs.createdAt, hs.modifiedAt⟩

theorem Usual.addCheck (hs : s.Usual) {name condition : String} (h : s.addCheck name condition = .ok s') :
    s'.Usual := by
  obtain ⟨-, -, rfl⟩ := addCheck_eq_ok.1 h
  exact ⟨hs.written, hs.columns, hs.createdAt, hs.modifiedAt⟩

theorem Usual.addIndex (hs : s.Usual) {name : String} {columns : List String} {unique : Bool}
    (h : s.addIndex name columns unique = .ok s') : s'.Usual := by
  obtain ⟨-, -, key, -, rfl⟩ := addIndex_eq_ok.1 h
  exact ⟨hs.written, hs.columns, hs.createdAt, hs.modifiedAt⟩

/-- A declaration keeps a definition well formed, with the usual entries only. -/
theorem addTo_kept {d : Declaration} (hwf : s.WellFormed) (hs : s.Usual) (h : d.addTo s = .ok s') :
    s'.WellFormed ∧ s'.Usual := by
  cases d with
  | column raw usual =>
    obtain ⟨c, hc, h⟩ := bind_eq_ok.1 h
    have hwritten : c.written = [] := by
      obtain ⟨-, rfl⟩ := Column.declare_eq_ok.1 hc
      exact usual
    exact ⟨addColumn_wellFormed hwf hc h, hs.addColumn hwritten h⟩
  | primaryKey columns => exact ⟨addPrimaryKey_wellFormed hwf h, hs.addPrimaryKey h⟩
  | unique name columns => exact ⟨addUnique_wellFormed hwf h, hs.addUnique h⟩
  | foreignKey name fk => exact ⟨addForeignKey_wellFormed hwf h, hs.addForeignKey h⟩
  | check name condition => exact ⟨addCheck_wellFormed hwf h, hs.addCheck h⟩
  | index name columns isUnique => exact ⟨addIndex_wellFormed hwf h, hs.addIndex h⟩

/-- So does any number of declarations. -/
theorem build_kept {name description : String} {isTemp : Bool} {now : Timestamp} (hnow : now.Valid)
    {declarations : List Declaration} (h : build name description isTemp now declarations = .ok s) :
    s.WellFormed ∧ s.Usual := by
  obtain ⟨empty, hempty, h⟩ := bind_eq_ok.1 h
  have hstart : empty.WellFormed ∧ empty.Usual := ⟨create_wellFormed hempty, create_usual hnow hempty⟩
  refine foldlM_preserves (P := fun s => s.WellFormed ∧ s.Usual) ?_ hstart h
  intro s d s' hs hadd
  exact addTo_kept hs.1 hs.2 hadd

/-! ## Reading the text -/

/-- The text of a definition reads back as the definition. -/
theorem ofText_toText_of_usual (hwf : s.WellFormed) (hs : s.Usual) (now : Timestamp) :
    ofText now s.toText = .ok s := by
  have hparse : Json.parse? s.toText = some s.toJson := (toJson_plain hwf hs.regular).parse?_print
  rw [ofText, hparse]
  exact ofJson_toJson hwf hs now

/-- The text of a definition that was built by declarations reads back at any moment as the very definition that was
built, which so has the same text again. -/
theorem ofText_toText_build {name description : String} {isTemp : Bool} {now : Timestamp} (hnow : now.Valid)
    {declarations : List Declaration} (h : build name description isTemp now declarations = .ok s) (later : Timestamp) :
    ofText later s.toText = .ok s := by
  obtain ⟨hwf, hs⟩ := build_kept hnow h
  exact ofText_toText_of_usual hwf hs later

/-- Seats that are booked by the day. The key is declared again, over a column that comes after the first one, and
columns are named in any case. -/
def seats : List Declaration :=
  [.column { name := "Seat", type := .int, primaryKey := true } rfl, .check "numbered" "seat > 0",
    .column { name := "day", type := .date, check := some "day IS NOT NULL" } rfl, .unique "booked" ["DAY", "SEAT"],
    .primaryKey ["day", "SEAT"], .column { name := "kind", type := .enum, choices := ["aisle", "window"] } rfl,
    .foreignKey "priced" ⟨["KIND"], "prices", ["kind"], .cascade, .setNull⟩, .index "kinds" ["Kind"] false]

/-- The first midnight that a clock shows. -/
def firstMidnight : Timestamp :=
  ⟨⟨1000, 1, 1⟩, ⟨0, 0, 0⟩⟩

theorem firstMidnight_valid : firstMidnight.Valid :=
  ⟨by decide, by decide, by decide, by decide, by decide, by decide⟩

theorem ofText_toText_seats : ∃ s, build "seats" "" false firstMidnight seats = .ok s ∧
    s.primaryKey = ["day", "Seat"] ∧ ofText firstMidnight s.toText = .ok s := by
  have hkey : (build "seats" "" false firstMidnight seats).toOption.map Schema.primaryKey
      = some ["day", "Seat"] := by decide +kernel
  cases hbuilt : build "seats" "" false firstMidnight seats with
  | error failure =>
    rw [hbuilt] at hkey
    cases hkey
  | ok s =>
    rw [hbuilt] at hkey
    exact ⟨s, rfl, Option.some.inj hkey, ofText_toText_build firstMidnight_valid hbuilt firstMidnight⟩

end Schema

end Relational
