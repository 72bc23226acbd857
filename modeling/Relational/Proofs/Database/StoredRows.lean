import Relational.Proofs.Database.Reachable

/-!
# Rows as they are stored

Whatever is done to a database, each row that a table holds has a cell for every column, and each cell is NULL or a
value of its column in the form in which values are stored. Storing the row once more would change nothing, and checking
it once more finds nothing wrong, unless a condition reads the clock.
-/

namespace Relational

open Text Decimal

/-- A text is a value of the column other than NULL. An integer is within the width of its type. A value of an ENUM is
one of the values declared for it, if any are. -/
structure Column.Takes (column : Column) (text : String) : Prop where
  accepted : accepts column.type column.choices text = true
  present : (Value.ofText column.type text).isNull = false
  integer : column.type.isInteger = true → ∃ n, readInteger? text = some n ∧ column.type.holds n = true
  choice : column.type = .enum → column.choices = [] ∨ text ∈ column.choices

namespace Schema

/-- The column takes no NULL: it is declared so, or is part of the primary key. -/
def Requires (s : Schema) (column : Column) : Prop :=
  column.nullable = false ∨ column.notNull = true ∨ column.primaryKey = true ∨ column.name ∈ s.primaryKey

/-- A row as a table stores it. -/
structure Stored (s : Schema) (row : List String) : Prop where
  wide : row.length = s.columns.length
  cells : ∀ cell ∈ s.columns.zip row, cell.2 = nullText ∨ cell.1.Takes cell.2
  required : ∀ cell ∈ s.columns.zip row, s.Requires cell.1 → cell.2 ≠ nullText
  encoded : s.encodeRow row = .ok row
  valid : s.ClockFree → ∀ now, s.validateRow now row = .ok ()

end Schema

/-! ## Cells -/

/-- A text that is stored as it is, is NULL or a value of the column. -/
theorem Column.takes_of_encode {column : Column} {text : String}
    (h : encode column.type column.choices text = .ok text) : text = nullText ∨ column.Takes text := by
  rcases encode_eq_ok.1 h with ⟨-, hnull⟩ | ⟨hnull, haccepts, -⟩
  · exact .inl hnull
  right
  constructor
  case accepted => rw [accepts, haccepts, Bool.or_true]
  case present => exact Value.isNull_ofText hnull haccepts
  case integer =>
    intro hinteger
    obtain ⟨-, n, -, hholds, htext⟩ := encode_integer (DataType.isInteger_iff.1 hinteger) h hnull
    rw [htext]
    exact ⟨n, readInteger?_intText n, hholds⟩
  case choice =>
    intro henum
    rw [henum, acceptsPresent, Bool.or_eq_true, List.isEmpty_iff, List.contains_iff_mem] at haccepts
    exact haccepts

/-! ## Rows -/

namespace Schema

variable {s : Schema} {row : List String}

/-- Each cell of a row that is stored as it is, is stored as it is. -/
theorem encode_of_encodeRow (h : s.encodeRow row = .ok row) :
    ∀ cell ∈ s.columns.zip row, encode cell.1.type cell.1.choices cell.2 = .ok cell.2 := by
  rintro ⟨column, text⟩ hcell
  obtain ⟨i, hi⟩ := List.mem_iff_getElem?.1 hcell
  obtain ⟨hcolumn, htext⟩ := List.getElem?_zip_eq_some.1 hi
  obtain ⟨stored, hstored, hencode⟩ := getElem?_encodeRow h hcolumn htext
  rw [htext, Option.some.injEq] at hstored
  rw [hencode, hstored]

/-- Columns that take no NULL are declared so, those of the primary key as well. -/
theorem Requires.nullable (hs : s.WellFormed) {column : Column} (hcolumn : column ∈ s.columns)
    (h : s.Requires column) : column.nullable = false := by
  obtain ⟨-, hdeclared⟩ := Column.declare_eq_ok.1 (hs.columns column hcolumn)
  have hnullable : column.nullable = (column.nullable && !column.primaryKey && !column.notNull) :=
    congrArg Column.nullable hdeclared
  rcases h with hnull | hnot | hkey | hmem
  · exact hnull
  · rw [hnullable, hnot, Bool.not_true, Bool.and_false]
  · rw [hnullable, hkey, Bool.not_true, Bool.and_false, Bool.false_and]
  · obtain ⟨other, hother, hname, hkey⟩ := hs.key.marked _ hmem
    obtain rfl : other = column := List.inj_on_of_nodup_map hs.columnsDiffer hother hcolumn (by rw [hname])
    rw [hnullable, hkey, Bool.not_true, Bool.and_false, Bool.false_and]

/-- A row that stands in a table is one that the table could store. -/
theorem Standing.stored (h : s.Standing row) (hs : s.WellFormed) : s.Stored row where
  wide := h.wide
  cells := fun cell hcell => Column.takes_of_encode (encode_of_encodeRow h.encoded cell hcell)
  required := by
    intro cell hcell hrequired hnull
    have hpresent := h.present cell hcell (hrequired.nullable hs (List.of_mem_zip hcell).1)
    rw [hnull] at hpresent
    exact absurd hpresent (by decide)
  encoded := h.encoded
  valid := h.valid

end Schema

namespace Database

/-- Every row of every table that is reached is stored. -/
theorem Reachable.rows_stored {db : Database} (h : db.Reachable) {entry : String × Table} (hentry : entry ∈ db.tables)
    {cells : List Cell} (hcells : cells ∈ entry.2.rows) :
    ∃ row, cells = Cell.ofTexts row ∧ entry.2.schema.Stored row := by
  have hfit := h.consistent.fit entry hentry
  cases hcontent : entry.2.content with
  | none =>
    rw [Table.rows, hcontent] at hcells
    cases hcells
  | some content =>
    obtain ⟨rows, hrows, hstanding⟩ := hfit.rows content hcontent
    rw [hrows.rows_eq] at hcells
    obtain ⟨row, hrow, rfl⟩ := List.mem_map.1 hcells
    exact ⟨row, rfl, (hstanding row hrow).stored hfit.wellFormed⟩

/-! ## An ENUM without values -/

namespace Label

/-- A moment at which the steps below are made. -/
def moment : Timestamp :=
  ⟨⟨2024, 2, 29⟩, ⟨12, 34, 56⟩⟩

/-- The number of a label. -/
def numberColumn : Column :=
  { name := "number", type := .int, nullable := false, notNull := true }

/-- The kind of a label, for which no values are declared. -/
def kindColumn : Column :=
  { name := "kind", type := .enum }

/-- A table of labels. -/
def schema : Schema :=
  { name := "label"
    description := ""
    isTemp := false
    columns := [numberColumn, kindColumn]
    primaryKey := []
    uniques := []
    foreignKeys := []
    checks := []
    indexes := []
    rowCount := 0
    createdAt := moment
    modifiedAt := moment
    written := [] }

theorem declared : schema.Declared := by
  have hname : Schema.create "label" "" false moment = .ok { schema with columns := [] } := by decide +kernel
  have hnumber : numberColumn.declare = .ok numberColumn := by decide +kernel
  have hkind : kindColumn.declare = .ok kindColumn := by decide +kernel
  have hone : ({ schema with columns := [] } : Schema).addColumn numberColumn
      = .ok { schema with columns := [numberColumn] } := by decide +kernel
  have htwo : ({ schema with columns := [numberColumn] } : Schema).addColumn kindColumn = .ok schema := by
    decide +kernel
  exact ((Schema.Declared.create hname).addColumn hnumber hone).addColumn hkind htwo

/-- A database with one label. -/
def database : Database :=
  (((empty none).addTable moment schema).2.insertRow moment "label" (.cells [" 007 ", "x"])).2

theorem reachable : database.Reachable :=
  ((Reachable.empty none).move (.addTable moment declared ⟨rfl, by decide⟩)).move
    (.insertRow moment "label" (.cells [" 007 ", "x"]))

end Label

/-- The label is stored with its number in the usual form. -/
theorem label_stored : ∃ row, [Cell.text "7", Cell.text "x"] = Cell.ofTexts row ∧
    (stamped Label.schema [[Cell.text "7", Cell.text "x"]] Label.moment).Stored row := by
  obtain ⟨entry, hentry, hschema, hrow⟩ : ∃ entry ∈ Label.database.tables,
      entry.2.schema = stamped Label.schema [[Cell.text "7", Cell.text "x"]] Label.moment ∧
        [Cell.text "7", Cell.text "x"] ∈ entry.2.rows := by
    decide +kernel
  rw [← hschema]
  exact Label.reachable.rows_stored hentry hrow

/-- If no values are declared for an ENUM, its cells are not among them. -/
theorem label_kind_undeclared : Label.database.Reachable ∧ ¬ ∀ entry ∈ Label.database.tables,
    ∀ row ∈ entry.2.rows, ∀ cell ∈ entry.2.schema.columns.zip row, cell.1.type = .enum →
      cell.2 = .text nullText ∨ cell.2 ∈ cell.1.choices.map Cell.text :=
  ⟨Label.reachable, by decide +kernel⟩

end Database

end Relational
