import Relational.Json.Decode
import Relational.Proofs.Calendar
import Relational.Proofs.Failure
import Relational.Proofs.Json.RoundTrip
import Relational.Proofs.Schema.Declared
import Relational.Schema.Document

/-!
# Definitions read back

A well-formed definition is declared again, part by part, when its document is read, and so comes back as it was. A
definition that was itself put together by declarations has the usual entries only, so nothing of it is lost.
-/

namespace Relational

open Text

/-! ## Entries

What the readers for the entries of an object make of an entry that is there and of the usual kind: its value, and
nothing that would have to be kept as it was written. -/

namespace Json

variable {key : String} {document : Json}

@[simp] theorem restore_nil (entries : List (String × Json)) : restore [] entries = entries := by
  simp [restore]

theorem require_of_field? {value : Json} (h : document.field? key = some value) :
    document.require key = .ok value := by
  cases document with
  | object entries => simp only [require, Json.entries, ok_bind, show entries.lookup key = some value from h]; rfl
  | null | bool | int | real | text | list => cases h

theorem fieldOr_of_field? {α : Type} {read : Json → Except Failure α} {missing : α} {value : Json}
    (h : document.field? key = some value) : document.fieldOr key read missing = read value := by
  cases document with
  | object entries => simp only [fieldOr, Json.entries, ok_bind, show entries.lookup key = some value from h]
  | null | bool | int | real | text | list => cases h

theorem text?_of_field? {s : Option String} (h : document.field? key = some (.ofText? s)) :
    document.text? key = (s, []) := by
  cases s <;> simp [text?, reading, h, ofText?]

theorem int?_of_field? {n : Option Int} (h : document.field? key = some (.ofInt? n)) :
    document.int? key = (n, []) := by
  cases n <;> simp [int?, reading, h, ofInt?]

theorem mapM_asText (texts : List String) : (texts.map Json.text).mapM asText = .ok texts := by
  rw [mapM_eq_ok, List.forall₂_map_left_iff, List.forall₂_same]
  exact fun _ _ => rfl

theorem names_ofTexts (texts : List String) : (ofTexts texts).names = .ok texts := by
  cases texts with
  | nil => rfl
  | cons text texts => exact mapM_asText (text :: texts)

end Json

/-! ## Columns and foreign keys -/

theorem Column.readType_name (type : DataType) : Column.readType type.name = .ok type := by
  cases type <;> decide +kernel

theorem CascadeAction.read_name (action : CascadeAction) : CascadeAction.read action.name = .ok action := by
  cases action <;> decide +kernel

namespace Column

theorem ofJson_toJson {c : Column} (hc : c.declare = .ok c) (hw : c.written = []) : Column.ofJson c.toJson = .ok c := by
  obtain ⟨-, hdeclared⟩ := declare_eq_ok.1 hc
  have hnullable : (c.nullable && !c.primaryKey && !c.notNull) = c.nullable := (congrArg Column.nullable hdeclared).symm
  rw [toJson, hw, Json.restore_nil]
  -- the document is opened only where an entry is looked up
  generalize hdocument : Json.object _ = document
  have hname : document.require "name" = .ok (.text c.name) := by subst hdocument; rfl
  have htype : document.require "type" = .ok (.text c.type.name) := by subst hdocument; rfl
  have hprimary : document.flag "primaryKey" = (c.primaryKey, []) := by subst hdocument; rfl
  have hunique : document.flag "unique" = (c.unique, []) := by subst hdocument; rfl
  have hnotNull : document.flag "notNull" = (c.notNull, []) := by subst hdocument; rfl
  have hauto : document.flag "autoIncrement" = (c.autoIncrement, []) := by subst hdocument; rfl
  have hdefault : document.text? "defaultValue" = (c.default, []) :=
    Json.text?_of_field? (by subst hdocument; rfl)
  have hmaxLength : document.int? "maxLength" = (c.maxLength, []) := Json.int?_of_field? (by subst hdocument; rfl)
  have hprecision : document.int? "precision" = (c.precision, []) := Json.int?_of_field? (by subst hdocument; rfl)
  have hscale : document.int? "scale" = (c.scale, []) := Json.int?_of_field? (by subst hdocument; rfl)
  have hchoices : readChoices document = .ok (c.choices, []) := by
    have hfield : document.field? "enumValues" = some (.list (c.choices.map .text)) := by subst hdocument; rfl
    simp only [readChoices, hfield, Json.mapM_asText]
  have hcheck : document.text? "checkCondition" = (c.check, []) := Json.text?_of_field? (by subst hdocument; rfl)
  have hrefTable : document.text? "foreignKeyTable" = (c.refTable, []) :=
    Json.text?_of_field? (by subst hdocument; rfl)
  have hrefColumn : document.text? "foreignKeyColumn" = (c.refColumn, []) :=
    Json.text?_of_field? (by subst hdocument; rfl)
  have hdescription : document.remark "description" = (c.description, []) := by subst hdocument; rfl
  have hnull : (document.field? "nullable").elim true Json.isTruthy = c.nullable := by subst hdocument; rfl
  simp only [ofJson, hname, htype, hprimary, hunique, hnotNull, hauto, hdefault, hmaxLength, hprecision, hscale,
    hchoices, hcheck, hrefTable, hrefColumn, hdescription, hnull, ok_bind, Json.asText, Json.asName, readType_name,
    List.append_nil]
  rw [← hw]
  exact hc

end Column

namespace ForeignKey

theorem ofJson_toJson {fk : ForeignKey} (h : fk.refColumns ≠ []) : ForeignKey.ofJson fk.toJson = .ok fk := by
  rw [toJson]
  generalize hdocument : Json.object _ = document
  have hrefColumns : document.fieldOr "refColumns" Json.names [] = .ok fk.refColumns := by
    rw [Json.fieldOr_of_field? (by subst hdocument; rfl), Json.names_ofTexts]
  have hcolumns : document.fieldOr "columns" Json.names fk.refColumns = .ok fk.columns := by
    rw [Json.fieldOr_of_field? (by subst hdocument; rfl), Json.names_ofTexts]
  have hrefTable : document.require "refTable" = .ok (.text fk.refTable) := by subst hdocument; rfl
  have honDelete : document.fieldOr "onDelete" Json.asText "RESTRICT" = .ok fk.onDelete.name := by subst hdocument; rfl
  have honUpdate : document.fieldOr "onUpdate" Json.asText "RESTRICT" = .ok fk.onUpdate.name := by subst hdocument; rfl
  have hlist : refColumnsOf document = .ok fk.refColumns := by
    rw [refColumnsOf, hrefColumns, ok_bind]
    split
    · rename_i hempty
      exact absurd hempty h
    · rfl
  simp only [ofJson, hlist, hcolumns, hrefTable, honDelete, honUpdate, Json.asText, CascadeAction.read_name, ok_bind,
    pure_eq_ok]

end ForeignKey

namespace Schema

/-- The columns of a definition alone. -/
def withoutRules (s : Schema) : Schema :=
  { s with uniques := [], foreignKeys := [], checks := [], indexes := [] }

/-- The names of the columns that are marked as part of the primary key. -/
def markedNames (columns : List Column) : List String :=
  (columns.filter Column.primaryKey).map Column.name

variable {s : Schema}

theorem foldlM_columns (h : s.WellFormed) (hwritten : ∀ c ∈ s.columns, c.written = []) :
    (s.columns.map Column.toJson).foldlM (fun s c => do s.addColumn (← Column.ofJson c))
      { s.withoutRules with columns := [], primaryKey := [] }
      = .ok { s.withoutRules with primaryKey := markedNames s.columns } := by
  refine foldlM_build (fun columns => { s.withoutRules with columns := columns, primaryKey := markedNames columns }) ?_
  intro before c after hcolumns
  have hc : c ∈ s.columns := by rw [hcolumns]; simp
  rw [Column.ofJson_toJson (h.columns c hc) (hwritten c hc), ok_bind, addColumn_eq_ok]
  constructor
  · have hdiffer := h.columnsDiffer
    rw [ColumnsDiffer, hcolumns, List.map_append, List.map_cons, List.nodup_append] at hdiffer
    rw [← Bool.not_eq_true, hasColumn_iff]
    rintro ⟨d, hd, hlower⟩
    exact hdiffer.2.2 _ (List.mem_map_of_mem hd) _ List.mem_cons_self hlower
  · by_cases hmarked : c.primaryKey = true <;> simp [markedNames, hmarked]

/-- Declaring the primary key again changes nothing. -/
theorem addPrimaryKey_self (h : s.WellFormed) (hwritten : ∀ c ∈ s.columns, c.written = []) (hkey : s.primaryKey ≠ [])
    (names : List String) :
    ({ s.withoutRules with primaryKey := names } : Schema).addPrimaryKey s.primaryKey = .ok s.withoutRules := by
  have hcolumns : s.ColumnsOf s.primaryKey := by
    refine ⟨hkey, fun name hname => ?_⟩
    obtain ⟨c, hc, rfl, -⟩ := h.key.marked name hname
    exact List.mem_map_of_mem hc
  have hmarked : s.columns.map (markedIn s.primaryKey) = s.columns := by
    nth_rewrite 2 [← List.map_id s.columns]
    apply List.map_congr_left
    intro c hc
    unfold markedIn
    split
    · rename_i hmem
      -- the key names the column, so it is marked already, and not nullable
      obtain ⟨d, hd, hname, hprimary⟩ := h.key.marked c.name (by simpa using hmem)
      obtain rfl : d = c := by
        have hfound := h.columnsDiffer.column?_eq hd rfl
        rw [hname, h.columnsDiffer.column?_eq hc rfl] at hfound
        exact (Option.some.inj hfound).symm
      have hnullable : d.nullable = false := by
        have hdeclared := congrArg Column.nullable (Column.declare_eq_ok.1 (h.columns d hd)).2
        simpa [hprimary] using hdeclared
      have hnone := hwritten d hd
      obtain ⟨⟩ := d
      simp_all [Column.inPrimaryKey]
    · rfl
  rw [addPrimaryKey_eq_ok]
  refine ⟨s.primaryKey, resolve_columnsOf_self h.columnsDiffer hcolumns _, ?_⟩
  rw [withoutRules, hmarked]

theorem foldlM_uniques (h : s.WellFormed) :
    (s.uniques.map fun (name, columns) => (name, Json.ofTexts columns)).foldlM
      (fun s (name, columns) => do s.addUnique name (← columns.names)) s.withoutRules
      = .ok { s.withoutRules with uniques := s.uniques } := by
  refine foldlM_build (fun uniques => { s.withoutRules with uniques := uniques }) ?_
  rintro before ⟨name, columns⟩ after huniques
  have hcolumns : s.ColumnsOf columns := h.uniques (name, columns) (by rw [huniques]; simp)
  -- of the names that differ, those before this one are the names declared so far
  have hnames : NamesFormed (before.map Prod.fst
      ++ name :: (after.map Prod.fst ++ (s.foreignKeys.map Prod.fst ++ s.checks.map Prod.fst))) := by
    simpa [constraintNames, huniques] using h.constraints
  dsimp only
  rw [Json.names_ofTexts, ok_bind, addUnique_eq_ok, checkConstraintName_eq_ok]
  refine ⟨?_, columns, resolve_columnsOf_self h.columnsDiffer hcolumns _, rfl⟩
  have hsplit := hnames.split
  simpa [constraintNames, withoutRules] using hsplit

theorem foldlM_foreignKeys (h : s.WellFormed) :
    (s.foreignKeys.map fun (name, fk) => (name, fk.toJson)).foldlM
      (fun s (name, fk) => do s.addForeignKey name (← ForeignKey.ofJson fk))
      { s.withoutRules with uniques := s.uniques }
      = .ok { s.withoutRules with uniques := s.uniques, foreignKeys := s.foreignKeys } := by
  refine foldlM_build (fun rules => { s.withoutRules with uniques := s.uniques, foreignKeys := rules }) ?_
  rintro before ⟨name, fk⟩ after hrules
  obtain ⟨hcolumns, hlength⟩ := h.foreignKeys (name, fk) (by rw [hrules]; simp)
  have hrefColumns : fk.refColumns ≠ [] := by
    rw [← List.length_pos_iff, ← hlength, List.length_pos_iff]
    exact hcolumns.1
  have hnames : NamesFormed ((s.uniques.map Prod.fst ++ before.map Prod.fst)
      ++ name :: (after.map Prod.fst ++ s.checks.map Prod.fst)) := by
    simpa [constraintNames, hrules] using h.constraints
  dsimp only
  rw [ForeignKey.ofJson_toJson hrefColumns, ok_bind, addForeignKey_eq_ok, checkConstraintName_eq_ok]
  refine ⟨?_, fk.columns, resolve_columnsOf_self h.columnsDiffer hcolumns _, hlength, rfl⟩
  have hsplit := hnames.split
  simpa [constraintNames, withoutRules] using hsplit

theorem foldlM_checks (h : s.WellFormed) :
    (s.checks.map fun (name, condition) => (name, Json.text condition)).foldlM
      (fun s (name, condition) => do s.addCheck name (← readCheck condition))
      { s.withoutRules with uniques := s.uniques, foreignKeys := s.foreignKeys } = .ok { s with indexes := [] } := by
  refine foldlM_build (fun checks => { s with checks := checks, indexes := [] }) ?_
  rintro before ⟨name, condition⟩ after hchecks
  have hcompiled := h.checks (name, condition) (by rw [hchecks]; simp)
  have hnames : NamesFormed ((s.uniques.map Prod.fst ++ (s.foreignKeys.map Prod.fst ++ before.map Prod.fst))
      ++ name :: after.map Prod.fst) := by
    simpa [constraintNames, hchecks] using h.constraints
  have hread : readCheck (.text condition) = .ok condition := rfl
  dsimp only
  rw [hread, ok_bind, addCheck_eq_ok, checkConstraintName_eq_ok]
  refine ⟨?_, hcompiled, rfl⟩
  have hsplit := hnames.split
  simpa [constraintNames] using hsplit

theorem foldlM_indexes (h : s.WellFormed) :
    (s.indexes.map fun (name, index) =>
        (name, Json.object [("columns", .ofTexts index.columns), ("unique", .bool index.unique)])).foldlM
      (fun s (name, index) => do
        let (columns, unique) ← readIndex index
        s.addIndex name columns unique) { s with indexes := [] } = .ok s := by
  refine foldlM_build (fun indexes => { s with indexes := indexes }) ?_
  rintro before ⟨name, index⟩ after hindexes
  have hcolumns := h.indexes (name, index) (by rw [hindexes]; simp)
  have hnames := h.indexNames
  rw [hindexes, List.map_append, List.map_cons] at hnames
  have hread : readIndex (.object [("columns", .ofTexts index.columns), ("unique", .bool index.unique)])
      = .ok (index.columns, index.unique) := by
    rw [readIndex, Json.require_of_field? rfl, ok_bind, Json.names_ofTexts]
    rfl
  dsimp only
  rw [hread, ok_bind, addIndex_eq_ok]
  exact ⟨hnames.split.1, hnames.split.2, index.columns, resolve_columnsOf_self h.columnsDiffer hcolumns _, rfl⟩

theorem readMoment_text {key : String} {missing t : Timestamp} {document : Json} (ht : t.Valid)
    (h : document.field? key = some (.text t.text)) : readMoment key missing document = .ok t := by
  have htext : t.text.isEmpty = false := by
    rw [← Bool.not_eq_true, String.isEmpty_iff]
    intro hempty
    have hread := ht.read_text
    rw [hempty] at hread
    cases hread
  rw [readMoment, h]
  simp only [Option.filter, Json.isTruthy, htext, Bool.not_false, if_true, Json.asText, ok_bind, ht.read_text,
    pure_eq_ok]

/-- A definition whose document has the usual entries only. -/
structure Regular (s : Schema) : Prop where
  written : s.written = []
  columns : ∀ c ∈ s.columns, c.written = []

/-- A definition whose document has the usual entries only, and which was made and changed at moments of the
calendar. -/
structure Usual (s : Schema) : Prop where
  written : s.written = []
  columns : ∀ c ∈ s.columns, c.written = []
  createdAt : s.createdAt.Valid
  modifiedAt : s.modifiedAt.Valid

theorem Usual.regular (hs : s.Usual) : s.Regular :=
  ⟨hs.written, hs.columns⟩

/-- The constraints of a definition in its document. -/
def rulesJson (s : Schema) : Json :=
  .object [("primaryKey", .ofTexts s.primaryKey),
    ("unique", .object (s.uniques.map fun (name, columns) => (name, .ofTexts columns))),
    ("foreignKeys", .object (s.foreignKeys.map fun (name, fk) => (name, fk.toJson))),
    ("checks", .object (s.checks.map fun (name, condition) => (name, .text condition)))]

theorem rulesJson_fields (s : Schema) : s.rulesJson.fieldOr "primaryKey" Json.names [] = .ok s.primaryKey ∧
    s.rulesJson.fieldOr "unique" Json.entries []
      = .ok (s.uniques.map fun (name, columns) => (name, .ofTexts columns)) ∧
    s.rulesJson.fieldOr "foreignKeys" Json.entries [] = .ok (s.foreignKeys.map fun (name, fk) => (name, fk.toJson)) ∧
    s.rulesJson.fieldOr "checks" Json.entries []
      = .ok (s.checks.map fun (name, condition) => (name, .text condition)) := by
  refine ⟨?_, rfl, rfl, rfl⟩
  rw [Json.fieldOr_of_field? rfl, Json.names_ofTexts]

/-- Without a key no column is marked, so none is put into the key while the columns are added. -/
theorem withoutRules_unmarked (h : s.WellFormed) (hkey : s.primaryKey = []) :
    ({ s.withoutRules with primaryKey := markedNames s.columns } : Schema) = s.withoutRules := by
  have hnone : markedNames s.columns = [] := by
    simpa [markedNames] using h.key.unmarked hkey
  rw [hnone, ← hkey]
  rfl

/-- A definition reads back from its document, with the moments that are read there. -/
theorem ofJson_toJson_moments {s : Schema} (h : s.WellFormed) (hs : s.Regular) {now createdAt modifiedAt : Timestamp}
    (hcreatedAt : readMoment "createdAt" now s.toJson = .ok createdAt)
    (hmodifiedAt : readMoment "modifiedAt" now s.toJson = .ok modifiedAt) :
    Schema.ofJson now s.toJson = .ok { s with createdAt := createdAt, modifiedAt := modifiedAt } := by
  generalize hread : ({ s with createdAt := createdAt, modifiedAt := modifiedAt } : Schema) = read
  have hwf : read.WellFormed := by
    subst hread
    exact ⟨h.named, h.columns, h.columnsDiffer, h.key, h.constraints, h.uniques, h.foreignKeys, h.checks, h.indexNames,
      h.indexes⟩
  have hregular : read.Regular := by
    subst hread
    exact ⟨hs.written, hs.columns⟩
  rw [toJson, hs.written, Json.restore_nil] at hcreatedAt hmodifiedAt ⊢
  generalize hdocument : Json.object _ = document at hcreatedAt hmodifiedAt ⊢
  have hname : document.require "name" = .ok (.text s.name) := by subst hdocument; rfl
  have hdescription : document.remark "description" = (s.description, []) := by subst hdocument; rfl
  have hisTemp : document.flag "isTemp" = (s.isTemp, []) := by subst hdocument; rfl
  have hrowCount : readRowCount document = (s.rowCount, []) := by subst hdocument; rfl
  have hcreate : create s.name s.description s.isTemp now
      = .ok ⟨s.name, s.description, s.isTemp, [], [], [], [], [], [], 0, now, now, []⟩ := by
    rw [create, h.named]
    rfl
  have hcolumns : document.fieldOr "columns" Json.items [] = .ok (read.columns.map Column.toJson) := by
    subst hread hdocument; rfl
  have hindexes : document.fieldOr "indexes" Json.entries [] = .ok (read.indexes.map fun (name, index) =>
      (name, .object [("columns", .ofTexts index.columns), ("unique", .bool index.unique)])) := by
    subst hread hdocument; rfl
  have hrules : document.fieldOr "constraints" pure (.object []) = .ok read.rulesJson := by
    subst hread hdocument; rfl
  obtain ⟨hkey, huniques, hforeignKeys, hchecks⟩ := read.rulesJson_fields
  have hadded := foldlM_columns hwf hregular.columns
  -- reading starts from a definition without columns
  have hbare : ({ read.withoutRules with columns := [], primaryKey := [] } : Schema)
      = ⟨s.name, s.description, s.isTemp, [], [], [], [], [], [], s.rowCount, createdAt, modifiedAt, []⟩ := by
    rw [← hs.written]
    subst hread
    rfl
  rw [hbare] at hadded
  dsimp only at hadded
  refine bind_eq_ok.2 ⟨_, hname, bind_eq_ok.2 ⟨s.name, rfl, ?_⟩⟩
  rw [hdescription, hisTemp, hrowCount]
  refine bind_eq_ok.2 ⟨_, hcreate, bind_eq_ok.2 ⟨_, hcreatedAt, bind_eq_ok.2 ⟨_, hmodifiedAt, ?_⟩⟩⟩
  refine bind_eq_ok.2 ⟨_, hcolumns, bind_eq_ok.2 ⟨_, hadded, bind_eq_ok.2 ⟨_, hrules, bind_eq_ok.2 ⟨_, hkey, ?_⟩⟩⟩⟩
  extract_lets addRules
  have hrest : addRules read.withoutRules = .ok read :=
    bind_eq_ok.2 ⟨_, huniques, bind_eq_ok.2 ⟨_, foldlM_uniques hwf, bind_eq_ok.2 ⟨_, hforeignKeys,
      bind_eq_ok.2 ⟨_, foldlM_foreignKeys hwf, bind_eq_ok.2 ⟨_, hchecks, bind_eq_ok.2 ⟨_, foldlM_checks hwf,
      bind_eq_ok.2 ⟨_, hindexes, foldlM_indexes hwf⟩⟩⟩⟩⟩⟩⟩
  split
  · rename_i hempty
    rw [pure_eq_ok, ok_bind, withoutRules_unmarked hwf hempty, hrest]
  · rename_i hne
    rw [addPrimaryKey_self hwf hregular.columns hne, ok_bind, hrest]

/-- A definition of which the moments are of the calendar reads back as it was. -/
theorem ofJson_toJson {s : Schema} (h : s.WellFormed) (hs : s.Usual) (now : Timestamp) :
    Schema.ofJson now s.toJson = .ok s := by
  have hcreatedAt : s.toJson.field? "createdAt" = some (.text s.createdAt.text) := by
    rw [toJson, hs.written, Json.restore_nil]
    rfl
  have hmodifiedAt : s.toJson.field? "modifiedAt" = some (.text s.modifiedAt.text) := by
    rw [toJson, hs.written, Json.restore_nil]
    rfl
  exact ofJson_toJson_moments h hs.regular (readMoment_text hs.createdAt hcreatedAt)
    (readMoment_text hs.modifiedAt hmodifiedAt)

/-- Whatever is read from the document of a definition is the definition but for the moments. -/
theorem eq_of_ofJson_toJson {s loaded : Schema} (h : s.WellFormed) (hs : s.Regular) {now : Timestamp}
    (hloaded : Schema.ofJson now s.toJson = .ok loaded) :
    ∃ createdAt modifiedAt, loaded = { s with createdAt := createdAt, modifiedAt := modifiedAt } := by
  obtain ⟨createdAt, hcreatedAt, modifiedAt, hmodifiedAt⟩ : ∃ createdAt,
      readMoment "createdAt" now s.toJson = .ok createdAt ∧ ∃ modifiedAt,
        readMoment "modifiedAt" now s.toJson = .ok modifiedAt := by
    obtain ⟨_, -, hloaded⟩ := bind_eq_ok.1 hloaded
    obtain ⟨_, -, hloaded⟩ := bind_eq_ok.1 hloaded
    obtain ⟨_, -, hloaded⟩ := bind_eq_ok.1 hloaded
    obtain ⟨createdAt, hcreatedAt, hloaded⟩ := bind_eq_ok.1 hloaded
    obtain ⟨modifiedAt, hmodifiedAt, -⟩ := bind_eq_ok.1 hloaded
    exact ⟨createdAt, hcreatedAt, modifiedAt, hmodifiedAt⟩
  rw [ofJson_toJson_moments h hs hcreatedAt hmodifiedAt] at hloaded
  exact ⟨createdAt, modifiedAt, (Except.ok.inj hloaded).symm⟩

/-! ## Nothing is lost in writing -/

theorem Regular.column_plain (hs : s.Regular) {c : Column} (hc : c ∈ s.columns) : c.toJson.Plain := by
  rw [Column.toJson, hs.columns c hc, Json.restore_nil]
  refine .object (by simp) ?_
  simp only [List.forall_mem_cons]
  exact ⟨.text _, .text _, .bool _, .bool _, .bool _, .bool _, .bool _, .ofText? _, .ofInt? _, .ofInt? _, .ofInt? _,
    .ofTexts _, .ofText? _, .ofText? _, .ofText? _, .text _, by simp⟩

theorem foreignKey_plain (fk : ForeignKey) : fk.toJson.Plain := by
  refine .object (by simp) ?_
  simp only [List.forall_mem_cons]
  exact ⟨.ofTexts _, .text _, .text _, .ofTexts _, .text _, .text _, by simp⟩

theorem rulesJson_plain (h : s.WellFormed) : s.rulesJson.Plain := by
  have hnames : s.constraintNames.Nodup := h.constraints.differ.of_map _
  rw [constraintNames] at hnames
  obtain ⟨hnames, hchecks, -⟩ := List.nodup_append.1 hnames
  obtain ⟨huniques, hforeignKeys, -⟩ := List.nodup_append.1 hnames
  refine .object (by simp) ?_
  simp only [List.forall_mem_cons]
  exact ⟨.ofTexts _, .entries _ huniques fun _ _ => .ofTexts _, .entries _ hforeignKeys fun _ _ => foreignKey_plain _,
    .entries _ hchecks fun _ _ => .text _, by simp⟩

theorem toJson_plain (h : s.WellFormed) (hs : s.Regular) : s.toJson.Plain := by
  have hindexes : (s.indexes.map Prod.fst).Nodup := h.indexNames.differ.of_map _
  have hcolumns : Json.Plain (.list (s.columns.map Column.toJson)) := by
    refine .list fun item hitem => ?_
    obtain ⟨c, hc, rfl⟩ := List.mem_map.1 hitem
    exact hs.column_plain hc
  rw [toJson, hs.written, Json.restore_nil]
  refine .object (by simp) ?_
  simp only [List.forall_mem_cons]
  refine ⟨.text _, .text _, .int _, .bool _, .text _, .text _, hcolumns, rulesJson_plain h, .entries
    (fun index => .object [("columns", .ofTexts index.columns), ("unique", .bool index.unique)]) hindexes ?_, by simp⟩
  intro index _
  refine .object (by simp) ?_
  simp only [List.forall_mem_cons]
  exact ⟨.ofTexts _, .bool _, by simp⟩

end Schema

end Relational
