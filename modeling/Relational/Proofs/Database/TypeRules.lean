import Relational.Proofs.Database.Atomicity
import Relational.Proofs.Evaluation.Raised

/-!
# Rows of the right types

A row whose cells are in their stored form may be rejected by a condition, a key or a reference, but never for the type
of a cell. Nor is it refused for one when it is brought to its stored form, for it is in that form already.
-/

namespace Relational

open Text

/-- A value was not taken for its type. -/
def Failure.ForType : Failure → Prop
  | .rejection cause => cause.kind = .typeMismatch
  | .refusal (.type _) => True
  | .refusal _ | .fault _ => False

/-- A step that fails for another reason than a type. -/
abbrev TakesTypes {α : Type} (x : Except Failure α) : Prop :=
  FailsOnly (fun failure => ¬ failure.ForType) x

section TakesTypes

variable {α : Type}

theorem reject_takesTypes {cause : Rejection} (h : cause.kind ≠ .typeMismatch) :
    TakesTypes (reject cause : Except Failure α) :=
  .error h

theorem fail_takesTypes (cause : Fault) : TakesTypes (fail cause : Except Failure α) :=
  .error id

theorem Failure.IsStorage.not_forType {failure : Failure} (h : failure.IsStorage) : ¬ failure.ForType := by
  obtain ⟨path, fault, rfl⟩ := h
  exact id

theorem checkCondition_takesTypes (text : String) (scope : Scope) : TakesTypes (checkCondition text scope) := by
  intro failure hfailed
  rcases checkCondition_failsOnly text scope failure hfailed with ⟨cause, rfl, hkind⟩ | ⟨fault, rfl⟩
  · rw [Failure.ForType, hkind]
    decide
  · exact id

end TakesTypes

/-! ## Checks of a row -/

namespace Column

theorem checkDigits_takesTypes (column : Column) (text : String) : TakesTypes (column.checkDigits text) := by
  unfold checkDigits
  dsimp only
  repeat' split
  all_goals first | exact .ok () | exact reject_takesTypes nofun

theorem checkValue_takesTypes (column : Column) (now : Timestamp) (context : List (String × Value)) (text : String) :
    TakesTypes (column.checkValue now context text) := by
  unfold checkValue
  split
  · exact .ok ()
  · split
    · exact .ok ()
    · exact checkCondition_takesTypes _ _

/-- A value that the type takes is not rejected for its type. -/
theorem validate_takesTypes {column : Column} {text : String} (h : accepts column.type column.choices text = true)
    (now : Timestamp) (context : List (String × Value)) : TakesTypes (column.validate now context text) := by
  have hvalue := column.checkValue_takesTypes now context text
  have hkept : TakesTypes (if column.type.isDecimal then
      (do column.checkDigits text; column.checkValue now context text)
      else column.checkValue now context text) := by
    split
    · exact (column.checkDigits_takesTypes text).bind fun _ _ => hvalue
    · exact hvalue
  unfold validate
  simp only [h, Bool.not_true, Bool.false_eq_true, if_false]
  split
  · repeat' split
    all_goals first | exact .ok () | exact reject_takesTypes nofun
  · split
    · split
      · split
        · exact reject_takesTypes nofun
        · exact hkept
      · exact hkept
    · exact hkept

end Column

namespace Schema

variable {s : Schema} {now : Timestamp} {row : List String}

/-- A row of values that the types take is not rejected for a type. -/
theorem validateRow_takesTypes (h : ∀ cell ∈ s.columns.zip row, accepts cell.1.type cell.1.choices cell.2 = true) :
    TakesTypes (s.validateRow now row) :=
  validateRow_failsOnly (fun _ _ => nofun) (fun _ _ _ => nofun) (fun _ _ h => h)
    (fun cell hcell => Column.validate_takesTypes (h cell hcell) _ _) checkCondition_takesTypes

theorem accepts_of_encode {type : DataType} {choices : List String} {text stored : String}
    (h : encode type choices text = .ok stored) : accepts type choices text = true := by
  rw [accepts, Bool.or_eq_true]
  exact (encode_eq_ok.1 h).imp And.left fun h => h.2.1

/-- A row that is in its stored form is not rejected for a type. -/
theorem storedRow_takesTypes (h : s.encodeRow row = .ok row) : TakesTypes (Database.storedRow s now row) := by
  have haccepts : ∀ cell ∈ s.columns.zip row, accepts cell.1.type cell.1.choices cell.2 = true :=
    fun cell hcell => accepts_of_encode (encode_of_encodeRow h cell hcell)
  refine (validateRow_takesTypes haccepts).bind fun _ _ => ?_
  rw [h]
  exact .ok row

end Schema

/-! ## Checks between rows -/

namespace Database

variable {K : RowInvariant} {db : Database} {now : Timestamp} {t : Table} {s : Schema} {row : List String}

theorem checkAll_failsOnly {α : Type} {P : Failure → Prop} {check : α → Except Failure Unit} {as : List α}
    (h : ∀ a ∈ as, FailsOnly P (check a)) : FailsOnly P (checkAll check as) := by
  induction as with
  | nil => exact .ok ()
  | cons a as ih =>
    rw [List.forall_mem_cons] at h
    exact h.1.bind fun _ _ => ih h.2

theorem checkTogether_failsOnly {P : Failure → Prop} {checks : List (Except Failure Unit)}
    (h : ∀ check ∈ checks, FailsOnly P check) : FailsOnly P (checkTogether checks) := by
  refine FailsOnly.bind (checkAll_failsOnly fun check hcheck => ?_) fun _ _ => checkAll_failsOnly h
  split
  · exact .ok ()
  · exact h check hcheck

theorem loaded_takesTypes (t : Table) : TakesTypes t.loaded := by
  unfold Table.loaded
  split
  · exact .ok _
  · exact fail_takesTypes _

theorem findRows_takesTypes (t : Table) (columns key : List String) : TakesTypes (t.findRows columns key) :=
  (loaded_takesTypes t).bind fun _ _ => .ok _

theorem checkKeys_takesTypes (t : Table) (row : List String) (except : Option Nat) :
    TakesTypes (checkKeys t row except) := by
  refine checkAll_failsOnly fun rule _ => ?_
  unfold checkKey
  dsimp only
  split
  · exact .ok ()
  · refine (findRows_takesTypes _ _ _).bind fun found _ => ?_
    split
    · exact .ok ()
    · refine reject_takesTypes ?_
      rw [Rejection.kind]
      split <;> decide

theorem checkReferences_takesTypes (db : Database) (s : Schema) (row : List String) :
    TakesTypes (checkReferences db s row) := by
  refine checkAll_failsOnly fun entry _ => ?_
  unfold checkReference
  split
  · exact reject_takesTypes nofun
  · dsimp only
    split
    · exact .ok ()
    · split
      · exact reject_takesTypes nofun
      · refine (findRows_takesTypes _ _ _).bind fun found _ => ?_
        split
        · exact reject_takesTypes nofun
        · exact .ok ()

theorem asText_takesTypes (cell : Cell) : TakesTypes cell.asText := by
  unfold Cell.asText
  split
  · exact .ok _
  · exact .ok _
  · exact fail_takesTypes _

theorem keyTexts_takesTypes (cells : List Cell) : TakesTypes (Cell.keyTexts cells) := by
  induction cells with
  | nil => exact .ok []
  | cons cell cells ih =>
    rw [Cell.keyTexts]
    refine (asText_takesTypes cell).bind fun text _ => ?_
    split
    · exact .ok _
    · exact ih.bind fun texts _ => .ok _

theorem checkNotReferenced_takesTypes (db : Database) (key : String) (s : Schema) (row : List Cell) (position : Nat)
    (newRow : Option (List String)) : TakesTypes (checkNotReferenced db key s row position newRow) := by
  refine checkAll_failsOnly fun entry _ => checkAll_failsOnly fun fk _ => ?_
  unfold checkNotReferencedBy
  split
  · exact .ok ()
  · refine (keyTexts_takesTypes _).bind fun cells _ => ?_
    split
    · exact .ok ()
    · refine (findRows_takesTypes _ _ _).bind fun found _ => ?_
      generalize (if entry.1 == key then _ else _ : List Nat) = others
      dsimp only
      split
      · exact .ok ()
      · exact reject_takesTypes nofun

theorem rowAt_takesTypes (t : Table) (position : Int) : TakesTypes (rowAt t position) := by
  refine (loaded_takesTypes t).bind fun content _ => ?_
  split
  · split
    · exact .ok _
    · exact reject_takesTypes nofun
  · exact reject_takesTypes nofun

theorem table_takesTypes (db : Database) (name : String) : TakesTypes (db.table name) := by
  unfold table
  split
  · exact .ok _
  · exact reject_takesTypes nofun

/-- A replacement that gives a row in its stored form is not rejected for a type. -/
theorem replacement_takesTypes {name : String} {position : Int} {input : RowInput}
    (hinput : ∀ t content i old, db.table name = .ok t → rowAt t position = .ok (content, i, old) →
      ∃ raw, input.onRow t.schema old = .ok raw ∧ t.schema.encodeRow raw = .ok raw) :
    TakesTypes (db.replacement now name position input) := by
  refine (table_takesTypes db name).bind fun t ht => (rowAt_takesTypes t position).bind fun found hat => ?_
  obtain ⟨content, i, old⟩ := found
  obtain ⟨raw, hraw, hencode⟩ := hinput t content i old ht hat
  dsimp only
  rw [hraw, ok_bind]
  refine (Schema.storedRow_takesTypes hencode).bind fun row _ => ?_
  refine FailsOnly.bind (checkTogether_failsOnly ?_) fun _ _ => .ok _
  simp only [List.forall_mem_cons]
  exact ⟨checkKeys_takesTypes _ _ _, checkReferences_takesTypes _ _ _, checkNotReferenced_takesTypes _ _ _ _ _ _,
    by simp⟩

end Database

end Relational
