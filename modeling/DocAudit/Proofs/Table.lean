import DocAudit.Table.Reader
import Mathlib.Data.List.Basic

/-!
# Parameters in a table

The parameters in a table are those of its rows (`Table.exists_of_mem_read`).  A row gives its
parameter the name in its key cell, and the text in the column of types as its written value.
-/

namespace DocAudit.Table

open List Audit

variable {naming : TypeNaming} {columns : ColumnWords} {shape : TableShape}
  {titles : List String} {line : ℕ}
  {kind : TableKind} {key text : String} {cells : List String} {row : Parameter}

/-- The parameters in a table are its rows, if these are parameters. -/
lemma mem_parameters_iff {table : Table} :
    row ∈ table.parameters ↔ ∃ rows, table.rows = .parameters rows ∧ row ∈ rows := by
  unfold parameters
  split
  · next rows isRows => simp [isRows]
  · next other => exact iff_of_false not_mem_nil fun ⟨rows, isRows, _⟩ => other rows isRows

lemma mem_rows_of_mem_keyedRows {column : ℕ} (mem : (key, cells) ∈ keyedRows shape column) :
    cells ∈ shape.rows := by
  obtain ⟨found, isRow, isKeyed⟩ := mem_filterMap.1 mem
  obtain ⟨_, -, same⟩ := Option.map_eq_some_iff.1 isKeyed
  cases same
  exact isRow

lemma exists_of_mem_readRows {column : ℕ} {rows : List Parameter}
    (h : (readRows naming columns shape titles line kind column).value = .parameters rows)
    (mem : row ∈ rows) :
    ∃ key, ∃ cells ∈ shape.rows, (parameterOf naming columns shape kind key cells).value = row := by
  unfold readRows at h
  split at h
  · cases h
  · cases h
  · cases h
  · split at h
    · cases h
    · cases h
  · rw [value_bind, value_pure, value_mapM] at h
    obtain rfl := TableRows.parameters.inj h
    obtain ⟨⟨key, cells⟩, isKeyed, same⟩ := mem_map.1 mem
    exact ⟨key, cells, mem_rows_of_mem_keyedRows isKeyed, same⟩

lemma exists_of_mem_read {rules : TableRules}
    (mem : row ∈ (read naming rules shape titles line).value.parameters) :
    ∃ kind key, ∃ cells ∈ shape.rows, (parameterOf naming rules.columns shape kind key cells).value
      = row := by
  obtain ⟨rows, isRows, mem⟩ := mem_parameters_iff.1 mem
  simp only [read, value_bind, value_pure, rowsOf] at isRows
  split at isRows
  · cases isRows
  · split at isRows
    · exact ⟨_, exists_of_mem_readRows isRows mem⟩
    · cases isRows

/-- The value that is written in a row is the text in the column of types. -/
lemma eq_of_writtenValue_parameterOf
    (written : (parameterOf naming columns shape kind key cells).value.writtenValue = some text) :
    .ofList (Text.trim (cell cells (shape.column? columns.type)).toList) = text := by
  have same : (parameterOf naming columns shape kind key cells).value.writtenValue
      = if (Text.trim (cell cells (shape.column? columns.type)).toList).isEmpty then none
        else some (.ofList (Text.trim (cell cells (shape.column? columns.type)).toList)) := by
    simp only [parameterOf]
    split
    · rfl
    · rfl
  rw [same, Option.ite_none_left_eq_some] at written
  exact Option.some.inj written.2

end DocAudit.Table
