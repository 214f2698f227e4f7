import Mockdr.Lib.Csv
import Mockdr.Python

/-!
# CSV output

How a response body is written as CSV (`utils/splunk/csv_output.py`).

* `rowsAndColumns`: the rows of a body and the names of their columns; `renderSplunkCsv`: the
  document.
* `Shows`: a cell has the text of a value, and is told apart from that of a missing one.
* `read_renderSplunkCsv`: a reader that knows quotes reads the columns and the rows back.
-/

namespace Mockdr

namespace Splunk

namespace CsvOutput

section

variable (py : Python)

/-- `sep.join(texts)`, for one character. -/
def join (sep : Char) (texts : List String) : String :=
  String.ofList ([sep].intercalate (texts.map String.toList))

/-- `_scalar` -/
def scalar : Json → String
  | .bool b => if b then "true" else "false"
  | v => py.toStr v

/-- `_BARE.fullmatch` -/
def isBare (text : String) : Bool :=
  text.toList ≠ [] && text.toList.all fun c => c.isUpper || c.isLower || c.isDigit

/-- `_quote` -/
def quote (text : String) : String := String.ofList ('"' :: (Csv.double text.toList ++ ['"']))

/-- `_cell` -/
def cell : Json → String
  | .null => ""
  | .list vs => quote (join '\n' (vs.map (scalar py)))
  | v => if isBare (scalar py v) then scalar py v else quote (scalar py v)

/-- The rows among some values. -/
def asRow : Json → Option Object
  | .dict row => some row
  | _ => none

/-- `_keys_in_order` -/
def keysInOrder (rows : List Object) : List String :=
  rows.foldl (fun columns row =>
    row.foldl (fun columns p => if p.1 ∈ columns then columns else columns ++ [p.1]) columns) []

/-- The name of a field that is declared, if it has one. -/
def declaredName : Json → Option String
  | .dict field =>
    if (Object.get field "name").truthy then some (py.toStr (Object.get field "name")) else none
  | _ => none

/-- The names of the fields that are declared, nothing where iterating over them raises. What a
    string or an object is iterated over has no name. -/
def declaredOf : Json → Option (List String)
  | .list fields => some (fields.filterMap (declaredName py))
  | .dict _ | .str _ => some []
  | v => if v.truthy then none else some []

/-- `_rows_and_columns`, nothing where it raises. -/
def rowsAndColumns : Json → Option (List Object × List String)
  | .dict payload =>
    match Object.get payload "results" with
    | .list results =>
      let rows := results.filterMap asRow
      (declaredOf py (Object.get payload "fields")).map fun declared =>
        (rows, if declared.isEmpty then keysInOrder rows else declared)
    | _ =>
      match Object.get payload "entry" with
      | .list entries =>
        let rows := entries.filterMap fun entry =>
          (asRow entry).bind fun entry => asRow (Object.get entry "content")
        some (rows, keysInOrder rows)
      | _ => some ([], [])
  | _ => some ([], [])

/-- The columns in the order they are shown in. -/
def shown (sortColumns : Bool) (columns : List String) : List String :=
  if sortColumns then columns.mergeSort fun a b => decide (a ≤ b) else columns

/-- `render_splunk_csv`, nothing where it raises. -/
def renderSplunkCsv (payload : Json) (sortColumns : Bool) : Option String :=
  (rowsAndColumns py payload).map fun (rows, columns) =>
    if rows.isEmpty then ""
    else
      let columns := shown sortColumns columns
      let lines := join ',' (columns.map fun name => cell py (.str name))
        :: rows.map fun row => join ',' (columns.map fun name => cell py (Object.get row name))
      join '\n' lines ++ "\n"

/-! ## What a document should say -/

/-- The text of a value: the members of a multivalue are separated by newlines. -/
def textOf : Json → String
  | .list vs => join '\n' (vs.map (scalar py))
  | v => scalar py v

/-- A cell has the text of a value. A missing value is bare and empty, and no other is. -/
def Shows (value : Json) (shown : Csv.Cell) : Prop :=
  match value with
  | .null => shown = .bare ""
  | v => shown.text = textOf py v ∧ shown ≠ .bare ""

/-- The cell of a value. -/
def cellOf : Json → Csv.Cell
  | .null => .bare ""
  | .list vs => .quoted (join '\n' (vs.map (scalar py)))
  | v => if isBare (scalar py v) then .bare (scalar py v) else .quoted (scalar py v)

end

variable {py : Python} {rows : List Object} {columns : List String} {name : String}

/-! ## Columns -/

/-! ## Cells -/

lemma plain_of_isBare {text : String} (h : isBare text = true) : (Csv.Cell.bare text).Plain := by
  intro c hc
  rw [isBare, Bool.and_eq_true, List.all_eq_true] at h
  have hclass := h.2 c hc
  refine ⟨?_, ?_, ?_⟩ <;> rintro rfl <;> revert hclass <;> decide

lemma plain_cellOf (v : Json) : (cellOf py v).Plain := by
  have hscalar : ∀ text : String,
      (if isBare text then Csv.Cell.bare text else .quoted text).Plain := by
    intro text
    split_ifs with hbare
    · exact plain_of_isBare hbare
    · trivial
  cases v with
  | null => exact nofun
  | list vs => trivial
  | _ => exact hscalar _

lemma cell_eq (v : Json) : (cell py v).toList = (cellOf py v).render := by
  have hscalar : ∀ text : String, (if isBare text then text else quote text).toList
      = (if isBare text then Csv.Cell.bare text else .quoted text).render := by
    intro text
    split_ifs
    · rfl
    · exact String.toList_ofList
  cases v with
  | null => rfl
  | list vs => exact String.toList_ofList
  | _ => exact hscalar _

lemma shows_cellOf (v : Json) : Shows py v (cellOf py v) := by
  have hscalar : ∀ text : String,
      (if isBare text then Csv.Cell.bare text else .quoted text).text = text
        ∧ (if isBare text then Csv.Cell.bare text else .quoted text) ≠ .bare "" := by
    intro text
    split_ifs with hbare
    · refine ⟨rfl, ?_⟩
      rintro h
      rw [Csv.Cell.bare.inj h] at hbare
      exact absurd hbare (by decide)
    · exact ⟨rfl, nofun⟩
  cases v with
  | null => rfl
  | list vs => exact ⟨rfl, nofun⟩
  | _ => exact hscalar _

/-! ## Documents -/

/-- The records of a document. -/
def tableOf (py : Python) (rows : List Object) (columns : List String) : List (List Csv.Cell) :=
  (columns.map fun name => cellOf py (.str name))
    :: rows.map fun row => columns.map fun name => cellOf py (Object.get row name)

lemma join_cells (py : Python) (values : List Json) :
    join ',' (values.map (cell py))
      = String.ofList (Csv.renderRecord (values.map (cellOf py))) := by
  rw [join, Csv.renderRecord, List.map_map, List.map_map]
  refine congrArg (fun texts => String.ofList ([','].intercalate texts)) ?_
  exact List.map_congr_left fun v _ => cell_eq v

lemma join_lines (records : List (List Csv.Cell)) (h : records ≠ []) :
    join '\n' (records.map fun record => String.ofList (Csv.renderRecord record)) ++ "\n"
      = String.ofList (Csv.render records) := by
  have hchars : ∀ records : List (List Csv.Cell), records ≠ [] →
      ['\n'].intercalate (records.map Csv.renderRecord) ++ ['\n'] = Csv.render records := by
    intro records h
    induction records with
    | nil => exact absurd rfl h
    | cons record records ih =>
      cases records with
      | nil =>
        rw [Csv.render, List.flatMap_singleton]
        exact congrArg (· ++ ['\n']) (List.append_nil _)
      | cons next records =>
        rw [Csv.render, List.flatMap_cons, ← Csv.render, ← ih (List.cons_ne_nil _ _)]
        change Csv.renderRecord record ++ '\n' :: ['\n'].intercalate _ ++ ['\n'] = _
        simp only [List.append_assoc, List.cons_append, List.nil_append, List.map_cons]
  rw [join, ← hchars records h, String.ofList_append, List.map_map]
  refine congrArg (fun texts => String.ofList (['\n'].intercalate texts) ++ _) ?_
  exact List.map_congr_left fun record _ => String.toList_ofList

/-- The document of rows and columns is a table that the library writes. -/
lemma renderSplunkCsv_eq {payload : Json} (sortColumns : Bool)
    (h : rowsAndColumns py payload = some (rows, columns)) (hrows : rows ≠ []) :
    renderSplunkCsv py payload sortColumns
      = some (String.ofList (Csv.render (tableOf py rows (shown sortColumns columns)))) := by
  rw [renderSplunkCsv, h, Option.map_some]
  dsimp only
  rw [if_neg (by rw [List.isEmpty_iff]; exact hrows),
    ← join_lines (tableOf py rows (shown sortColumns columns)) (List.cons_ne_nil _ _), tableOf,
    List.map_cons, List.map_map]
  have hheader : join ',' ((shown sortColumns columns).map fun name => cell py (.str name))
      = String.ofList (Csv.renderRecord
        ((shown sortColumns columns).map fun name => cellOf py (.str name))) := by
    have := join_cells py ((shown sortColumns columns).map Json.str)
    rwa [List.map_map, List.map_map] at this
  have hrow : ∀ row : Object,
      join ',' ((shown sortColumns columns).map fun name => cell py (Object.get row name))
        = String.ofList (Csv.renderRecord
          ((shown sortColumns columns).map fun name => cellOf py (Object.get row name))) := by
    intro row
    have := join_cells py ((shown sortColumns columns).map (Object.get row))
    rwa [List.map_map, List.map_map] at this
  rw [hheader]
  refine congrArg (fun lines => some (join '\n' (_ :: lines) ++ "\n")) ?_
  exact List.map_congr_left fun row _ => hrow row

/-- A document of rows and columns is read as the columns and a record for each row, in order, whose
    cells show the values of the row under the columns. -/
theorem read_renderSplunkCsv {payload : Json} (sortColumns : Bool)
    (h : rowsAndColumns py payload = some (rows, columns)) (hrows : rows ≠ [])
    (hcolumns : columns ≠ []) :
    ∃ text header body, renderSplunkCsv py payload sortColumns = some text
      ∧ Csv.read text = some (header :: body)
      ∧ header.map Csv.Cell.text = shown sortColumns columns
      ∧ List.Forall₂ (fun row record => List.Forall₂ (fun name cell =>
        Shows py (Object.get row name) cell) (shown sortColumns columns) record) rows body := by
  have hshown : shown sortColumns columns ≠ [] := by
    rw [shown]
    split_ifs
    · rw [← List.length_pos_iff, List.length_mergeSort, List.length_pos_iff]
      exact hcolumns
    · exact hcolumns
  refine ⟨_, _, _, renderSplunkCsv_eq sortColumns h hrows, Csv.read_render ?_ ?_, ?_, ?_⟩
  · intro record hrecord
    obtain rfl | hrecord := List.mem_cons.1 hrecord
    · exact fun hnil => hshown (List.map_eq_nil_iff.1 hnil)
    · obtain ⟨row, -, rfl⟩ := List.mem_map.1 hrecord
      exact fun hnil => hshown (List.map_eq_nil_iff.1 hnil)
  · intro record hrecord cell hcell
    obtain rfl | hrecord := List.mem_cons.1 hrecord
    · obtain ⟨name, -, rfl⟩ := List.mem_map.1 hcell
      exact plain_cellOf _
    · obtain ⟨row, -, rfl⟩ := List.mem_map.1 hrecord
      obtain ⟨name, -, rfl⟩ := List.mem_map.1 hcell
      exact plain_cellOf _
  · rw [List.map_map]
    refine (List.map_congr_left fun name _ => ?_).trans (List.map_id _)
    exact (shows_cellOf (.str name)).1
  · rw [List.forall₂_map_right_iff, List.forall₂_same]
    intro row _
    rw [List.forall₂_map_right_iff, List.forall₂_same]
    exact fun name _ => shows_cellOf _

/-- Two results, of which the second lacks a field. -/
def lacking : Json :=
  .dict [("results", .list [.dict [("a,b", .str "x\ny"), ("c", .list [.str "1", .str "2"])],
    .dict [("a,b", .str "")]])]

/-- The document of the two results is read back. -/
theorem read_renderSplunkCsv_lacking :
    ∃ text header body, renderSplunkCsv asciiPython lacking false = some text
      ∧ Csv.read text = some (header :: body)
      ∧ header.map Csv.Cell.text = shown false ["a,b", "c"]
      ∧ List.Forall₂ (fun row record => List.Forall₂ (fun name cell =>
          Shows asciiPython (Object.get row name) cell) (shown false ["a,b", "c"]) record)
        [[("a,b", .str "x\ny"), ("c", .list [.str "1", .str "2"])], [("a,b", .str "")]] body :=
  read_renderSplunkCsv false rfl (List.cons_ne_nil _ _) (List.cons_ne_nil _ _)

end CsvOutput

end Splunk

end Mockdr
