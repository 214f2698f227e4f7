import Mathlib.Data.List.Basic
import Mathlib.Tactic.Lemma

/-!
# Tables as text

The cells of a record are separated by commas, and every record ends with a newline. A cell is
written bare or in quotes, with the quotes inside of it doubled.

* `read`: a reader that knows quotes. A record ends at a newline that is not in quotes, and an empty
  line is one empty cell.
* `Cell.render`, `renderRecord`, `render`: how a table is written.
* `read_render`: what is written is read back, bare cells bare and quoted ones quoted.
-/

namespace Mockdr

namespace Csv

/-- A cell, bare or in quotes. -/
inductive Cell where
  | bare (text : String)
  | quoted (text : String)
  deriving DecidableEq

/-- The text of a cell. -/
def Cell.text : Cell → String
  | .bare text => text
  | .quoted text => text

/-- What a reader has seen of a cell: nothing, bare text, a quote that is open, or one that may be
    the end of the cell. -/
inductive Mode where
  | fresh
  | bare
  | inside
  | closed

/-- Read on, in a cell of which there is a text and a record of which there are cells. -/
def readFrom : Mode → List Char → List Cell → List Char → Option (List (List Cell))
  | .fresh, _, [], [] => some []
  | .fresh, text, record, [] => some [record ++ [.bare (String.ofList text)]]
  | .bare, text, record, [] => some [record ++ [.bare (String.ofList text)]]
  | .closed, text, record, [] => some [record ++ [.quoted (String.ofList text)]]
  | .inside, _, _, [] => none
  | .inside, text, record, c :: cs =>
    if c = '"' then readFrom .closed text record cs else readFrom .inside (text ++ [c]) record cs
  | .closed, text, record, c :: cs =>
    if c = '"' then readFrom .inside (text ++ [c]) record cs
    else if c = ',' then readFrom .fresh [] (record ++ [.quoted (String.ofList text)]) cs
    else if c = '\n' then
      (readFrom .fresh [] [] cs).map ((record ++ [.quoted (String.ofList text)]) :: ·)
    else none
  | .fresh, text, record, c :: cs =>
    if c = '"' then readFrom .inside text record cs
    else if c = ',' then readFrom .fresh [] (record ++ [.bare (String.ofList text)]) cs
    else if c = '\n' then
      (readFrom .fresh [] [] cs).map ((record ++ [.bare (String.ofList text)]) :: ·)
    else readFrom .bare (text ++ [c]) record cs
  | .bare, text, record, c :: cs =>
    if c = '"' then none
    else if c = ',' then readFrom .fresh [] (record ++ [.bare (String.ofList text)]) cs
    else if c = '\n' then
      (readFrom .fresh [] [] cs).map ((record ++ [.bare (String.ofList text)]) :: ·)
    else readFrom .bare (text ++ [c]) record cs

/-- The records of a text, nothing if a quote stays open or text stands beside a quoted one. -/
def read (text : String) : Option (List (List Cell)) := readFrom .fresh [] [] text.toList

/-! ## Writing -/

/-- A text with its quotes doubled. -/
def double (text : List Char) : List Char :=
  text.flatMap fun c => if c = '"' then ['"', '"'] else [c]

/-- A cell as it is written. -/
def Cell.render : Cell → List Char
  | .bare text => text.toList
  | .quoted text => '"' :: (double text.toList ++ ['"'])

/-- A record as it is written. -/
def renderRecord (record : List Cell) : List Char := [','].intercalate (record.map Cell.render)

/-- A table as it is written. -/
def render (table : List (List Cell)) : List Char :=
  table.flatMap fun record => renderRecord record ++ ['\n']

/-- A cell that is written bare has nothing in it that a reader stops at. -/
def Cell.Plain : Cell → Prop
  | .bare text => ∀ c ∈ text.toList, c ≠ '"' ∧ c ≠ ',' ∧ c ≠ '\n'
  | .quoted _ => True

variable {text rest : List Char} {record cells : List Cell}

/-! ## Reading what was written -/

lemma readFrom_inside (inner : List Char) :
    readFrom .inside text record (double inner ++ '"' :: rest)
      = readFrom .closed (text ++ inner) record rest := by
  induction inner generalizing text with
  | nil => rw [double, List.flatMap_nil, List.nil_append, readFrom, if_pos rfl, List.append_nil]
  | cons c inner ih =>
    rw [double, List.flatMap_cons, ← double, List.append_assoc]
    split_ifs with hc
    · subst hc
      rw [List.cons_append, readFrom, if_pos rfl, List.singleton_append, readFrom, if_pos rfl, ih,
        List.append_assoc, List.singleton_append]
    · rw [List.singleton_append, readFrom, if_neg hc, ih, List.append_assoc, List.singleton_append]

/-- What a cell ends with: it is added to its record, and the next cell is read or the next
    record. -/
def finish (record : List Cell) (cell : Cell) (c : Char) (rest : List Char) :
    Option (List (List Cell)) :=
  if c = ',' then readFrom .fresh [] (record ++ [cell]) rest
  else (readFrom .fresh [] [] rest).map ((record ++ [cell]) :: ·)

lemma readFrom_bare {inner : List Char} (h : ∀ c ∈ inner, c ≠ '"' ∧ c ≠ ',' ∧ c ≠ '\n') {c : Char}
    (hc : c = ',' ∨ c = '\n') :
    readFrom .bare text record (inner ++ c :: rest)
      = finish record (.bare (String.ofList (text ++ inner))) c rest := by
  induction inner generalizing text with
  | nil =>
    rw [List.nil_append, List.append_nil, finish]
    obtain rfl | rfl := hc <;> rfl
  | cons d inner ih =>
    obtain ⟨⟨hquote, hcomma, hnewline⟩, hrest⟩ := List.forall_mem_cons.1 h
    rw [List.cons_append, readFrom, if_neg hquote, if_neg hcomma, if_neg hnewline, ih hrest,
      List.append_assoc, List.singleton_append]

/-- A cell is read up to the separator behind it. -/
lemma readFrom_cell {cell : Cell} (h : cell.Plain) {c : Char} (hc : c = ',' ∨ c = '\n') :
    readFrom .fresh [] record (cell.render ++ c :: rest) = finish record cell c rest := by
  cases cell with
  | quoted inner =>
    rw [Cell.render, List.cons_append, List.append_assoc, readFrom, if_pos rfl,
      List.singleton_append, readFrom_inside, List.nil_append]
    rw [finish]
    obtain rfl | rfl := hc
    · rw [readFrom, String.ofList_toList]
      rfl
    · rw [readFrom, String.ofList_toList]
      rfl
  | bare inner =>
    rw [Cell.render]
    cases hinner : inner.toList with
    | nil =>
      rw [← String.ofList_toList (s := inner), hinner, List.nil_append, finish]
      obtain rfl | rfl := hc
      · rw [readFrom]
        rfl
      · rw [readFrom]
        rfl
    | cons d rest' =>
      have hplain : ∀ c ∈ d :: rest', c ≠ '"' ∧ c ≠ ',' ∧ c ≠ '\n' := hinner ▸ h
      obtain ⟨⟨hquote, hcomma, hnewline⟩, hrest⟩ := List.forall_mem_cons.1 hplain
      rw [List.cons_append, readFrom, if_neg hquote, if_neg hcomma, if_neg hnewline,
        readFrom_bare hrest hc, List.nil_append, List.singleton_append, ← hinner,
        String.ofList_toList]

lemma readFrom_record {cell : Cell} (h : ∀ cell' ∈ cell :: cells, cell'.Plain) :
    readFrom .fresh [] record (renderRecord (cell :: cells) ++ '\n' :: rest)
      = (readFrom .fresh [] [] rest).map ((record ++ cell :: cells) :: ·) := by
  obtain ⟨hcell, hcells⟩ := List.forall_mem_cons.1 h
  induction cells generalizing cell record with
  | nil =>
    have hrender : renderRecord [cell] = cell.render := List.append_nil _
    rw [hrender, readFrom_cell hcell (.inr rfl)]
    rfl
  | cons next cells ih =>
    have hrender : renderRecord (cell :: next :: cells)
        = cell.render ++ ',' :: renderRecord (next :: cells) := rfl
    obtain ⟨hnext, hrest⟩ := List.forall_mem_cons.1 hcells
    rw [hrender, List.append_assoc, List.cons_append, readFrom_cell hcell (.inl rfl), finish,
      if_pos rfl, ih hcells hnext hrest, List.append_assoc, List.singleton_append]

/-- A table whose records have cells is read as it was written. -/
lemma read_render {table : List (List Cell)} (hne : ∀ record ∈ table, record ≠ [])
    (hplain : ∀ record ∈ table, ∀ cell ∈ record, cell.Plain) :
    read (String.ofList (render table)) = some table := by
  rw [read, String.toList_ofList]
  induction table with
  | nil => rfl
  | cons record table ih =>
    obtain ⟨hfirst, hrest⟩ := List.forall_mem_cons.1 hne
    obtain ⟨hcells, hrestPlain⟩ := List.forall_mem_cons.1 hplain
    obtain ⟨cell, cells, rfl⟩ := List.exists_cons_of_ne_nil hfirst
    have hrender : render ((cell :: cells) :: table)
        = renderRecord (cell :: cells) ++ '\n' :: render table := by
      rw [render, List.flatMap_cons, List.append_assoc]
      rfl
    rw [hrender, readFrom_record hcells, ih hrest hrestPlain]
    rfl

end Csv

end Mockdr
