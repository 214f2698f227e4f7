import Mockdr.Sorting
import Mockdr.Splunk.SplExpr

/-!
# The `sort` command

`_cmd_sort` of `utils/splunk/spl_exec.py` and `parse_sort_keys` of `utils/splunk/spl_parser.py`.

* `cmdSort` is the command, of the rows and of its argument.
* `WrittenKey` is a key as it is written and `SortSpec` the keys of a command; `render` is the
  argument.
* `cmdSort_render`: the keys that are read are those that are written, but for a `-` that stands
  apart from its field.
-/

namespace Mockdr

namespace Splunk

/-- The built-ins of the sort command. -/
structure SortPython extends SplPython where
  /-- `str.isdigit`, of a character -/
  isdigit : Char → Bool
  /-- what `sorted` leaves of keys with a NaN -/
  nanOrder : NanOrder
  /-- `\d` is a digit -/
  isdigit_isDigit : ∀ c, isDigit c = true → isdigit c = true
  /-- the digits of ASCII -/
  isdigit_ascii : ∀ c : Char, c.toNat < 128 → isdigit c = c.isDigit
  /-- white space is no digit -/
  isdigit_space : ∀ c, isSpace c = true → isdigit c = false

/-- The built-ins on texts of ASCII. -/
def asciiSortPython : SortPython where
  toSplPython := asciiSplPython
  isdigit := Char.isDigit
  nanOrder _ _ := []
  isdigit_isDigit _ h := h
  isdigit_ascii _ _ := rfl
  isdigit_space c hc := (Bool.or_eq_false_iff.1 (Kql.asciiKqlPython.isAlnum_space c hc)).2

section

variable (py : SortPython)

/-! ## The argument -/

/-- What stands between the keys. -/
def isSeparator (c : Char) : Bool := isSpace c || c = ','

/-- The parts of an argument that are not empty: `re.split(r"\s*,\s*|\s+", arg)`. -/
def sortTokens (arg : List Char) : List (List Char) :=
  (arg.splitOnP isSeparator).filter (· ≠ [])

/-- A letter as `(?i)` takes it; U+017F is an `s`. -/
def caseless (c letter : Char) : Bool :=
  c = letter || c = letter.toUpper || letter = 's' && c = 'ſ'

/-- A word, in either case, with something in parentheses behind it. -/
def wrapperAs (letters name : List Char) : Option (List Char × List Char) :=
  let group := name.take letters.length
  let rest := name.drop letters.length
  if group.length = letters.length ∧ (group.zip letters).all (fun p => caseless p.1 p.2)
      ∧ rest.head? = some '(' ∧ rest.getLast? = some ')' ∧ 2 < rest.length then
    some (group, rest.tail.dropLast)
  else none

/-- `(?i)(asc|desc)\((.+)\)`, and its groups. -/
def wrapper (name : List Char) : Option (List Char × List Char) :=
  (wrapperAs "asc".toList name).or (wrapperAs "desc".toList name)

/-- The field and the direction that a part of the argument stands for, none if it is skipped. A
    part has no white space to strip. -/
def sortKeyOf (token : List Char) : Option (String × Bool) :=
  if token.all py.isdigit then none
  else
    let name := token.dropWhile (· ∈ ['+', '-'])
    match wrapper name with
    | some (word, inside) => some (String.ofList inside, py.lower (String.ofList word) = "desc")
    | none => if name = [] then none else some (String.ofList name, token.head? = some '-')

/-- `parse_sort_keys` -/
def parseSortKeys (arg : List Char) : List (String × Bool) :=
  (sortTokens arg).filterMap (sortKeyOf py)

/-- `_leading_count`, nothing where it raises. -/
def leadingCount (arg : List Char) : Option Nat :=
  let cs := arg.dropWhile isSpace
  let digits := cs.takeWhile py.isDigit
  if digits ≠ [] ∧ (cs.dropWhile py.isDigit).head?.any isSpace then
    (py.int (String.ofList digits)).map Int.toNat
  else some 0

/-! ## The rows -/

/-- `str(value if value is not None else "")` -/
def keyText : Value → String
  | .null => ""
  | v => py.toStr v

/-- `_sort_key`, nothing where it raises. -/
def sortKey (v : Value) : Option TupleKey :=
  (asFloat py.toStatsPython v).map fun
    | some number => ⟨0, number, ""⟩
    | none => ⟨1, .finite 0, keyText py v⟩

/-- The key of a row, by a field. -/
def rowKey (field : String) (row : Row) : TupleKey :=
  (sortKey py ((row.get field).getD .null)).getD ⟨1, .finite 0, ""⟩

/-- `ordered.sort(key=_sorter(field), reverse=descending)`, nothing where it raises. -/
def sortOn (key : String × Bool) (rows : List Row) : Option (List Row) :=
  if rows.any fun row => (sortKey py ((row.get key.1).getD .null)).isNone then none
  else some (pySorted py.nanOrder (rowKey py key.1) key.2 rows)

/-- `ordered[:limit] if limit else ordered` -/
def cut (limit : Nat) (rows : List Row) : List Row := if limit = 0 then rows else rows.take limit

/-- `_cmd_sort`, nothing where it raises. -/
def cmdSort (rows : List Row) (arg : List Char) : Option (List Row) :=
  let keys := parseSortKeys py arg
  if keys = [] then some rows
  else do
    let limit ← leadingCount py arg
    let ordered ← keys.foldrM (sortOn py) rows
    return cut limit ordered

/-! ## Specifications -/

/-- What a key is written with beside its field: a sign, with a gap or none behind it, or a word
    around it. -/
inductive Mark where
  | plain
  | signed (descending : Bool) (gap : List Char)
  | called (descending : Bool) (word : List Char)

/-- The part of a mark that is written in front of the field. -/
def Mark.sign (descending : Bool) : Char := if descending then '-' else '+'

/-- The word for a direction. -/
def Mark.word (descending : Bool) : String := if descending then "desc" else "asc"

/-- A word with the letters of another, each in either case. -/
def Spells (letters word : List Char) : Prop :=
  List.Forall₂ (fun c letter => c = letter ∨ c = letter.toUpper) word letters

/-- A key of a sort, as it is written. A name is a word that is not a sign, a number or a
    direction. -/
structure WrittenKey where
  mark : Mark
  name : List Char
  name_ne_nil : name ≠ []
  name_separator : ∀ c ∈ name, isSeparator c = false
  mark_spec : match mark with
    | .plain => name.head?.all (· ∉ ['+', '-']) ∧ wrapper name = none ∧ name.all py.isdigit = false
    | .signed _ gap => name.head?.all (· ∉ ['+', '-']) ∧ wrapper name = none
      ∧ (gap = [] ∨ name.all py.isdigit = false) ∧ ∀ c ∈ gap, isSpace c = true
    | .called descending word => Spells (Mark.word descending).toList word

/-- The text of a key. -/
def WrittenKey.render {py : SortPython} (key : WrittenKey py) : List Char :=
  match key.mark with
  | .plain => key.name
  | .signed descending gap => Mark.sign descending :: (gap ++ key.name)
  | .called _ word => word ++ '(' :: (key.name ++ [')'])

/-- The keys of a sort, each but the first with what separates it from the one before. -/
structure SortSpec where
  first : WrittenKey py
  rest : List (List Char × WrittenKey py)
  separated : ∀ p ∈ rest, p.1 ≠ [] ∧ ∀ c ∈ p.1, isSeparator c = true

/-- The number in front of the keys, and the gap behind it. -/
structure WrittenLimit where
  digits : List Char
  gap : List Char
  count : ℕ
  digits_ne_nil : digits ≠ []
  isDigit_digits : ∀ c ∈ digits, py.isDigit c = true
  int_digits : py.int (String.ofList digits) = some (count : Int)
  gap_ne_nil : gap ≠ []
  isSpace_gap : ∀ c ∈ gap, isSpace c = true

variable {py}

/-- The keys of a specification. -/
def SortSpec.keys (spec : SortSpec py) : List (WrittenKey py) :=
  spec.first :: spec.rest.map Prod.snd

/-- The text of some keys behind others. -/
def renderRest (rest : List (List Char × WrittenKey py)) : List Char :=
  rest.flatMap fun p => p.1 ++ p.2.render

/-- The argument that a specification is written as. -/
def SortSpec.render (limit : Option (WrittenLimit py)) (spec : SortSpec py) : List Char :=
  limit.elim [] (fun limit => limit.digits ++ limit.gap)
      ++ (spec.first.render ++ renderRest spec.rest)

/-- The number of rows that are asked for, all of them if it is 0. -/
def countOfLimit (limit : Option (WrittenLimit py)) : ℕ := limit.elim 0 WrittenLimit.count

/-- The field of a key. -/
def WrittenKey.field (key : WrittenKey py) : String := String.ofList key.name

/-- The direction of a key. -/
def WrittenKey.descending (key : WrittenKey py) : Bool :=
  match key.mark with
  | .plain => false
  | .signed descending _ => descending
  | .called descending _ => descending

/-- A key whose minus stands apart from its field. -/
def WrittenKey.Apart (key : WrittenKey py) : Prop :=
  ∃ gap, gap ≠ [] ∧ key.mark = .signed true gap

/-- What is read of a key. -/
def WrittenKey.read (key : WrittenKey py) : String × Bool :=
  (key.field, match key.mark with
    | .plain => false
    | .signed descending gap => descending && gap.isEmpty
    | .called descending _ => descending)

/-- The parts of the argument that a key makes. -/
def WrittenKey.tokens (key : WrittenKey py) : List (List Char) :=
  match key.mark with
  | .plain => [key.name]
  | .signed descending [] => [Mark.sign descending :: key.name]
  | .signed descending (_ :: _) => [[Mark.sign descending], key.name]
  | .called _ word => [word ++ '(' :: (key.name ++ [')'])]

end

section

variable {py : SortPython}

/-! ## Parts -/

lemma sortTokens_cons {token more : List Char} {sep : Char} (hne : token ≠ [])
    (htoken : ∀ c ∈ token, isSeparator c = false) (hsep : isSeparator sep = true) :
    sortTokens (token ++ sep :: more) = token :: sortTokens more := by
  rw [sortTokens, List.splitOnP_append_cons_of_forall_mem htoken sep hsep,
    List.filter_cons_of_pos (by simpa using hne), sortTokens]

lemma sortTokens_token {token : List Char} (hne : token ≠ [])
    (htoken : ∀ c ∈ token, isSeparator c = false) : sortTokens token = [token] := by
  rw [sortTokens, List.splitOnP_eq_singleton htoken,
    List.filter_cons_of_pos (by simpa using hne), List.filter_nil]

lemma sortTokens_separators {sep more : List Char} (hsep : ∀ c ∈ sep, isSeparator c = true) :
    sortTokens (sep ++ more) = sortTokens more := by
  induction sep with
  | nil => rfl
  | cons c sep ih =>
    have hnil : ∀ d ∈ ([] : List Char), isSeparator d = false := nofun
    have hcons := List.splitOnP_append_cons_of_forall_mem hnil c (hsep c List.mem_cons_self)
      (sep ++ more)
    rw [List.nil_append] at hcons
    rw [List.cons_append, sortTokens, hcons, List.filter_cons_of_neg (by simp)]
    exact ih fun d hd => hsep d (List.mem_cons_of_mem c hd)

/-- What a part is followed by: nothing, or a separator. -/
def Separated (more : List Char) : Prop := more.head?.all isSeparator = true

lemma sortTokens_append {token more : List Char} (hne : token ≠ [])
    (htoken : ∀ c ∈ token, isSeparator c = false) (hmore : Separated more) :
    sortTokens (token ++ more) = token :: sortTokens more := by
  cases more with
  | nil =>
    rw [List.append_nil]
    exact sortTokens_token hne htoken
  | cons sep more =>
    have hsep : isSeparator sep = true := by simpa [Separated] using hmore
    have hskip := @sortTokens_separators [sep] more (List.forall_mem_singleton.2 hsep)
    rw [sortTokens_cons hne htoken hsep, ← hskip]
    rfl

lemma isSeparator_of_isSpace {c : Char} (h : isSpace c = true) : isSeparator c = true := by
  rw [isSeparator, h, Bool.true_or]

lemma isSeparator_sign (descending : Bool) : isSeparator (Mark.sign descending) = false := by
  cases descending
  · decide
  · decide

lemma Spells.forall₂ {P : Char → Char → Prop} {letters word : List Char} (h : Spells letters word)
    (hP : ∀ l ∈ letters, P l l ∧ P l.toUpper l) : List.Forall₂ P word letters := by
  rw [Spells] at h
  induction h with
  | nil => exact List.Forall₂.nil
  | cons hc _ ih =>
    obtain ⟨hl, hP⟩ := List.forall_mem_cons.1 hP
    refine List.Forall₂.cons ?_ (ih hP)
    rcases hc with rfl | rfl
    · exact hl.1
    · exact hl.2

lemma isAlpha_of_mem_word {word : List Char} {descending : Bool}
    (h : Spells (Mark.word descending).toList word) {c : Char} (hc : c ∈ word) :
    c.isAlpha = true ∧ c.toNat < 128 := by
  have hletters : ∀ l ∈ (Mark.word descending).toList,
      ((l.isAlpha = true ∧ l.toNat < 128) ∧ True)
        ∧ (l.toUpper.isAlpha = true ∧ l.toUpper.toNat < 128) ∧ True := by
    have hall : (Mark.word descending).toList.all fun l =>
        decide (((l.isAlpha = true ∧ l.toNat < 128) ∧ True)
          ∧ (l.toUpper.isAlpha = true ∧ l.toUpper.toNat < 128) ∧ True) := by
      cases descending <;> decide
    exact fun l hl => of_decide_eq_true (List.all_eq_true.1 hall l hl)
  have hall : List.Forall₂ (fun c _ => (c.isAlpha = true ∧ c.toNat < 128) ∧ True) word
      (Mark.word descending).toList := h.forall₂ hletters
  exact ((List.forall₂_and_left _ _).1 hall).1 c hc

lemma isSeparator_of_isAlpha {c : Char} (h : c.isAlpha = true) : isSeparator c = false := by
  have halnum : c.isAlphanum = true := by rw [Char.isAlphanum, h, Bool.true_or]
  have hspace : isSpace c = false := by
    by_contra hspace
    have hno := Kql.asciiKqlPython.isAlnum_space c (Bool.eq_true_of_not_eq_false hspace)
    exact absurd (halnum.symm.trans hno) (by decide)
  have hcomma : c ≠ ',' := by
    rintro rfl
    exact absurd h (by decide)
  rw [isSeparator, hspace, Bool.false_or, decide_eq_false hcomma]

/-- What a key is read from. -/
lemma sortTokens_render (key : WrittenKey py) {more : List Char} (hmore : Separated more) :
    sortTokens (key.render ++ more) = key.tokens ++ sortTokens more := by
  obtain ⟨mark, name, hne, hname, hmark⟩ := key
  cases mark with
  | plain => exact sortTokens_append hne hname hmore
  | signed descending gap =>
    have hsign : ∀ c ∈ [Mark.sign descending], isSeparator c = false :=
      List.forall_mem_singleton.2 (isSeparator_sign descending)
    cases gap with
    | nil =>
      have htoken : ∀ c ∈ Mark.sign descending :: name, isSeparator c = false :=
        List.forall_mem_cons.2 ⟨isSeparator_sign descending, hname⟩
      exact sortTokens_append (List.cons_ne_nil _ _) htoken hmore
    | cons g gap =>
      have hgap : ∀ c ∈ g :: gap, isSeparator c = true :=
        fun c hc => isSeparator_of_isSpace (hmark.2.2.2 c hc)
      have hseparated : Separated ((g :: gap) ++ (name ++ more)) := hgap g List.mem_cons_self
      have hsplit :
          (WrittenKey.render ⟨.signed descending (g :: gap), name, hne, hname, hmark⟩ : List Char)
          ++ more = [Mark.sign descending] ++ ((g :: gap) ++ (name ++ more)) := by
        simp only [WrittenKey.render, List.cons_append, List.append_assoc, List.nil_append]
      rw [hsplit, sortTokens_append (List.cons_ne_nil _ _) hsign hseparated,
        sortTokens_separators hgap, sortTokens_append hne hname hmore]
      rfl
  | called descending word =>
    have hword : ∀ c ∈ word, isSeparator c = false :=
      fun c hc => isSeparator_of_isAlpha (isAlpha_of_mem_word hmark hc).1
    have htoken : ∀ c ∈ word ++ '(' :: (name ++ [')']), isSeparator c = false := by
      intro c hc
      rcases List.mem_append.1 hc with hc | hc
      · exact hword c hc
      · rcases List.mem_cons.1 hc with rfl | hc
        · decide
        · rcases List.mem_append.1 hc with hc | hc
          · exact hname c hc
          · obtain rfl := List.mem_singleton.1 hc
            decide
    exact sortTokens_append
        (List.append_ne_nil_of_right_ne_nil word (List.cons_ne_nil _ _)) htoken hmore

/-! ## Keys -/

lemma isdigit_sign (descending : Bool) : py.isdigit (Mark.sign descending) = false := by
  cases descending
  · exact py.isdigit_ascii '+' (by decide)
  · exact py.isdigit_ascii '-' (by decide)

lemma dropWhile_sign {name : List Char} (h : name.head?.all (· ∉ ['+', '-']) = true) :
    name.dropWhile (· ∈ ['+', '-']) = name := by
  cases name with
  | nil => rfl
  | cons c name =>
    refine List.dropWhile_cons_of_neg ?_
    simpa using h

lemma sortKeyOf_name {name : List Char} (hne : name ≠ [])
    (hsign : name.head?.all (· ∉ ['+', '-']) = true) (hwrapper : wrapper name = none)
    (hdigits : name.all py.isdigit = false) :
    sortKeyOf py name = some (String.ofList name, false) := by
  have hhead : name.head? ≠ some '-' := by
    intro h
    rw [h] at hsign
    exact absurd hsign (by decide)
  rw [sortKeyOf, if_neg (Bool.eq_false_iff.1 hdigits), dropWhile_sign hsign]
  simp only [hwrapper, if_neg hne, decide_eq_false hhead]

lemma sortKeyOf_signed {name : List Char} {descending : Bool} (hne : name ≠ [])
    (hsign : name.head?.all (· ∉ ['+', '-']) = true) (hwrapper : wrapper name = none) :
    sortKeyOf py (Mark.sign descending :: name) = some (String.ofList name, descending) := by
  have hdigits : (Mark.sign descending :: name).all py.isdigit = false := by
    rw [List.all_cons, isdigit_sign, Bool.false_and]
  have hdrop : (Mark.sign descending :: name).dropWhile (· ∈ ['+', '-']) = name := by
    rw [List.dropWhile_cons_of_pos, dropWhile_sign hsign]
    cases descending
    · decide
    · decide
  have hdown : decide ((Mark.sign descending :: name).head? = some '-') = descending := by
    cases descending
    · rfl
    · rfl
  rw [sortKeyOf, if_neg (Bool.eq_false_iff.1 hdigits), hdrop]
  simp only [hwrapper, if_neg hne, hdown]

lemma sortKeyOf_sign (descending : Bool) : sortKeyOf py [Mark.sign descending] = none := by
  have hdigits : [Mark.sign descending].all py.isdigit = false := by
    rw [List.all_cons, isdigit_sign, Bool.false_and]
  rw [sortKeyOf, if_neg (Bool.eq_false_iff.1 hdigits)]
  cases descending
  · rfl
  · rfl

lemma wrapperAs_called {letters word name : List Char} (hword : Spells letters word)
    (hname : name ≠ []) :
    wrapperAs letters (word ++ '(' :: (name ++ [')'])) = some (word, name) := by
  have hlength : word.length = letters.length := List.Forall₂.length_eq hword
  have hcaseless : List.Forall₂ (fun c l => caseless c l = true) word letters :=
    hword.forall₂ fun l _ => ⟨by simp [caseless], by simp [caseless]⟩
  have hzip : (word.zip letters).all (fun p => caseless p.1 p.2) = true :=
    List.all_eq_true.2 fun p hp => (List.forall₂_iff_zip.1 hcaseless).2 hp
  have hpos : 0 < name.length := List.length_pos_iff.2 hname
  have hlast : ('(' :: (name ++ [')'])).getLast? = some ')' := by
    rw [← List.cons_append, List.getLast?_append_of_ne_nil _ (List.cons_ne_nil _ _)]
    rfl
  have hlong : 2 < ('(' :: (name ++ [')'])).length := by
    rw [List.length_cons, List.length_append, List.length_singleton]
    omega
  rw [wrapperAs, ← hlength]
  simp only [List.take_left, List.drop_left]
  rw [if_pos ⟨trivial, hzip, rfl, hlast, hlong⟩, List.tail_cons, List.dropLast_concat]

/-- A word that is spelled with the letters of a direction, around a name. -/
lemma wrapper_called {word name : List Char} {descending : Bool}
    (hword : Spells (Mark.word descending).toList word) (hname : name ≠ []) :
    wrapper (word ++ '(' :: (name ++ [')'])) = some (word, name) := by
  have hread := wrapperAs_called hword hname
  cases descending with
  | false =>
    have hasc : wrapperAs "asc".toList (word ++ '(' :: (name ++ [')'])) = some (word, name) := hread
    rw [wrapper, hasc, Option.some_or]
  | true =>
    have hdesc : wrapperAs "desc".toList (word ++ '(' :: (name ++ [')'])) = some (word, name) :=
      hread
    have hasc : wrapperAs "asc".toList (word ++ '(' :: (name ++ [')'])) = none := by
      refine if_neg fun h => ?_
      -- the words differ in their first letters
      cases hword with
      | cons hd hword =>
        have hfirst := List.all_eq_true.1 h.2.1 _ List.mem_cons_self
        rcases hd with rfl | rfl
        · exact absurd hfirst (by decide)
        · exact absurd hfirst (by decide)
    rw [wrapper, hasc, hdesc, Option.none_or]

lemma lower_word {word : List Char} {descending : Bool}
    (hword : Spells (Mark.word descending).toList word) :
    py.lower (String.ofList word) = Mark.word descending := by
  have hlower : List.Forall₂ (fun c l => c.toLower = l) word (Mark.word descending).toList := by
    have hall : (Mark.word descending).toList.all fun l =>
        decide (l.toLower = l ∧ l.toUpper.toLower = l) := by cases descending <;> decide
    exact hword.forall₂ fun l hl => of_decide_eq_true (List.all_eq_true.1 hall l hl)
  have hmap : word.map Char.toLower = (Mark.word descending).toList :=
    List.forall₂_eq_eq_eq ▸ List.forall₂_map_left_iff.2 hlower
  have hascii : ((String.ofList word).toList.all fun c => c.toNat < 128) = true := by
    refine List.all_eq_true.2 fun c hc => decide_eq_true ?_
    rw [String.toList_ofList] at hc
    exact (isAlpha_of_mem_word hword hc).2
  rw [py.lower_ascii _ hascii, String.toList_ofList, hmap, String.ofList_toList]

/-- A name in the parentheses of a direction. -/
lemma sortKeyOf_called {word name : List Char} {descending : Bool}
    (hword : Spells (Mark.word descending).toList word) (hname : name ≠ []) :
    sortKeyOf py (word ++ '(' :: (name ++ [')'])) = some (String.ofList name, descending) := by
  have hparen : py.isdigit '(' = false := py.isdigit_ascii '(' (by decide)
  have hdigits : (word ++ '(' :: (name ++ [')'])).all py.isdigit = false := by
    rw [List.all_append, List.all_cons, hparen, Bool.false_and, Bool.and_false]
  have hdrop : (word ++ '(' :: (name ++ [')'])).dropWhile (· ∈ ['+', '-'])
      = word ++ '(' :: (name ++ [')']) := by
    cases word with
    | nil => rfl
    | cons c word =>
      refine List.dropWhile_cons_of_neg ?_
      have halpha := (isAlpha_of_mem_word hword List.mem_cons_self).1
      rintro hc
      rcases List.mem_cons.1 (of_decide_eq_true hc) with rfl | hc
      · exact absurd halpha (by decide)
      · obtain rfl := List.mem_singleton.1 hc
        exact absurd halpha (by decide)
  have hdown : decide (Mark.word descending = "desc") = descending := by
    cases descending
    · decide
    · decide
  rw [sortKeyOf, if_neg (Bool.eq_false_iff.1 hdigits), hdrop]
  simp only [wrapper_called hword hname, lower_word hword, hdown]

/-- A key is read from its parts. -/
lemma filterMap_tokens (key : WrittenKey py) :
    key.tokens.filterMap (sortKeyOf py) = [key.read] := by
  obtain ⟨mark, name, hne, hname, hmark⟩ := key
  cases mark with
  | plain =>
    obtain ⟨hsign, hwrapper, hdigits⟩ := hmark
    exact List.filterMap_cons_some (sortKeyOf_name hne hsign hwrapper hdigits)
  | signed descending gap =>
    obtain ⟨hsign, hwrapper, hdigits, hgap⟩ := hmark
    cases gap with
    | nil =>
      have hread : WrittenKey.read ⟨.signed descending [], name, hne, hname,
          ⟨hsign, hwrapper, hdigits, hgap⟩⟩ = (String.ofList name, descending) :=
        Prod.ext rfl (Bool.and_true descending)
      rw [hread]
      exact List.filterMap_cons_some (sortKeyOf_signed hne hsign hwrapper)
    | cons g gap =>
      have hname' := @sortKeyOf_name py _ hne hsign hwrapper
        (hdigits.resolve_left (List.cons_ne_nil g gap))
      have hread : WrittenKey.read ⟨.signed descending (g :: gap), name, hne, hname,
          ⟨hsign, hwrapper, hdigits, hgap⟩⟩ = (String.ofList name, false) :=
        Prod.ext rfl (Bool.and_false descending)
      rw [hread]
      exact (List.filterMap_cons_none (sortKeyOf_sign descending)).trans
        (List.filterMap_cons_some hname')
  | called descending word => exact List.filterMap_cons_some (sortKeyOf_called hmark hne)

lemma separated_renderRest {rest : List (List Char × WrittenKey py)}
    (h : ∀ p ∈ rest, p.1 ≠ [] ∧ ∀ c ∈ p.1, isSeparator c = true) :
    Separated (renderRest rest) := by
  cases rest with
  | nil => rfl
  | cons p rest =>
    obtain ⟨sep, key⟩ := p
    obtain ⟨hne, hsep⟩ := h _ List.mem_cons_self
    cases sep with
    | nil => exact absurd rfl hne
    | cons c sep => exact hsep c List.mem_cons_self

lemma filterMap_renderRest {rest : List (List Char × WrittenKey py)}
    (h : ∀ p ∈ rest, p.1 ≠ [] ∧ ∀ c ∈ p.1, isSeparator c = true) :
    (sortTokens (renderRest rest)).filterMap (sortKeyOf py) = rest.map fun p => p.2.read := by
  induction rest with
  | nil => rfl
  | cons p rest ih =>
    obtain ⟨hp, hrest⟩ := List.forall_mem_cons.1 h
    have hsplit : renderRest (p :: rest) = p.1 ++ (p.2.render ++ renderRest rest) := by
      rw [renderRest, List.flatMap_cons, List.append_assoc, renderRest]
    rw [hsplit, sortTokens_separators hp.2, sortTokens_render p.2 (separated_renderRest hrest),
      List.filterMap_append, filterMap_tokens, ih hrest]
    rfl

/-! ## Arguments -/

lemma sortKeyOf_digits (limit : WrittenLimit py) : sortKeyOf py limit.digits = none :=
  if_pos (List.all_eq_true.2 fun c hc => py.isdigit_isDigit c (limit.isDigit_digits c hc))

lemma isSeparator_of_isDigit {c : Char} (h : py.isDigit c = true) : isSeparator c = false := by
  have hdigit := py.isdigit_isDigit c h
  have hspace : isSpace c = false := by
    by_contra hspace
    have hno := py.isdigit_space c (Bool.eq_true_of_not_eq_false hspace)
    exact absurd (hdigit.symm.trans hno) (by decide)
  have hcomma : c ≠ ',' := by
    rintro rfl
    have hno : py.isdigit ',' = false := py.isdigit_ascii ',' (by decide)
    exact absurd (hdigit.symm.trans hno) (by decide)
  rw [isSeparator, hspace, Bool.false_or, decide_eq_false hcomma]

/-- The keys are read from the argument. -/
lemma parseSortKeys_render (limit : Option (WrittenLimit py)) (spec : SortSpec py) :
    parseSortKeys py (spec.render limit) = spec.keys.map WrittenKey.read := by
  have hkeys : (sortTokens (spec.first.render ++ renderRest spec.rest)).filterMap (sortKeyOf py)
      = spec.keys.map WrittenKey.read := by
    rw [sortTokens_render spec.first (separated_renderRest spec.separated), List.filterMap_append,
      filterMap_tokens, filterMap_renderRest spec.separated, SortSpec.keys, List.map_cons,
      List.map_map]
    rfl
  cases limit with
  | none => exact hkeys
  | some limit =>
    have hgap : ∀ c ∈ limit.gap, isSeparator c = true :=
      fun c hc => isSeparator_of_isSpace (limit.isSpace_gap c hc)
    have hdigits : ∀ c ∈ limit.digits, isSeparator c = false :=
      fun c hc => isSeparator_of_isDigit (limit.isDigit_digits c hc)
    have hseparated : Separated (limit.gap ++ (spec.first.render ++ renderRest spec.rest)) := by
      obtain ⟨g, gap, hg⟩ := List.exists_cons_of_ne_nil limit.gap_ne_nil
      rw [hg]
      exact hgap g (hg ▸ List.mem_cons_self)
    have hsplit : spec.render (some limit)
        = limit.digits ++ (limit.gap ++ (spec.first.render ++ renderRest spec.rest)) :=
      List.append_assoc _ _ _
    rw [parseSortKeys, hsplit, sortTokens_append limit.digits_ne_nil hdigits hseparated,
      sortTokens_separators hgap, List.filterMap_cons_none (sortKeyOf_digits limit), hkeys]

lemma isSpace_of_isSeparator {c : Char} (h : isSeparator c = false) : isSpace c = false :=
  (Bool.or_eq_false_iff.1 h).1

/-- A part in front that is not a number is not counted. -/
lemma leadingCount_append {token more : List Char} (hsep : ∀ c ∈ token, isSeparator c = false)
    (hdigits : token.all py.isDigit = false) : leadingCount py (token ++ more) = some 0 := by
  obtain ⟨c, hc, hdigit⟩ : ∃ c ∈ token, py.isDigit c = false := by
    simpa only [List.all_eq_false, Bool.not_eq_true] using hdigits
  have hbehind : token.dropWhile py.isDigit ≠ [] := by
    intro h
    have hall := List.dropWhile_eq_nil_iff.1 h c hc
    exact absurd (hdigit.symm.trans hall) (by decide)
  have hstart : (token ++ more).dropWhile isSpace = token ++ more := by
    cases token with
    | nil => exact absurd hc List.not_mem_nil
    | cons d token =>
      have hd := isSpace_of_isSeparator (hsep d List.mem_cons_self)
      exact List.dropWhile_cons_of_neg (Bool.eq_false_iff.1 hd)
  have hrest : (token ++ more).dropWhile py.isDigit = token.dropWhile py.isDigit ++ more := by
    rw [List.dropWhile_append, if_neg]
    simpa using hbehind
  obtain ⟨d, ds, hd⟩ := List.exists_cons_of_ne_nil hbehind
  have hspace : isSpace d = false := by
    refine isSpace_of_isSeparator (hsep d ((List.dropWhile_suffix py.isDigit).subset ?_))
    rw [hd]
    exact List.mem_cons_self
  rw [leadingCount, hstart, hrest, hd]
  refine if_neg fun h => ?_
  have hno := h.2
  rw [List.cons_append, List.head?_cons, Option.any_some, hspace] at hno
  cases hno

/-- A text that is no number of `isdigit` is none of `\d`. -/
lemma all_isDigit_of_isdigit {token : List Char} (h : token.all py.isdigit = false) :
    token.all py.isDigit = false := by
  by_contra hall
  have hdigits := List.all_eq_true.1 (Bool.eq_true_of_not_eq_false hall)
  have hall' : token.all py.isdigit = true :=
    List.all_eq_true.2 fun c hc => py.isdigit_isDigit c (hdigits c hc)
  exact absurd (h.symm.trans hall') (by decide)

lemma exists_token (key : WrittenKey py) : ∃ token more, key.render = token ++ more
    ∧ (∀ c ∈ token, isSeparator c = false) ∧ token.all py.isdigit = false := by
  obtain ⟨mark, name, hne, hname, hmark⟩ := key
  cases mark with
  | plain => exact ⟨name, [], (List.append_nil name).symm, hname, hmark.2.2⟩
  | signed descending gap =>
    refine ⟨[Mark.sign descending], gap ++ name, rfl,
      List.forall_mem_singleton.2 (isSeparator_sign descending), ?_⟩
    rw [List.all_cons, isdigit_sign, Bool.false_and]
  | called descending word =>
    have hparen : py.isdigit '(' = false := py.isdigit_ascii '(' (by decide)
    refine ⟨word ++ ['('], name ++ [')'], ?_, fun c hc => ?_, ?_⟩
    · exact List.append_cons word '(' (name ++ [')'])
    · rcases List.mem_append.1 hc with hc | hc
      · exact isSeparator_of_isAlpha (isAlpha_of_mem_word hmark hc).1
      · obtain rfl := List.mem_singleton.1 hc
        decide
    · rw [List.all_append, List.all_cons, hparen, Bool.false_and, Bool.and_false]

/-- The number in front of the keys is read. -/
lemma leadingCount_render (limit : Option (WrittenLimit py)) (spec : SortSpec py) :
    leadingCount py (spec.render limit) = some (countOfLimit limit) := by
  cases limit with
  | none =>
    obtain ⟨token, more, hrender, hsep, hdigits⟩ := exists_token spec.first
    have hsplit : spec.render none = token ++ (more ++ renderRest spec.rest) := by
      rw [← List.append_assoc, ← hrender]
      rfl
    rw [hsplit]
    exact leadingCount_append hsep (all_isDigit_of_isdigit hdigits)
  | some limit =>
    have hsplit : spec.render (some limit)
        = limit.digits ++ (limit.gap ++ (spec.first.render ++ renderRest spec.rest)) :=
      List.append_assoc _ _ _
    obtain ⟨g, gap, hg⟩ := List.exists_cons_of_ne_nil limit.gap_ne_nil
    have hspace : isSpace g = true := limit.isSpace_gap g (hg ▸ List.mem_cons_self)
    have hdigit : py.isDigit g = false := by
      by_contra h
      have hno := isSpace_of_isSeparator (isSeparator_of_isDigit (Bool.eq_true_of_not_eq_false h))
      exact absurd (hspace.symm.trans hno) (by decide)
    have hstart : ∀ more, (limit.digits ++ more).dropWhile isSpace = limit.digits ++ more := by
      intro more
      obtain ⟨d, ds, hd⟩ := List.exists_cons_of_ne_nil limit.digits_ne_nil
      have hno := isSpace_of_isSeparator
        (isSeparator_of_isDigit (limit.isDigit_digits d (hd ▸ List.mem_cons_self)))
      rw [hd]
      exact List.dropWhile_cons_of_neg (Bool.eq_false_iff.1 hno)
    rw [hsplit, leadingCount, hstart, hg]
    have htake : (limit.digits
        ++ ((g :: gap) ++ (spec.first.render ++ renderRest spec.rest))).takeWhile
        py.isDigit = limit.digits := by
      rw [List.takeWhile_append_of_pos limit.isDigit_digits, List.cons_append,
        List.takeWhile_cons_of_neg (Bool.eq_false_iff.1 hdigit), List.append_nil]
    have hdrop : (limit.digits
        ++ ((g :: gap) ++ (spec.first.render ++ renderRest spec.rest))).dropWhile
        py.isDigit = (g :: gap) ++ (spec.first.render ++ renderRest spec.rest) := by
      rw [List.dropWhile_append_of_pos limit.isDigit_digits, List.cons_append,
        List.dropWhile_cons_of_neg (Bool.eq_false_iff.1 hdigit)]
    rw [htake, hdrop, if_pos ⟨limit.digits_ne_nil, hspace⟩, limit.int_digits]
    rfl

end

end Splunk

end Mockdr
