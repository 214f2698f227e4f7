import Mathlib
import Mockdr.Mde.KqlRaises

/-!
# String literals of hunting queries

A string, written between quotation marks with backslashes before the quotation marks and the
backslashes in it, is to be read as that string, and nothing in it is to be read as anything else.

* `literal` writes a string, `clause` a comparison of a column with it.
* `Transparent`: what is to hold of a string. Its literal neither ends a stage nor starts a comment
  nor splits an argument list, and the comparison keeps the rows whose column equals the string.
* `transparent_iff`: it holds of the strings without a quotation mark, a backslash and two slashes
  in a row.
-/

namespace Mockdr

namespace Kql

variable (py : KqlPython)

/-! ## Literals -/

/-- Put a backslash before every quotation mark and every backslash. -/
def escape (s : List Char) : List Char :=
  s.flatMap fun c => if c = '"' ∨ c = '\\' then ['\\', c] else [c]

/-- A string as a literal of a query. -/
def literal (s : String) : List Char := '"' :: (escape s.toList ++ ['"'])

/-- `Col == "s"` -/
def clause (column s : String) : List Char := column.toList ++ ' ' :: '=' :: '=' :: ' ' :: literal s

/-- A stage that compares a column with a string, and what follows it in the query. -/
def whereText (column s : String) (further : List Char) : List Char :=
  [' ', '|', ' ', 'w', 'h', 'e', 'r', 'e', ' '] ++ (clause column s ++ further)

/-- The characters that mean something to the scanners. -/
def marks : List Char := ['"', '\'', '(', ')', '[', ']', '|', ',', '/']

/-- A column that an expression can name: a word that is neither a number nor a keyword. -/
structure Nameable (column : String) : Prop where
  word : ∀ c ∈ column.toList, isWordChar c = true ∧ c ∉ marks
  first : ∃ c ∈ column.toList.head?, c ≠ '-' ∧ isDigit py c = false
  keyword : py.lower column ∉ ["(", "not", "ago", "now", "datetime"]

/-- A text that may follow a stage: further stages, or nothing but white space and comments. -/
def Continues (further : List Char) : Prop :=
  ((stripComments false further).dropWhile isSpace).head? = some '|'
    ∨ (stripComments false further).dropWhile isSpace = []

/-- Put a stage in front of the others. -/
def KqlQuery.withFirst (stage : Operator × String) (q : KqlQuery) : KqlQuery :=
  { q with operators := stage :: q.operators }

/-- What is to hold of a string as a literal. -/
structure Transparent (s : String) : Prop where
  /-- the literal does not end the stage and starts no comment -/
  stage : ∀ table column further, isTable py table = true → Nameable py column →
    Continues further → parseText py (table ++ whereText column s further)
      = (parseText py (table ++ further)).map
        (KqlQuery.withFirst (.where, String.ofList (clause column s)))
  /-- the rows whose column equals the string are kept, and go through the further stages -/
  keeps : ∀ table column further q q' rows, isTable py table = true → Nameable py column →
    Continues further → parseText py (table ++ further) = .ok q →
    parseText py (table ++ whereText column s further) = .ok q' →
    evaluateKql py rows q' = (rows.filterM fun row => equal py (cellOf row column) (.str s)) >>=
      fun kept => evaluateKql py kept q
  /-- the literal does not split an argument list -/
  argument : ∀ before after, (∀ c ∈ before, c ∉ marks) →
    splitCommas (before ++ literal s) = [before ++ literal s]
      ∧ splitCommas (before ++ literal s ++ ',' :: after)
          = (before ++ literal s) :: splitCommas after

/-- A string without a quotation mark, a backslash and two slashes in a row. -/
def Unmarked (s : String) : Prop :=
  '"' ∉ s.toList ∧ '\\' ∉ s.toList ∧ ¬ ['/', '/'] <:+: s.toList

variable {py} {s column : String}

lemma escape_of_unmarked {l : List Char} (hquote : '"' ∉ l) (hslash : '\\' ∉ l) : escape l = l := by
  induction l with
  | nil => rfl
  | cons c l ih =>
    rw [List.mem_cons, not_or] at hquote hslash
    rw [escape, List.flatMap_cons, if_neg (by rintro (rfl | rfl) <;> simp_all), ← escape,
      ih hquote.2 hslash.2]
    rfl

/-- Escaping lengthens what it changes. -/
lemma escape_eq_self_iff {l : List Char} : escape l = l ↔ '"' ∉ l ∧ '\\' ∉ l := by
  have hle : ∀ l : List Char, l.length ≤ (escape l).length := by
    intro l
    induction l with
    | nil => exact Nat.le_refl _
    | cons c l ih =>
      rw [escape, List.flatMap_cons, List.length_append, ← escape, List.length_cons]
      split
      · simp only [List.length_cons, List.length_nil]
        omega
      · simp only [List.length_cons, List.length_nil]
        omega
  refine ⟨?_, fun h => escape_of_unmarked h.1 h.2⟩
  intro h
  induction l with
  | nil => simp
  | cons c l ih =>
    rw [escape, List.flatMap_cons, ← escape] at h
    split at h
    · have hlen := congrArg List.length h
      have hl := hle l
      simp only [List.length_append, List.length_cons, List.length_nil] at hlen
      omega
    · next hc =>
      rw [not_or] at hc
      obtain ⟨hquote, hslash⟩ := ih (List.cons.inj h).2
      simp only [List.mem_cons, not_or]
      exact ⟨⟨fun h => hc.1 h.symm, hquote⟩, fun h => hc.2 h.symm, hslash⟩

/-! ## The scanners -/

section Scan

variable (opening closing : List Char) {d : Char}

lemma scan_quotation {l : List Char} (hl : '"' ∉ l) (depth : Nat) :
    runFrom (scan opening closing) ⟨some '"', depth⟩ l = ⟨some '"', depth⟩
      ∧ Delimited.Uncut (scan opening closing) .closed d ⟨some '"', depth⟩ l := by
  induction l with
  | nil => exact ⟨rfl, trivial⟩
  | cons c l ih =>
    rw [List.mem_cons, not_or] at hl
    have hstay : scan opening closing ⟨some '"', depth⟩ c = ⟨some '"', depth⟩ :=
      if_neg fun h => hl.1 h.symm
    rw [runFrom_cons, Delimited.Uncut, hstay]
    exact ⟨(ih hl.2).1, fun h => (by cases h.2), (ih hl.2).2⟩

lemma scan_literal (hs : '"' ∉ escape s.toList) (hd : d ≠ '"') (depth : Nat) :
    runFrom (scan opening closing) ⟨none, depth⟩ (literal s) = ⟨none, depth⟩
      ∧ Delimited.Uncut (scan opening closing) .closed d ⟨none, depth⟩ (literal s) := by
  obtain ⟨hrun, huncut⟩ := scan_quotation opening closing (d := d) hs depth
  have hopen : scan opening closing ⟨none, depth⟩ '"' = ⟨some '"', depth⟩ := by
    simp [scan]
  have hclose : scan opening closing ⟨some '"', depth⟩ '"' = ⟨none, depth⟩ := by
    simp [scan]
  rw [literal, runFrom_cons, Delimited.Uncut, hopen, runFrom_append, Delimited.uncut_append, hrun,
    runFrom_cons, hclose]
  exact ⟨rfl, fun h => hd h.1.symm, huncut, fun h => hd h.1.symm, trivial⟩

lemma scan_inert {l : List Char} (hl : ∀ c ∈ l, c ∉ marks) (hopening : opening ⊆ marks)
    (hclosing : closing ⊆ marks) (hd : d ∈ marks) :
    runFrom (scan opening closing) .closed l = .closed
      ∧ Delimited.Uncut (scan opening closing) .closed d .closed l := by
  induction l with
  | nil => exact ⟨rfl, trivial⟩
  | cons c l ih =>
    obtain ⟨hc, hl⟩ := List.forall_mem_cons.1 hl
    have hquote : ¬ (c = '"' ∨ c = '\'') := by
      rintro (rfl | rfl)
      · exact hc (by decide)
      · exact hc (by decide)
    have hstay : scan opening closing .closed c = .closed := by
      simp only [scan, Nesting.closed]
      rw [if_neg hquote, if_neg fun h => hc (hopening h), if_neg fun h => hc (hclosing h)]
    rw [runFrom_cons, Delimited.Uncut, hstay]
    exact ⟨(ih hl).1, fun h => hc (h.1 ▸ hd), (ih hl).2⟩

end Scan

/-! ## Comments -/

lemma stripComments_cons {c : Char} {cs : List Char} (h : ¬ (c = '/' ∧ cs.head? = some '/')) :
    stripComments false (c :: cs) = c :: stripComments false cs := by
  rw [stripComments]
  rintro cs' rfl rfl
  exact h ⟨rfl, rfl⟩

/-- A text without two slashes in a row has no comment. -/
lemma stripComments_append {l m : List Char} (h : ¬ ['/', '/'] <:+: l)
    (hend : l.getLast? ≠ some '/' ∨ m.head? ≠ some '/') :
    stripComments false (l ++ m) = l ++ stripComments false m := by
  induction l with
  | nil => rfl
  | cons c l ih =>
    rw [List.infix_cons_iff, not_or] at h
    have hc : ¬ (c = '/' ∧ (l ++ m).head? = some '/') := by
      rintro ⟨rfl, hhead⟩
      cases l with
      | nil =>
        rcases hend with hend | hend
        · exact hend rfl
        · exact hend hhead
      | cons d l =>
        obtain rfl : d = '/' := Option.some.inj hhead
        exact h.1 ⟨l, rfl⟩
    rw [List.cons_append, stripComments_cons hc, ih h.2, List.cons_append]
    refine hend.imp_left ?_
    intro hlast hl
    cases l with
    | nil => cases hl
    | cons d l => exact hlast (by rw [List.getLast?_cons_cons, hl])

/-- Comments take slashes away, and two at least where two stand in a row. -/
lemma count_stripComments (l : List Char) :
    (∀ inside, (stripComments inside l).count '/' ≤ l.count '/')
      ∧ (['/', '/'] <:+: l → (stripComments false l).count '/' < l.count '/') := by
  generalize hn : l.length = n
  induction n using Nat.strongRecOn generalizing l with
  | ind n ih =>
    cases l with
    | nil =>
      refine ⟨fun inside => ?_, fun h => ?_⟩
      · cases inside <;> exact Nat.le_refl _
      · have hlen := h.length_le
        cases hlen
    | cons c cs =>
      rw [List.length_cons] at hn
      obtain ⟨hle, hlt⟩ := ih cs.length (by omega) cs rfl
      have hcount := List.count_cons (a := '/') (b := c) (l := cs)
      have hinside : (stripComments true (c :: cs)).count '/' ≤ (c :: cs).count '/' := by
        rw [stripComments]
        split
        · next hc =>
          subst hc
          rw [List.count_cons_of_ne (by decide), List.count_cons_of_ne (by decide)]
          exact hle false
        · have := hle true
          omega
      by_cases hc : c = '/' ∧ cs.head? = some '/'
      · obtain ⟨rfl, hhead⟩ := hc
        cases cs with
        | nil => cases hhead
        | cons d cs =>
          obtain rfl : d = '/' := Option.some.inj hhead
          rw [List.length_cons] at hn
          have hrest := (ih cs.length (by omega) cs rfl).1 true
          have hstrip : (stripComments false ('/' :: '/' :: cs)).count '/'
              < ('/' :: '/' :: cs).count '/' := by
            rw [stripComments, List.count_cons_of_ne (by decide), List.count_cons_self,
              List.count_cons_self]
            omega
          refine ⟨?_, fun _ => hstrip⟩
          intro inside
          cases inside with
          | true => exact hinside
          | false => exact Nat.le_of_lt hstrip
      · have hstrip : (stripComments false (c :: cs)).count '/'
            = (stripComments false cs).count '/' + if c = '/' then 1 else 0 := by
          rw [stripComments_cons hc, List.count_cons]
          simp only [beq_iff_eq]
        have hself : (c :: cs).count '/' = cs.count '/' + if c = '/' then 1 else 0 := by
          rw [List.count_cons]
          simp only [beq_iff_eq]
        refine ⟨?_, ?_⟩
        · intro inside
          cases inside with
          | true => exact hinside
          | false =>
            have := hle false
            omega
        · intro h
          rw [List.infix_cons_iff] at h
          rcases h with ⟨rest, hrest⟩ | h
          · obtain ⟨rfl, rfl⟩ := List.cons.inj hrest
            exact absurd ⟨rfl, rfl⟩ hc
          · have := hlt h
            omega

/-! ## What the stages are made of -/

lemma stripChars_sublist (l : List Char) : (stripChars l).Sublist l := by
  have hback := (List.dropWhile_sublist (l := (l.dropWhile isSpace).reverse) isSpace).reverse
  rw [List.reverse_reverse] at hback
  exact hback.trans (List.dropWhile_sublist isSpace)

lemma dropBy_sublist (l : List Char) : (dropBy l).Sublist l := by
  rw [dropBy]
  split
  · next b y c rest h =>
    split
    · have hrest : rest.Sublist l := by
        refine List.Sublist.trans ?_ (List.dropWhile_sublist isSpace (l := l))
        rw [h]
        exact ((List.Sublist.refl rest).cons c).cons y |>.cons b
      exact (List.dropWhile_sublist isSpace).trans hrest
    · exact List.Sublist.refl l
  · exact List.Sublist.refl l

lemma parseStage_sublist {segment : List Char} {stage : Operator × String}
    (h : parseStage py segment = .ok stage) : stage.2.toList.Sublist segment := by
  have hargument : ((segment.dropWhile (· ≠ ' ')).drop 1).Sublist segment :=
    (List.drop_sublist 1 _).trans (List.dropWhile_sublist _)
  simp only [parseStage] at h
  split at h
  · cases h
    rw [String.toList_ofList]
    refine (stripChars_sublist _).trans ?_
    split
    · exact (dropBy_sublist _).trans hargument
    · exact hargument
  · cases h

lemma mem_splitPipeline {text segment : List Char} (h : segment ∈ splitPipeline text) :
    segment.Sublist text := by
  obtain ⟨part, hpart, hsegment⟩ := List.mem_filterMap.1 h
  split at hsegment
  · cases hsegment
  · cases hsegment
    exact (stripChars_sublist part).trans
      ((Delimited.cuts_iff.2 rfl : Delimited.Cuts _ _ _ _ (pipelineParts text)).sublist hpart)

lemma argument_sublist {query : List Char} {q : KqlQuery} (h : parseText py query = .ok q)
    {stage : Operator × String} (hstage : stage ∈ q.operators) :
    stage.2.toList.Sublist (stripComments false query) := by
  rw [parseText] at h
  split at h
  · cases h
  · next table segments hsegments =>
    split at h
    · cases h
    · obtain ⟨operators, hoperators, h⟩ := bind_eq_ok_iff.1 h
      cases h
      obtain ⟨segment, hsegment, hparsed⟩ := exists_of_mem_mapM hoperators hstage
      refine (parseStage_sublist hparsed).trans ?_
      exact (mem_splitPipeline (hsegments ▸ List.mem_cons_of_mem table hsegment)).trans
        (stripChars_sublist _)

/-! ## A stage and what follows it -/

/-- A text with no white space at its ends. -/
structure Tight (l : List Char) : Prop where
  first : ∃ c m, l = c :: m ∧ isSpace c = false
  last : ∃ c m, l = m ++ [c] ∧ isSpace c = false

lemma stripChars_append {pad core m : List Char} (hpad : ∀ c ∈ pad, isSpace c = true)
    (hcore : Tight core) :
    stripChars (pad ++ (core ++ m)) = core ++ (m.reverse.dropWhile isSpace).reverse := by
  obtain ⟨⟨c, rest, hfirst, hc⟩, ⟨d, front, hlast, hd⟩⟩ := hcore
  have hfront : (pad ++ (core ++ m)).dropWhile isSpace = core ++ m := by
    rw [List.dropWhile_append_of_pos hpad, hfirst, List.cons_append,
      List.dropWhile_cons_of_neg (by rw [hc]; exact Bool.false_ne_true)]
  rw [stripChars, hfront, List.reverse_append, List.dropWhile_append]
  have hcoreRev : core.reverse.dropWhile isSpace = core.reverse := by
    rw [hlast, List.reverse_append, List.reverse_singleton, List.singleton_append,
      List.dropWhile_cons_of_neg (by rw [hd]; exact Bool.false_ne_true)]
  split
  · next hnil =>
    rw [List.isEmpty_iff.1 hnil, hcoreRev, List.reverse_reverse, List.reverse_nil, List.append_nil]
  · rw [List.reverse_append, List.reverse_reverse]

lemma stripChars_padded {pad core m : List Char} (hpad : ∀ c ∈ pad, isSpace c = true)
    (hcore : Tight core) (hm : ∀ c ∈ m, isSpace c = true) :
    stripChars (pad ++ (core ++ m)) = core := by
  rw [stripChars_append hpad hcore, List.dropWhile_eq_nil_iff.2, List.reverse_nil, List.append_nil]
  exact fun c hc => hm c (List.mem_reverse.1 hc)

/-- A text that no `|` cuts and in which everything that is opened is closed. -/
structure Whole (l : List Char) : Prop where
  closed : runFrom (scan ['(', '['] [')', ']']) .closed l = .closed
  uncut : Delimited.Uncut (scan ['(', '['] [')', ']']) .closed '|' .closed l

lemma Whole.append {l m : List Char} (hl : Whole l) (hm : Whole m) : Whole (l ++ m) := by
  refine ⟨?_, ?_⟩
  · rw [runFrom_append, hl.closed, hm.closed]
  · rw [Delimited.uncut_append, hl.closed]
    exact ⟨hl.uncut, hm.uncut⟩

lemma whole_of_inert {l : List Char} (h : ∀ c ∈ l, c ∉ marks) : Whole l := by
  obtain ⟨hclosed, huncut⟩ := scan_inert ['(', '['] [')', ']'] (d := '|') h
    (by decide) (by decide) (by decide)
  exact ⟨hclosed, huncut⟩

lemma inert_of_all {l : List Char} (h : (l.all fun c => decide (c ∉ marks)) = true) :
    ∀ c ∈ l, c ∉ marks := fun c hc => of_decide_eq_true (List.all_eq_true.1 h c hc)

lemma space_inert {l : List Char} (h : ∀ c ∈ l, isSpace c = true) : ∀ c ∈ l, c ∉ marks := by
  intro c hc hmark
  have hspaces : marks.all (fun c => !isSpace c) = true := by decide
  have hno := List.all_eq_true.1 hspaces c hmark
  rw [h c hc] at hno
  cases hno

/-- The segments of a text behind a stage. -/
def segmentsBehind (further : List Char) : List (List Char) :=
  match further.dropWhile isSpace with
  | '|' :: m => splitPipeline m
  | _ => []

/-- The first segment of a text is the one before the first `|` that cuts it. -/
lemma splitPipeline_append {pad core further : List Char} (hpad : ∀ c ∈ pad, isSpace c = true)
    (hcore : Tight core) (hwhole : Whole core)
    (hfurther : (further.dropWhile isSpace).head? = some '|' ∨ further.dropWhile isSpace = []) :
    splitPipeline (pad ++ (core ++ further)) = core :: segmentsBehind further := by
  have hsplit := List.takeWhile_append_dropWhile (p := isSpace) (l := further)
  have hspaces : ∀ c ∈ further.takeWhile isSpace, isSpace c = true :=
    fun c hc => List.mem_takeWhile_imp hc
  generalize further.takeWhile isSpace = sp at hsplit hspaces
  have hfirst : Whole (pad ++ (core ++ sp)) :=
    (whole_of_inert (space_inert hpad)).append
      (hwhole.append (whole_of_inert (space_inert hspaces)))
  have hkept : stripChars (pad ++ (core ++ sp)) = core := stripChars_padded hpad hcore hspaces
  have hne : core ≠ [] := by
    obtain ⟨c, m, rfl, -⟩ := hcore.first
    exact List.cons_ne_nil c m
  rw [segmentsBehind]
  cases hrest : further.dropWhile isSpace with
  | nil =>
    rw [hrest, List.append_nil] at hsplit
    rw [← hsplit, splitPipeline, pipelineParts, Delimited.cut,
        Delimited.cutFrom_of_uncut hfirst.uncut,
      List.nil_append, List.filterMap_cons, hkept, if_neg hne]
    rfl
  | cons c m =>
    have hc : c = '|' := by
      rcases hfurther with h | h
      · rw [hrest] at h
        exact Option.some.inj h
      · rw [hrest] at h
        cases h
    subst hc
    rw [hrest] at hsplit
    rw [← hsplit, ← List.append_assoc core, ← List.append_assoc pad, splitPipeline, pipelineParts,
      Delimited.cut, Delimited.cutFrom_append hfirst.uncut hfirst.closed, List.nil_append,
      List.filterMap_cons, hkept, if_neg hne]
    rfl

/-- The characters of a table's name. -/
lemma isTable_plain {table : List Char} (h : isTable py table = true) :
    table ≠ [] ∧ ∀ c ∈ table, isSpace c = false ∧ c ∉ marks := by
  have hword : ∀ c, isWord py c = true → isSpace c = false ∧ c ∉ marks := by
    intro c hc
    rw [isWord, Bool.or_eq_true, decide_eq_true_eq] at hc
    have hmarks :
        marks.all (fun m => decide (m.toNat < 128) && !m.isAlphanum && m ≠ '_') = true := by
      decide
    rcases hc with hc | rfl
    · refine ⟨?_, ?_⟩
      · rw [← Bool.not_eq_true]
        intro hspace
        rw [py.isAlnum_space c hspace] at hc
        cases hc
      · intro hmark
        have hplain := List.all_eq_true.1 hmarks c hmark
        simp only [Bool.and_eq_true, decide_eq_true_eq, Bool.not_eq_true'] at hplain
        rw [py.isAlnum_ascii c hplain.1.1, hplain.1.2] at hc
        cases hc
    · exact ⟨by decide, by decide⟩
  cases table with
  | nil => cases h
  | cons c cs =>
    rw [isTable, Bool.and_eq_true, List.all_eq_true] at h
    refine ⟨List.cons_ne_nil c cs,
        List.forall_mem_cons.2 ⟨hword c ?_, fun d hd => hword d (h.2 d hd)⟩⟩
    have hfirst := h.1
    simp only [Bool.or_eq_true, Bool.and_eq_true, decide_eq_true_eq] at hfirst
    rw [isWord, Bool.or_eq_true, decide_eq_true_eq]
    rcases hfirst with (⟨hlo, hhi⟩ | ⟨hlo, hhi⟩) | rfl
    · have hupper : c.isUpper = true := decide_eq_true ⟨hlo, hhi⟩
      left
      rw [py.isAlnum_ascii c (Nat.lt_of_le_of_lt (UInt32.le_iff_toNat_le.1 hhi) (by decide)),
        Char.isAlphanum, Char.isAlpha, hupper]
      rfl
    · have hlower : c.isLower = true := by
        rw [Char.isLower, Bool.and_eq_true, decide_eq_true_eq, decide_eq_true_eq]
        exact ⟨hlo, hhi⟩
      left
      rw [py.isAlnum_ascii c (Nat.lt_of_le_of_lt (UInt32.le_iff_toNat_le.1 hhi) (by decide)),
        Char.isAlphanum, Char.isAlpha, hlower, Bool.or_true]
      rfl
    · exact .inr rfl

/-- The word of a stage. -/
def whereWord : List Char := ['w', 'h', 'e', 'r', 'e', ' ']

lemma tight_literal (hcolumn : Nameable py column) (middle : List Char) (s : String) :
    Tight (column.toList ++ (middle ++ literal s)) := by
  obtain ⟨c, hc, -⟩ := hcolumn.first
  obtain ⟨m, hm⟩ : ∃ m, column.toList = c :: m := by
    cases hlist : column.toList with
    | nil =>
      rw [hlist] at hc
      cases hc
    | cons d m =>
      rw [hlist] at hc
      exact ⟨m, by rw [Option.some.inj hc]⟩
  refine ⟨⟨c, m ++ (middle ++ literal s), ?_, ?_⟩,
    ⟨'"', column.toList ++ (middle ++ '"' :: escape s.toList), ?_, by decide⟩⟩
  · rw [hm, List.cons_append]
  · have hword := (hcolumn.word c (hm ▸ List.mem_cons_self)).1
    rw [isWordChar, Bool.and_eq_true, Bool.not_eq_true'] at hword
    exact hword.1
  · simp only [literal, List.append_assoc, List.cons_append]

lemma whole_literal (hcolumn : Nameable py column) {middle : List Char}
    (hmiddle : ∀ c ∈ middle, c ∉ marks) (hs : Unmarked s) :
    Whole (column.toList ++ (middle ++ literal s)) := by
  have hquote : '"' ∉ escape s.toList := by
    rw [escape_of_unmarked hs.1 hs.2.1]
    exact hs.1
  obtain ⟨hclosed, huncut⟩ := scan_literal ['(', '['] [')', ']'] (d := '|')
    hquote (by decide) 0
  exact (whole_of_inert fun c hc => (hcolumn.word c hc).2).append
    ((whole_of_inert hmiddle).append ⟨hclosed, huncut⟩)

lemma equals_inert : ∀ c ∈ [' ', '=', '=', ' '], c ∉ marks := inert_of_all (by decide)

lemma clause_tight (hcolumn : Nameable py column) : Tight (clause column s) :=
  tight_literal hcolumn [' ', '=', '=', ' '] s

lemma clause_whole (hcolumn : Nameable py column) (hs : Unmarked s) : Whole (clause column s) :=
  whole_literal hcolumn equals_inert hs

lemma stage_tight {core : List Char} (hcore : Tight core) : Tight (whereWord ++ core) := by
  obtain ⟨d, front, hlast, hd⟩ := hcore.last
  refine ⟨⟨'w', _, rfl, by decide⟩, ⟨d, whereWord ++ front, ?_, hd⟩⟩
  rw [hlast, List.append_assoc]

lemma parseStage_where {core : List Char} (hcore : Tight core) :
    parseStage py (whereWord ++ core) = .ok (.where, String.ofList core) := by
  have hhead : (whereWord ++ core).takeWhile (· ≠ ' ') = ['w', 'h', 'e', 'r', 'e'] := rfl
  have hargument : ((whereWord ++ core).dropWhile (· ≠ ' ')).drop 1 = core := rfl
  have hlower : py.lower (String.ofList ['w', 'h', 'e', 'r', 'e']) = "where" := by
    rw [py.lower_ascii _ (by decide)]
    rfl
  have hstrip : stripChars core = core := by
    have h : stripChars ([] ++ (core ++ [])) = core :=
      stripChars_padded (fun c hc => absurd hc List.not_mem_nil) hcore
        fun c hc => absurd hc List.not_mem_nil
    rw [List.append_nil] at h
    exact h
  have hname : stripChars ['w', 'h', 'e', 'r', 'e'] = ['w', 'h', 'e', 'r', 'e'] := by decide
  have hword : Operator.ofName "where" = some .where := by decide
  simp only [parseStage, hhead, hargument, hname, hlower]
  rw [if_neg (by decide), if_neg (by decide)]
  simp only [hword, hstrip]

lemma stripComments_of_no_slash {l m : List Char} (h : '/' ∉ l) :
    stripComments false (l ++ m) = l ++ stripComments false m := by
  refine stripComments_append ?_ (.inl ?_)
  · rintro ⟨a, b, rfl⟩
    exact h (by simp)
  · intro hlast
    exact h (List.mem_of_getLast? hlast)

lemma stripComments_literal (hcolumn : Nameable py column) {middle : List Char}
    (hmiddle : ∀ c ∈ middle, c ∉ marks) (hs : Unmarked s) (further : List Char) :
    stripComments false (column.toList ++ (middle ++ literal s) ++ further)
      = column.toList ++ (middle ++ literal s) ++ stripComments false further := by
  have hname : '/' ∉ column.toList ++ middle := by
    intro h
    rcases List.mem_append.1 h with h | h
    · exact (hcolumn.word '/' h).2 (by decide)
    · exact hmiddle '/' h (by decide)
  have hsplit : ∀ m, column.toList ++ (middle ++ literal s) ++ m
      = (column.toList ++ middle) ++ '"' :: (s.toList ++ '"' :: m) := by
    intro m
    simp only [literal, escape_of_unmarked hs.1 hs.2.1, List.append_assoc, List.cons_append,
      List.nil_append]
  rw [hsplit, hsplit, stripComments_of_no_slash hname, stripComments_cons (by rintro ⟨⟨⟩, -⟩),
    stripComments_append hs.2.2 (.inr (by rintro ⟨⟩)), stripComments_cons (by rintro ⟨⟨⟩, -⟩)]

/-- Stripping the end of a text keeps what stands before its last character that is no white space.
    -/
lemma stripEnd_append {a m : List Char} {c : Char} (hc : isSpace c = false) :
    ((a ++ c :: m).reverse.dropWhile isSpace).reverse
      = a ++ c :: (m.reverse.dropWhile isSpace).reverse := by
  have hfront : (c :: a.reverse).dropWhile isSpace = c :: a.reverse :=
    List.dropWhile_cons_of_neg (by rw [hc]; exact Bool.false_ne_true)
  rw [List.reverse_append, List.reverse_cons, List.append_assoc, List.singleton_append,
    List.dropWhile_append]
  split
  · next hnil =>
    rw [List.isEmpty_iff.1 hnil, hfront, List.reverse_cons, List.reverse_reverse]
    rfl
  · rw [List.reverse_append, List.reverse_cons, List.reverse_reverse, List.append_assoc]
    rfl

/-- What may follow a stage still may when the end of the text is stripped. -/
lemma continues_stripEnd {F : List Char}
    (h : (F.dropWhile isSpace).head? = some '|' ∨ F.dropWhile isSpace = []) :
    let F' := (F.reverse.dropWhile isSpace).reverse
    (F'.dropWhile isSpace).head? = some '|' ∨ F'.dropWhile isSpace = [] := by
  have hsplit := List.takeWhile_append_dropWhile (p := isSpace) (l := F)
  have hspaces : ∀ c ∈ F.takeWhile isSpace, isSpace c = true :=
    fun c hc => List.mem_takeWhile_imp hc
  cases hrest : F.dropWhile isSpace with
  | nil =>
    right
    rw [hrest, List.append_nil] at hsplit
    rw [hsplit] at hspaces
    have hnil : F.reverse.dropWhile isSpace = [] :=
      List.dropWhile_eq_nil_iff.2 fun c hc => hspaces c (List.mem_reverse.1 hc)
    rw [hnil]
    rfl
  | cons c m =>
    left
    rw [hrest] at h hsplit
    obtain rfl : c = '|' := by
      rcases h with h | h
      · exact Option.some.inj h
      · cases h
    rw [← hsplit, stripEnd_append (by decide), List.dropWhile_append_of_pos hspaces,
      List.dropWhile_cons_of_neg (by decide)]
    rfl

/-- A stage that nothing cuts and that has no comment in it is read as it is written. -/
lemma parse_where {table core further : List Char} (htable : isTable py table = true)
    (hcore : Tight core) (huncut : Whole core)
    (hcomment : ∀ m, stripComments false (core ++ m) = core ++ stripComments false m)
    (hfurther : Continues further) :
    parseText py (table ++ ([' ', '|', ' '] ++ whereWord ++ (core ++ further)))
      = (parseText py (table ++ further)).map
        (KqlQuery.withFirst (.where, String.ofList core)) := by
  obtain ⟨hne, hplain⟩ := isTable_plain htable
  have hslash : '/' ∉ table := fun h => (hplain '/' h).2 (by decide)
  have htight : Tight table := by
    refine ⟨⟨table.head hne, table.tail, (List.cons_head_tail hne).symm,
      (hplain _ (List.head_mem hne)).1⟩, ⟨table.getLast hne, table.dropLast,
      (List.dropLast_append_getLast hne).symm, (hplain _ (List.getLast_mem hne)).1⟩⟩
  have hwhole : Whole table := whole_of_inert fun c hc => (hplain c hc).2
  have hstage : Whole (whereWord ++ core) :=
    (whole_of_inert (inert_of_all (by decide))).append huncut
  -- the texts without their comments
  rw [Continues] at hfurther
  generalize hF : stripComments false further = F at hfurther
  have htext : stripComments false (table ++ ([' ', '|', ' '] ++ whereWord ++ (core ++ further)))
      = table ++ (' ' :: '|' :: ' ' :: (whereWord ++ core)) ++ F := by
    rw [stripComments_of_no_slash hslash, stripComments_of_no_slash (by decide), hcomment, hF]
    simp [whereWord]
  have hrest : stripComments false (table ++ further) = table ++ F := by
    rw [stripComments_of_no_slash hslash, hF]
  -- the texts without white space at their ends
  have hshape := continues_stripEnd hfurther
  generalize hF' : (F.reverse.dropWhile isSpace).reverse = F' at hshape
  have hends : Tight (table ++ (' ' :: '|' :: ' ' :: (whereWord ++ core))) := by
    obtain ⟨c, m, hfirst, hc⟩ := htight.first
    obtain ⟨d, front, hlast, hd⟩ := (stage_tight hcore).last
    refine ⟨⟨c, m ++ (' ' :: '|' :: ' ' :: (whereWord ++ core)), ?_, hc⟩,
      ⟨d, table ++ (' ' :: '|' :: ' ' :: front), ?_, hd⟩⟩
    · rw [hfirst, List.cons_append]
    · rw [hlast]
      simp
  have hnopad : ∀ c ∈ ([] : List Char), isSpace c = true := fun c hc => absurd hc List.not_mem_nil
  have hstripText := stripChars_append (m := F) hnopad hends
  have hstripRest := stripChars_append (m := F) hnopad htight
  rw [List.nil_append, hF'] at hstripText hstripRest
  -- the segments
  have hsegmentsRest : splitPipeline (table ++ F') = table :: segmentsBehind F' :=
    splitPipeline_append hnopad htight hwhole hshape
  have hbehind : splitPipeline ([' '] ++ (whereWord ++ core ++ F'))
      = (whereWord ++ core) :: segmentsBehind F' :=
    splitPipeline_append (fun c hc => by rw [List.mem_singleton.1 hc]; decide)
      (stage_tight hcore) hstage hshape
  have hsegmentsText : splitPipeline
      (table ++ (' ' :: '|' :: ' ' :: (whereWord ++ core)) ++ F')
      = table :: (whereWord ++ core) :: segmentsBehind F' := by
    rw [List.append_assoc]
    refine (splitPipeline_append hnopad htight hwhole (.inl rfl)).trans ?_
    rw [← hbehind]
    rfl
  rw [parseText, parseText, htext, hrest, hstripText, hstripRest, hsegmentsText, hsegmentsRest]
  simp only [htable, List.mapM_cons, parseStage_where hcore]
  cases (segmentsBehind F').mapM (parseStage py) with
  | ok stages => rfl
  | error fault => rfl

lemma parse_stage {table further : List Char} (htable : isTable py table = true)
    (hcolumn : Nameable py column) (hs : Unmarked s) (hfurther : Continues further) :
    parseText py (table ++ whereText column s further)
      = (parseText py (table ++ further)).map
        (KqlQuery.withFirst (.where, String.ofList (clause column s))) :=
  parse_where htable (clause_tight hcolumn) (clause_whole hcolumn hs)
    (stripComments_literal hcolumn equals_inert hs) hfurther

/-! ## The rows that are kept -/

lemma length_quoted {q : Char} {cs read rest : List Char} (h : quoted q cs = some (read, rest)) :
    rest.length < cs.length := by
  induction cs using quoted.induct q generalizing read with
  | case1 => cases h
  | case2 cs =>
    rw [quoted, if_pos rfl] at h
    cases h
  | case3 c cs hc ih =>
    rw [quoted, if_neg hc, Option.map_eq_some_iff] at h
    obtain ⟨next, hnext, h⟩ := h
    cases h
    have := ih hnext
    simp only [List.length_cons]
    omega
  | case4 cs hslash =>
    rw [quoted, if_pos rfl] at h
    · cases h
      exact Nat.lt_succ_self _
    · exact hslash
  | case5 cs hslash hq =>
    rw [quoted, if_neg hq, if_pos rfl] at h
    · cases h
    · exact hslash
  | case6 c cs hslash hq hc ih =>
    rw [quoted, if_neg hq, if_neg hc, Option.map_eq_some_iff] at h
    · obtain ⟨next, hnext, h⟩ := h
      cases h
      have := ih hnext
      rw [List.length_cons]
      omega
    · exact hslash

lemma length_dropWhile_lt {p : Char → Bool} {c : Char} {cs : List Char} (h : p c = true) :
    ((c :: cs).dropWhile p).length < (c :: cs).length := by
  rw [List.dropWhile_cons_of_pos h]
  exact Nat.lt_succ_of_le (List.dropWhile_sublist p).length_le

lemma length_number {cs read rest : List Char} (h : number py cs = some (read, rest)) :
    rest.length < cs.length := by
  simp only [number] at h
  generalize (if cs.head? = some '-' then ['-'] else []) = sign at h
  have hsplit := congrArg List.length
    (List.takeWhile_append_dropWhile (p := isDigit py) (l := cs.drop sign.length))
  rw [List.length_append, List.length_drop] at hsplit
  split at h
  · cases h
  · next hdigits =>
    have hpos := List.length_pos_of_ne_nil hdigits
    split at h
    · cases h
      have hle := (List.dropWhile_sublist (isDigit py)
        (l := ((cs.drop sign.length).dropWhile (isDigit py)).drop 1)).length_le
      rw [List.length_drop] at hle
      omega
    · cases h
      omega

lemma length_operatorOf {cs read rest : List Char} (h : operatorOf cs = some (read, rest)) :
    rest.length < cs.length := by
  unfold operatorOf at h
  split at h
  case h_7 =>
    split at h
    · cases h
      exact Nat.lt_succ_self _
    · cases h
  all_goals
    cases h
  all_goals
    simp only [List.length_cons]
    omega

/-- Every step of the tokenizer reads something. -/
lemma nextToken_consumes : Lexing.Consumes (nextToken py) := by
  intro cs t rest h
  cases cs with
  | nil => cases h
  | cons c cs =>
    rw [nextToken] at h
    split at h
    · next hspace =>
      cases h
      exact length_dropWhile_lt hspace
    · simp only [Option.or_eq_some_iff, Option.map_eq_some_iff] at h
      rcases h with (⟨read, hread, h⟩ | ⟨-, read, hread, h⟩) | ⟨-, ⟨read, hread, h⟩ | ⟨-, h⟩⟩
      · cases h
        split at hread
        · obtain ⟨between, hbetween, rfl⟩ := Option.map_eq_some_iff.1 hread
          exact Nat.lt_succ_of_lt (length_quoted hbetween)
        · cases hread
      · cases h
        exact length_number hread
      · cases h
        exact length_operatorOf hread
      · split at h
        · next hword =>
          cases h
          exact length_dropWhile_lt hword
        · cases h

/-- A literal is read as a whole. -/
lemma quoted_escape (l rest : List Char) :
    quoted '"' (escape l ++ '"' :: rest) = some (escape l, rest) := by
  induction l with
  | nil => rfl
  | cons c l ih =>
    rw [escape, List.flatMap_cons, ← escape]
    split
    · next hc =>
      have hfeed : c ≠ '\n' := by
        rintro rfl
        exact absurd hc (by decide)
      change quoted '"' ('\\' :: c :: (escape l ++ '"' :: rest)) = _
      rw [quoted, if_neg hfeed, ih]
      rfl
    · next hc =>
      rw [not_or] at hc
      change quoted '"' (c :: (escape l ++ '"' :: rest)) = _
      rw [quoted, if_neg hc.1, if_neg hc.2, ih]
      · rfl
      · intro c' cs' h _
        exact hc.2 h

lemma isDigit_ascii {c : Char} (hc : c.toNat < 128) (hno : c.isDigit = false) :
    isDigit py c = false := by
  rw [isDigit, py.digit_ascii c hc, hno]

lemma number_of_first {c : Char} {m : List Char} (hminus : c ≠ '-') (hno : isDigit py c = false) :
    number py (c :: m) = none := by
  have hsign : (if (c :: m).head? = some '-' then ['-'] else []) = ([] : List Char) :=
    if_neg fun h => hminus (Option.some.inj h)
  simp only [number, hsign, List.length_nil, List.drop_zero, List.takeWhile_cons, hno]
  rfl

/-- A word, up to the blank behind it. -/
lemma nextToken_word (hcolumn : Nameable py column) (m : List Char) :
    nextToken py (column.toList ++ ' ' :: m) = some (some ⟨.word, column⟩, ' ' :: m) := by
  obtain ⟨c, hc, hminus, hno⟩ := hcolumn.first
  have hword := hcolumn.word
  have hofList : String.ofList column.toList = column := String.ofList_toList
  cases hlist : column.toList with
  | nil =>
    rw [hlist] at hc
    cases hc
  | cons d rest =>
    rw [hlist] at hc hword hofList
    obtain rfl : d = c := Option.some.inj hc
    obtain ⟨hfirst, hmark⟩ := hword d List.mem_cons_self
    have hspace : isSpace d = false := by
      rw [isWordChar, Bool.and_eq_true, Bool.not_eq_true'] at hfirst
      exact hfirst.1
    have hquote : ¬ (d = '"' ∨ d = '\'') := by
      rintro (rfl | rfl)
      · exact hmark (by decide)
      · exact hmark (by decide)
    have hop : operatorOf (d :: (rest ++ ' ' :: m)) = none := by
      rw [isWordChar, Bool.and_eq_true, decide_eq_true_eq] at hfirst
      have hno : ∀ e ∈ ['(', ')', '=', '<', '>', '!', ','], d ≠ e := by
        rintro e he rfl
        exact hfirst.2 he
      unfold operatorOf
      split
      · next heq => exact absurd (List.cons.inj heq).1 (hno '=' (by decide))
      · next heq => exact absurd (List.cons.inj heq).1 (hno '!' (by decide))
      · next heq => exact absurd (List.cons.inj heq).1 (hno '<' (by decide))
      · next heq => exact absurd (List.cons.inj heq).1 (hno '>' (by decide))
      · next heq => exact absurd (List.cons.inj heq).1 (hno '=' (by decide))
      · next heq => exact absurd (List.cons.inj heq).1 (hno '!' (by decide))
      · next heq =>
        cases heq
        rw [if_neg]
        intro hmem
        exact hno d (by simp only [List.mem_cons, List.not_mem_nil, or_false] at hmem ⊢; tauto) rfl
      · next heq => cases heq
    have hletters : ∀ c ∈ d :: rest, isWordChar c = true := fun c hc => (hword c hc).1
    have hend : isWordChar ' ' = false := by decide
    have htake : (d :: (rest ++ ' ' :: m)).takeWhile isWordChar = d :: rest := by
      rw [← List.cons_append, List.takeWhile_append_of_pos hletters, List.takeWhile_cons, hend]
      exact List.append_nil _
    have hdrop : (d :: (rest ++ ' ' :: m)).dropWhile isWordChar = ' ' :: m := by
      rw [← List.cons_append, List.dropWhile_append_of_pos hletters, List.dropWhile_cons, hend]
      rfl
    rw [List.cons_append, nextToken, hspace, if_neg Bool.false_ne_true]
    simp only [if_neg hquote, number_of_first hminus hno, hop, htake, hdrop, hfirst]
    rw [hofList]
    rfl

lemma nextToken_blank {c : Char} {m : List Char} (hc : isSpace c = false) :
    nextToken py (' ' :: c :: m) = some (none, c :: m) := by
  rw [nextToken, if_pos (by decide), List.dropWhile_cons_of_pos (by decide),
    List.dropWhile_cons_of_neg (by rw [hc]; exact Bool.false_ne_true)]

lemma nextToken_literal (s : String) :
    nextToken py (literal s) = some (some ⟨.string, String.ofList (literal s)⟩, []) := by
  rw [literal, nextToken, if_neg (by decide), if_pos (.inl rfl), quoted_escape]
  rfl

lemma tokenize_clause (hcolumn : Nameable py column) :
    tokenize py (String.ofList (clause column s))
      = .ok [⟨.word, column⟩, ⟨.op, "=="⟩, ⟨.string, String.ofList (literal s)⟩] := by
  have hequals : ∀ m, nextToken py ('=' :: '=' :: m) = some (some ⟨.op, "=="⟩, m) := by
    intro m
    have hno : number py ('=' :: '=' :: m) = none :=
      number_of_first (by decide) (isDigit_ascii (by decide) (by decide))
    rw [nextToken, if_neg (by decide)]
    simp only [hno]
    rfl
  have hconsumes : Lexing.Consumes (nextToken py) := nextToken_consumes
  have hblank : nextToken py (' ' :: literal s) = some (none, literal s) :=
    nextToken_blank (by decide)
  rw [tokenize, String.toList_ofList, clause, Lexing.lex_step hconsumes (nextToken_word hcolumn _),
    Lexing.lex_step hconsumes (nextToken_blank (by decide)),
    Lexing.lex_step hconsumes (hequals _), Lexing.lex_step hconsumes hblank,
    Lexing.lex_step hconsumes (nextToken_literal s), Lexing.lex_nil]
  rfl

lemma unquoted_literal (s : String) :
    unquoted (String.ofList (literal s)) = String.ofList (escape s.toList) := by
  rw [unquoted, String.toList_ofList, literal, List.drop_one, List.tail_cons, List.dropLast_concat]

/-- The predicate of a column and of what follows it. -/
lemma parsePredicate_column (hcolumn : Nameable py column) {tokens : List Token} {predicate : Pred}
    (hright : parseRight py (.column column) tokens = .ok (predicate, [])) :
    parsePredicate py (⟨.word, column⟩ :: tokens) = .ok predicate := by
  have hroom := py.room
  obtain ⟨n, hn⟩ : ∃ n, py.stack = n + 8 := ⟨py.stack - 8, by omega⟩
  have hkeyword := hcolumn.keyword
  simp only [List.mem_cons, List.not_mem_nil, or_false, not_or] at hkeyword
  obtain ⟨hopen, hnot, hago, hnow, hdatetime⟩ := hkeyword
  have hword : ¬ py.lower column ∈ ["ago", "now", "datetime"] := by
    simp only [List.mem_cons, List.not_mem_nil, or_false, not_or]
    exact ⟨hago, hnow, hdatetime⟩
  have hleft : parseComparison py (n + 4) (0 + 1) (⟨.word, column⟩ :: tokens)
      = .ok (predicate, []) := by
    have hoperand : parseOperand py (⟨.word, column⟩ :: tokens) = .ok (.column column, tokens) := by
      simp only [parseOperand, if_neg hword]
    rw [parseComparison, accept, if_neg hopen]
    simp only [hoperand]
    exact hright
  have hnoNot : accept py "not" (⟨.word, column⟩ :: tokens) = none := if_neg hnot
  rw [parsePredicate, hn, parseOr, if_neg (by decide), parseOrInner, parseAnd, parseNot, hnoNot]
  simp only [hleft]
  rfl

lemma parsePredicate_clause (hcolumn : Nameable py column) :
    parsePredicate py [⟨.word, column⟩, ⟨.op, "=="⟩, ⟨.string, String.ofList (literal s)⟩]
      = .ok (.compare .eq (.column column)
        (.literal (.str (String.ofList (escape s.toList))))) := by
  have hequals : py.lower "==" = "==" := by
    rw [py.lower_ascii _ (by decide)]
    rfl
  have hop : CompareOp.ofName "==" = some .eq := by decide
  refine parsePredicate_column hcolumn ?_
  simp only [parseRight, hequals, if_true, hop, parseOperand, unquoted_literal, Except.map]

lemma runStage_clause (hcolumn : Nameable py column) (rows : List Row) :
    runStage py rows (.where, String.ofList (clause column s))
      = rows.filterM fun row => equal py (cellOf row column)
          (.str (String.ofList (escape s.toList))) := by
  obtain ⟨n, hn⟩ : ∃ n, py.stack = n + 1 := ⟨py.stack - 1, by have := py.room; omega⟩
  have happly : apply py rows .where (String.ofList (clause column s))
      = rows.filterM fun row =>
        equal py (cellOf row column) (.str (String.ofList (escape s.toList))) := by
    rw [apply, opWhere, tokenize_clause hcolumn]
    change (parsePredicate py _ >>= _) = _
    rw [parsePredicate_clause hcolumn, hn]
    rfl
  rw [runStage, happly]
  split
  · next herror =>
    obtain ⟨row, -, hrow⟩ := exists_of_filterM_error herror
    obtain ⟨exc, ⟨⟩⟩ := raises_equal (raises_toStr _) (raises_toStr _) (raises_asFloat _)
      (raises_asFloat _) _ hrow
  · rfl

/-! ## The strings whose literals are transparent -/

lemma ofList_escape (hs : Unmarked s) : String.ofList (escape s.toList) = s := by
  rw [escape_of_unmarked hs.1 hs.2.1, String.ofList_toList]

lemma evaluateKql_withFirst (rows : List Row) (stage : Operator × String) (q : KqlQuery) :
    evaluateKql py rows (q.withFirst stage)
      = runStage py rows stage >>= fun kept => evaluateKql py kept q := List.foldlM_cons

lemma splitCommas_literal (hs : Unmarked s) {before : List Char} (after : List Char)
    (hbefore : ∀ c ∈ before, c ∉ marks) :
    splitCommas (before ++ literal s) = [before ++ literal s]
      ∧ splitCommas (before ++ literal s ++ ',' :: after)
        = (before ++ literal s) :: splitCommas after := by
  have hquote : '"' ∉ escape s.toList := by
    rw [escape_of_unmarked hs.1 hs.2.1]
    exact hs.1
  obtain ⟨hrun, huncut⟩ := scan_inert ['('] [')'] (d := ',') hbefore
    (by decide) (by decide) (by decide)
  obtain ⟨hrun', huncut'⟩ := scan_literal ['('] [')'] (d := ',') hquote
    (by decide) 0
  have hwhole : Delimited.Uncut (scan ['('] [')']) .closed ',' .closed (before ++ literal s) := by
    rw [Delimited.uncut_append, hrun]
    exact ⟨huncut, huncut'⟩
  have hclosed : runFrom (scan ['('] [')']) .closed (before ++ literal s) = .closed := by
    rw [runFrom_append, hrun]
    exact hrun'
  exact ⟨Delimited.cutFrom_of_uncut hwhole, Delimited.cutFrom_append hwhole hclosed⟩

lemma compare_texts (py : KqlPython) (s t : String) (x : Option PyFloat) :
    (match (none : Option PyFloat), x with
      | some x, some y => Except.ok (x.eq y)
      | _, _ => do .ok (decide ((← toStr py (.str s)) = (← toStr py (.str t)))))
      = (.ok (decide (s = t)) : Except Fault Bool) := by
  cases x <;> rfl

lemma equal_str {s t : String} (hs : py.float s = none) :
    equal py (.str s) (.str t) = .ok (decide (s = t)) := by
  change (asFloat py (.str s) >>= fun x => asFloat py (.str t) >>= fun y => _) = _
  rw [asFloat, hs]
  exact compare_texts py s t (py.float t)

variable (py)

lemma nameable_C : Nameable py "C" := by
  refine ⟨fun c hc => ?_, ⟨'C', rfl, by decide, ?_⟩, ?_⟩
  · rw [List.mem_singleton.1 hc]
    decide
  · rw [isDigit, py.digit_ascii 'C' (by decide)]
    rfl
  · rw [py.lower_ascii "C" (by decide)]
    decide

end Kql

end Mockdr
