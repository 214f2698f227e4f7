import Mathlib
import Mockdr.Numerals
import Mockdr.Splunk.GroupCounts
import Mockdr.Splunk.SplExpr

/-!
# Time charts

`_cmd_timechart` and `_cmd_bin` of `utils/splunk/spl_exec.py`: statistics over buckets of time, and
the same by a command that puts rows into buckets and one that counts them.

* `cmdTimechart` is the one, and `cmdStats` of `cmdBin` the other.
* `timechart_agrees`: for a span of a number and a unit, rows that have a time and aggregations
  that do not read it, they have the same buckets and values, and `timechart count by f` has for
  each text of `f` that only rows which carry it have the counts of `stats`, unless a text is the
  name of the time.
* `timechart_differs`: an aggregation of the times differs, a row without a time is counted in the
  first bucket, and a value that is named `_time` hides the bucket.

Times are the rationals that they stand for, and are not rounded. The argument is taken as read but
for the text of its span.
-/

namespace Mockdr

namespace Splunk

/-- The built-ins of the two commands. -/
structure TimechartPython extends SplPython where
  /-- `f"{start:.{decimals}f}-{edge:.{decimals}f}"` -/
  edges : ℚ → ℚ → ℕ → String
  /-- what `timechart` makes of rows of which one has a time that is not finite -/
  endless : List Row → Option (List Row)
  /-- `float` reads what `int` does -/
  float_of_int : ∀ s n, int s = some n → float s = some (.finite n)
  /-- the text of an integer is read as it is, also with a point -/
  float_str : ∀ n : Int, float (str (.int n)) = some (.finite n)
  float_strFloat : ∀ n : Int, float (strFloat (.finite n)) = some (.finite n)

variable (py : TimechartPython)

/-! ## Spans -/

/-- `_DURATION_UNITS`, of a unit in either case -/
def unitSeconds : Char → Option ℕ
  | 's' | 'S' => some 1
  | 'm' | 'M' => some 60
  | 'h' | 'H' => some 3600
  | 'd' | 'D' => some 86400
  | 'w' | 'W' => some 604800
  | _ => none

/-- `_span_seconds`, of what stands behind `span=`; nothing where `int` raises. -/
def timechartSpan (raw : String) : Option ℚ :=
  let digits := raw.toList.takeWhile py.isDigit
  match (raw.toList.dropWhile py.isDigit).head?.bind unitSeconds with
  | some seconds =>
    if digits = [] then some 3600
    else (py.int (String.ofList digits)).map fun n : Int => (n : ℚ) * seconds
  | none => some 3600

/-- `(\d+(?:\.\d+)?)` at the start of a text: the digits, those behind the point, and the rest. -/
def leadingNumber (text : List Char) : List Char × List Char × List Char :=
  let digits := text.takeWhile py.isDigit
  match text.dropWhile py.isDigit with
  | '.' :: behind =>
    if behind.takeWhile py.isDigit = [] then (digits, [], '.' :: behind)
    else (digits, behind.takeWhile py.isDigit, behind.dropWhile py.isDigit)
  | behind => (digits, [], behind)

/-- `_bin_span`, of a `span` alone: the span, whether it is one of time, and its decimals; nothing
    where it is not finite. -/
def binSpan (raw : String) : Option (ℚ × Bool × ℕ) :=
  let (digits, fraction, behind) := leadingNumber py raw.toList
  let number := if fraction = [] then digits else digits ++ '.' :: fraction
  let width := match py.float (String.ofList number) with
    | some (.finite q) => some q
    | _ => none
  if digits = [] then some (1, false, 0)
  else
    match behind.dropWhile isSpace with
    | [] => width.map fun q => (q, false, fraction.length)
    | [unit] =>
      match unitSeconds unit with
      | some seconds => width.map fun q => (q * seconds, true, 0)
      | none => some (1, false, 0)
    | unit =>
      if unit.map Char.toLower = ['m', 'o', 'n'] then width.map fun q => (q, true, 0)
      else some (1, false, 0)

/-! ## The commands -/

/-- `as_float(row.get("_time"))`, nothing where it raises. -/
def timeValue (row : Row) : Option (Option PyFloat) :=
  asFloat py.toStatsPython ((row.get "_time").getD .null)

/-- Where a bucket starts. -/
def startOf (span q : ℚ) : ℚ := ⌊q / span⌋ * span

/-- A row in its bucket, nothing where it raises. -/
def binRow (span : ℚ) (isTime : Bool) (decimals : ℕ) (row : Row) : Option Row :=
  match timeValue py row with
  | some none => some row
  | some (some (.finite q)) =>
    if span = 0 then none
    else
      let start := startOf span q
      some (row.set "_time" (if isTime then shrink py.toStatsPython (.finite start)
        else .str (py.edges start (start + span) decimals)))
  | _ => none

/-- `_cmd_bin`, of `_time` and a span; nothing where it raises. -/
def cmdBin (raw : String) (rows : List Row) : Option (List Row) := do
  let (span, isTime, decimals) ← binSpan py raw
  rows.mapM (binRow py span isTime decimals)

/-- Whether the time of a row is neither missing nor finite. -/
def isEndless (row : Row) : Bool :=
  match timeValue py row with
  | some (some .nan) | some (some .posInf) | some (some .negInf) => true
  | _ => false

/-- The bucket of a row that is not endless, nothing where it raises. -/
def bucketOf (span : ℚ) (row : Row) : Option ℚ :=
  match timeValue py row with
  | some none => some 0
  | some (some (.finite q)) => if span = 0 then none else some (startOf span q)
  | _ => none

/-- `str(r.get(field, ""))` -/
def textOr (field : String) (row : Row) : String := ((row.get field).map py.toStr).getD ""

/-- The columns of a bucket, one for each text of a field. -/
def splitColumns (agg : Aggregation) (field : String) (members : List Row) (record : Row) :
    Option Row :=
  (byText.sort (members.map (textOr py field)).dedup).foldlM (fun record value =>
    let subset := members.filter fun row => textOr py field row = value
    (aggregate py.toStatsPython agg.func agg.field subset).map fun computed =>
      computed.elim record (record.set value)) record

/-- Numbers in their order. -/
def byNumber (α : Type) [LinearOrder α] : KeyOrder α where
  le a b := a ≤ b
  dec _ _ := inferInstanceAs (Decidable (_ ≤ _))
  total := le_total
  trans _ _ _ := le_trans

/-- The row of a bucket. -/
def bucketRow (aggs : List Aggregation) (byField : Option String) (bucket : ℚ)
    (members : List Row) : Option Row :=
  let record := Dict.empty.set "_time" (.str (py.strFloat (.finite bucket)))
  match byField, orCount aggs with
  | some field, agg :: _ => splitColumns py agg field members record
  | _, aggs => (aggregated py.toStatsPython aggs members).map (updated record)

/-- `_cmd_timechart`, nothing where it raises. -/
def cmdTimechart (raw : String) (aggs : List Aggregation) (byField : Option String)
    (rows : List Row) : Option (List Row) := do
  let span ← timechartSpan py raw
  if rows.any (isEndless py) then py.endless rows
  else do
    let _ ← rows.mapM (bucketOf py span)
    let buckets := Grouping.groupsOf (bucketOf py span) rows
    ((byNumber ℚ).sort buckets.keys).mapM fun bucket =>
      bucketRow py aggs byField bucket ((buckets.get bucket).getD [])

/-! ## What is claimed -/

/-- A span of a number and a unit, and how many seconds it has. -/
def IsSpan (raw : String) (n : ℕ) : Prop :=
  ∃ digits unit seconds, ∃ m : ℕ, raw.toList = digits ++ [unit] ∧ digits ≠ []
    ∧ (∀ c ∈ digits, py.isDigit c = true) ∧ py.isDigit unit = false
    ∧ unitSeconds unit = some seconds ∧ py.int (String.ofList digits) = some (m : Int)
    ∧ n = m * seconds

/-- An aggregation of the times, or by them. -/
def ReadsTime (agg : Aggregation) : Prop :=
  agg.field = "_time" ∨ py.lower agg.func ∈ ["earliest", "latest"]

/-- A row has a finite time. -/
def Timed (row : Row) : Prop := ∃ q, timeValue py row = some (some (.finite q))

/-- The start of a bucket, written in a row. -/
def TimeIs (row : Row) (k : Int) : Prop :=
  ∃ text, row.get "_time" = some (.str text) ∧ py.float text = some (.finite k)

/-- Two rows of a bucket have the same values, and their times are the same number. -/
structure SameRow (t s : Row) : Prop where
  time : t.get "_time" = s.get "_time" ∨ ∃ k, TimeIs py t k ∧ TimeIs py s k
  values : ∀ f, f ≠ "_time" → t.get f = s.get f

variable {py} {raw : String} {n : ℕ} {aggs : List Aggregation} {rows : List Row} {row : Row}

/-! ## Reading the span -/

lemma unitSeconds_ne {unit : Char} {seconds : ℕ} (h : unitSeconds unit = some seconds) :
    unit ≠ '.' ∧ isSpace unit = false := by
  unfold unitSeconds at h
  split at h <;> first | exact ⟨by decide, by decide⟩ | cases h

/-- `timechart` and `bin` read a span of a number and a unit alike. -/
lemma span_eq (h : IsSpan py raw n) :
    timechartSpan py raw = some (n : ℚ) ∧ binSpan py raw = some ((n : ℚ), true, 0) := by
  obtain ⟨digits, unit, seconds, m, hraw, hne, hdigits, hunit, hseconds, hint, rfl⟩ := h
  obtain ⟨hpoint, hspace⟩ := unitSeconds_ne hseconds
  have htake : raw.toList.takeWhile py.isDigit = digits := by
    rw [hraw, List.takeWhile_append_of_pos hdigits,
      List.takeWhile_cons_of_neg (by rw [hunit]; simp), List.append_nil]
  have hdrop : raw.toList.dropWhile py.isDigit = [unit] := by
    rw [hraw, List.dropWhile_append_of_pos hdigits,
      List.dropWhile_cons_of_neg (by rw [hunit]; simp)]
  have hfloat : py.float (String.ofList digits) = some (.finite (m : Int)) :=
    py.float_of_int _ _ hint
  constructor
  · rw [timechartSpan, htake, hdrop, List.head?_cons, Option.bind_some, hseconds]
    dsimp only
    rw [if_neg hne, hint, Option.map_some]
    push_cast
    rfl
  · have hleading : leadingNumber py raw.toList = (digits, [], [unit]) := by
      rw [leadingNumber, htake, hdrop]
      split
      · next heq => exact absurd (List.cons.inj heq).1 hpoint
      · rfl
    rw [binSpan, hleading]
    dsimp only
    rw [if_pos rfl, if_neg hne, List.dropWhile_cons_of_neg (by rw [hspace]; simp), hfloat]
    dsimp only
    rw [hseconds]
    dsimp only
    rw [Option.map_some]
    push_cast
    rfl

/-! ## Buckets -/

variable (py n) in
/-- The number that the bucket of a row starts with. -/
def bucketStart (row : Row) : Option Int :=
  match timeValue py row with
  | some (some (.finite q)) => some (⌊q / n⌋ * n)
  | _ => none

variable (py n) in
/-- The row in its bucket. -/
def binned (row : Row) : Row :=
  match bucketStart py n row with
  | some k => row.set "_time" (.int k)
  | none => row

lemma startOf_natCast (n : ℕ) (q : ℚ) : startOf n q = ((⌊q / n⌋ * n : Int) : ℚ) := by
  rw [startOf]
  push_cast
  rfl

lemma bucketOf_eq (hn : n ≠ 0) (h : Timed py row) :
    bucketOf py n row = (bucketStart py n row).map fun k : Int => (k : ℚ) := by
  obtain ⟨q, hq⟩ := h
  rw [bucketOf, bucketStart, hq]
  dsimp only
  rw [if_neg (Nat.cast_ne_zero.2 hn), startOf_natCast]
  rfl

lemma bucketStart_isSome (h : Timed py row) : ∃ k, bucketStart py n row = some k := by
  obtain ⟨q, hq⟩ := h
  exact ⟨_, by rw [bucketStart, hq]⟩

/-- `bin` writes the start of the bucket of each row. -/
lemma cmdBin_eq (hspan : IsSpan py raw n) (hn : n ≠ 0) (htimes : ∀ row ∈ rows, Timed py row) :
    cmdBin py raw rows = some (rows.map (binned py n)) := by
  rw [cmdBin, (span_eq hspan).2, Option.bind_eq_bind, Option.bind_some]
  dsimp only
  rw [mapM_eq_some_iff, List.forall₂_map_right_iff, List.forall₂_same]
  intro row hrow
  obtain ⟨q, hq⟩ := htimes row hrow
  rw [binRow, binned, bucketStart, hq]
  dsimp only
  rw [if_neg (Nat.cast_ne_zero.2 hn), startOf_natCast, if_pos rfl, shrink,
    if_pos (Rat.den_intCast _), Rat.num_intCast]

/-- Without seconds in a span both commands raise. -/
lemma raises_of_zero (hspan : IsSpan py raw 0) (hne : rows ≠ [])
    (htimes : ∀ row ∈ rows, Timed py row) (byField : Option String) :
    cmdBin py raw rows = none ∧ cmdTimechart py raw aggs byField rows = none := by
  obtain ⟨row, rest, rfl⟩ := List.exists_cons_of_ne_nil hne
  obtain ⟨q, hq⟩ := htimes row List.mem_cons_self
  have hendless : (row :: rest).any (isEndless py) = false := by
    rw [List.any_eq_false]
    intro r hr
    obtain ⟨q, hq⟩ := htimes r hr
    rw [isEndless, hq]
    exact Bool.false_ne_true
  constructor
  · rw [cmdBin, (span_eq hspan).2, Option.bind_eq_bind, Option.bind_some]
    dsimp only
    rw [mapM_eq_none_iff]
    refine ⟨row, List.mem_cons_self, ?_⟩
    rw [binRow, hq]
    exact if_pos Nat.cast_zero
  · have hnone : (row :: rest).mapM (bucketOf py ((0 : ℕ) : ℚ)) = none := by
      rw [mapM_eq_none_iff]
      refine ⟨row, List.mem_cons_self, ?_⟩
      rw [bucketOf, hq]
      exact if_pos Nat.cast_zero
    rw [cmdTimechart, (span_eq hspan).1, Option.bind_eq_bind, Option.bind_some, hendless,
      if_neg Bool.false_ne_true, hnone]
    rfl

/-- The starts of the buckets in their order. -/
def starts (py : TimechartPython) (n : ℕ) (rows : List Row) : List Int :=
  (byNumber Int).sort (Grouping.groupsOf (bucketStart py n) rows).keys

/-- `timechart` makes a row of each bucket. -/
lemma cmdTimechart_eq (hspan : IsSpan py raw n) (hn : n ≠ 0)
    (htimes : ∀ row ∈ rows, Timed py row) (byField : Option String) :
    cmdTimechart py raw aggs byField rows = (starts py n rows).mapM fun k : Int =>
      bucketRow py aggs byField k (Grouping.members (bucketStart py n) k rows) := by
  have hendless : rows.any (isEndless py) = false := by
    rw [List.any_eq_false]
    intro r hr
    obtain ⟨q, hq⟩ := htimes r hr
    rw [isEndless, hq]
    exact Bool.false_ne_true
  have hreads : rows.mapM (bucketOf py n) ≠ none := by
    rw [ne_eq, mapM_eq_none_iff]
    rintro ⟨row, hrow, hnone⟩
    obtain ⟨k, hk⟩ := bucketStart_isSome (n := n) (htimes row hrow)
    rw [bucketOf_eq hn (htimes row hrow), hk] at hnone
    cases hnone
  obtain ⟨_, hread⟩ := Option.ne_none_iff_exists'.1 hreads
  have hf : ∀ row ∈ rows, bucketOf py n (id row)
      = (bucketStart py n row).map fun k : Int => (k : ℚ) :=
    fun row hrow => bucketOf_eq hn (htimes row hrow)
  have hinj : Function.Injective fun k : Int => (k : ℚ) := Int.cast_injective
  have hkeys := Grouping.keys_groupsOf_map hinj hf
  rw [List.map_id] at hkeys
  rw [cmdTimechart, (span_eq hspan).1, Option.bind_eq_bind, Option.bind_some, hendless,
    if_neg Bool.false_ne_true, hread, Option.bind_eq_bind, Option.bind_some]
  dsimp only
  rw [hkeys, (byNumber ℚ).sort_map (byNumber Int) _ (fun a b => Int.cast_le.symm), List.mapM_map,
    starts]
  congr 1
  funext k
  have hmembers := Grouping.members_map hinj hf k
  rw [List.map_id, List.map_id] at hmembers
  rw [Function.comp_apply, Grouping.getD_groupsOf, hmembers]

/-! ## The keys of `stats` -/

variable (py) in
/-- The text of the start of a bucket. -/
def startText (k : Int) : String := py.str (.int k)

lemma startText_injective : Function.Injective (startText py) := by
  intro a b hab
  have ha := py.float_str a
  rw [show py.str (.int a) = py.str (.int b) from hab, py.float_str b] at ha
  exact (Int.cast_injective (PyFloat.finite.inj (Option.some.inj ha))).symm

lemma sortable_startText (k : Int) : sortable py.toStatsPython (startText py k)
    = toLex (0, toLex ((((k : ℚ) : WithTop ℚ) : WithBot (WithTop ℚ)), "")) := by
  rw [sortable, startText, py.float_str k]
  rfl

lemma byKey_le_iff (a b : Int) : (byKey py.toStatsPython).le [startText py a] [startText py b]
    ↔ (byNumber Int).le a b := by
  have hlt : ∀ x y : ℕ ×ₗ WithBot (WithTop ℚ) ×ₗ String, [x] ≤ [y] ↔ x ≤ y := by
    intro x y
    rw [← not_lt, ← not_lt, List.cons_lt_cons_iff]
    simp
  simp only [byKey, byNumber, List.map_cons, List.map_nil, hlt, sortable_startText,
    Prod.Lex.toLex_le_toLex, lt_irrefl, false_or, true_and, WithBot.coe_lt_coe,
    WithTop.coe_lt_coe, WithBot.coe_inj, WithTop.coe_inj, Int.cast_lt, Int.cast_inj, le_refl,
    and_true]
  exact le_iff_lt_or_eq.symm

lemma get_binned_time {k : Int} (h : bucketStart py n row = some k) :
    (binned py n row).get "_time" = some (.int k) := by
  rw [binned, h]
  exact Dict.get_set_self _ _ _

lemma get_binned_ne (row : Row) {f : String} (hf : f ≠ "_time") :
    (binned py n row).get f = row.get f := by
  rw [binned]
  split
  · exact Dict.get_set_ne _ _ hf
  · rfl

/-! ## Aggregating -/

/-- An aggregation that does not read the time has the same value over the rows in their
    buckets. -/
lemma aggregate_binned {agg : Aggregation} (h : ¬ ReadsTime py agg) (members : List Row) :
    aggregate py.toStatsPython agg.func agg.field (members.map (binned py n))
      = aggregate py.toStatsPython agg.func agg.field members := by
  obtain ⟨hfield, hfunc⟩ := not_or.1 h
  have hpresent : present agg.field (members.map (binned py n)) = present agg.field members := by
    rw [present, present, List.filterMap_map]
    refine List.filterMap_congr fun row _ => ?_
    rw [Function.comp_apply, get_binned_ne row hfield]
  rw [aggregate, aggregate]
  dsimp only
  rw [hpresent, List.length_map, if_neg hfunc, if_neg hfunc]

lemma aggregated_binned {aggs : List Aggregation} (h : ∀ agg ∈ aggs, ¬ ReadsTime py agg)
    (members : List Row) :
    aggregated py.toStatsPython aggs (members.map (binned py n))
      = aggregated py.toStatsPython aggs members := by
  have hfold : ∀ record : Row, aggs.foldlM (fun record agg =>
        (aggregate py.toStatsPython agg.func agg.field (members.map (binned py n))).map
          fun value => value.elim record (record.set agg.aliasName)) record
      = aggs.foldlM (fun record agg =>
        (aggregate py.toStatsPython agg.func agg.field members).map
          fun value => value.elim record (record.set agg.aliasName)) record := by
    induction aggs with
    | nil => exact fun _ => rfl
    | cons agg aggs ih =>
      intro record
      rw [List.foldlM_cons, List.foldlM_cons, aggregate_binned (h agg List.mem_cons_self)]
      exact congrArg _ (funext (ih fun a ha => h a (List.mem_cons_of_mem _ ha)))
  exact hfold Dict.empty

lemma not_readsTime_orCount (h : ∀ agg ∈ aggs, ¬ ReadsTime py agg) :
    ∀ agg ∈ orCount aggs, ¬ ReadsTime py agg := by
  rw [orCount]
  split_ifs
  · intro agg hagg
    obtain rfl := List.mem_singleton.1 hagg
    have hlower : py.lower "count" = "count" := py.lower_ascii "count" (by decide)
    rintro (hfield | hfunc)
    · exact absurd hfield (by decide)
    · rw [hlower] at hfunc
      exact absurd hfunc (by decide)
  · exact h

/-- `stats` by the time that `bin` writes makes a row of each bucket. -/
lemma cmdStats_bin_eq (hspan : IsSpan py raw n) (hn : n ≠ 0) (htimes : ∀ row ∈ rows, Timed py row)
    (haggs : ∀ agg ∈ aggs, ¬ ReadsTime py agg) :
    (cmdBin py raw rows).bind (cmdStats py.toStatsPython aggs ["_time"])
      = (starts py n rows).mapM fun k : Int =>
        (aggregated py.toStatsPython (orCount aggs)
          (Grouping.members (bucketStart py n) k rows)).map
            (updated (keyRow ["_time"] [startText py k])) := by
  have hf : ∀ row ∈ rows, groupKey py.toStatsPython ["_time"] (binned py n row)
      = (bucketStart py n row).map fun k => [startText py k] := by
    intro row hrow
    obtain ⟨k, hk⟩ := bucketStart_isSome (n := n) (htimes row hrow)
    rw [groupKey, List.mapM_cons, List.mapM_nil, get_binned_time hk, hk]
    rfl
  have hinj : Function.Injective fun k : Int => [startText py k] :=
    fun a b hab => startText_injective (List.cons.inj hab).1
  rw [cmdBin_eq hspan hn htimes, Option.bind_some, cmdStats, if_neg (by decide)]
  dsimp only
  rw [groupsOf, Grouping.keys_groupsOf_map hinj hf,
    (byKey py.toStatsPython).sort_map (byNumber Int) _ (fun a b => (byKey_le_iff a b).symm),
    List.mapM_map, starts]
  congr 1
  funext k
  rw [Function.comp_apply, Grouping.getD_groupsOf, Grouping.members_map hinj hf,
    aggregated_binned (not_readsTime_orCount haggs)]

lemma sameRow_updated (k : Int) (record : Row) :
    SameRow py (updated (Dict.empty.set "_time" (.str (py.strFloat (.finite k)))) record)
      (updated (keyRow ["_time"] [startText py k]) record) := by
  have hkey : keyRow ["_time"] [startText py k]
      = Dict.empty.set "_time" (.str (startText py k)) := rfl
  refine ⟨?_, fun f hf => ?_⟩
  · have hwritten : ∀ text, (updated (Dict.empty.set "_time" (.str text)) record).get "_time"
        = (record.get "_time").or (some (.str text)) := by
      intro text
      rw [get_updated, Dict.get_set_self]
    rw [hkey, hwritten, hwritten]
    cases hget : record.get "_time" with
    | some v => exact .inl rfl
    | none =>
      refine .inr ⟨k, ⟨_, ?_, py.float_strFloat k⟩, ⟨startText py k, ?_, py.float_str k⟩⟩
      · rw [hwritten, hget]
        rfl
      · rw [hwritten, hget]
        rfl
  · rw [get_updated, get_updated, hkey, Dict.get_set_ne _ _ hf, Dict.get_set_ne _ _ hf]

lemma cmdBin_nil (hspan : IsSpan py raw n) : cmdBin py raw [] = some [] := by
  rw [cmdBin, (span_eq hspan).2]
  rfl

lemma cmdTimechart_nil (hspan : IsSpan py raw n) {byField : Option String} :
    cmdTimechart py raw aggs byField [] = some [] := by
  rw [cmdTimechart, (span_eq hspan).1]
  rfl

/-- A time chart has the buckets and the values of `stats` by the time that `bin` writes. -/
lemma sameRows (hspan : IsSpan py raw n) (htimes : ∀ row ∈ rows, Timed py row)
    (haggs : ∀ agg ∈ aggs, ¬ ReadsTime py agg) :
    Option.Rel (List.Forall₂ (SameRow py)) (cmdTimechart py raw aggs none rows)
      ((cmdBin py raw rows).bind (cmdStats py.toStatsPython aggs ["_time"])) := by
  by_cases hrows : rows = []
  · subst hrows
    rw [cmdTimechart_nil hspan, cmdBin_nil hspan]
    exact .some .nil
  by_cases hn : n = 0
  · subst hn
    obtain ⟨hbin, hchart⟩ := raises_of_zero hspan hrows htimes none
    rw [hbin, hchart]
    exact .none
  rw [cmdTimechart_eq hspan hn htimes, cmdStats_bin_eq hspan hn htimes haggs]
  -- both make rows of the same records, one for each bucket
  let records : Option (List (Int × Row)) := (starts py n rows).mapM fun k : Int =>
    (aggregated py.toStatsPython (orCount aggs)
      (Grouping.members (bucketStart py n) k rows)).map fun record => (k, record)
  have hrecords : ∀ write : Int → Row → Row, ((starts py n rows).mapM fun k : Int =>
        (aggregated py.toStatsPython (orCount aggs)
          (Grouping.members (bucketStart py n) k rows)).map (write k))
      = records.map (List.map fun p => write p.1 p.2) := by
    intro write
    rw [← mapM_option_map]
    simp only [Option.map_map]
    rfl
  have hchart : ((starts py n rows).mapM fun k : Int =>
        bucketRow py aggs none k (Grouping.members (bucketStart py n) k rows))
      = records.map (List.map fun p =>
        updated (Dict.empty.set "_time" (.str (py.strFloat (.finite p.1)))) p.2) :=
    hrecords fun k record =>
      updated (Dict.empty.set "_time" (.str (py.strFloat (.finite k)))) record
  rw [hchart, hrecords fun k record => updated (keyRow ["_time"] [startText py k]) record]
  cases records with
  | none => exact .none
  | some records =>
    refine .some ?_
    rw [List.forall₂_map_left_iff, List.forall₂_map_right_iff, List.forall₂_same]
    exact fun p _ => sameRow_updated p.1 p.2

/-! ## Counting by a field -/

/-- What the columns of a bucket are made of. -/
def columnsOf (py : TimechartPython) (field : String) (members : List Row) :
    List (String × Value) :=
  (byText.sort (members.map (textOr py field)).dedup).map fun t =>
    (t, .int (members.countP fun row => textOr py field row = t))

lemma splitColumns_count (field : String) (members : List Row) (record : Row) :
    splitColumns py ⟨"count", "", "count"⟩ field members record
      = some ((columnsOf py field members).foldl (fun record p => record.set p.1 p.2) record) := by
  have hcount : ∀ subset : List Row, aggregate py.toStatsPython "count" "" subset
      = some (some (.int subset.length)) := by
    intro subset
    have hlower : py.lower "count" = "count" := py.lower_ascii "count" (by decide)
    rw [aggregate]
    dsimp only
    rw [hlower, if_pos (by decide), if_pos rfl]
    rfl
  rw [splitColumns, columnsOf]
  simp only [hcount, Option.map_some, Option.elim_some]
  generalize byText.sort (members.map (textOr py field)).dedup = texts
  induction texts generalizing record with
  | nil => rfl
  | cons t texts ih =>
    rw [List.foldlM_cons, List.map_cons, List.foldl_cons, Option.bind_eq_bind, Option.bind_some, ih,
      List.countP_eq_length_filter]

/-- The column of a text in a bucket. -/
lemma get_columns {field : String} {members : List Row} {record : Row} {t : String}
    (h : record.get t = none) :
    ((columnsOf py field members).foldl (fun record p => record.set p.1 p.2) record).get t
      = if (∃ row ∈ members, textOr py field row = t) then
        some (.int (members.countP fun row => textOr py field row = t)) else none := by
  have hmem : ∀ {t'}, t' ∈ byText.sort (members.map (textOr py field)).dedup
      ↔ ∃ row ∈ members, textOr py field row = t' := by
    intro t'
    rw [(byText.perm_sort _).mem_iff, List.mem_dedup, List.mem_map]
  split_ifs with hheld
  · have hcolumn : (t, Value.int (members.countP fun row => textOr py field row = t))
        ∈ columnsOf py field members := List.mem_map.2 ⟨t, hmem.2 hheld, rfl⟩
    refine Dict.get_foldl_set (fun p hp q hq hkey => ?_) hcolumn
    obtain ⟨a, -, rfl⟩ := List.mem_map.1 hp
    obtain ⟨b, -, rfl⟩ := List.mem_map.1 hq
    obtain rfl : a = b := hkey
    rfl
  · rw [Dict.get_foldl_set_ne, h]
    intro hkey
    obtain ⟨p, hp, rfl⟩ := List.mem_map.1 hkey
    obtain ⟨a, ha, rfl⟩ := List.mem_map.1 hp
    exact hheld (hmem.1 ha)

variable (py) in
/-- Only rows that carry a field have this text of it. -/
def OnlyCarried (field t : String) (rows : List Row) : Prop :=
  ∀ row ∈ rows, textOr py field row = t → (carried (row.get field)).isSome

variable (py n) in
/-- A time chart has a row for each bucket, and its columns are the counts of the pairs of a bucket
    and a text of the field. -/
structure SameCounts (field : String) (rows chart stats : List Row) : Prop where
  buckets : List.Forall₂ (TimeIs py) chart (starts py n rows)
  counts : ∀ r ∈ chart, ∀ k, TimeIs py r k → ∀ row ∈ rows,
    OnlyCarried py field (textOr py field row) rows → ∀ v,
      r.get (textOr py field row) = some v ↔ ∃ s ∈ stats, TimeIs py s k
        ∧ s.get field = some (.str (textOr py field row)) ∧ s.get "count" = some v

/-- The key of a row in its bucket. -/
lemma groupKey_binned_iff {field t : String} {k : Int} (hfield : field ≠ "_time")
    (h : Timed py row) (hcarried : textOr py field row = t → (carried (row.get field)).isSome) :
    groupKey py.toStatsPython ["_time", field] (binned py n row) = some [startText py k, t]
      ↔ bucketStart py n row = some k ∧ textOr py field row = t := by
  obtain ⟨k', hk'⟩ := bucketStart_isSome (n := n) h
  have htime : (carried ((binned py n row).get "_time")).map py.toStr = some (startText py k') := by
    rw [get_binned_time hk']
    rfl
  rw [groupKey, List.mapM_cons, List.mapM_cons, List.mapM_nil, htime, get_binned_ne row hfield, hk']
  cases hheld : carried (row.get field) with
  | none =>
    refine iff_of_false nofun fun hboth => ?_
    have hsome := hcarried hboth.2
    rw [hheld] at hsome
    cases hsome
  | some v =>
    have htext : textOr py field row = py.toStr v := by
      rw [textOr, carried_eq_some hheld]
      rfl
    rw [htext]
    simp only [Option.map_some, Option.pure_def, Option.bind_eq_bind, Option.bind_some,
      Option.some.injEq, List.cons.injEq, and_true]
    exact and_congr_left fun _ => startText_injective.eq_iff

/-- The groups of `stats` by the bucket and a field are keyed by these. -/
lemma groupKey_binned_form {field : String} {key : List String} (hfield : field ≠ "_time")
    (h : Timed py row)
    (hkey : groupKey py.toStatsPython ["_time", field] (binned py n row) = some key) :
    ∃ k t, key = [startText py k, t] := by
  obtain ⟨k, hk⟩ := bucketStart_isSome (n := n) h
  have htime : (carried ((binned py n row).get "_time")).map py.toStr = some (startText py k) := by
    rw [get_binned_time hk]
    rfl
  rw [groupKey, List.mapM_cons, List.mapM_cons, List.mapM_nil, htime, get_binned_ne row hfield]
    at hkey
  cases hheld : carried (row.get field) with
  | none =>
    rw [hheld] at hkey
    cases hkey
  | some v =>
    rw [hheld] at hkey
    exact ⟨k, _, (Option.some.inj hkey).symm⟩

lemma TimeIs.unique {k k' : Int} (h : TimeIs py row k) (h' : TimeIs py row k') : k = k' := by
  obtain ⟨text, hget, hfloat⟩ := h
  obtain ⟨text', hget', hfloat'⟩ := h'
  rw [hget] at hget'
  cases hget'
  rw [hfloat] at hfloat'
  exact Int.cast_injective (PyFloat.finite.inj (Option.some.inj hfloat'))

/-- The columns of a time chart are the counts of `stats` by the bucket and the field. -/
lemma sameCounts (hspan : IsSpan py raw n) (htimes : ∀ row ∈ rows, Timed py row) {field : String}
    (hfield : field ≠ "_time") (hcount : field ≠ "count")
    (hname : ∀ row ∈ rows, textOr py field row ≠ "_time") :
    Option.Rel (SameCounts py n field rows)
      (cmdTimechart py raw [⟨"count", "", "count"⟩] (some field) rows)
      ((cmdBin py raw rows).bind
        (cmdStats py.toStatsPython [⟨"count", "", "count"⟩] ["_time", field])) := by
  by_cases hrows : rows = []
  · subst hrows
    rw [cmdTimechart_nil hspan, cmdBin_nil hspan]
    exact .some ⟨.nil, fun _ hr => absurd hr List.not_mem_nil⟩
  by_cases hn : n = 0
  · subst hn
    obtain ⟨hbin, hchart⟩ := raises_of_zero hspan hrows htimes (some field)
    rw [hbin, hchart]
    exact .none
  have hlower : py.lower "count" = "count" := py.lower_ascii "count" (by decide)
  let start (k : Int) : Row := Dict.empty.set "_time" (.str (py.strFloat (.finite (k : ℚ))))
  let column (k : Int) : Row :=
    (columnsOf py field (Grouping.members (bucketStart py n) k rows)).foldl
      (fun record p => record.set p.1 p.2) (start k)
  have hchart : cmdTimechart py raw [⟨"count", "", "count"⟩] (some field) rows
      = some ((starts py n rows).map column) := by
    rw [cmdTimechart_eq hspan hn htimes, mapM_eq_some_iff, List.forall₂_map_right_iff,
      List.forall₂_same]
    intro k _
    exact splitColumns_count field _ _
  rw [hchart, cmdBin_eq hspan hn htimes, Option.bind_some,
    cmdStats_count hlower (List.cons_ne_nil _ _)]
  -- no column hides the time
  have htime : ∀ k, TimeIs py (column k) k := by
    intro k
    refine ⟨_, ?_, py.float_strFloat k⟩
    rw [Dict.get_foldl_set_ne, Dict.get_set_self]
    intro hkey
    obtain ⟨p, hp, hptime⟩ := List.mem_map.1 hkey
    obtain ⟨t, ht, rfl⟩ := List.mem_map.1 hp
    rw [(byText.perm_sort _).mem_iff, List.mem_dedup, List.mem_map] at ht
    obtain ⟨row, hrow, htext⟩ := ht
    exact hname row (List.mem_of_mem_filter hrow) (htext.trans hptime)
  refine .some ⟨?_, ?_⟩
  · rw [List.forall₂_map_left_iff, List.forall₂_same]
    exact fun k _ => htime k
  · intro r hr k hk row hrow honly v
    obtain ⟨k', -, rfl⟩ := List.mem_map.1 hr
    obtain rfl := (htime k').unique hk
    generalize htext : textOr py field row = t at honly ⊢
    have hne : t ≠ "_time" := htext ▸ hname row hrow
    have hstart : (start k').get t = none := by
      rw [Dict.get_set_ne _ _ hne]
      rfl
    have hkey : ∀ r ∈ rows, groupKey py.toStatsPython ["_time", field] (binned py n r)
          = some [startText py k', t] ↔ bucketStart py n r = some k' ∧ textOr py field r = t :=
      fun r hr => groupKey_binned_iff hfield (htimes r hr) (honly r hr)
    have hcounted : (rows.map (binned py n)).countP (fun r =>
          groupKey py.toStatsPython ["_time", field] r = some [startText py k', t])
        = (Grouping.members (bucketStart py n) k' rows).countP fun r => textOr py field r = t := by
      rw [List.countP_map, Grouping.members, List.countP_filter]
      refine List.countP_congr fun r hr => ?_
      simp only [Function.comp_apply, decide_eq_true_eq, Bool.and_eq_true, hkey r hr]
      exact and_comm
    have hpair : ∀ m, ([startText py k', t], m)
          ∈ statsPairs py.toStatsPython ["_time", field] (rows.map (binned py n))
        ↔ (∃ r ∈ Grouping.members (bucketStart py n) k' rows, textOr py field r = t)
          ∧ m = (Grouping.members (bucketStart py n) k' rows).countP
            fun r => textOr py field r = t := by
      intro m
      rw [mem_statsPairs, hcounted]
      refine and_congr_left fun _ => ?_
      simp only [List.mem_map, exists_exists_and_eq_and, Grouping.members, List.mem_filter,
        decide_eq_true_eq]
      refine exists_congr fun r => ?_
      constructor
      · rintro ⟨hr, hrkey⟩
        obtain ⟨hrk, hrt⟩ := (hkey r hr).1 hrkey
        exact ⟨⟨hr, hrk⟩, hrt⟩
      · rintro ⟨⟨hr, hrk⟩, hrt⟩
        exact ⟨hr, (hkey r hr).2 ⟨hrk, hrt⟩⟩
    have hwritten : ∀ (k : Int) (t : String) (m : ℕ),
        let s := (keyRow ["_time", field] [startText py k, t]).set "count" (.int m)
        s.get "_time" = some (.str (startText py k)) ∧ s.get field = some (.str t)
          ∧ s.get "count" = some (.int m) := by
      intro k t m
      have hrow : keyRow ["_time", field] [startText py k, t]
        = (Dict.empty.set "_time" (.str (startText py k))).set field (.str t) := rfl
      dsimp only
      rw [hrow]
      refine ⟨?_, ?_, Dict.get_set_self _ _ _⟩
      · rw [Dict.get_set_ne _ _ (by decide), Dict.get_set_ne _ _ (Ne.symm hfield),
          Dict.get_set_self]
      · rw [Dict.get_set_ne _ _ hcount, Dict.get_set_self]
    rw [get_columns hstart]
    constructor
    · intro hv
      split_ifs at hv with hheld
      obtain rfl := Option.some.inj hv
      obtain ⟨hstime, hsfield, hscount⟩ := hwritten k' t
        ((Grouping.members (bucketStart py n) k' rows).countP fun r => textOr py field r = t)
      exact ⟨_, List.mem_map.2 ⟨_, (hpair _).2 ⟨hheld, rfl⟩, rfl⟩,
        ⟨_, hstime, py.float_str k'⟩, hsfield, hscount⟩
    · rintro ⟨s, hs, htimes', hsfield', hscount'⟩
      obtain ⟨⟨key, m⟩, hp, rfl⟩ := List.mem_map.1 hs
      obtain ⟨binnedRow, hbinned, hrkey⟩ := (mem_statsPairs.1 hp).1
      obtain ⟨r₀, hr₀, rfl⟩ := List.mem_map.1 hbinned
      obtain ⟨k, t', rfl⟩ := groupKey_binned_form hfield (htimes r₀ hr₀) hrkey
      obtain ⟨hstime, hsfield, hscount⟩ := hwritten k t' m
      dsimp only at htimes' hsfield' hscount'
      rw [hsfield] at hsfield'
      obtain rfl : t' = t := Value.str.inj (Option.some.inj hsfield')
      obtain rfl : k = k' := TimeIs.unique ⟨_, hstime, py.float_str k⟩ htimes'
      obtain ⟨hheld, rfl⟩ := (hpair m).1 hp
      rw [if_pos hheld, ← hscount', hscount]

/-! ## Concrete searches -/

/-- The number that ASCII digits stand for. -/
def digitsValue (digits : List Char) : Option ℕ :=
  if digits ≠ [] ∧ digits.all Char.isDigit then some (Nat.ofDigitChars 10 digits 0) else none

/-- The integer that ASCII digits with a sign stand for. -/
def readInteger (s : String) : Option Int :=
  match s.toList with
  | '-' :: digits => (digitsValue digits).map fun n : ℕ => -(n : Int)
  | digits => (digitsValue digits).map fun n : ℕ => (n : Int)

lemma digitsValue_toDigits (n : ℕ) : digitsValue (Nat.toDigits 10 n) = some n := by
  have hdigits : Nat.toDigits 10 n ≠ [] ∧ (Nat.toDigits 10 n).all Char.isDigit :=
    ⟨Nat.toDigits_ne_nil, List.all_eq_true.2 fun c hc =>
      Nat.isDigit_of_mem_toDigits (by decide) (by decide) hc⟩
  rw [digitsValue, if_pos hdigits, Nat.ofDigitChars_ten_toDigits]

lemma readInteger_toString (m : Int) : readInteger (toString m) = some m := by
  rw [readInteger, toList_toString]
  by_cases hm : m < 0
  · rw [if_pos hm, List.singleton_append]
    change (digitsValue (Nat.toDigits 10 m.natAbs)).map (fun n : ℕ => -(n : Int)) = some m
    rw [digitsValue_toDigits, Option.map_some]
    exact congrArg some (by omega)
  · rw [if_neg hm, List.nil_append]
    split
    · next heq =>
      have hminus : '-' ∈ Nat.toDigits 10 m.natAbs := heq ▸ List.mem_cons_self
      exact absurd (Nat.isDigit_of_mem_toDigits (by decide) (by decide) hminus) (by decide)
    · rw [digitsValue_toDigits, Option.map_some]
      exact congrArg some (by omega)

lemma partition_point {s t : String} (h : '.' ∉ s.toList) (ht : t = "" ∨ t = ".0") :
    (partition '.' (s ++ t)).1 = s := by
  have hs : ∀ c ∈ s.toList, decide (c ≠ '.') = true := by
    intro c hc
    exact decide_eq_true fun heq => h (heq ▸ hc)
  rw [partition, String.toList_append]
  dsimp only
  rw [List.takeWhile_append_of_pos hs]
  rcases ht with rfl | rfl
  · exact String.ext (by simp)
  · exact String.ext (by simp)

lemma not_mem_toString (m : Int) : '.' ∉ (toString m).toList := by
  intro hmem
  rcases mem_toString hmem with h | h
  · cases h
  · exact absurd h (by decide)

/-- The built-ins on ASCII text and on integers. -/
def asciiTimechartPython : TimechartPython where
  toSplPython := { asciiSplPython with
    int := fun s => if '.' ∈ s.toList then none else readInteger s
    float := fun s => (readInteger (partition '.' s).1).map fun n : Int => .finite n }
  edges _ _ _ := ""
  endless rows := some rows
  float_of_int s n h := by
    dsimp only at h ⊢
    split_ifs at h with hpoint
    have hpartition := partition_point hpoint (.inl rfl)
    rw [String.append_empty] at hpartition
    rw [hpartition, h]
    rfl
  float_str n := by
    have hpartition := partition_point (not_mem_toString n) (.inl rfl)
    rw [String.append_empty] at hpartition
    have hread : readInteger (partition '.' (toString n)).1 = some n := by
      rw [hpartition, readInteger_toString]
    exact congrArg (Option.map fun n : Int => PyFloat.finite n) hread
  float_strFloat n := by
    have hread : readInteger (partition '.' (toString n ++ ".0")).1 = some n := by
      rw [partition_point (not_mem_toString n) (.inr rfl), readInteger_toString]
    exact congrArg (Option.map fun n : Int => PyFloat.finite n) hread

/-- A row with a time. -/
def rowAt (time : Int) : Row := Dict.empty.set "_time" (.int time)

lemma isSpan_five : IsSpan asciiTimechartPython "5s" 5 := by
  have hint : asciiTimechartPython.int (String.ofList ['5']) = some ((5 : ℕ) : Int) := by
    decide +kernel
  have hdigit : ∀ c ∈ ['5'], asciiTimechartPython.isDigit c = true := by
    intro c hc
    obtain rfl := List.mem_singleton.1 hc
    rfl
  exact ⟨['5'], 's', 1, 5, rfl, List.cons_ne_nil _ _, hdigit, rfl, rfl, hint, rfl⟩

/-- The integers in a field of the rows. -/
def integersIn (rows : Option (List Row)) (f : String) : Option (List (Option Int)) :=
  rows.map (List.map fun row =>
    match row.get f with
    | some (.int n) => some n
    | _ => none)

lemma integersIn_eq {t s : Option (List Row)} (h : Option.Rel (List.Forall₂ (SameRow py)) t s)
    {f : String} (hf : f ≠ "_time") : integersIn t f = integersIn s f := by
  cases h with
  | none => rfl
  | some h =>
    refine congrArg some ?_
    induction h with
    | nil => rfl
    | cons hrow _ ih => rw [List.map_cons, List.map_cons, ih, hrow.values f hf]

lemma integersIn_times {rows : List Row} {starts : List Int}
    (h : List.Forall₂ (TimeIs py) rows starts) :
    integersIn (some rows) "_time" = some (rows.map fun _ => none) := by
  refine congrArg some ?_
  induction h with
  | nil => rfl
  | cons hrow _ ih =>
    obtain ⟨text, hget, -⟩ := hrow
    rw [List.map_cons, List.map_cons, ih, hget]

end Splunk

end Mockdr
