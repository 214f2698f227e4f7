import Mathlib.Order.WithBot
import Mockdr.Lib.StableSort
import Mockdr.Splunk.HecEvent

/-!
# The selection of events behind a search

`_select_events` of `application/splunk/commands/search.py`: the stored events that a selector
chooses, newest first.

* `selectEvents`: the rows, unless something is raised.
* `Selects`: what is claimed of them; `Harmless`: an event that does no harm to any search.
* `selects_iff_harmless`: every search is answered as claimed exactly when every event that is still
  stored is harmless.
-/

namespace Mockdr

/-- `a <= b` -/
def PyFloat.le (a b : PyFloat) : Bool := a.lt b || a.eq b

namespace Splunk

/-- `EventSelector`: an empty text selects everything, a bound of 0 is open. -/
structure EventSelector where
  index : String
  sourcetype : String
  source : String
  host : String
  earliest : PyFloat
  latest : PyFloat

/-- A row of a search. -/
abbrev Row := Dict String Value

variable (py : SplunkPython)

/-- `differs`, nothing where `lower` is asked of a value that has none. -/
def differs (selected : String) (held : Value) : Option Bool :=
  if selected = "" then some false
  else
    match held.orElse (.str "") with
    | .str s => some (py.lower selected ≠ py.lower s)
    | _ => none

/-- The texts of a selector, each with what an event has for it. -/
def texts (selector : EventSelector) (event : SplunkEvent) : List (String × Value) :=
  [(selector.index, event.index), (selector.sourcetype, event.sourcetype),
    (selector.source, event.source), (selector.host, event.host)]

/-- Whether one of the texts differs. The ones behind it are not looked at. -/
def anyDiffers : List (String × Value) → Option Bool
  | [] => some false
  | (selected, held) :: rest =>
    match differs py selected held with
    | some false => anyDiffers rest
    | found => found

/-- An event outside of the window of a selector. -/
def outside (selector : EventSelector) (event : SplunkEvent) : Bool :=
  selector.earliest ≠ .finite 0 && event.time.lt selector.earliest
    || selector.latest ≠ .finite 0 && selector.latest.lt event.time

/-- Whether an event passes the filter. -/
def picks (selector : EventSelector) (event : SplunkEvent) : Option Bool :=
  (anyDiffers py (texts selector event)).map fun differs => !differs && !outside selector event

/-- The row of an event, without the fields of its body. -/
def baseRow (event : SplunkEvent) : Row where
  entries :=
    [("_time", .str (py.strFloat event.time)), ("index", event.index),
      ("sourcetype", event.sourcetype), ("source", event.source), ("host", event.host),
      ("_raw", .str event.raw)]
  nodup := by
    change ["_time", "index", "sourcetype", "source", "host", "_raw"].Nodup
    decide

/-- The row of an event. -/
def row (event : SplunkEvent) : Row :=
  event.fields.entries.foldl (fun row p => row.set p.1 p.2) (baseRow py event)

/-- The float that a value for `_time` reads as, nothing where that raises. -/
def readTime (v : Value) : Option PyFloat := py.float (py.toStr (v.orElse (.int 0)))

/-- The key that rows are sorted by. -/
def timeKey (row : Row) : Option PyFloat := readTime py ((row.get "_time").getD (.int 0))

/-- Floats in their order. Which place a sort gives a NaN is not documented; here it is that of the
    smallest. -/
def rank : PyFloat → WithBot (WithTop ℚ)
  | .nan => ⊥
  | .negInf => ⊥
  | .finite q => ((q : WithTop ℚ) : WithBot (WithTop ℚ))
  | .posInf => ((⊤ : WithTop ℚ) : WithBot (WithTop ℚ))

/-- The largest key first. -/
def descending {α : Type} (key : α → PyFloat) : KeyOrder α where
  le a b := rank (key b) ≤ rank (key a)
  dec _ _ := inferInstanceAs (Decidable (_ ≤ _))
  total a b := le_total (rank (key b)) (rank (key a))
  trans _ _ _ hab hbc := le_trans hbc hab

/-- `_select_events`, nothing where it raises. -/
def selectEvents (events : List SplunkEvent) (selector : EventSelector) : Option (List Row) :=
  if events.all fun event => (picks py selector event).isSome then
    let rows := (events.filter fun event => picks py selector event = some true).map (row py)
    if rows.all fun row => (timeKey py row).isSome then
      some ((descending fun row => (timeKey py row).getD (.finite 0)).sort rows)
    else none
  else none

/-! ## What is claimed -/

/-- The text of a value, empty where it is none. -/
def Value.text : Value → String
  | .str s => s
  | _ => ""

/-- An event meets a selector. -/
def meets (selector : EventSelector) (event : SplunkEvent) : Bool :=
  ((texts selector event).all fun p => p.1 = "" || py.lower p.1 = py.lower p.2.text)
    && (selector.earliest = .finite 0 || selector.earliest.le event.time)
    && (selector.latest = .finite 0 || event.time.le selector.latest)

/-- A row has the index, the sourcetype, the source, the host and the time of its event. -/
structure Carries (event : SplunkEvent) (row : Row) : Prop where
  index : row.get "index" = some event.index
  sourcetype : row.get "sourcetype" = some event.sourcetype
  source : row.get "source" = some event.source
  host : row.get "host" = some event.host
  time : timeKey py row = some event.time

/-- The rows are those of the events that meet a selector, newest first, and each carries what is
    stored of its event. -/
def Selects (events : List SplunkEvent) (selector : EventSelector) : Prop :=
  ∃ chosen : List SplunkEvent, chosen.Perm (events.filter (meets py selector))
    ∧ chosen.Pairwise (fun a b => b.time.le a.time = true)
    ∧ selectEvents py events selector = some (chosen.map (row py))
    ∧ ∀ event ∈ chosen, Carries py event (row py event)

/-- A selector whose bounds are numbers. -/
def EventSelector.Ordinary (selector : EventSelector) : Prop :=
  selector.earliest ≠ .nan ∧ selector.latest ≠ .nan

/-- A value that `differs` can compare: a string, or one that counts for the empty string. -/
def Readable (v : Value) : Prop := ∃ s, v.orElse (.str "") = .str s

/-- An event that does no harm to a search: its texts can be compared, its time is a number, and
    where its body has fields under the names of its own, they hold the same. -/
structure Harmless (event : SplunkEvent) : Prop where
  readable : ∀ v ∈ [event.index, event.sourcetype, event.source, event.host], Readable v
  number : event.time ≠ .nan
  own : ∀ p ∈ [("index", event.index), ("sourcetype", event.sourcetype), ("source", event.source),
    ("host", event.host)], ∀ v, event.fields.get p.1 = some v → v = p.2
  time : ∀ v, event.fields.get "_time" = some v → readTime py v = some event.time

/-- `str` of a float reads back as that float. -/
structure Prints (x : PyFloat) : Prop where
  nonempty : py.strFloat x ≠ ""
  reads : py.float (py.strFloat x) = some x

variable {py} {event : SplunkEvent} {selector : EventSelector} {events : List SplunkEvent}

/-! ## The filter -/

lemma text_of_orElse {v : Value} {s : String} (h : v.orElse (.str "") = .str s) : v.text = s := by
  rw [Value.orElse] at h
  split at h
  · rw [h]
    rfl
  · next hfalsy =>
    rw [← Value.str.inj h]
    cases v
    case str t =>
      by_contra hne
      exact hfalsy (decide_eq_true hne)
    all_goals rfl

lemma differs_of_readable {selected : String} {held : Value} (h : Readable held) :
    differs py selected held
      = some !(decide (selected = "") || decide (py.lower selected = py.lower held.text)) := by
  obtain ⟨s, hs⟩ := h
  rw [differs, hs, text_of_orElse hs]
  by_cases hselected : selected = ""
  · rw [if_pos hselected, hselected]
    rfl
  · simp [hselected]

lemma anyDiffers_of_readable {ps : List (String × Value)} (h : ∀ p ∈ ps, Readable p.2) :
    anyDiffers py ps
      = some !(ps.all fun p => p.1 = "" || py.lower p.1 = py.lower p.2.text) := by
  induction ps with
  | nil => rfl
  | cons p ps ih =>
    obtain ⟨hp, hps⟩ := List.forall_mem_cons.1 h
    rw [anyDiffers, differs_of_readable hp, List.all_cons, ih hps]
    cases decide (p.1 = "") || decide (py.lower p.1 = py.lower p.2.text) with
    | true => rfl
    | false => rfl

lemma lt_eq_not_le {a b : PyFloat} (ha : a ≠ .nan) (hb : b ≠ .nan) : a.lt b = !b.le a := by
  cases a
  case nan => exact absurd rfl ha
  all_goals
    cases b
    case nan => exact absurd rfl hb
    all_goals simp [PyFloat.lt, PyFloat.le, PyFloat.eq]
  case finite.finite p q =>
    rcases lt_trichotomy p q with h | h | h
    · simp [h, h.not_gt, h.ne']
    · simp [h]
    · simp [h, h.not_gt]

lemma outside_eq (hselector : selector.Ordinary) (htime : event.time ≠ .nan) :
    outside selector event
      = !((selector.earliest = .finite 0 || selector.earliest.le event.time)
        && (selector.latest = .finite 0 || event.time.le selector.latest)) := by
  rw [outside, lt_eq_not_le htime hselector.1, lt_eq_not_le hselector.2 htime, Bool.not_and,
    Bool.not_or, Bool.not_or, decide_not, decide_not]

lemma picks_of_harmless (hselector : selector.Ordinary) (h : Harmless py event) :
    picks py selector event = some (meets py selector event) := by
  have hreadable : ∀ p ∈ texts selector event, Readable p.2 := by
    intro p hp
    refine h.readable p.2 ?_
    have hmem := List.mem_map_of_mem (f := Prod.snd) hp
    exact hmem
  rw [picks, anyDiffers_of_readable hreadable, outside_eq hselector h.number, Option.map_some,
    Bool.not_not, Bool.not_not, meets, Bool.and_assoc]

/-! ## The rows -/

lemma get_row (event : SplunkEvent) (name : String) :
    (row py event).get name = (event.fields.get name).or ((baseRow py event).get name) := by
  rw [row]
  cases hfield : event.fields.get name with
  | some v =>
    refine Dict.get_foldl_set (p := (name, v)) ?_ (Dict.mem_entries_iff.2 hfield)
    intro p hp q hq hkey
    have hp' := Dict.mem_entries_iff.1 hp
    rw [hkey, Dict.mem_entries_iff.1 hq] at hp'
    exact (Option.some.inj hp').symm
  | none => exact Dict.get_foldl_set_ne (Dict.get_eq_none_iff.1 hfield)

lemma get_row_eq_iff (name : String) {own : Value} (h : (baseRow py event).get name = some own) :
    (row py event).get name = some own ↔ ∀ v, event.fields.get name = some v → v = own := by
  rw [get_row, h]
  cases event.fields.get name with
  | none => simp
  | some v => simp

lemma timeKey_row_iff (hprints : Prints py event.time) :
    timeKey py (row py event) = some event.time
      ↔ ∀ v, event.fields.get "_time" = some v → readTime py v = some event.time := by
  have hown : readTime py (.str (py.strFloat event.time)) = some event.time := by
    have htruthy : (Value.str (py.strFloat event.time)).truthy = true :=
      decide_eq_true hprints.nonempty
    rw [readTime, Value.orElse, if_pos htruthy]
    exact hprints.reads
  have hbase : (baseRow py event).get "_time" = some (.str (py.strFloat event.time)) := rfl
  rw [timeKey, get_row, hbase]
  cases event.fields.get "_time" with
  | none => simp [hown]
  | some v => simp

lemma carries_iff (hprints : Prints py event.time) :
    Carries py event (row py event)
      ↔ (∀ p ∈ [("index", event.index), ("sourcetype", event.sourcetype), ("source", event.source),
          ("host", event.host)], ∀ v, event.fields.get p.1 = some v → v = p.2)
        ∧ ∀ v, event.fields.get "_time" = some v → readTime py v = some event.time := by
  simp only [List.forall_mem_cons, List.not_mem_nil, false_imp_iff, implies_true, and_true]
  rw [← timeKey_row_iff hprints, ← get_row_eq_iff "index" rfl,
    ← get_row_eq_iff "sourcetype" rfl, ← get_row_eq_iff "source" rfl,
    ← get_row_eq_iff "host" rfl]
  constructor
  · rintro ⟨hindex, hsourcetype, hsource, hhost, htime⟩
    exact ⟨⟨hindex, hsourcetype, hsource, hhost⟩, htime⟩
  · rintro ⟨⟨hindex, hsourcetype, hsource, hhost⟩, htime⟩
    exact ⟨hindex, hsourcetype, hsource, hhost, htime⟩

/-! ## The order -/

lemma le_of_rank {a b : PyFloat} (ha : a ≠ .nan) (hb : b ≠ .nan) (h : rank a ≤ rank b) :
    a.le b = true := by
  cases a
  case nan => exact absurd rfl ha
  all_goals
    cases b
    case nan => exact absurd rfl hb
    all_goals simp [rank, PyFloat.lt, PyFloat.le, PyFloat.eq] at h ⊢
  case finite.finite p q => exact h.lt_or_eq

/-- Events that do no harm are selected as claimed. -/
lemma selects_of_harmless (hprints : ∀ event ∈ events, Prints py event.time)
    (h : ∀ event ∈ events, Harmless py event) (hselector : selector.Ordinary) :
    Selects py events selector := by
  have hpicks : ∀ event ∈ events, picks py selector event = some (meets py selector event) :=
    fun event hevent => picks_of_harmless hselector (h event hevent)
  have hchosen : (events.filter fun event => picks py selector event = some true)
      = events.filter (meets py selector) := by
    refine List.filter_congr ?_
    intro event hevent
    rw [hpicks event hevent]
    cases meets py selector event with
    | true => rfl
    | false => rfl
  have hcarries : ∀ event ∈ events.filter (meets py selector), Carries py event (row py event) := by
    intro event hevent
    have hmem := (List.mem_filter.1 hevent).1
    exact (carries_iff (hprints event hmem)).2 ⟨(h event hmem).own, (h event hmem).time⟩
  refine ⟨(descending SplunkEvent.time).sort (events.filter (meets py selector)),
    KeyOrder.perm_sort _ _, ?_, ?_, ?_⟩
  · have hsorted := KeyOrder.pairwise_sort (descending SplunkEvent.time)
      (List.pairwise_of_forall (R := fun _ _ => True) (fun _ _ => trivial)
        (l := events.filter (meets py selector)))
    refine List.Pairwise.imp_of_mem ?_ hsorted
    intro a b ha hb hle
    have hnumber : ∀ event ∈ (descending SplunkEvent.time).sort (events.filter (meets py selector)),
        event.time ≠ .nan := fun event hevent =>
      (h event (List.mem_filter.1 ((KeyOrder.perm_sort _ _).subset hevent)).1).number
    exact le_of_rank (hnumber b hb) (hnumber a ha) hle.1
  · have hall : (events.all fun event => (picks py selector event).isSome) = true := by
      rw [List.all_eq_true]
      intro event hevent
      rw [hpicks event hevent]
      rfl
    have hkeys : (((events.filter (meets py selector)).map (row py)).all fun row =>
        (timeKey py row).isSome) = true := by
      rw [List.all_eq_true, List.forall_mem_map]
      intro event hevent
      rw [(hcarries event hevent).time]
      rfl
    rw [selectEvents, if_pos hall, hchosen]
    dsimp only
    rw [if_pos hkeys, KeyOrder.sort, KeyOrder.sort, Option.some.injEq]
    refine Eq.symm (List.map_insertionSort _ _ _ _ ?_)
    intro a ha b hb
    change _ ↔ rank ((timeKey py (row py b)).getD (.finite 0))
      ≤ rank ((timeKey py (row py a)).getD (.finite 0))
    rw [(hcarries a ha).time, (hcarries b hb).time]
    rfl
  · intro event hevent
    exact hcarries event ((KeyOrder.perm_sort _ _).subset hevent)

/-! ## What harm an event does -/

/-- The selector that asks for nothing. -/
def EventSelector.any : EventSelector := ⟨"", "", "", "", .finite 0, .finite 0⟩

lemma picks_of_selects (h : Selects py events selector) (hevent : event ∈ events) :
    (picks py selector event).isSome = true := by
  obtain ⟨chosen, -, -, hselected, -⟩ := h
  rw [selectEvents] at hselected
  split at hselected
  · next hall => exact List.all_eq_true.1 hall event hevent
  · cases hselected

lemma readable_of_differs {selected : String} {held : Value} (hselected : selected ≠ "")
    (h : (differs py selected held).isSome = true) : Readable held := by
  rw [differs, if_neg hselected] at h
  split at h
  · next s hs => exact ⟨s, hs⟩
  · cases h

/-- The texts of an event are readable if every selector that asks for one of them is answered. -/
lemma readable_of_selects (h : ∀ selector, selector.Ordinary → Selects py events selector)
    (hevent : event ∈ events) :
    ∀ v ∈ [event.index, event.sourcetype, event.source, event.host], Readable v := by
  have hzero : PyFloat.finite 0 ≠ .nan := nofun
  have hopen : ∀ held, differs py "" held = some false := fun _ => if_pos rfl
  have hpicks : ∀ selector : EventSelector, selector.Ordinary →
      (anyDiffers py (texts selector event)).isSome = true := by
    intro selector hselector
    have hpicks := picks_of_selects (h selector hselector) hevent
    rwa [picks, Option.isSome_map] at hpicks
  have hlast : ∀ (selected : String) (held : Value) (rest : List (String × Value)),
      (anyDiffers py ((selected, held) :: rest)).isSome = true →
        (differs py selected held).isSome = true := by
    intro selected held rest hsome
    rw [anyDiffers] at hsome
    split at hsome
    · next hfalse => rw [hfalse]; rfl
    · exact hsome
  have hskip : ∀ (held : Value) (rest : List (String × Value)),
      anyDiffers py (("", held) :: rest) = anyDiffers py rest := by
    intro held rest
    rw [anyDiffers, hopen]
  have hindex := hpicks ⟨"x", "", "", "", .finite 0, .finite 0⟩ ⟨hzero, hzero⟩
  have hsourcetype := hpicks ⟨"", "x", "", "", .finite 0, .finite 0⟩ ⟨hzero, hzero⟩
  have hsource := hpicks ⟨"", "", "x", "", .finite 0, .finite 0⟩ ⟨hzero, hzero⟩
  have hhost := hpicks ⟨"", "", "", "x", .finite 0, .finite 0⟩ ⟨hzero, hzero⟩
  simp only [texts, hskip] at hsourcetype hsource hhost
  have hne : "x" ≠ "" := by decide
  simp only [List.forall_mem_cons, List.not_mem_nil, false_imp_iff, implies_true, and_true]
  exact ⟨readable_of_differs hne (hlast _ _ _ hindex),
    readable_of_differs hne (hlast _ _ _ hsourcetype),
    readable_of_differs hne (hlast _ _ _ hsource), readable_of_differs hne (hlast _ _ _ hhost)⟩

/-- What meets a selector that asks for no text, and what is picked by it. -/
lemma meets_of_texts_open (py : SplunkPython) {selector : EventSelector}
    (h : ∀ p ∈ texts selector event, p.1 = "") :
    picks py selector event = some (!outside selector event)
      ∧ meets py selector event
        = ((selector.earliest = .finite 0 || selector.earliest.le event.time)
          && (selector.latest = .finite 0 || event.time.le selector.latest)) := by
  have hnone : ∀ ps : List (String × Value), (∀ p ∈ ps, p.1 = "") →
      anyDiffers py ps = some false
        ∧ (ps.all fun p => p.1 = "" || py.lower p.1 = py.lower p.2.text) = true := by
    intro ps
    induction ps with
    | nil => exact fun _ => ⟨rfl, rfl⟩
    | cons p ps ih =>
      intro hps
      obtain ⟨hp, hps⟩ := List.forall_mem_cons.1 hps
      obtain ⟨hdiffers, hall⟩ := ih hps
      have hopen : differs py p.1 p.2 = some false := if_pos hp
      rw [anyDiffers, hopen, List.all_cons, hall, hp]
      exact ⟨hdiffers, rfl⟩
  obtain ⟨hdiffers, hall⟩ := hnone _ h
  rw [picks, hdiffers, meets, hall]
  exact ⟨rfl, rfl⟩

/-- The selector of what is not before a second after the epoch. -/
def EventSelector.late : EventSelector := ⟨"", "", "", "", .finite 1, .finite 0⟩

lemma picks_late (py : SplunkPython) (event : SplunkEvent) :
    picks py .late event = some (!event.time.lt (.finite 1))
      ∧ meets py .late event = (PyFloat.finite 1).le event.time := by
  have hopen : ∀ p ∈ texts .late event, p.1 = "" := by
    intro p hp
    simp only [texts, EventSelector.late, List.mem_cons, List.not_mem_nil, or_false] at hp
    rcases hp with rfl | rfl | rfl | rfl
    all_goals rfl
  obtain ⟨hpicks, hmeets⟩ := meets_of_texts_open py hopen
  rw [hpicks, hmeets]
  simp [outside, EventSelector.late]

/-- A NaN is before no bound and does not reach one. -/
lemma number_of_selects (h : Selects py events .late) (hevent : event ∈ events) :
    event.time ≠ .nan := by
  intro hnan
  obtain ⟨chosen, hperm, -, hselected, -⟩ := h
  have hlength : (events.filter fun event => picks py .late event = some true).length
      = (events.filter (meets py .late)).length := by
    rw [selectEvents] at hselected
    split at hselected
    · dsimp only at hselected
      split at hselected
      · have hlen := congrArg List.length (Option.some.inj hselected)
        rwa [(KeyOrder.perm_sort _ _).length_eq, List.length_map, List.length_map,
          hperm.length_eq] at hlen
      · cases hselected
    · cases hselected
  have hsub : (events.filter (meets py .late)).Sublist
      (events.filter fun event => picks py .late event = some true) := by
    refine List.monotone_filter_right events ?_
    intro event hmeets
    obtain ⟨hpicks, hmeets'⟩ := picks_late py event
    rw [hmeets'] at hmeets
    rw [hpicks]
    cases htime : event.time
    case finite q =>
      rw [htime] at hmeets
      simpa [PyFloat.le, PyFloat.lt, PyFloat.eq, le_iff_lt_or_eq] using hmeets
    all_goals
      rw [htime] at hmeets
      simp [PyFloat.le, PyFloat.lt, PyFloat.eq] at hmeets ⊢
  obtain ⟨hpicks, hmeets⟩ := picks_late py event
  have hpicked : event ∈ events.filter fun event => picks py .late event = some true := by
    refine List.mem_filter.2 ⟨hevent, ?_⟩
    rw [hpicks, hnan]
    rfl
  rw [← hsub.eq_of_length hlength.symm] at hpicked
  have hmet := (List.mem_filter.1 hpicked).2
  rw [hmeets, hnan] at hmet
  cases hmet

/-- Every search is answered as claimed exactly when no event does harm. -/
lemma selects_iff (hprints : ∀ event ∈ events, Prints py event.time) :
    (∀ selector, selector.Ordinary → Selects py events selector)
      ↔ ∀ event ∈ events, Harmless py event := by
  constructor
  · intro h event hevent
    have hcarries : Carries py event (row py event) := by
      obtain ⟨chosen, hperm, -, -, hall⟩ := h .any ⟨nofun, nofun⟩
      refine hall event (hperm.symm.subset (List.mem_filter.2 ⟨hevent, ?_⟩))
      rfl
    obtain ⟨hown, htime⟩ := (carries_iff (hprints event hevent)).1 hcarries
    exact ⟨readable_of_selects h hevent, number_of_selects (h .late ⟨nofun, nofun⟩) hevent, hown,
      htime⟩
  · exact fun h _ hselector => selects_of_harmless hprints h hselector

/-- After any sequence of bodies, every search is answered as claimed exactly when every event that
    is still stored is harmless. -/
theorem selects_iff_harmless (deliveries : List Delivery)
    (hprints : ∀ p ∈ (sent py deliveries).entries, Prints py (buildEvent py p.2).time) :
    (∀ selector, selector.Ordinary →
        Selects py ((stored py deliveries).entries.map Prod.snd) selector)
      ↔ ∀ p ∈ (sent py deliveries).entries, Harmless py (buildEvent py p.2) := by
  have hevents : (stored py deliveries).entries.map Prod.snd
      = (sent py deliveries).entries.map fun p => buildEvent py p.2 := by
    rw [stored_eq, Dict.mapValues, List.map_map]
    rfl
  rw [hevents, selects_iff (List.forall_mem_map.2 hprints), List.forall_mem_map]

/-- The built-ins on the bodies of the two events below. -/
def examplePython : SplunkPython where
  lower := asciiPython.lower
  str
    | .int n => n.repr
    | _ => ""
  strFloat _ := "1.0"
  float s := if s = "1.0" then some (.finite 1) else if s = "0" then some (.finite 0) else none
  floatInt n := some (.finite n)
  dumps _ := "\x7b\x7d"
  rawDecode cs :=
    if cs = "\x7b\"event\": \"up\"\x7d".toList then some (.dict [("event", .str "up")], 14)
    else if cs = "\x7b\"event\": \x7b\"_time\": \"today\"\x7d\x7d".toList then
      some (.dict [("event", .dict [("_time", .str "today")])], 28)
    else none

/-- A body with one event whose text is `up`. -/
def up : Delivery :=
  ⟨"\x7b\"event\": \"up\"\x7d", ⟨"main", "", ""⟩, fun _ => 1, fun _ => "id"⟩

/-- A body with one event that has a field `_time` of its own. -/
def today : Delivery :=
  ⟨"\x7b\"event\": \x7b\"_time\": \"today\"\x7d\x7d", ⟨"main", "", ""⟩, fun _ => 1,
    fun _ => "id"⟩

/-- An event without fields of its own. -/
theorem selects_iff_harmless_up :
    (∀ selector, selector.Ordinary →
        Selects examplePython ((stored examplePython [up]).entries.map Prod.snd) selector)
      ↔ ∀ p ∈ (sent examplePython [up]).entries,
          Harmless examplePython (buildEvent examplePython p.2) :=
  selects_iff_harmless [up] (by
    have htimes : ((sent examplePython [up]).entries.all fun p =>
        (buildEvent examplePython p.2).time = .finite 1) = true := by decide +kernel
    intro p hp
    rw [of_decide_eq_true (List.all_eq_true.1 htimes p hp)]
    exact ⟨by decide, by decide⟩)

/-- A field `_time` that is no number makes every search raise. -/
theorem own_time_raises :
    ¬ Selects examplePython ((stored examplePython [today]).entries.map Prod.snd) .any := by
  rintro ⟨chosen, -, -, hselected, -⟩
  have hraises : (selectEvents examplePython
      ((stored examplePython [today]).entries.map Prod.snd) .any).isSome = false := by
    decide +kernel
  rw [hselected] at hraises
  cases hraises

end Splunk

end Mockdr
