import Mockdr.Splunk.HecEvent

/-!
# Bodies of the HTTP Event Collector

How a body is cut into events (`parse_hec_payload` of `utils/splunk/hec_validation.py`), with
everything that reading it can raise.

* `Decoder`: `raw_decode`, which reads one value at the front of a text.
* `parseBody` reads a body, checking each event as it comes; `ingest` stores what it has read.
* `Passes`: a text consists of events that pass the check; `Faulty`: why reading stops at a text.
* `body_lawful_iff`: a body of events is read as these events, and any other is refused with the
  number of the events in front of the fault, exactly if nothing is raised that is no `HecError`.
-/

namespace Mockdr

namespace Splunk

namespace HecBody

/-! ## The decoder -/

/-- What `raw_decode` makes of a text: a value and how many characters it takes, a decode error or
    one of the recursion, or another exception (an integer of too many digits). -/
inductive Decoded where
  | value (v : Value) (taken : Nat)
  | malformed
  | raised

/-- An object or an array. -/
def isContainer : Value → Bool
  | .dict _ | .list _ => true
  | _ => false

/-- `raw_decode`: an object or an array is read off its own text, which is enclosed in brackets. -/
structure Decoder where
  decode : List Char → Decoded
  bounded : ∀ {cs v n}, decode cs = .value v n → isContainer v → n ≤ cs.length
  enclosed : ∀ {cs v n}, decode cs = .value v n → isContainer v →
    ∃ first body last, cs.take n = first :: (body ++ [last])
      ∧ isSpace first = false ∧ isSpace last = false
  delimited : ∀ {cs v n}, decode cs = .value v n → isContainer v →
    ∀ rest, decode (cs.take n ++ rest) = .value v n

/-- Why a body is not read: it is refused, or something else is raised. -/
inductive Fault where
  | refused (e : HecError)
  | raised

section

variable (py : SplunkPython) (decoder : Decoder) (token : HecInfo)

/-! ## Reading -/

/-- Whether `float` raises on a time: it is an integer too large for a float. -/
def overflows : Value → Bool
  | .int n => (py.floatInt n).isNone
  | _ => false

/-- `validate_event`, with what `float` raises. -/
def check (event : Object) (position : Nat) : Except Fault Unit := do
  if (Assoc.get "event" event).isNone && (Assoc.get "fields" event).isNone then
    .error (.refused (fail EVENT_REQUIRED position))
  if ((Assoc.get "event" event).map blank).getD false then
    .error (.refused (fail EVENT_BLANK position))
  if ((Assoc.get "time" event).map (overflows py)).getD false then .error .raised
  if ((Assoc.get "time" event).map fun v => (asEpoch py v).isNone).getD false then
    .error (.refused (fail INDEXED_FIELDS_ERROR position))
  let requested := strip
    (py.toStr (((Assoc.get "index" event).getD .null).orElse (.str "")))
  if requested ≠ "" && !indexAllowed requested token then
    .error (.refused (fail INCORRECT_INDEX position))

/-- The values of a value that was decoded. -/
def itemsOf : Value → List Value
  | .list items => items
  | v => [v]

/-- The events among the values, each checked as it comes. -/
def takeItems : List Value → List Object → Except Fault (List Object)
  | [], events => .ok events
  | .dict item :: items, events => do
    check py token item events.length
    takeItems items (events ++ [item])
  | _ :: _, events => .error (.refused (fail INVALID_FORMAT events.length))

/-- The loop of `parse_hec_payload`. -/
def parseFrom (cs : List Char) (events : List Object) : Except Fault (List Object) :=
  match _hcs : cs.dropWhile isSpace with
  | [] => .ok events
  | c :: rest =>
    match decoder.decode (c :: rest) with
    | .malformed => .error (.refused (fail INVALID_FORMAT events.length))
    | .raised => .error .raised
    | .value v taken =>
      match takeItems py token (itemsOf v) events with
      | .error fault => .error fault
      | .ok events => parseFrom (rest.drop (taken - 1)) events
termination_by cs.length
decreasing_by
  have hle := (List.dropWhile_sublist isSpace (l := cs)).length_le
  rw [_hcs, List.length_cons] at hle
  rw [List.length_drop]
  omega

/-- `parse_hec_payload`, with the check of each event as it is read. -/
def parseBody (text : String) : Except Fault (List Object) := do
  let stripped := strip text
  if stripped = "" then .error (.refused (fail NO_DATA none))
  let events ← parseFrom py decoder token stripped.toList []
  if events.isEmpty then .error (.refused (fail NO_DATA none)) else .ok events

/-- `require_channel` and what `_ingest` does with a body, with what the clock and `uuid4` give for
    each of its events. -/
def ingest (useAck : Bool) (channel : Option String) (delivery : Delivery)
    (events : Dict String SplunkEvent) : Dict String SplunkEvent × Option Fault :=
  if useAck ∧ (channel.getD "") = "" then
    (events, some (.refused (fail (10, "Data channel is missing") none)))
  else
    match parseBody py decoder delivery.token delivery.text with
    | .error fault => (events, some fault)
    | .ok sent =>
      (sent.zipIdx.foldl (fun events p => save "splunk_events" (delivery.uuid p.2)
        (buildEvent py ⟨p.1, delivery.token, .finite (delivery.clock p.2)⟩) events) events, none)

/-! ## What a body consists of -/

/-- A text is that of a value, wherever it stands. -/
def Written (text : List Char) (v : Value) : Prop :=
  ∀ rest, decoder.decode (text ++ rest) = .value v text.length

/-- Events pass the check, the first of them at a position. -/
def Pass (position : Nat) (objects : List Object) : Prop :=
  ∀ p ∈ objects.zipIdx position, check py token p.1 p.2 = .ok ()

/-- A text is that of events, one after the other, singly or in arrays, with any whitespace in
    front of each. -/
inductive Reads : List Char → List Object → Prop
  | nil : Reads [] []
  | snoc {cs events gap text v objects} (hcs : Reads cs events)
      (hgap : ∀ c ∈ gap, isSpace c = true) (htext : Written decoder text v)
      (hitems : itemsOf v = objects.map .dict) : Reads (cs ++ (gap ++ text)) (events ++ objects)

/-- A text in front of which nothing can be skipped stops the reading, with a number of events in
    front of the fault. -/
inductive Faulty (before : Nat) (cs : List Char) : Nat → Fault → Prop
  | malformed (hcs : decoder.decode cs = .malformed) :
      Faulty before cs before (.refused (fail INVALID_FORMAT before))
  | raised (hcs : decoder.decode cs = .raised) : Faulty before cs before .raised
  | item {v taken objects bad more} (hcs : decoder.decode cs = .value v taken)
      (hitems : itemsOf v = objects.map .dict ++ bad :: more) (hpass : Pass py token before objects)
      (hbad : ∀ o, bad ≠ .dict o) :
      Faulty before cs (before + objects.length)
        (.refused (fail INVALID_FORMAT (before + objects.length)))
  | check {v taken objects object more fault} (hcs : decoder.decode cs = .value v taken)
      (hitems : itemsOf v = objects.map .dict ++ .dict object :: more)
      (hpass : Pass py token before objects)
      (hcheck : HecBody.check py token object (before + objects.length) = .error fault) :
      Faulty before cs (before + objects.length) fault

/-- A body is the text of events with any whitespace around them. -/
def Body (text : String) (events : List Object) : Prop :=
  ∃ cs gap, text.toList = cs ++ gap ∧ Reads decoder cs events ∧ ∀ c ∈ gap, isSpace c = true

/-- Behind events that pass, a body has a fault, with a number of events in front of it. -/
def Faults (text : String) (number : Nat) (fault : Fault) : Prop :=
  ∃ cs events gap c rest, (strip text).toList = cs ++ (gap ++ c :: rest) ∧ Reads decoder cs events
    ∧ Pass py token 0 events ∧ (∀ c ∈ gap, isSpace c = true) ∧ isSpace c = false
    ∧ Faulty py decoder token events.length (c :: rest) number fault

/-- A body of events that pass is read as these events; any other is refused, with the number of the
    events in front of the fault if there is one, and stores nothing. -/
structure Lawful (text : String) : Prop where
  reads : ∀ events, events ≠ [] → Body decoder text events → Pass py token 0 events →
    parseBody py decoder token text = .ok events
  refuses : (∀ events, events ≠ [] → Body decoder text events → ¬ Pass py token 0 events) →
    ∃ e, parseBody py decoder token text = .error (.refused e)
  numbered : ∀ number fault, Faults py decoder token text number fault →
    ∃ e, parseBody py decoder token text = .error (.refused e) ∧ e.eventNumber = some number
  stores : ∀ useAck channel delivery events, delivery.text = text → delivery.token = token →
    (ingest py decoder useAck channel delivery events).2.isSome →
      (ingest py decoder useAck channel delivery events).1 = events

/-- Behind events that pass, a body has something that raises what is no `HecError`: an integer of
    so many digits that the decoder raises, or an event with a time too large for a float. -/
def Raises (text : String) : Prop := ∃ number, Faults py decoder token text number .raised

end

variable {py : SplunkPython} {decoder : Decoder} {token : HecInfo} {v : Value}
  {cs gap tail text : List Char} {objects events : List Object} {position number : Nat}
  {fault : Fault}

/-! ## The values of a text -/

lemma isContainer_of_items (h : itemsOf v = objects.map .dict) : isContainer v = true := by
  cases v with
  | list items => rfl
  | dict o => rfl
  | _ =>
    cases objects with
    | nil => cases h
    | cons o objects => cases h

lemma Written.enclosed (h : Written decoder text v) (hitems : itemsOf v = objects.map .dict) :
    ∃ first body last, text = first :: (body ++ [last])
      ∧ isSpace first = false ∧ isSpace last = false := by
  have hdecode := h []
  rw [List.append_nil] at hdecode
  obtain ⟨first, body, last, heq, hfirst, hlast⟩ :=
    decoder.enclosed hdecode (isContainer_of_items hitems)
  rw [List.take_length] at heq
  exact ⟨first, body, last, heq, hfirst, hlast⟩

lemma pass_append {front back : List Object} :
    Pass py token position (front ++ back)
      ↔ Pass py token position front ∧ Pass py token (position + front.length) back := by
  simp only [Pass, List.zipIdx_append, List.forall_mem_append]

lemma pass_singleton {o : Object} :
    Pass py token position [o] ↔ check py token o position = .ok () := by
  simp only [Pass, List.zipIdx_singleton, List.forall_mem_singleton]

lemma takeItems_append {items : List Value} (h : Pass py token events.length objects) :
    takeItems py token (objects.map .dict ++ items) events
      = takeItems py token items (events ++ objects) := by
  induction objects generalizing events with
  | nil => rw [List.append_nil]; rfl
  | cons o objects ih =>
    rw [← List.singleton_append, pass_append, pass_singleton] at h
    rw [List.map_cons, List.cons_append, takeItems, h.1]
    change takeItems py token (objects.map .dict ++ items) (events ++ [o]) = _
    rw [ih (by rw [List.length_append]; exact h.2), List.append_assoc, List.singleton_append]

/-- Values are events that pass, up to a first one that is none or does not pass. -/
lemma items_cases (py : SplunkPython) (token : HecInfo) (position : Nat) (items : List Value) :
    (∃ objects, items = objects.map .dict ∧ Pass py token position objects)
      ∨ ∃ objects bad more, items = objects.map .dict ++ bad :: more
        ∧ Pass py token position objects
        ∧ ((∀ o, bad ≠ .dict o) ∨ ∃ o fault, bad = .dict o
          ∧ check py token o (position + objects.length) = .error fault) := by
  induction items generalizing position with
  | nil => exact .inl ⟨[], rfl, nofun⟩
  | cons item items ih =>
    by_cases hitem : ∃ o, item = .dict o
    · obtain ⟨o, rfl⟩ := hitem
      cases hcheck : check py token o position with
      | error fault => exact .inr ⟨[], _, items, rfl, nofun, .inr ⟨o, fault, rfl, hcheck⟩⟩
      | ok u =>
        have hfirst : Pass py token position [o] := pass_singleton.2 hcheck
        obtain ⟨objects, rfl, hpass⟩ | ⟨objects, bad, more, rfl, hpass, hbad⟩ := ih (position + 1)
        · exact .inl ⟨o :: objects, rfl, pass_append.2 ⟨hfirst, hpass⟩⟩
        · refine .inr ⟨o :: objects, bad, more, rfl, pass_append.2 ⟨hfirst, hpass⟩, ?_⟩
          rw [List.length_cons, Nat.add_comm objects.length, ← Nat.add_assoc]
          exact hbad
    · exact .inr ⟨[], item, items, rfl, nofun, .inl fun o h => hitem ⟨o, h⟩⟩

/-! ## The loop -/

lemma parseFrom_blank (h : cs.dropWhile isSpace = []) :
    parseFrom py decoder token cs events = .ok events := by
  rw [parseFrom]
  split
  · rfl
  · rename_i hcons
    rw [h] at hcons
    cases hcons

lemma parseFrom_step {c : Char} {rest : List Char} (h : cs.dropWhile isSpace = c :: rest) :
    parseFrom py decoder token cs events =
      match decoder.decode (c :: rest) with
      | .malformed => .error (.refused (fail INVALID_FORMAT events.length))
      | .raised => .error .raised
      | .value v taken =>
        match takeItems py token (itemsOf v) events with
        | .error fault => .error fault
        | .ok events => parseFrom py decoder token (rest.drop (taken - 1)) events := by
  rw [parseFrom]
  split
  · rename_i hnil
    rw [h] at hnil
    cases hnil
  · rename_i c' rest' hcons
    rw [h] at hcons
    obtain ⟨rfl, rfl⟩ := List.cons.inj hcons
    rfl

lemma dropWhile_of_not_space {c : Char} {rest : List Char} (hc : isSpace c = false) :
    (c :: rest).dropWhile isSpace = c :: rest :=
  List.dropWhile_cons_of_neg (by rw [hc]; exact Bool.false_ne_true)

lemma parseFrom_gap (hgap : ∀ c ∈ gap, isSpace c = true) :
    parseFrom py decoder token (gap ++ tail) events = parseFrom py decoder token tail events := by
  have hdrop : (gap ++ tail).dropWhile isSpace = tail.dropWhile isSpace :=
    List.dropWhile_append_of_pos hgap
  cases htail : tail.dropWhile isSpace with
  | nil => rw [parseFrom_blank htail, parseFrom_blank (hdrop.trans htail)]
  | cons c rest => rw [parseFrom_step htail, parseFrom_step (hdrop.trans htail)]

lemma parseFrom_written (htext : Written decoder text v) (hitems : itemsOf v = objects.map .dict)
    (hpass : Pass py token events.length objects) :
    parseFrom py decoder token (text ++ tail) events
      = parseFrom py decoder token tail (events ++ objects) := by
  obtain ⟨first, body, last, rfl, hfirst, -⟩ := htext.enclosed hitems
  have htake : takeItems py token (itemsOf v) events = .ok (events ++ objects) := by
    rw [hitems, ← List.append_nil (objects.map _), takeItems_append hpass]
    rfl
  have hdecode := htext tail
  rw [List.cons_append] at hdecode ⊢
  rw [parseFrom_step (dropWhile_of_not_space hfirst), hdecode]
  dsimp only
  rw [htake]
  dsimp only
  rw [List.length_cons, Nat.add_sub_cancel, List.drop_left]

lemma Reads.parseFrom (h : Reads decoder cs events) (hpass : Pass py token 0 events) :
    ∀ tail, parseFrom py decoder token (cs ++ tail) [] = parseFrom py decoder token tail events
    := by
  induction h with
  | nil => exact fun _ => rfl
  | snoc hcs hgap htext hitems ih =>
    intro tail
    rw [pass_append, Nat.zero_add] at hpass
    rw [List.append_assoc, ih hpass.1, List.append_assoc, parseFrom_gap hgap,
      parseFrom_written htext hitems hpass.2]

/-- Reading stops at a fault. -/
lemma Faulty.parseFrom {c : Char} {rest : List Char}
    (h : Faulty py decoder token events.length (c :: rest) number fault) (hc : isSpace c = false) :
    parseFrom py decoder token (c :: rest) events = .error fault := by
  rw [parseFrom_step (dropWhile_of_not_space hc)]
  cases h with
  | malformed hcs => rw [hcs]
  | raised hcs => rw [hcs]
  | item hcs hitems hpass hbad =>
    rename_i bad more
    rw [hcs]
    dsimp only
    rw [hitems, takeItems_append hpass]
    cases bad with
    | dict o => exact absurd rfl (hbad o)
    | _ =>
      rw [takeItems, List.length_append]
      nofun
  | check hcs hitems hpass hcheck =>
    rw [hcs]
    dsimp only
    rw [hitems, takeItems_append hpass, takeItems, List.length_append, hcheck]
    rfl

/-- Behind a text that has been read, the rest is read as events that pass, or there is a fault. -/
lemma parseFrom_cases (py : SplunkPython) (decoder : Decoder) (token : HecInfo)
    (tail : List Char) :
    ∀ cs events, Reads decoder cs events → Pass py token 0 events →
      (∃ cs' gap events', cs ++ tail = cs' ++ gap ∧ Reads decoder cs' events'
          ∧ Pass py token 0 events' ∧ (∀ c ∈ gap, isSpace c = true)
          ∧ parseFrom py decoder token tail events = .ok events')
        ∨ ∃ cs' events' gap c rest number fault, cs ++ tail = cs' ++ (gap ++ c :: rest)
          ∧ Reads decoder cs' events' ∧ Pass py token 0 events' ∧ (∀ c ∈ gap, isSpace c = true)
          ∧ isSpace c = false
          ∧ Faulty py decoder token events'.length (c :: rest) number fault
          ∧ parseFrom py decoder token tail events = .error fault := by
  induction hn : tail.length using Nat.strong_induction_on generalizing tail with
  | _ n ih =>
    intro cs events hcs hpass
    have hsplit := List.takeWhile_append_dropWhile (p := isSpace) (l := tail)
    have hgap : ∀ c ∈ tail.takeWhile isSpace, isSpace c = true := fun c hc =>
      List.mem_takeWhile_imp hc
    cases hrest : tail.dropWhile isSpace with
    | nil =>
      rw [hrest, List.append_nil] at hsplit
      rw [hsplit] at hgap
      refine .inl ⟨cs, tail, events, rfl, hcs, hpass, hgap, ?_⟩
      exact parseFrom_blank hrest
    | cons c rest =>
      have hc : isSpace c = false := by
        have := List.head?_dropWhile_not isSpace tail
        rw [hrest] at this
        simpa using this
      rw [hrest] at hsplit
      have hskip : parseFrom py decoder token tail events
          = parseFrom py decoder token (c :: rest) events := by
        rw [← hsplit, parseFrom_gap hgap]
      have hfault : ∀ number fault,
          Faulty py decoder token events.length (c :: rest) number fault →
          ∃ cs' events' gap c rest number fault, cs ++ tail = cs' ++ (gap ++ c :: rest)
            ∧ Reads decoder cs' events' ∧ Pass py token 0 events' ∧ (∀ c ∈ gap, isSpace c = true)
            ∧ isSpace c = false
            ∧ Faulty py decoder token events'.length (c :: rest) number fault
            ∧ parseFrom py decoder token tail events = .error fault := by
        intro number fault hfaulty
        refine ⟨cs, events, tail.takeWhile isSpace, c, rest, number, fault, ?_, hcs, hpass, hgap,
          hc, hfaulty, hskip.trans (hfaulty.parseFrom hc)⟩
        rw [hsplit]
      cases hdecode : decoder.decode (c :: rest) with
      | malformed => exact .inr (hfault _ _ (.malformed hdecode))
      | raised => exact .inr (hfault _ _ (.raised hdecode))
      | value v taken =>
        obtain ⟨objects, hitems, hobjects⟩ | ⟨objects, bad, more, hitems, hobjects, hbad⟩ :=
          items_cases py token events.length (itemsOf v)
        · have hcontainer : isContainer v = true := isContainer_of_items hitems
          have htext : Written decoder ((c :: rest).take taken) v := by
            intro more
            rw [decoder.delimited hdecode hcontainer,
              List.length_take_of_le (decoder.bounded hdecode hcontainer)]
          obtain ⟨first, body, last, henclosed, -, -⟩ := htext.enclosed hitems
          have htaken : taken ≠ 0 := by
            rintro rfl
            cases henclosed
          obtain ⟨more, rfl⟩ := Nat.exists_eq_succ_of_ne_zero htaken
          have htake : takeItems py token (itemsOf v) events = .ok (events ++ objects) := by
            rw [hitems, ← List.append_nil (objects.map _), takeItems_append hobjects]
            rfl
          have hstep : parseFrom py decoder token tail events
              = parseFrom py decoder token (rest.drop more) (events ++ objects) := by
            rw [parseFrom_step hrest, hdecode]
            dsimp only
            rw [htake]
            rfl
          have hshorter : (rest.drop more).length < n := by
            rw [← hn, ← hsplit, List.length_append, List.length_cons, List.length_drop]
            omega
          have hwhole : cs ++ tail
              = cs ++ (tail.takeWhile isSpace ++ (c :: rest).take (more + 1)) ++ rest.drop more
              := by
            rw [List.append_assoc, List.append_assoc, List.take_succ_cons, List.cons_append,
              List.take_append_drop, hsplit]
          rw [hstep, hwhole]
          exact ih _ hshorter _ rfl _ _ (.snoc hcs hgap htext hitems)
            (pass_append.2 ⟨hpass, by rw [Nat.zero_add]; exact hobjects⟩)
        · obtain hbad | ⟨o, fault, rfl, hcheck⟩ := hbad
          · exact .inr (hfault _ _ (.item hdecode hitems hobjects hbad))
          · exact .inr (hfault _ _ (.check hdecode hitems hobjects hcheck))

/-! ## The whitespace around a body -/

lemma Reads.cases_last (h : Reads decoder cs events) :
    cs = [] ∧ events = [] ∨ ∃ front last, cs = front ++ [last] ∧ isSpace last = false := by
  cases h with
  | nil => exact .inl ⟨rfl, rfl⟩
  | snoc hcs hgap htext hitems =>
    rename_i cs _ gap _ _ _
    obtain ⟨first, body, last, rfl, -, hlast⟩ := htext.enclosed hitems
    refine .inr ⟨cs ++ (gap ++ first :: body), last, ?_, hlast⟩
    simp only [List.append_assoc, List.cons_append]

lemma Reads.lead {lead : List Char} (h : Reads decoder cs events) (hne : cs ≠ [])
    (hlead : ∀ c ∈ lead, isSpace c = true) : Reads decoder (lead ++ cs) events := by
  induction h with
  | nil => exact absurd rfl hne
  | snoc hcs hgap htext hitems ih =>
    rename_i cs events gap text v objects
    obtain ⟨rfl, rfl⟩ | ⟨front, last, heq, -⟩ := hcs.cases_last
    · rw [List.nil_append, ← List.append_assoc]
      refine .snoc .nil (fun c hc => ?_) htext hitems
      exact (List.mem_append.1 hc).elim (hlead c) (hgap c)
    · rw [← List.append_assoc]
      refine .snoc (ih ?_) hgap htext hitems
      rw [heq]
      exact List.append_ne_nil_of_right_ne_nil _ (List.cons_ne_nil _ _)

/-- What `strip` leaves of a body of events. -/
lemma toList_strip {text : String} {front : List Char} {last : Char}
    (htext : text.toList = front ++ [last] ++ gap) (hlast : isSpace last = false)
    (hgap : ∀ c ∈ gap, isSpace c = true) :
    (strip text).toList = (front ++ [last]).dropWhile isSpace := by
  obtain ⟨body, hbody⟩ : ∃ body, (front ++ [last]).dropWhile isSpace = body ++ [last] := by
    rw [List.dropWhile_append, dropWhile_of_not_space hlast]
    split_ifs
    · exact ⟨[], rfl⟩
    · exact ⟨_, rfl⟩
  have hdrop : text.toList.dropWhile isSpace = body ++ [last] ++ gap := by
    rw [htext, List.dropWhile_append, hbody, if_neg]
    rw [List.isEmpty_iff]
    exact List.append_ne_nil_of_right_ne_nil _ (List.cons_ne_nil _ _)
  rw [strip, String.toList_ofList, hdrop, hbody, List.reverse_append, List.reverse_append,
    List.dropWhile_append_of_pos fun c hc => hgap c (List.mem_reverse.1 hc), List.reverse_singleton,
    List.singleton_append, dropWhile_of_not_space hlast, List.reverse_cons, List.reverse_reverse]

/-- `strip` takes whitespace off both ends. -/
lemma exists_strip (text : String) :
    ∃ lead trail, text.toList = lead ++ ((strip text).toList ++ trail)
      ∧ (∀ c ∈ lead, isSpace c = true) ∧ ∀ c ∈ trail, isSpace c = true := by
  refine ⟨text.toList.takeWhile isSpace,
    ((text.toList.dropWhile isSpace).reverse.takeWhile isSpace).reverse, ?_,
    fun c hc => List.mem_takeWhile_imp hc,
    fun c hc => List.mem_takeWhile_imp (List.mem_reverse.1 hc)⟩
  rw [strip, String.toList_ofList, ← List.reverse_append, List.takeWhile_append_dropWhile,
    List.reverse_reverse, List.takeWhile_append_dropWhile]

/-! ## Bodies -/

lemma parseBody_eq (text : String) :
    parseBody py decoder token text =
      match parseFrom py decoder token (strip text).toList [] with
      | .error fault => .error fault
      | .ok events => if events.isEmpty then .error (.refused (fail NO_DATA none)) else .ok events
    := by
  rw [parseBody]
  by_cases hblank : strip text = ""
  · rw [hblank, parseFrom_blank (show "".toList.dropWhile isSpace = [] from rfl)]
    rfl
  · dsimp only
    rw [if_neg hblank]
    cases parseFrom py decoder token (strip text).toList [] with
    | error fault => rfl
    | ok events => rfl

lemma parseBody_of_body {text : String} (hne : events ≠ []) (h : Body decoder text events)
    (hpass : Pass py token 0 events) : parseBody py decoder token text = .ok events := by
  obtain ⟨cs, gap, htext, hreads, hgap⟩ := h
  obtain ⟨-, hnil⟩ | ⟨front, last, rfl, hlast⟩ := hreads.cases_last
  · exact absurd hnil hne
  have hparse : parseFrom py decoder token (strip text).toList [] = .ok events := by
    rw [toList_strip htext hlast hgap]
    have hskip : parseFrom py decoder token ((front ++ [last]).dropWhile isSpace) []
        = parseFrom py decoder token (front ++ [last]) [] := by
      have hwhole := List.takeWhile_append_dropWhile (p := isSpace) (l := front ++ [last])
      refine Eq.trans ?_ (congrArg (parseFrom py decoder token · []) hwhole)
      exact (parseFrom_gap fun c hc => List.mem_takeWhile_imp hc).symm
    rw [hskip, ← List.append_nil (front ++ [last]), hreads.parseFrom hpass []]
    exact parseFrom_blank rfl
  rw [parseBody_eq, hparse]
  dsimp only
  rw [if_neg]
  rw [List.isEmpty_iff]
  exact hne

/-- A body that has a fault is not read. -/
lemma Faults.parseBody {text : String} (h : Faults py decoder token text number fault) :
    parseBody py decoder token text = .error fault := by
  obtain ⟨cs, events, gap, c, rest, hstrip, hreads, hpass, hgap, hc, hfaulty⟩ := h
  rw [parseBody_eq, hstrip, hreads.parseFrom hpass, parseFrom_gap hgap, hfaulty.parseFrom hc]

lemma check_number {o : Object} {e : HecError}
    (h : check py token o position = .error (.refused e)) : e.eventNumber = some position := by
  simp only [check, bind, Except.bind, pure, Except.pure] at h
  split_ifs at h <;> cases h <;> rfl

lemma Faulty.eventNumber {before : Nat} {e : HecError}
    (h : Faulty py decoder token before cs number (.refused e)) : e.eventNumber = some number := by
  cases h with
  | malformed => rfl
  | item => rfl
  | check _ _ _ hcheck => exact check_number hcheck

/-- A body that is not one of events that pass has no events, or a fault. -/
lemma parseBody_cases {text : String}
    (h : ∀ events, events ≠ [] → Body decoder text events → ¬ Pass py token 0 events) :
    parseBody py decoder token text = .error (.refused (fail NO_DATA none))
      ∨ ∃ number fault, Faults py decoder token text number fault := by
  obtain ⟨cs, gap, events, hstrip, hreads, hpass, hgap, hparse⟩
      | ⟨cs, events, gap, c, rest, number, fault, hstrip, hreads, hpass, hgap, hc, hfaulty, -⟩ :=
    parseFrom_cases py decoder token (strip text).toList [] [] .nil nofun
  · left
    rw [parseBody_eq, hparse]
    dsimp only
    rw [if_pos]
    rw [List.isEmpty_iff]
    by_contra hne
    obtain ⟨lead, trail, htext, hlead, htrail⟩ := exists_strip text
    have hcs : cs ≠ [] := by
      rintro rfl
      obtain ⟨-, hnil⟩ | ⟨front, last, heq, -⟩ := hreads.cases_last
      · exact hne hnil
      · exact absurd heq.symm (List.append_ne_nil_of_right_ne_nil _ (List.cons_ne_nil _ _))
    have hwhole : text.toList = lead ++ cs ++ (gap ++ trail) := by
      rw [htext, ← List.nil_append (strip text).toList, hstrip, List.append_assoc,
        List.append_assoc]
    have htrailing : ∀ c ∈ gap ++ trail, isSpace c = true := fun c hc =>
      (List.mem_append.1 hc).elim (hgap c) (htrail c)
    exact h events hne ⟨lead ++ cs, gap ++ trail, hwhole, hreads.lead hcs hlead, htrailing⟩ hpass
  · rw [List.nil_append] at hstrip
    exact .inr ⟨number, fault, cs, events, gap, c, rest, hstrip, hreads, hpass, hgap, hc, hfaulty⟩

/-- A body is read as its events, or it is refused with the number of the events in front of the
    fault and stores nothing, exactly if it has nothing behind events that pass that raises
    something else. -/
theorem body_lawful_iff (text : String) :
    Lawful py decoder token text ↔ ¬ Raises py decoder token text := by
  constructor
  · rintro h ⟨number, hraises⟩
    obtain ⟨e, hrefused, -⟩ := h.numbered number .raised hraises
    rw [hraises.parseBody] at hrefused
    cases hrefused
  · intro hno
    have hnumbered : ∀ number fault, Faults py decoder token text number fault →
        ∃ e, parseBody py decoder token text = .error (.refused e)
          ∧ e.eventNumber = some number := by
      intro number fault hfaults
      cases fault with
      | raised => exact absurd ⟨number, hfaults⟩ hno
      | refused e =>
        obtain ⟨_, _, _, _, _, -, -, -, -, -, hfaulty⟩ := id hfaults
        exact ⟨e, hfaults.parseBody, hfaulty.eventNumber⟩
    refine ⟨fun events hne hbody hpass => parseBody_of_body hne hbody hpass, ?_, hnumbered, ?_⟩
    · intro h
      obtain hempty | ⟨number, fault, hfaults⟩ := parseBody_cases h
      · exact ⟨_, hempty⟩
      · obtain ⟨e, hrefused, -⟩ := hnumbered number fault hfaults
        exact ⟨e, hrefused⟩
    · rintro useAck channel delivery events rfl rfl hfault
      rw [ingest] at hfault ⊢
      split_ifs at hfault ⊢ with hchannel
      · rfl
      · cases hparse : parseBody py decoder delivery.token delivery.text with
        | error fault => rfl
        | ok sent =>
          rw [hparse] at hfault
          cases hfault

/-- A decoder that reads one text. -/
def oneText (text : List Char) (v : Value) (henclosed : ∃ first body last,
    text = first :: (body ++ [last]) ∧ isSpace first = false ∧ isSpace last = false) : Decoder where
  decode cs := if text <+: cs then .value v text.length else .malformed
  bounded h _ := by
    split_ifs at h with hprefix
    obtain ⟨-, rfl⟩ := Decoded.value.inj h
    exact hprefix.length_le
  enclosed h _ := by
    split_ifs at h with hprefix
    obtain ⟨-, rfl⟩ := Decoded.value.inj h
    rw [← List.prefix_iff_eq_take.1 hprefix]
    exact henclosed
  delimited h _ rest := by
    split_ifs at h with hprefix
    obtain ⟨rfl, rfl⟩ := Decoded.value.inj h
    rw [← List.prefix_iff_eq_take.1 hprefix]
    exact if_pos (List.prefix_append _ _)

lemma oneText_decode (text : List Char) (v : Value) (henclosed : ∃ first body last,
    text = first :: (body ++ [last]) ∧ isSpace first = false ∧ isSpace last = false) :
    (oneText text v henclosed).decode text = .value v text.length :=
  if_pos (List.prefix_refl _)

/-- The built-ins, with no float for an integer of more than 309 digits. -/
def shortPython : SplunkPython where
  lower := asciiPython.lower
  str _ := ""
  strFloat _ := ""
  float _ := none
  floatInt n := if n.natAbs < (10 ^ 103) ^ 3 then some (.finite n) else none
  dumps _ := ""
  rawDecode _ := none

/-- An event with a time of 401 digits. -/
def farEvent : Object := [("event", .str "up"), ("time", .int ((10 ^ 200) ^ 2))]

/-- Its text, between the brackets. -/
def farMembers : List Char :=
  "\"event\": \"up\", \"time\": 1".toList ++ List.replicate 400 '0'

/-- The decoder of its text. -/
def farDecoder : Decoder :=
  oneText ('\x7b' :: (farMembers ++ ['\x7d'])) (.dict farEvent) ⟨_, _, _, rfl, rfl, rfl⟩

lemma check_farEvent (token : HecInfo) (position : Nat) :
    check shortPython token farEvent position = .error .raised := by
  have htime : ((Assoc.get "time" farEvent).map (overflows shortPython)).getD false = true := by
    decide +kernel
  rw [check, htime]
  rfl

/-- A time of 401 digits raises an `OverflowError`. -/
theorem far_time_raises :
    parseBody shortPython farDecoder ⟨"main", "", ""⟩
        (String.ofList ('\x7b' :: (farMembers ++ ['\x7d'])))
      = .error .raised := by
  have hstrip : (strip (String.ofList ('\x7b' :: (farMembers ++ ['\x7d'])))).toList
      = '\x7b' :: (farMembers ++ ['\x7d']) := by
    have hwhole : (String.ofList ('\x7b' :: (farMembers ++ ['\x7d']))).toList
        = ('\x7b' :: farMembers) ++ ['\x7d'] ++ [] := by
      rw [String.toList_ofList, List.append_nil, List.cons_append]
    rw [toList_strip hwhole rfl nofun]
    exact dropWhile_of_not_space rfl
  have hdecode : farDecoder.decode ('\x7b' :: (farMembers ++ ['\x7d']))
      = .value (.dict farEvent) ('\x7b' :: (farMembers ++ ['\x7d'])).length :=
    oneText_decode _ _ _
  have hitems : itemsOf (.dict farEvent)
      = ([] : List Object).map Value.dict ++ .dict farEvent :: [] := rfl
  have hfaults : Faults shortPython farDecoder ⟨"main", "", ""⟩
      (String.ofList ('\x7b' :: (farMembers ++ ['\x7d']))) 0 .raised :=
    ⟨[], [], [], '\x7b', farMembers ++ ['\x7d'], hstrip, .nil, nofun, nofun, rfl,
      .check hdecode hitems nofun (check_farEvent _ 0)⟩
  exact hfaults.parseBody

end HecBody

end Splunk

end Mockdr
