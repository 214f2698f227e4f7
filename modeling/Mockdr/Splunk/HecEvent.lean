import Mockdr.Builtins
import Mockdr.Store

/-!
# Events of the HTTP Event Collector

What is taken in at the door (`utils/splunk/hec_validation.py`) and how it is stored
(`application/splunk/commands/hec.py`).

* `Value` is what the JSON decoder makes of a body, the special floats among them, which Python's
  decoder reads.
* `parseHecPayload` and `validateEvent` accept a body or refuse it; `buildEvent` is the event that
  is stored.
* `stored` is the event store after a sequence of bodies; `sent` what each event that is still in it
  was built from.

The JSON decoder and the built-ins on text are parameters (`SplunkPython`).
-/

namespace Mockdr

namespace Splunk

/-- A value that the JSON decoder makes. -/
inductive Value where
  | null
  | bool (b : Bool)
  | int (n : Int)
  | float (x : PyFloat)
  | str (s : String)
  | list (xs : List Value)
  | dict (fields : List (String × Value))

/-- An object. -/
abbrev Object := List (String × Value)

/-- Python's truth test. -/
def Value.truthy : Value → Bool
  | .null => false
  | .bool b => b
  | .int n => n ≠ 0
  | .float x => x ≠ .finite 0
  | .str s => s ≠ ""
  | .list xs => !xs.isEmpty
  | .dict o => !o.isEmpty

/-- `v or other` -/
def Value.orElse (v other : Value) : Value := if v.truthy then v else other

/-- The built-ins that events are read with. -/
structure SplunkPython where
  /-- `str.lower` -/
  lower : String → String
  /-- `str(v)`, for a value that is neither a string nor a float -/
  str : Value → String
  /-- `str(x)` of a float -/
  strFloat : PyFloat → String
  /-- `float(s)` of a text, nothing where it raises -/
  float : String → Option PyFloat
  /-- `float(n)` of an integer, nothing where it raises -/
  floatInt : Int → Option PyFloat
  /-- `json.dumps(o)` -/
  dumps : Object → String
  /-- `raw_decode`: the value at the start of a text that is not empty, and how many characters it
      takes beside the first; nothing where it raises -/
  rawDecode : List Char → Option (Value × Nat)

variable (py : SplunkPython)

/-- `str(v)` -/
def SplunkPython.toStr : Value → String
  | .str s => s
  | .float x => py.strFloat x
  | v => py.str v

/-! ## Validation -/

/-- `HecError`: the code, the text and the position of the event that failed. -/
structure HecError where
  code : Nat
  text : String
  eventNumber : Option Nat

/-- `_fail` -/
def fail (spec : Nat × String) (position : Option Nat) : HecError := ⟨spec.1, spec.2, position⟩

/-- `NO_DATA` -/
def NO_DATA : Nat × String := (5, "No data")
/-- `INVALID_FORMAT` -/
def INVALID_FORMAT : Nat × String := (6, "Invalid data format")
/-- `INCORRECT_INDEX` -/
def INCORRECT_INDEX : Nat × String := (7, "Incorrect index")
/-- `EVENT_REQUIRED` -/
def EVENT_REQUIRED : Nat × String := (12, "Event field is required")
/-- `EVENT_BLANK` -/
def EVENT_BLANK : Nat × String := (13, "Event field cannot be blank")
/-- `INDEXED_FIELDS_ERROR` -/
def INDEXED_FIELDS_ERROR : Nat × String := (15, "Error in handling indexed fields")

/-- The token a body is sent with, by what is read of it. -/
structure HecInfo where
  index : String
  indexes : String
  sourcetype : String

/-- `_as_epoch`. What `str` makes of `None`, of a list or of an object is no number. -/
def asEpoch : Value → Option PyFloat
  | .int n => py.floatInt n
  | .float x => some x
  | .str s => py.float s
  | _ => none

/-- `index_allowed` -/
def indexAllowed (requested : String) (token : HecInfo) : Bool :=
  let names := ((split ',' token.indexes).map strip).filter (· ≠ "")
  let default := strip token.index
  let allowed := if default ≠ "" then default :: names else names
  allowed.isEmpty || allowed.contains requested

/-- An event that is blank. -/
def blank : Value → Bool
  | .null => true
  | .str s => strip s = ""
  | .list xs => xs.isEmpty
  | .dict o => o.isEmpty
  | _ => false

/-- `validate_event` -/
def validateEvent (event : Object) (token : HecInfo) (position : Nat) : Except HecError Unit := do
  if (Assoc.get "event" event).isNone && (Assoc.get "fields" event).isNone then
    .error (fail EVENT_REQUIRED position)
  if ((Assoc.get "event" event).map blank).getD false then .error (fail EVENT_BLANK position)
  if ((Assoc.get "time" event).map fun v => (asEpoch py v).isNone).getD false then
    .error (fail INDEXED_FIELDS_ERROR position)
  let requested := strip
    (py.toStr (((Assoc.get "index" event).getD .null).orElse (.str "")))
  if requested ≠ "" && !indexAllowed requested token then
    .error (fail INCORRECT_INDEX position)

/-- The events of a value that was decoded, each validated. -/
def takeItems (token : HecInfo) : List Value → List Object → Except HecError (List Object)
  | [], events => .ok events
  | .dict item :: items, events => do
    validateEvent py item token events.length
    takeItems token items (events ++ [item])
  | _ :: _, events => .error (fail INVALID_FORMAT events.length)

/-- The loop of `parse_hec_payload`. -/
def parseFrom (token : HecInfo) (cs : List Char) (events : List Object) :
    Except HecError (List Object) :=
  match _hcs : cs.dropWhile isSpace with
  | [] => .ok events
  | c :: rest =>
    match py.rawDecode (c :: rest) with
    | none => .error (fail INVALID_FORMAT events.length)
    | some (value, more) =>
      let items := match value with
        | .list items => items
        | v => [v]
      match takeItems py token items events with
      | .error e => .error e
      | .ok events => parseFrom token (rest.drop more) events
termination_by cs.length
decreasing_by
  have hle := (List.dropWhile_sublist isSpace (l := cs)).length_le
  rw [_hcs, List.length_cons] at hle
  rw [List.length_drop]
  omega

/-- `parse_hec_payload`, with the validation of each event as it is read. -/
def parseHecPayload (text : String) (token : HecInfo) : Except HecError (List Object) := do
  let stripped := strip text
  if stripped = "" then .error (fail NO_DATA none)
  let events ← parseFrom py token stripped.toList []
  if events.isEmpty then .error (fail NO_DATA none) else .ok events

/-! ## The event store -/

/-- An indexed event. What is not checked at the door is kept as it came. -/
structure SplunkEvent where
  index : Value
  sourcetype : Value
  source : Value
  host : Value
  time : PyFloat
  raw : String
  fields : Dict String Value

/-- One event of an accepted body: its data, the token it was sent with and the time it came. -/
structure Sent where
  data : Object
  token : HecInfo
  now : PyFloat

/-- `_build_event`. A time that is given was found to be a number before. -/
def buildEvent (sent : Sent) : SplunkEvent :=
  let body := (Assoc.get "event" sent.data).getD (.dict sent.data)
  let orDefault (name : String) (default : String) : Value :=
    ((Assoc.get name sent.data).getD (.str default)).orElse (.str default)
  { index := orDefault "index" sent.token.index
    sourcetype := orDefault "sourcetype" sent.token.sourcetype
    source := (Assoc.get "source" sent.data).getD (.str "")
    host := (Assoc.get "host" sent.data).getD (.str "mockdr")
    time := (asEpoch py ((Assoc.get "time" sent.data).getD (.float sent.now))).getD sent.now
    raw := match body with
      | .dict o => py.dumps o
      | v => py.toStr v
    fields := match body with
      | .dict o => o.foldl (fun fields p => fields.set p.1 p.2) .empty
      | _ => .empty }

/-- A body that is posted, with what the clock and `uuid4` give for each of its events. -/
structure Delivery where
  text : String
  token : HecInfo
  clock : Nat → ℚ
  uuid : Nat → String

/-- The events of a body, each under its id; none of a body that is refused. -/
def accepted (delivery : Delivery) : List (String × Sent) :=
  match parseHecPayload py delivery.text delivery.token with
  | .error _ => []
  | .ok events => events.zipIdx.map fun (data, position) =>
    (delivery.uuid position, ⟨data, delivery.token, .finite (delivery.clock position)⟩)

/-- The event store after a sequence of bodies. -/
def stored (deliveries : List Delivery) : Dict String SplunkEvent :=
  (deliveries.flatMap (accepted py)).foldl
    (fun events p => save "splunk_events" p.1 (buildEvent py p.2) events) .empty

/-- What was sent of the events that are in the store. -/
def sent (deliveries : List Delivery) : Dict String Sent :=
  (deliveries.flatMap (accepted py)).foldl (fun events p => save "splunk_events" p.1 p.2 events)
    .empty

lemma stored_eq (deliveries : List Delivery) :
    stored py deliveries = (sent py deliveries).mapValues (buildEvent py) := by
  have hall : ∀ (ps : List (String × Sent)) (events : Dict String Sent),
      ps.foldl (fun events p => save "splunk_events" p.1 (buildEvent py p.2) events)
          (events.mapValues (buildEvent py))
        = (ps.foldl (fun events p => save "splunk_events" p.1 p.2 events) events).mapValues
          (buildEvent py) := by
    intro ps
    induction ps with
    | nil => exact fun _ => rfl
    | cons p ps ih =>
      intro events
      rw [List.foldl_cons, List.foldl_cons, ← mapValues_save]
      exact ih _
  exact hall _ .empty

end Splunk

end Mockdr
