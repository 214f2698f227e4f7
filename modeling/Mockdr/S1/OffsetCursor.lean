import Mathlib.Algebra.Order.Floor.Ring
import Mathlib.Data.Rat.Floor
import Mockdr.Builtins
import Mockdr.Odata.NextLink
import Mockdr.S1.Pagination

/-!
# Offset pagination

The legacy mode of `utils/pagination.py`: the cursor of a page is the offset of the next one, as
JSON in base64.

* `Loaded` is what `json.loads` makes of a text, whose floats need not be finite; how it reads a
  text is a parameter.
* `decodeOffset` reads a cursor and `paginateOffset` cuts a page; both may raise.
* `paginates_iff`: a cursor always leads to the page at the offset it states, or at the start,
  exactly when it is `Readable`.
-/

namespace Mockdr.S1

open OdataPaging (decodeStrict)

/-- A value of JSON as `json.loads` makes it. -/
inductive Loaded where
  | null
  | bool (b : Bool)
  | int (n : Int)
  | float (x : PyFloat)
  | str (s : String)
  | list (items : List Loaded)
  | dict (members : List (String × Loaded))

/-- How `json.loads` ends. -/
inductive Loads where
  | value (v : Loaded)
  | invalid
  | tooDeep

/-- What reading a cursor can raise. -/
inductive Raised where
  | valueError
  | typeError
  | attributeError
  | overflowError
  | recursionError

/-- The built-ins that cursors are read with. -/
structure CursorPython extends Python where
  /-- `json.loads` -/
  loads : String → Loads

/-- The built-ins on ASCII text, with a `json.loads` that reads a text with no value in it, and two
    others. -/
def asciiCursorPython : CursorPython where
  toPython := asciiPython
  loads text :=
    if text = "[]" then .value (.list [])
    else if text = "\x7b\"offset\": -1\x7d" then .value (.dict [("offset", .int (-1))])
    else .invalid

section

variable (py : CursorPython)

/-- `int(v)` -/
def toInt : Loaded → Except Raised Int
  | .bool b => .ok (if b then 1 else 0)
  | .int n => .ok n
  | .float .nan => .error .valueError
  | .float (.finite q) => .ok (if q < 0 then ⌈q⌉ else ⌊q⌋)
  | .float _ => .error .overflowError
  | .str s => match py.parseInt s with
    | some n => .ok n
    | none => .error .valueError
  | .null | .list _ | .dict _ => .error .typeError

/-- The text of a cursor, nothing where it is not base64 or no UTF-8. -/
def cursorText (cursor : String) : Option String :=
  (Base64.decode (normalized cursor).toList).bind decodeStrict

/-- `int(data.get("offset", 0))`, for what a text is read as. -/
def offsetOf : Loads → Except Raised Int
  | .value (.dict data) => toInt py ((Assoc.get "offset" data).getD (.int 0))
  | .value _ => .error .attributeError
  | .invalid => .error .valueError
  | .tooDeep => .error .recursionError

/-- What a cursor is read as. -/
def readOffset (cursor : String) : Except Raised Int :=
  match cursorText cursor with
  | some text => offsetOf py (py.loads text)
  | none => .error .valueError

/-- `_decode_offset`: a `ValueError` is caught, and nothing else is. -/
def decodeOffset (cursor : String) : Except Raised Int :=
  match readOffset py cursor with
  | .error .valueError => .ok 0
  | outcome => outcome

/-- `_encode_offset` -/
def encodeOffset (offset : Int) : String :=
  String.ofList (Base64.encode (QueryString.encodeUtf8
    ("\x7b\"offset\": " ++ toString offset ++ "\x7d").toList))

/-- An index of a slice, from the front. -/
def sliceIndex (length : Nat) (i : Int) : Nat :=
  if i < 0 then (i + length).toNat else min i.toNat length

/-- `items[start:stop]` -/
def slice {α : Type} (items : List α) (start stop : Int) : List α :=
  (items.take (sliceIndex items.length stop)).drop (sliceIndex items.length start)

/-- The page at an offset as `paginate` cuts it. -/
def offsetPage (listing : Listing) (offset : Int) (limit : Nat) : Page where
  items := slice listing.items offset (offset + limit)
  nextCursor := if offset + limit < listing.items.length then some (encodeOffset (offset + limit))
    else none
  total := listing.matched.getD listing.items.length

/-- `paginate`, without a spec. -/
def paginateOffset (listing : Listing) (cursor : Option String) (limit : Nat) :
    Except Raised Page :=
  match cursor with
  | none => .ok (offsetPage listing 0 limit)
  | some cursor =>
    if cursor = "" then .ok (offsetPage listing 0 limit)
    else (decodeOffset py cursor).map fun offset => offsetPage listing offset limit

/-! ## What a cursor is for -/

/-- The offset a cursor states: the start, unless it is well formed. -/
def statedOffset (cursor : String) : Nat :=
  if cursor = "" then 0
  else match readOffset py cursor with
    | .ok (.ofNat offset) => offset
    | _ => 0

/-- The page at an offset. -/
def pageAt (listing : Listing) (offset limit : Nat) : Page where
  items := (listing.items.drop offset).take limit
  nextCursor := if offset + limit < listing.items.length then
      some (encodeOffset (offset + limit : Nat))
    else none
  total := listing.matched.getD listing.items.length

/-- A value that is a count, or that `int` refuses with a `ValueError`. -/
def CountOrText : Loaded → Prop
  | .bool _ => True
  | .int n => 0 ≤ n
  | .float .nan => True
  | .float (.finite q) => -1 < q
  | .float _ => False
  | .str s => ∀ n, py.parseInt s = some n → 0 ≤ n
  | .null | .list _ | .dict _ => False

/-- A cursor that is no JSON, or an object whose offset is a count. -/
def Readable (cursor : String) : Prop :=
  ∀ text, cursorText cursor = some text →
    match py.loads text with
    | .value (.dict data) => CountOrText py ((Assoc.get "offset" data).getD (.int 0))
    | .value _ => False
    | .invalid => True
    | .tooDeep => False

end

variable {py : CursorPython} {α : Type}

/-! ## Slices -/

lemma slice_ofNat (items : List α) (offset limit : Nat) :
    slice items offset (offset + limit) = (items.drop offset).take limit := by
  have hstart : ¬ (offset : Int) < 0 := by omega
  have hstop : ¬ (offset + limit : Int) < 0 := by omega
  unfold slice sliceIndex
  rw [if_neg hstop, if_neg hstart, List.drop_take, Int.toNat_natCast]
  rcases Nat.le_total offset items.length with h | h
  · have hlimit : (offset + limit : Int).toNat = offset + limit := by omega
    rw [Nat.min_eq_left h, hlimit]
    rcases Nat.le_total (offset + limit) items.length with h' | h'
    · rw [Nat.min_eq_left h', Nat.add_sub_cancel_left]
    · have hlength : (items.drop offset).length = items.length - offset := List.length_drop
      rw [Nat.min_eq_right h', List.take_of_length_le (by omega), List.take_of_length_le (by omega)]
  · rw [Nat.min_eq_right h, List.drop_of_length_le h, List.drop_of_length_le (Nat.le_refl _),
      List.take_nil, List.take_nil]

lemma slice_negSucc (a : α) (k : Nat) :
    slice [a] (Int.negSucc k) (Int.negSucc k + (1 : Nat)) = [] := by
  have hstop : sliceIndex [a].length (Int.negSucc k + (1 : Nat)) = 0 := by
    rw [sliceIndex]
    simp only [List.length_singleton]
    split_ifs
    · omega
    · omega
  rw [slice, hstop, List.take_zero, List.drop_nil]

/-! ## Offsets -/

/-- What is no count raises, or counts from the end. -/
lemma countOrText_iff {v : Loaded} :
    CountOrText py v ↔ (∃ n : Nat, toInt py v = .ok n) ∨ toInt py v = .error .valueError := by
  have hcount : ∀ m : Int, 0 ≤ m ↔ (∃ n : Nat, (.ok m : Except Raised Int) = .ok n)
      ∨ (.ok m : Except Raised Int) = .error .valueError := by
    intro m
    rw [or_iff_left nofun]
    constructor
    · intro h
      exact ⟨m.toNat, congrArg Except.ok (Int.toNat_of_nonneg h).symm⟩
    · rintro ⟨n, hn⟩
      rw [Except.ok.inj hn]
      exact Int.natCast_nonneg n
  cases v with
  | null => exact ⟨False.elim, by rintro (⟨n, h⟩ | h) <;> cases h⟩
  | list items => exact ⟨False.elim, by rintro (⟨n, h⟩ | h) <;> cases h⟩
  | dict members => exact ⟨False.elim, by rintro (⟨n, h⟩ | h) <;> cases h⟩
  | bool b =>
    rw [toInt, ← hcount]
    exact ⟨fun _ => by split_ifs <;> omega, fun _ => trivial⟩
  | int n =>
    rw [toInt, ← hcount]
    exact Iff.rfl
  | float x =>
    cases x with
    | nan => exact ⟨fun _ => .inr rfl, fun _ => trivial⟩
    | negInf => exact ⟨False.elim, by rintro (⟨n, h⟩ | h) <;> cases h⟩
    | posInf => exact ⟨False.elim, by rintro (⟨n, h⟩ | h) <;> cases h⟩
    | finite q =>
      rw [toInt, ← hcount, CountOrText]
      split_ifs with hneg
      · have hceil : 0 ≤ ⌈q⌉ ↔ -1 < q := by
          rw [← Int.sub_one_lt_iff, Int.lt_ceil]
          norm_num
        exact hceil.symm
      · have hq : 0 ≤ q := not_lt.1 hneg
        exact ⟨fun _ => Int.floor_nonneg.2 hq, fun _ => by linarith⟩
  | str s =>
    rw [toInt, CountOrText]
    cases py.parseInt s with
    | none => exact ⟨fun _ => .inr rfl, fun _ => nofun⟩
    | some m =>
      simp only [Option.some.injEq, forall_eq']
      exact hcount m

lemma readable_iff {cursor : String} : Readable py cursor
    ↔ (∃ n : Nat, readOffset py cursor = .ok n) ∨ readOffset py cursor = .error .valueError := by
  rw [Readable, readOffset]
  cases cursorText cursor with
  | none => exact ⟨fun _ => .inr rfl, fun _ => nofun⟩
  | some text =>
    simp only [Option.some.injEq, forall_eq']
    cases py.loads text with
    | invalid => exact ⟨fun _ => .inr rfl, fun _ => trivial⟩
    | tooDeep => exact ⟨False.elim, by rintro (⟨n, h⟩ | h) <;> cases h⟩
    | value v =>
      cases v with
      | dict data => exact countOrText_iff
      | _ => exact ⟨False.elim, by rintro (⟨n, h⟩ | h) <;> cases h⟩

lemma offsetPage_ofNat (listing : Listing) (offset limit : Nat) :
    offsetPage listing offset limit = pageAt listing offset limit := by
  have hlt : (offset : Int) + limit < listing.items.length
      ↔ offset + limit < listing.items.length := by omega
  rw [offsetPage, pageAt, slice_ofNat, Nat.cast_add, if_congr hlt rfl rfl]

/-- A cursor leads to the page at the offset it states, or at the start if it states none, in every
    list exactly when it is readable. -/
theorem paginates_iff (py : CursorPython) (cursor : String) :
    (∀ listing limit, paginateOffset py listing (some cursor) limit
        = .ok (pageAt listing (statedOffset py cursor) limit))
      ↔ cursor = "" ∨ Readable py cursor := by
  constructor
  · intro h
    by_contra hnot
    obtain ⟨hcursor, hreadable⟩ := not_or.1 hnot
    have hone := h ⟨[.null], none⟩ 1
    rw [readable_iff, not_or, not_exists] at hreadable
    rw [paginateOffset, if_neg hcursor, statedOffset, if_neg hcursor, decodeOffset] at hone
    cases hread : readOffset py cursor with
    | error e =>
      rw [hread] at hone hreadable
      cases e with
      | valueError => exact hreadable.2 rfl
      | _ => cases hone
    | ok m =>
      rw [hread] at hone hreadable
      cases m with
      | ofNat n => exact hreadable.1 n rfl
      | negSucc k =>
        have hitems := congrArg Page.items (Except.ok.inj hone)
        have hnone : (offsetPage ⟨[.null], none⟩ (Int.negSucc k) 1).items = [] :=
          slice_negSucc Json.null k
        rw [hnone] at hitems
        cases hitems
  · rintro (rfl | hreadable) listing limit
    · exact congrArg Except.ok (offsetPage_ofNat listing 0 limit)
    · by_cases hcursor : cursor = ""
      · rw [paginateOffset, if_pos hcursor, statedOffset, if_pos hcursor]
        exact congrArg Except.ok (offsetPage_ofNat listing 0 limit)
      · rw [paginateOffset, if_neg hcursor, statedOffset, if_neg hcursor, decodeOffset]
        rcases readable_iff.1 hreadable with ⟨n, hn⟩ | hvalue
        · rw [hn]
          exact congrArg Except.ok (offsetPage_ofNat listing n limit)
        · rw [hvalue]
          exact congrArg Except.ok (offsetPage_ofNat listing 0 limit)

/-- A cursor that holds a list raises, and one that holds a negative offset leaves the item out that
    the list starts with. -/
theorem list_raises_and_negative_skips :
    paginateOffset asciiCursorPython ⟨[.int 1], none⟩ (some "W10=") 1 = .error .attributeError
      ∧ (paginateOffset asciiCursorPython ⟨[.int 1], none⟩ (some "eyJvZmZzZXQiOiAtMX0=") 1).map
          Page.items = .ok []
      ∧ statedOffset asciiCursorPython "eyJvZmZzZXQiOiAtMX0=" = 0 := by
  have hlist : cursorText "W10=" = some "[]" := by decide +kernel
  have hnegative : cursorText "eyJvZmZzZXQiOiAtMX0=" = some "\x7b\"offset\": -1\x7d" := by
    decide +kernel
  have hread : readOffset asciiCursorPython "eyJvZmZzZXQiOiAtMX0=" = .ok (-1) := by
    rw [readOffset, hnegative]
    rfl
  refine ⟨?_, ?_, ?_⟩
  · rw [paginateOffset, if_neg (by decide), decodeOffset, readOffset, hlist]
    rfl
  · rw [paginateOffset, if_neg (by decide), decodeOffset, hread]
    exact congrArg Except.ok (slice_negSucc (Json.int 1) 0)
  · rw [statedOffset, if_neg (by decide), hread]
    rfl

end Mockdr.S1
