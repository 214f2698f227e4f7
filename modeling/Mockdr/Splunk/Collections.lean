import Mockdr.Lib.Paging
import Mockdr.Sorting
import Mockdr.Splunk.HecEvent

/-!
# Collections

What a request for a Splunk collection makes of its entries: `SplunkSearchMiddleware` narrows them,
`SplunkSortMiddleware` orders them and `SplunkPagingMiddleware` takes a page, in this order.

* `listing` is the answer, nothing where a key of the sort raises.
* `OneOrder` says that one order serves all collections whose sort values are among some values,
  upwards and downwards, and that the pages of each are the pieces of the sorted list.
* `oneOrder_iff`: it does exactly when these values are not a NaN beside two different numbers, nor
  an integer beyond the floats, as long as numbers are read at all.

What `list.sort` makes of keys that `<` does not order is a parameter.
-/

namespace Mockdr

namespace Splunk

/-- The built-ins of the middlewares. -/
structure CollectionPython extends SplunkPython where
  /-- `int(s)` of a text, nothing where it raises -/
  int : String → Option Int
  /-- what `list.sort` leaves of keys that `<` does not order -/
  unordered : NanOrder

/-- The parameters of a request, each with its first value that is not empty, and the values of
    `search` where it narrows a collection. -/
structure CollectionQuery where
  search : List String
  sortKey : Option String
  sortDir : Option String
  sortMode : Option String
  count : Option String
  offset : Option String

/-- A rendered collection: its entries, and the `paging` block if it has one. -/
structure Payload where
  entry : List Value
  paging : Option (Dict String Value)

variable (py : CollectionPython)

/-! ## Searching -/

/-- Members are written over those of a dict. -/
def writeMembers (d : Dict String Value) (o : Object) : Dict String Value :=
  o.foldl (fun d p => d.set p.1 p.2) d

/-- Whether a value is a dict or a list. -/
def Value.isContainer : Value → Bool
  | .list _ | .dict _ => true
  | _ => false

/-- `_fields` -/
def ownFields : Value → Dict String Value
  | .dict o =>
    let own := writeMembers .empty (o.filter fun p => !p.2.isContainer)
    match Assoc.get "content" o with
    | some (.dict content) => writeMembers own content
    | _ => own
  | _ => .empty

/-- `_as_bool` -/
def asBool (held : Value) (value : String) : Bool :=
  match held with
  | .bool b => (py.lower (strip value) ∈ ["1", "true", "t", "yes", "on"]) == b
  | _ => false

/-- Whether a value stands in a field, and not `None`. -/
def isHeld : Value → Bool
  | .null => false
  | _ => true

/-- `_matches` -/
def matchesTerm (term : String) (entry : Value) : Bool :=
  let (key, value) := partition '=' term
  if '=' ∈ term.toList ∧ key ≠ "" ∧ ¬ key.startsWith "_" then
    match (ownFields entry).get key with
    | none | some .null => false
    | some held => py.lower (py.toStr held) = py.lower value || asBool py held value
  else
    (ownFields entry).entries.any fun p =>
      isHeld p.2 && (py.lower (py.toStr p.2)).toList.tails.any (py.lower term).toList.isPrefixOf

/-- The entries that every term selects. -/
def selected (q : CollectionQuery) (entries : List Value) : List Value :=
  entries.filter fun entry => q.search.all fun term => matchesTerm py term entry

/-- `SplunkSearchMiddleware` -/
def searched (q : CollectionQuery) (payload : Payload) : Payload :=
  if q.search = [] then payload
  else
    let kept := selected py q payload.entry
    ⟨kept, payload.paging.map fun paging => paging.set "total" (.int kept.length)⟩

/-! ## Sorting -/

/-- `_first(query, "sort_key") or _DEFAULT_KEY` -/
def CollectionQuery.key (q : CollectionQuery) : String := q.sortKey.getD "name"

/-- `(_first(query, "sort_dir") or "asc").lower() == "desc"` -/
def CollectionQuery.descending (q : CollectionQuery) : Bool :=
  py.lower (q.sortDir.getD "asc") = "desc"

/-- `(_first(query, "sort_mode") or "auto").lower()` -/
def modeOf (sortMode : Option String) : String := py.lower (sortMode.getD "auto")

/-- `_value` -/
def valueOf (key : String) : Value → Value
  | .dict o =>
    match Assoc.get key o with
    | some v => v
    | none =>
      match Assoc.get "content" o with
      | some (.dict content) => (Assoc.get key content).getD .null
      | _ => .null
  | _ => .null

/-- The number that a value is read as, if it is one; nothing where `float` raises an
    `OverflowError`. -/
def numberOf : Value → Option (Option PyFloat)
  | .null => some none
  | .bool b => some (some (.finite (if b then 1 else 0)))
  | .int n => (py.floatInt n).map some
  | .float x => some (some x)
  | v => some (py.float (py.toStr v))

/-- The modes that read numbers. -/
def isNumeric (mode : String) : Bool := mode = "auto" || mode = "num"

/-- The key of a value that is read as a number, or as a text. -/
def keyAs (mode : String) (v : Value) : Option PyFloat → TupleKey
  | some x => ⟨0, x, ""⟩
  | none =>
    let text := py.toStr v
    ⟨1, .finite 0, if mode ≠ "alpha_case" then py.lower text else text⟩

/-- `_key`, of the value of an entry; nothing where it raises. -/
def valueKey (mode : String) (v : Value) : Option TupleKey :=
  if isHeld v then (if isNumeric mode then numberOf py v else some none).map (keyAs py mode v)
  else some ⟨2, .finite 0, ""⟩

/-- `<` of two keys. -/
def keyLt (a b : TupleKey) : Bool :=
  a.kind < b.kind
    || a.kind = b.kind && (if a.number.eq b.number then a.text < b.text else a.number.lt b.number)

/-- `<` orders some elements: of two not both are less, and what is not less than the next is not
    less than what comes behind that. -/
def Ordered {α : Type} (lt : α → α → Bool) (l : List α) : Prop :=
  (∀ a ∈ l, ∀ b ∈ l, lt a b = true → lt b a = false)
    ∧ ∀ a ∈ l, ∀ b ∈ l, ∀ c ∈ l, lt a b = false → lt b c = false → lt a c = false

instance {α : Type} (lt : α → α → Bool) (l : List α) : Decidable (Ordered lt l) :=
  inferInstanceAs (Decidable (_ ∧ _))

/-- `<` of the keys, or what it is turned into by `reverse`. -/
def ltBy {α : Type} (key : α → TupleKey) (reverse : Bool) (a b : α) : Bool :=
  if reverse then keyLt (key b) (key a) else keyLt (key a) (key b)

/-- `entries.sort(key=key, reverse=reverse)` -/
def listSort {α : Type} (key : α → TupleKey) (reverse : Bool) (l : List α) : List α :=
  if Ordered (ltBy key reverse) l then l.insertionSort fun a b => ltBy key reverse b a = false
  else (py.unordered (l.map key) reverse).filterMap fun i => l[i]?

/-- The key of an entry whose key does not raise. -/
def entryKey (q : CollectionQuery) (entry : Value) : TupleKey :=
  (valueKey py (modeOf py q.sortMode) (valueOf q.key entry)).getD ⟨2, .finite 0, ""⟩

/-- The entries in their order, nothing where a key raises. -/
def sortedEntries (q : CollectionQuery) (entries : List Value) : Option (List Value) :=
  if entries.length < 2 ∨ ¬ entries.any (fun entry => isHeld (valueOf q.key entry)) then
    some entries
  else if entries.any fun entry =>
      (valueKey py (modeOf py q.sortMode) (valueOf q.key entry)).isNone then none
  else some (listSort py (entryKey py q) (q.descending py) entries)

/-- `SplunkSortMiddleware` -/
def sorted (q : CollectionQuery) (payload : Payload) : Option Payload :=
  (sortedEntries py q payload.entry).map fun entries => ⟨entries, payload.paging⟩

/-! ## Paging -/

/-- `_as_int` -/
def asInt (raw : Option String) (unset : Int) : Int := (raw.bind py.int).getD unset

/-- `max(_as_int(_first(query, "offset"), 0), 0)` -/
def CollectionQuery.skipped (q : CollectionQuery) : ℕ := (asInt py q.offset 0).toNat

/-- `_as_int(_first(query, "count"), _DEFAULT_COUNT)` -/
def CollectionQuery.size (q : CollectionQuery) : Int := asInt py q.count 30

/-- `entries[offset:]`, and `[:count]` of a positive count -/
def window (offset : ℕ) (count : Int) (entries : List Value) : List Value :=
  if 0 < count then (entries.drop offset).take count.toNat else entries.drop offset

/-- `_apply_paging` -/
def applyPaging (payload : Payload) (offset : ℕ) (count : Int) : Payload :=
  match payload.paging with
  | none => payload
  | some paging =>
    let paging := paging.set "total" ((paging.get "total").getD (.int payload.entry.length))
    let paging := paging.set "offset" (.int offset)
    let perPage := if 0 < count then count else if count = 0 then 10000000 else 18446744073709552000
    ⟨window offset count payload.entry, some (paging.set "perPage" (.int perPage))⟩

/-- `SplunkPagingMiddleware` -/
def paged (q : CollectionQuery) (payload : Payload) : Payload :=
  if q.count = none ∧ q.offset = none then payload
  else applyPaging payload (q.skipped py) (q.size py)

/-- The answer to a request for a collection; nothing where a key of the sort raises. -/
def listing (q : CollectionQuery) (payload : Payload) : Option Payload :=
  (sorted py q (searched py q payload)).map (paged py q)

/-! ## One order -/

/-- The order downwards, or the order itself. -/
def directed (P : KeyOrder Value) (descending : Bool) : KeyOrder Value where
  le a b := if descending then P.le b a else P.le a b
  dec a b := inferInstanceAs (Decidable (if descending then P.le b a else P.le a b))
  total a b := by
    split_ifs
    · exact P.total b a
    · exact P.total a b
  trans a b c := by
    split_ifs
    · exact fun h h' => P.trans c b a h' h
    · exact P.trans a b c

/-- Some entries in an order of their values, those that tie in the order, any order, that they
    were in. -/
structure StablySorted (P : KeyOrder Value) (place : Value → Value) (entries sorted : List Value) :
    Prop where
  perm : sorted.Perm entries
  ordered : ∀ R : Value → Value → Prop, entries.Pairwise R → sorted.Pairwise fun a b =>
    P.le (place a) (place b) ∧ (P.le (place b) (place a) → R a b)

/-- The answers to a request without a page, with a page of everything, and with one page after
    another are those of a list. -/
structure Tiles (q : CollectionQuery) (payload : Payload) (sorted : List Value) : Prop where
  whole : (listing py { q with count := none, offset := none } payload).map Payload.entry
    = some sorted
  all : ∀ c count, py.int c = some count → count ≤ 0 →
    (listing py { q with count := some c, offset := none } payload).map Payload.entry = some sorted
  pages : ∀ c (count : ℕ), py.int c = some (count : Int) → 0 < count → ∀ offsets : ℕ → String,
    (∀ k, py.int (offsets k) = some ((k * count : ℕ) : Int)) →
    ∃ page : ℕ → List Value, Enumerates page sorted ∧ ∀ k,
      (listing py { q with count := some c, offset := some (offsets k) } payload).map Payload.entry
        = some (page k)

/-- One order serves every collection whose sort values are among some values. -/
def OneOrder (sortMode : Option String) (V : Value → Prop) : Prop :=
  ∃ P : KeyOrder Value, ∀ (q : CollectionQuery) (payload : Payload), q.sortMode = sortMode →
    payload.paging.isSome → (∀ entry ∈ (searched py q payload).entry, V (valueOf q.key entry)) →
    ∃ sorted, StablySorted (directed P (q.descending py)) (valueOf q.key)
      (searched py q payload).entry sorted ∧ Tiles py q payload sorted

/-- Some values can be read as numbers, none of them as a NaN where two others are different
    numbers. -/
structure Orderable (V : Value → Prop) : Prop where
  fits : ∀ v, V v → numberOf py v ≠ none
  comparable : ∀ v w, V v → V w → ∀ x y, numberOf py v = some (some x) →
    numberOf py w = some (some y) → x ≠ .nan → y ≠ .nan →
    (∃ u, V u ∧ numberOf py u = some (some .nan)) → x = y

variable {py} {q : CollectionQuery} {payload : Payload} {V : Value → Prop} {mode : String}

/-! ## The keys -/

/-- A key with a number in place of a NaN. -/
def settled (z : PyFloat) (k : TupleKey) : TupleKey :=
  { k with number := if k.number = .nan then z else k.number }

/-- Only a number is a NaN, and a number has no text. -/
structure Shaped (k : TupleKey) : Prop where
  nan : k.number = .nan → k.kind = 0
  text : k.kind = 0 → k.text = ""

lemma shaped_of_valueKey {v : Value} {k : TupleKey} (h : valueKey py mode v = some k) :
    Shaped k := by
  rw [valueKey] at h
  split_ifs at h
  · obtain ⟨number, -, rfl⟩ := Option.map_eq_some_iff.1 h
    cases number with
    | some x => exact ⟨fun _ => rfl, fun _ => rfl⟩
    | none => exact ⟨nofun, nofun⟩
  · obtain ⟨number, -, rfl⟩ := Option.map_eq_some_iff.1 h
    cases number with
    | some x => exact ⟨fun _ => rfl, fun _ => rfl⟩
    | none => exact ⟨nofun, nofun⟩
  · cases h
    exact ⟨nofun, nofun⟩

/-- `<` of keys without a NaN is that of their ranks. -/
lemma keyLt_iff_rank {k l : TupleKey} (hk : k.number ≠ .nan) (hl : l.number ≠ .nan) :
    keyLt l k = true ↔ l.rank < k.rank := by
  have heq : l.number.eq k.number = true ↔ l.number = k.number := by
    rw [PyFloat.eq, decide_eq_true hl, Bool.true_and, decide_eq_true_eq]
  rw [keyLt, TupleKey.rank, TupleKey.rank, Prod.Lex.toLex_lt_toLex, Prod.Lex.toLex_lt_toLex,
    Bool.or_eq_true, Bool.and_eq_true, decide_eq_true_eq, decide_eq_true_eq]
  refine or_congr_right (and_congr_right fun _ => ?_)
  by_cases hnumber : l.number = k.number
  · rw [if_pos (heq.2 hnumber), hnumber, decide_eq_true_eq]
    exact ⟨fun h => .inr ⟨rfl, h⟩, fun h => h.elim (fun h => absurd h (lt_irrefl _)) And.right⟩
  · rw [if_neg fun h => hnumber (heq.1 h), PyFloat.lt_iff_rank hl hk]
    exact ⟨.inl, fun h => h.elim id fun h => absurd (PyFloat.rank_injective h.1) hnumber⟩

/-- `<` compares keys as their ranks do, a NaN standing where the only number does. -/
lemma keyLt_eq_false_iff {z : PyFloat} {k l : TupleKey} (hk : Shaped k) (hl : Shaped l)
    (hsame : k.kind = 0 → l.kind = 0 → k.number = .nan ∨ l.number = .nan →
      (settled z k).number = (settled z l).number) :
    keyLt l k = false ↔ (settled z k).rank ≤ (settled z l).rank := by
  have hself : ∀ {m : TupleKey}, m.number ≠ .nan → settled z m = m := by
    intro m hm
    rw [settled, if_neg hm]
  by_cases hnan : k.number = .nan ∨ l.number = .nan
  · rw [keyLt, TupleKey.rank, TupleKey.rank, Prod.Lex.toLex_le_toLex, Bool.or_eq_false_iff,
      decide_eq_false_iff_not, not_lt]
    rcases lt_trichotomy k.kind l.kind with hlt | heq | hgt
    · -- the one is a number, and the other is not
      rw [decide_eq_false hlt.ne', Bool.false_and]
      exact iff_of_true ⟨hlt.le, rfl⟩ (.inl hlt)
    · have hzero : k.kind = 0 := hnan.elim hk.nan fun h => heq.trans (hl.nan h)
      have hless : (if l.number.eq k.number then decide (l.text < k.text)
          else l.number.lt k.number) = false := by
        rw [hk.text hzero, hl.text (heq ▸ hzero)]
        split_ifs
        · rfl
        · rcases hnan with h | h
          · rw [h]
            cases l.number <;> rfl
          · rw [h]
            rfl
      rw [hless, Bool.and_false]
      refine iff_of_true ⟨heq.le, rfl⟩ (.inr ⟨heq, ?_⟩)
      have htext : (settled z k).text = (settled z l).text :=
        (hk.text hzero).trans (hl.text (heq ▸ hzero)).symm
      rw [hsame hzero (heq ▸ hzero) hnan, htext]
    · refine iff_of_false (fun h => absurd h.1 (not_le.2 hgt)) ?_
      rintro (h | h)
      · exact Nat.lt_asymm hgt h
      · exact hgt.ne' h.1
  · obtain ⟨hkn, hln⟩ := not_or.1 hnan
    rw [hself hkn, hself hln, ← not_lt, ← keyLt_iff_rank hkn hln, Bool.not_eq_true]

lemma number_of_kind {v : Value} {k : TupleKey} (h : valueKey py mode v = some k)
    (hk : k.kind = 0) : isNumeric mode ∧ numberOf py v = some (some k.number) := by
  rw [valueKey] at h
  split_ifs at h with hheld hnumeric
  · refine ⟨hnumeric, ?_⟩
    obtain ⟨number, hnumber, rfl⟩ := Option.map_eq_some_iff.1 h
    cases number with
    | some x => exact hnumber
    | none => cases hk
  · obtain ⟨number, hnumber, rfl⟩ := Option.map_eq_some_iff.1 h
    cases hnumber
    cases hk
  · cases h
    cases hk

lemma valueKey_ne_none {v : Value} (h : isNumeric mode = true → numberOf py v ≠ none) :
    valueKey py mode v ≠ none := by
  rw [valueKey]
  split_ifs with hheld hnumeric
  · intro hnone
    exact h hnumeric (Option.map_eq_none_iff.1 hnone)
  · nofun
  · nofun

/-- A place for the NaNs: where the only other number is. -/
lemma exists_settling (h : isNumeric mode = true → Orderable py V) :
    ∃ z, ∀ v w, V v → V w → ∀ k l, valueKey py mode v = some k → valueKey py mode w = some l →
      k.kind = 0 → l.kind = 0 → k.number = .nan ∨ l.number = .nan →
        (settled z k).number = (settled z l).number := by
  by_cases hother : ∃ x v, V v ∧ numberOf py v = some (some x) ∧ x ≠ .nan
  · obtain ⟨z, t, ht, htnumber, hz⟩ := hother
    have hsettled : ∀ v w, V v → V w → ∀ k l, valueKey py mode v = some k →
        valueKey py mode w = some l → k.kind = 0 → l.kind = 0 → l.number = .nan →
          (settled z k).number = z := by
      intro v w hv hw k l hk hl hkzero hlzero hnan
      obtain ⟨hnumeric, hknumber⟩ := number_of_kind hk hkzero
      obtain ⟨-, hlnumber⟩ := number_of_kind hl hlzero
      rw [hnan] at hlnumber
      by_cases hknan : k.number = .nan
      · exact if_pos hknan
      · have heq : k.number = z := (h hnumeric).comparable v t hv ht k.number z hknumber htnumber
          hknan hz ⟨w, hw, hlnumber⟩
        exact (if_neg hknan).trans heq
    refine ⟨z, fun v w hv hw k l hk hl hkzero hlzero hnan => ?_⟩
    rcases hnan with hnan | hnan
    · rw [hsettled v v hv hv k k hk hk hkzero hkzero hnan,
        hsettled w v hw hv l k hl hk hlzero hkzero hnan]
    · rw [hsettled v w hv hw k l hk hl hkzero hlzero hnan,
        hsettled w w hw hw l l hl hl hlzero hlzero hnan]
  · have hnan : ∀ v, V v → ∀ k, valueKey py mode v = some k → k.kind = 0 → k.number = .nan := by
      intro v hv k hk hzero
      by_contra hne
      exact hother ⟨_, v, hv, (number_of_kind hk hzero).2, hne⟩
    refine ⟨.finite 0, fun v w hv hw k l hk hl hkzero hlzero _ => ?_⟩
    rw [settled, settled, if_pos (hnan v hv k hk hkzero), if_pos (hnan w hw l hl hlzero)]

variable (py) in
/-- The order of the values by their keys. -/
def valueOrder (mode : String) (z : PyFloat) : KeyOrder Value where
  le v w := (settled z ((valueKey py mode v).getD ⟨2, .finite 0, ""⟩)).rank
    ≤ (settled z ((valueKey py mode w).getD ⟨2, .finite 0, ""⟩)).rank
  dec _ _ := inferInstanceAs (Decidable (_ ≤ _))
  total _ _ := le_total _ _
  trans _ _ _ := le_trans

/-! ## Sorting in one order -/

/-- A list that `<` orders as an order does is sorted by it. -/
lemma listSort_eq_sort {α : Type} {key : α → TupleKey} {reverse : Bool} {l : List α}
    (o : KeyOrder α)
    (h : ∀ a ∈ l, ∀ b ∈ l, ltBy key reverse b a = false ↔ o.le a b) :
    listSort py key reverse l = o.sort l := by
  have hless : ∀ a ∈ l, ∀ b ∈ l, ltBy key reverse a b = true → ltBy key reverse b a = false := by
    intro a ha b hb hlt
    refine (h a ha b hb).2 ((o.total a b).resolve_right fun hle => ?_)
    rw [(h b hb a ha).2 hle] at hlt
    cases hlt
  have hordered : Ordered (ltBy key reverse) l := by
    refine ⟨hless, fun a ha b hb c hc hab hbc => ?_⟩
    exact (h c hc a ha).2 (o.trans c b a ((h c hc b hb).1 hbc) ((h b hb a ha).1 hab))
  rw [listSort, if_pos hordered]
  exact o.insertionSort_eq_sort h

lemma stablySorted_self {P : KeyOrder Value} {place : Value → Value} {entries : List Value}
    (h : entries.Pairwise fun a b => P.le (place a) (place b)) :
    StablySorted P place entries entries :=
  ⟨.refl _, fun _ hR => (h.and hR).imp fun hab => ⟨hab.1, fun _ => hab.2⟩⟩

/-- One order sorts all entries whose values can be ordered. -/
lemma stablySorted_sortedEntries (h : isNumeric mode = true → Orderable py V) {z : PyFloat}
    (hz : ∀ v w, V v → V w → ∀ k l, valueKey py mode v = some k → valueKey py mode w = some l →
      k.kind = 0 → l.kind = 0 → k.number = .nan ∨ l.number = .nan →
        (settled z k).number = (settled z l).number)
    (hmode : modeOf py q.sortMode = mode) {entries : List Value}
    (hV : ∀ entry ∈ entries, V (valueOf q.key entry)) :
    ∃ sorted, sortedEntries py q entries = some sorted
      ∧ StablySorted (directed (valueOrder py mode z) (q.descending py)) (valueOf q.key) entries
        sorted := by
  subst hmode
  rw [sortedEntries]
  split_ifs with hfew hraises
  · refine ⟨entries, rfl, stablySorted_self ?_⟩
    rcases hfew with hfew | hnone
    · match entries, hfew with
      | [], _ => exact .nil
      | [a], _ => exact List.pairwise_singleton _ a
    · -- no entry has a value
      have hnull : ∀ entry ∈ entries, valueOf q.key entry = .null := by
        intro entry hentry
        by_contra hheld
        refine hnone (List.any_eq_true.2 ⟨entry, hentry, ?_⟩)
        cases hvalue : valueOf q.key entry with
        | null => exact absurd hvalue hheld
        | _ => rfl
      refine (List.pairwise_of_forall fun _ _ => trivial :
        entries.Pairwise fun _ _ => True).imp_of_mem fun {a b} ha hb _ => ?_
      rw [hnull a ha, hnull b hb]
      exact ((directed (valueOrder py _ z) (q.descending py)).total .null .null).elim id id
  · obtain ⟨entry, hentry, hnone⟩ := List.any_eq_true.1 hraises
    have hkey : valueKey py (modeOf py q.sortMode) (valueOf q.key entry) ≠ none :=
      valueKey_ne_none fun hnumeric => (h hnumeric).fits _ (hV entry hentry)
    exact absurd (Option.isNone_iff_eq_none.1 hnone) hkey
  · let o := (directed (valueOrder py (modeOf py q.sortMode) z) (q.descending py)).comap
      (valueOf q.key)
    have hlt : ∀ a ∈ entries, ∀ b ∈ entries, keyLt (entryKey py q b) (entryKey py q a) = false
        ↔ (valueOrder py (modeOf py q.sortMode) z).le (valueOf q.key a) (valueOf q.key b) := by
      intro a ha b hb
      obtain ⟨k, hk⟩ := Option.ne_none_iff_exists'.1
        (valueKey_ne_none fun hnumeric => (h hnumeric).fits _ (hV a ha))
      obtain ⟨l, hl⟩ := Option.ne_none_iff_exists'.1
        (valueKey_ne_none fun hnumeric => (h hnumeric).fits _ (hV b hb))
      rw [entryKey, entryKey, valueOrder]
      dsimp only
      rw [hk, hl]
      exact keyLt_eq_false_iff (shaped_of_valueKey hk) (shaped_of_valueKey hl)
        (hz _ _ (hV a ha) (hV b hb) k l hk hl)
    have hsort : listSort py (entryKey py q) (q.descending py) entries = o.sort entries := by
      refine listSort_eq_sort o fun a ha b hb => ?_
      simp only [ltBy, o, KeyOrder.comap, directed]
      split_ifs
      · exact hlt b hb a ha
      · exact hlt a ha b hb
    exact ⟨_, rfl, hsort ▸ ⟨o.perm_sort entries, fun R hR => o.pairwise_sort hR⟩⟩

/-! ## Pages -/

/-- The answer to a request, with whatever page. -/
lemma listing_page {paging : Dict String Value} (hpaging : payload.paging = some paging)
    {entries : List Value}
    (h : sortedEntries py q (searched py q payload).entry = some entries)
    (count offset : Option String) :
    (listing py { q with count := count, offset := offset } payload).map Payload.entry
      = some (if count = none ∧ offset = none then entries
        else window (asInt py offset 0).toNat (asInt py count 30) entries) := by
  have hsome : ∃ paging', (searched py q payload).paging = some paging' := by
    rw [searched]
    split_ifs
    · exact ⟨paging, hpaging⟩
    · rw [hpaging]
      exact ⟨_, rfl⟩
  obtain ⟨paging', hpaging'⟩ := hsome
  have hsorted : sorted py { q with count := count, offset := offset }
        (searched py { q with count := count, offset := offset } payload)
      = some ⟨entries, some paging'⟩ := by
    have hsame : sorted py { q with count := count, offset := offset }
          (searched py { q with count := count, offset := offset } payload)
        = sorted py q (searched py q payload) := rfl
    rw [hsame, sorted, h, hpaging']
    rfl
  rw [listing, hsorted, Option.map_some, Option.map_some, paged]
  split_ifs
  · rfl
  · rfl

/-- The pages of a collection are the pieces of the sorted list. -/
lemma tiles_of_sortedEntries {paging : Dict String Value} (hpaging : payload.paging = some paging)
    {entries : List Value}
    (h : sortedEntries py q (searched py q payload).entry = some entries) :
    Tiles py q payload entries := by
  refine ⟨?_, fun c count hc hcount => ?_, fun c count hc hcount offsets hoffsets => ?_⟩
  · rw [listing_page hpaging h, if_pos ⟨rfl, rfl⟩]
  · rw [listing_page hpaging h, if_neg fun hnone => nomatch hnone.1]
    have hsize : asInt py (some c) 30 = count := by
      rw [asInt, Option.bind_some, hc]
      rfl
    rw [hsize, window, if_neg (not_lt.2 hcount)]
    rfl
  · refine ⟨chunk count entries, enumerates_chunks hcount entries, fun k => ?_⟩
    rw [listing_page hpaging h, if_neg fun hnone => nomatch hnone.1]
    have hsize : asInt py (some c) 30 = count := by
      rw [asInt, Option.bind_some, hc]
      rfl
    have hskipped : asInt py (some (offsets k)) 0 = ((k * count : ℕ) : Int) := by
      rw [asInt, Option.bind_some, hoffsets]
      rfl
    rw [hsize, hskipped, window, if_pos (Int.natCast_pos.2 hcount)]
    rfl

/-! ## When one order serves -/

/-- An entry with a name. -/
def namedBy (v : Value) : Value := .dict [("name", v)]

/-- A request without parameters, but for the mode of its sort. -/
def plain (sortMode : Option String) : CollectionQuery := ⟨[], none, none, sortMode, none, none⟩

lemma listing_plain (sortMode : Option String) (entries : List Value) :
    (listing py { plain sortMode with count := none, offset := none }
        ⟨entries, some Dict.empty⟩).map Payload.entry
      = sortedEntries py (plain sortMode) entries := by
  have hlisting : listing py { plain sortMode with count := none, offset := none }
        ⟨entries, some Dict.empty⟩
      = ((sortedEntries py (plain sortMode) entries).map fun entries =>
        (⟨entries, some Dict.empty⟩ : Payload)).map (paged py (plain sortMode)) := rfl
  rw [hlisting, Option.map_map, Option.map_map]
  exact Option.map_id'

/-- What one order does with two entries. -/
lemma OneOrder.pair {sortMode : Option String} (h : OneOrder py sortMode V) :
    ∃ P : KeyOrder Value, ∀ v w, V v → V w →
      ∃ a b, sortedEntries py (plain sortMode) [namedBy v, namedBy w] = some [namedBy a, namedBy b]
        ∧ (a = v ∧ b = w ∨ a = w ∧ b = v) ∧ P.le a b ∧ (P.le b a → a = v ∧ b = w) := by
  obtain ⟨P, hP⟩ := h
  refine ⟨directed P ((plain sortMode).descending py), fun v w hv hw => ?_⟩
  have hvalues : ∀ entry ∈ [namedBy v, namedBy w], V (valueOf "name" entry) := by
    intro entry hentry
    rcases List.mem_pair.1 hentry with rfl | rfl
    · exact hv
    · exact hw
  obtain ⟨sorted, ⟨hperm, hordered⟩, htiles⟩ :=
    hP (plain sortMode) ⟨[namedBy v, namedBy w], some Dict.empty⟩ rfl rfl hvalues
  have hsorted := (listing_plain sortMode [namedBy v, namedBy w]).symm.trans htiles.whole
  have hperm : sorted.Perm [namedBy v, namedBy w] := hperm
  have hlist : sorted = [namedBy v, namedBy w] ∨ sorted = [namedBy w, namedBy v] := by
    match sorted, hperm.length_eq with
    | [x, y], _ =>
      rcases List.mem_pair.1 (hperm.mem_iff.1 List.mem_cons_self) with rfl | rfl
      · exact .inl (congrArg _ (List.perm_singleton.1 ((List.perm_cons _).1 hperm)))
      · have hswap := hperm.trans (List.Perm.swap _ _ _)
        exact .inr (congrArg _ (List.perm_singleton.1 ((List.perm_cons _).1 hswap)))
  have hpairs := hordered (fun a b => a = namedBy v ∧ b = namedBy w)
    (List.pairwise_pair.2 ⟨rfl, rfl⟩)
  have hinj : ∀ {a b : Value}, namedBy a = namedBy b → a = b := by
    intro a b hab
    simpa [namedBy] using hab
  rcases hlist with rfl | rfl
  · exact ⟨v, w, hsorted, .inl ⟨rfl, rfl⟩, (List.pairwise_pair.1 hpairs).1, fun _ => ⟨rfl, rfl⟩⟩
  · obtain ⟨hle, hties⟩ := List.pairwise_pair.1 hpairs
    refine ⟨w, v, hsorted, .inr ⟨rfl, rfl⟩, hle, fun hback => ?_⟩
    exact ⟨hinj (hties hback).1, hinj (hties hback).2⟩

lemma PyFloat_lt_irrefl (x : PyFloat) : x.lt x = false := by
  cases x <;> simp [PyFloat.lt]

lemma PyFloat_lt_asymm {x y : PyFloat} (h : x.lt y = true) : y.lt x = false := by
  cases x <;> cases y <;> simp_all [PyFloat.lt, le_of_lt]

/-- `<` of the keys of numbers. -/
lemma keyLt_number (x y : PyFloat) : keyLt ⟨0, x, ""⟩ ⟨0, y, ""⟩ = x.lt y := by
  rw [keyLt]
  dsimp only
  rw [decide_eq_false (lt_irrefl 0), decide_eq_true rfl, Bool.false_or, Bool.true_and]
  split_ifs with heq
  · rw [PyFloat.eq, Bool.and_eq_true, decide_eq_true_eq, decide_eq_true_eq] at heq
    rw [decide_eq_false (lt_irrefl _), heq.2, PyFloat_lt_irrefl]
  · rfl

lemma listSort_pair {α : Type} {key : α → TupleKey} {reverse : Bool} {a b : α}
    (h : ltBy key reverse a b = true → ltBy key reverse b a = false)
    (ha : ltBy key reverse a a = false) (hb : ltBy key reverse b b = false) :
    listSort py key reverse [a, b] = if ltBy key reverse b a then [b, a] else [a, b] := by
  have hordered : Ordered (ltBy key reverse) [a, b] := by
    simp only [Ordered, List.forall_mem_cons, List.not_mem_nil, false_implies, implies_true,
      and_true, ha, hb, true_implies]
    cases hab : ltBy key reverse a b <;> cases hba : ltBy key reverse b a <;> simp_all
  rw [listSort, if_pos hordered, List.insertionSort_cons, List.insertionSort_cons,
    List.insertionSort_nil, List.orderedInsert_nil, List.orderedInsert_cons,
    List.orderedInsert_nil]
  cases ltBy key reverse b a <;> rfl

/-- The entries of two numbers change places exactly when the second is less, or greater if the
    sort is downwards. -/
lemma sortedEntries_numbers {sortMode : Option String} {v w : Value} {x y : PyFloat}
    (hnumeric : isNumeric (modeOf py sortMode) = true) (hx : numberOf py v = some (some x))
    (hy : numberOf py w = some (some y)) :
    sortedEntries py (plain sortMode) [namedBy v, namedBy w]
      = some (if (if (plain sortMode).descending py then x.lt y else y.lt x)
        then [namedBy w, namedBy v] else [namedBy v, namedBy w]) := by
  have hheld : ∀ {u : Value} {z : PyFloat}, numberOf py u = some (some z) → isHeld u = true := by
    intro u z hu
    cases u with
    | null => cases hu
    | _ => rfl
  have hkey : ∀ {u : Value} {z : PyFloat}, numberOf py u = some (some z) →
      valueKey py (modeOf py sortMode) u = some ⟨0, z, ""⟩ := by
    intro u z hu
    rw [valueKey, if_pos (hheld hu), if_pos hnumeric, hu]
    rfl
  have hentry : ∀ {u : Value} {z : PyFloat}, numberOf py u = some (some z) →
      entryKey py (plain sortMode) (namedBy u) = ⟨0, z, ""⟩ := by
    intro u z hu
    have hvalue : valueKey py (modeOf py (plain sortMode).sortMode)
        (valueOf (plain sortMode).key (namedBy u)) = some ⟨0, z, ""⟩ := hkey hu
    rw [entryKey, hvalue]
    rfl
  have hlt : ∀ {u t : Value} {z z' : PyFloat}, numberOf py u = some (some z) →
      numberOf py t = some (some z') →
      ltBy (entryKey py (plain sortMode)) ((plain sortMode).descending py) (namedBy u) (namedBy t)
        = if (plain sortMode).descending py then z'.lt z else z.lt z' := by
    intro u t z z' hu ht
    rw [ltBy, hentry hu, hentry ht, keyLt_number, keyLt_number]
  have hsortable : ¬ ([namedBy v, namedBy w].length < 2 ∨ ¬ [namedBy v, namedBy w].any fun entry =>
      isHeld (valueOf (plain sortMode).key entry)) := by
    rintro (hfew | hnone)
    · exact absurd hfew (lt_irrefl 2)
    · exact hnone (List.any_eq_true.2 ⟨_, List.mem_cons_self, hheld hx⟩)
  have hreads : ¬ [namedBy v, namedBy w].any fun entry =>
      (valueKey py (modeOf py (plain sortMode).sortMode)
        (valueOf (plain sortMode).key entry)).isNone := by
    intro hraises
    obtain ⟨entry, hentry, hnone⟩ := List.any_eq_true.1 hraises
    rcases List.mem_pair.1 hentry with rfl | rfl
    · have hvalue : valueKey py (modeOf py (plain sortMode).sortMode)
          (valueOf (plain sortMode).key (namedBy v)) = some ⟨0, x, ""⟩ := hkey hx
      rw [hvalue] at hnone
      cases hnone
    · have hvalue : valueKey py (modeOf py (plain sortMode).sortMode)
          (valueOf (plain sortMode).key (namedBy w)) = some ⟨0, y, ""⟩ := hkey hy
      rw [hvalue] at hnone
      cases hnone
  have hself : ∀ {u : Value} {z : PyFloat}, numberOf py u = some (some z) →
      ltBy (entryKey py (plain sortMode)) ((plain sortMode).descending py) (namedBy u) (namedBy u)
        = false := by
    intro u z hu
    rw [hlt hu hu, PyFloat_lt_irrefl, ite_self]
  rw [sortedEntries, if_neg hsortable, if_neg hreads, listSort_pair ?_ (hself hx) (hself hy),
    hlt hy hx]
  rw [hlt hx hy, hlt hy hx]
  split_ifs
  · exact PyFloat_lt_asymm
  · exact PyFloat_lt_asymm

lemma sortedEntries_of_numberOf_eq_none {sortMode : Option String} {v : Value}
    (hnumeric : isNumeric (modeOf py sortMode) = true) (h : numberOf py v = none) :
    sortedEntries py (plain sortMode) [namedBy v, namedBy v] = none := by
  have hheld : isHeld v = true := by
    cases v with
    | null => cases h
    | _ => rfl
  have hkey : valueKey py (modeOf py (plain sortMode).sortMode)
      (valueOf (plain sortMode).key (namedBy v)) = none := by
    have hnone : valueKey py (modeOf py sortMode) v = none := by
      rw [valueKey, if_pos hheld, if_pos hnumeric, h]
      rfl
    exact hnone
  rw [sortedEntries, if_neg, if_pos]
  · exact List.any_eq_true.2 ⟨_, List.mem_cons_self, Option.isNone_iff_eq_none.2 hkey⟩
  · rintro (hfew | hnone)
    · exact absurd hfew (lt_irrefl 2)
    · exact hnone (List.any_eq_true.2 ⟨_, List.mem_cons_self, hheld⟩)

lemma lt_or_lt_of_ne {x y : PyFloat} (hx : x ≠ .nan) (hy : y ≠ .nan) (h : x ≠ y) :
    x.lt y = true ∨ y.lt x = true := by
  rw [PyFloat.lt_iff_rank hx hy, PyFloat.lt_iff_rank hy hx]
  exact lt_or_gt_of_ne fun hrank => h (PyFloat.rank_injective hrank)

/-- Where one order serves and numbers are read, their values can be ordered. -/
lemma OneOrder.orderable {sortMode : Option String} (h : OneOrder py sortMode V)
    (hnumeric : isNumeric (modeOf py sortMode) = true) : Orderable py V := by
  obtain ⟨P, hP⟩ := h.pair
  refine ⟨fun v hv hnone => ?_, fun v w hv hw x y hx hy hxnan hynan ⟨u, hu, hunan⟩ => ?_⟩
  · obtain ⟨a, b, hsorted, -⟩ := hP v v hv hv
    rw [sortedEntries_of_numberOf_eq_none hnumeric hnone] at hsorted
    cases hsorted
  · -- next to a NaN a number stays where it is, so that it ties with all of them
    have hinj : ∀ {a b : Value}, namedBy a = namedBy b → a = b := by
      intro a b hab
      simpa [namedBy] using hab
    have hnan : ∀ z : PyFloat, PyFloat.nan.lt z = false ∧ z.lt .nan = false := by
      intro z
      exact ⟨rfl, by cases z <;> rfl⟩
    have hstays : ∀ {s t : Value} {z z' : PyFloat}, V s → V t → numberOf py s = some (some z) →
        numberOf py t = some (some z') → z.lt z' = false → z'.lt z = false → P.le s t := by
      intro s t z z' hs ht hz hz' hless hless'
      obtain ⟨a, b, hsorted, -, hle, -⟩ := hP s t hs ht
      rw [sortedEntries_numbers hnumeric hz hz', hless, hless', ite_self,
        if_neg Bool.false_ne_true] at hsorted
      obtain ⟨ha, hb⟩ := List.cons.inj (Option.some.inj hsorted)
      rw [hinj ha, hinj (List.cons.inj hb).1]
      exact hle
    have hvw : P.le v w := P.trans v u w
      (hstays hv hu hx hunan (hnan x).2 (hnan x).1) (hstays hu hw hunan hy (hnan y).1 (hnan y).2)
    have hwv : P.le w v := P.trans w u v
      (hstays hw hu hy hunan (hnan y).2 (hnan y).1) (hstays hu hv hunan hx (hnan x).1 (hnan x).2)
    have hkept : ∀ {s t : Value} {z z' : PyFloat}, V s → V t → s ≠ t →
        numberOf py s = some (some z) → numberOf py t = some (some z') → P.le s t → P.le t s →
          (if (plain sortMode).descending py then z.lt z' else z'.lt z) = false := by
      intro s t z z' hs ht hne hz hz' hst hts
      obtain ⟨a, b, hsorted, hcases, -, hties⟩ := hP s t hs ht
      obtain ⟨rfl, rfl⟩ : a = s ∧ b = t := by
        rcases hcases with ⟨rfl, rfl⟩ | ⟨rfl, rfl⟩
        · exact ⟨rfl, rfl⟩
        · exact hties hst
      by_contra hless
      rw [sortedEntries_numbers hnumeric hz hz', if_pos (Bool.eq_true_of_not_eq_false hless)]
        at hsorted
      exact hne (hinj (List.cons.inj (Option.some.inj hsorted)).1).symm
    by_contra hne
    have hvne : v ≠ w := by
      rintro rfl
      rw [hx] at hy
      exact hne (Option.some.inj (Option.some.inj hy))
    have hfirst := hkept hv hw hvne hx hy hvw hwv
    have hsecond := hkept hw hv hvne.symm hy hx hwv hvw
    rcases lt_or_lt_of_ne hxnan hynan hne with hlt | hlt
    · split_ifs at hfirst hsecond
      · rw [hlt] at hfirst
        cases hfirst
      · rw [hlt] at hsecond
        cases hsecond
    · split_ifs at hfirst hsecond
      · rw [hlt] at hsecond
        cases hsecond
      · rw [hlt] at hfirst
        cases hfirst

/-- One order serves the collections whose sort values are among some values exactly when numbers
    are not read, or all of these are in the range of the floats and a NaN does not stand beside two
    different numbers. -/
theorem oneOrder_iff (py : CollectionPython) (sortMode : Option String) (V : Value → Prop) :
    OneOrder py sortMode V ↔ (isNumeric (modeOf py sortMode) = true → Orderable py V) := by
  constructor
  · exact OneOrder.orderable
  · intro h
    obtain ⟨z, hz⟩ := exists_settling h
    refine ⟨valueOrder py (modeOf py sortMode) z, fun q payload hmode hpaging hV => ?_⟩
    obtain ⟨paging, hpaging⟩ := Option.isSome_iff_exists.1 hpaging
    obtain ⟨sorted, hsorted, hstable⟩ :=
      stablySorted_sortedEntries (q := q) h hz (congrArg (modeOf py) hmode) hV
    exact ⟨sorted, hstable, tiles_of_sortedEntries hpaging hsorted⟩

/-- The integers from here on are beyond the floats. -/
def floatBound : ℕ := (2 ^ 32) ^ 32

/-- The built-ins on the texts and numbers of the examples. -/
def smallPython : CollectionPython where
  lower := id
  str _ := ""
  strFloat _ := ""
  float s := if s = "nan" then some .nan else none
  floatInt n := if n.natAbs < floatBound then some (.finite n) else none
  dumps _ := ""
  rawDecode _ := none
  int _ := none
  unordered keys _ := List.range keys.length

/-- An index that is named `nan` has no place beside two that are named by numbers, and a number
    beyond the floats is not sorted at all. -/
theorem nan_unplaced :
    ¬ OneOrder smallPython none (fun v => v = .str "nan" ∨ v = .int 1 ∨ v = .int 2)
      ∧ ¬ OneOrder smallPython none (fun v => v = .int floatBound) := by
  have hnumeric : isNumeric (modeOf smallPython none) = true := by decide
  constructor
  · intro h
    have heq := (h.orderable hnumeric).comparable (.int 1) (.int 2) (.inr (.inl rfl))
      (.inr (.inr rfl)) (.finite 1) (.finite 2) rfl rfl nofun nofun ⟨.str "nan", .inl rfl, rfl⟩
    exact absurd heq (by decide)
  · exact fun h => (h.orderable hnumeric).fits _ rfl rfl

end Splunk

end Mockdr
