import Mathlib.Data.Rat.Defs
import Mathlib.Algebra.Order.Ring.Rat
import Mathlib.Data.List.DropRight
import Mockdr.Lib.Assoc

/-!
# The Python values and built-ins the code computes with

* `Json` is what `json.loads` makes of a request body: the values every record, query and mapping is
  made of. An object keeps its members in the order they were written. A float is a finite double,
  kept as the rational it stands for, so that numbers of either type compare exactly, as they do in
  Python.
* `Json.eq` is Python's `==`, `Json.truthy` its truth test, `getNested` the dotted lookup of
  `utils/nested.py`.
* `Python` collects the built-ins the model leaves open (Unicode lower-casing, `str()`, attribute
  lookup on built-in values, the digest of a record): every result holds whatever they compute.
-/

namespace Mockdr

/-- A JSON value. -/
inductive Json where
  | null
  | bool (b : Bool)
  | int (n : Int)
  | float (q : ℚ)
  | str (s : String)
  | list (xs : List Json)
  | dict (fields : List (String × Json))

/-- A JSON object, its members in the order they were written. -/
abbrev Object := List (String × Json)

/-- `o.get(k)`: the member under a key, `None` if there is none. -/
def Object.get (o : Object) (k : String) : Json := (Assoc.get k o).getD .null

/-- `k in o`. -/
def Object.has (o : Object) (k : String) : Bool := (Assoc.get k o).isSome

namespace Json

/-- The number a value stands for in arithmetic and comparisons; a boolean is one, as in Python. -/
def number : Json → Option ℚ
  | .bool b => some (if b then 1 else 0)
  | .int n => some n
  | .float q => some q
  | _ => none

mutual

/-- Python's `==`: numbers and booleans by value, objects whatever the order of their members. -/
def eq : Json → Json → Bool
  | .null, .null => true
  | .str s, .str t => s = t
  | .list xs, .list ys => eqList xs ys
  | .dict a, .dict b => a.length = b.length && eqFields a b
  | .bool a, y => y.number = some (if a then 1 else 0)
  | .int a, y => y.number = some (a : ℚ)
  | .float a, y => y.number = some a
  | _, _ => false

/-- Elementwise `==`. -/
def eqList : List Json → List Json → Bool
  | [], [] => true
  | x :: xs, y :: ys => eq x y && eqList xs ys
  | _, _ => false

/-- Every member of the first object is `==` to the second's under the same key. -/
def eqFields : List (String × Json) → List (String × Json) → Bool
  | [], _ => true
  | (k, x) :: rest, b =>
    (match Assoc.get k b with
      | some y => eq x y
      | none => false) && eqFields rest b

end

/-- A string is `==` to the same string only. -/
lemma eq_str_iff {v : Json} {s : String} : v.eq (.str s) = true ↔ v = .str s := by
  cases v <;> simp [eq, number]

lemma str_eq_iff {s : String} {v : Json} : eq (.str s) v = true ↔ v = .str s := by
  cases v <;> simp [eq, eq_comm]

/-- Python's truth test. -/
def truthy : Json → Bool
  | .null => false
  | .bool b => b
  | .int n => n ≠ 0
  | .float q => q ≠ 0
  | .str s => s ≠ ""
  | .list xs => !xs.isEmpty
  | .dict o => !o.isEmpty

/-- `isinstance(v, dict)`. -/
def isDict : Json → Bool
  | .dict _ => true
  | _ => false

/-- The members of an object, none for any other value. -/
def fields : Json → Object
  | .dict o => o
  | _ => []

end Json

/-- The built-ins the model leaves open. -/
structure Python where
  /-- `str.lower` -/
  lower : String → String
  /-- the value of a decimal digit, of any script (`\d`, `int`) -/
  digit : Char → Option Nat
  /-- `str(v)`, for a value that is not a string -/
  str : Json → String
  /-- `dict(v)`, for a value that is not an object; nothing where it raises -/
  dict : Json → Option Object
  /-- `getattr(v, name, None)` on a value that is not an object -/
  getattr : Json → String → Json
  /-- the uuid `hit_id` makes of the digest of a record -/
  digest : Object → String

/-- The built-ins on ASCII text: what the concrete runs of this development compute with. -/
def asciiPython : Python where
  lower s := String.ofList (s.toList.map Char.toLower)
  digit c := if c.isDigit then some (c.toNat - 48) else none
  str
    | .null => "None"
    | .bool b => if b then "True" else "False"
    | .int n => toString n
    | _ => ""
  dict _ := none
  getattr _ _ := .null
  digest _ := ""

/-- `str(v)`. -/
def Python.toStr (py : Python) : Json → String
  | .str s => s
  | v => py.str v

/-- `dict(v or {})`. -/
def Python.toDict (py : Python) (v : Json) : Option Object :=
  match v with
  | .dict o => some o
  | v => if v.truthy then py.dict v else some []

/-! ## Strings -/

/-- `s.startswith(p)` with the rest of the string: `some t` exactly when `s = p + t`. -/
def cutPrefix (p s : String) : Option String := (p.toList.isPrefixOf? s.toList).map String.ofList

/-- `s.startswith(p)`. -/
def startsWith (s p : String) : Bool := (cutPrefix p s).isSome

/-- `c in s`, for one character. -/
def hasChar (c : Char) (s : String) : Bool := s.toList.contains c

/-- `s.split(c)`, for one character. -/
def split (c : Char) (s : String) : List String := (s.toList.splitOn c).map String.ofList

/-- The characters `str.strip` strips. -/
def isSpace (c : Char) : Bool :=
  let n := c.toNat
  (9 ≤ n && n ≤ 13) || (28 ≤ n && n ≤ 32) || n = 0x85 || n = 0xa0 || n = 0x1680
    || (0x2000 ≤ n && n ≤ 0x200a) || n = 0x2028 || n = 0x2029 || n = 0x202f || n = 0x205f
    || n = 0x3000

/-- `s.strip()`. -/
def strip (s : String) : String :=
  String.ofList (((s.toList.dropWhile isSpace).reverse.dropWhile isSpace).reverse)

/-- What a text is split into does not have the separator in it. -/
lemma not_mem_of_mem_splitOn {c : Char} {l piece : List Char} (h : piece ∈ l.splitOn c) :
    c ∉ piece := by
  induction l generalizing piece with
  | nil =>
    rw [List.splitOn_nil, List.mem_singleton] at h
    subst h
    exact List.not_mem_nil
  | cons x l ih =>
    rw [List.splitOn_cons_eq_if_modifyHead] at h
    split at h
    · rcases List.mem_cons.1 h with rfl | h
      · exact List.not_mem_nil
      · exact ih h
    · next hx =>
      obtain ⟨first, rest, hpieces⟩ := List.exists_cons_of_ne_nil (List.splitOn_ne_nil c l)
      rw [hpieces, List.modifyHead_cons] at h
      rcases List.mem_cons.1 h with rfl | h
      · rw [List.mem_cons, not_or]
        refine ⟨fun heq => hx (beq_iff_eq.2 heq.symm), ih ?_⟩
        rw [hpieces]
        exact List.mem_cons_self
      · refine ih ?_
        rw [hpieces]
        exact List.mem_cons_of_mem _ h

/-- What a text is split into is made of its characters. -/
lemma mem_of_mem_splitOn {c d : Char} {l piece : List Char} (h : piece ∈ l.splitOn c)
    (hd : d ∈ piece) : d ∈ l := by
  induction l generalizing piece with
  | nil =>
    rw [List.splitOn_nil, List.mem_singleton] at h
    rw [h] at hd
    exact hd
  | cons x l ih =>
    rw [List.splitOn_cons_eq_if_modifyHead] at h
    split at h
    · rcases List.mem_cons.1 h with rfl | h
      · exact absurd hd List.not_mem_nil
      · exact List.mem_cons_of_mem x (ih h hd)
    · obtain ⟨first, rest, hpieces⟩ := List.exists_cons_of_ne_nil (List.splitOn_ne_nil c l)
      rw [hpieces, List.modifyHead_cons] at h
      rcases List.mem_cons.1 h with rfl | h
      · rcases List.mem_cons.1 hd with rfl | hd
        · exact List.mem_cons_self
        · refine List.mem_cons_of_mem x (ih ?_ hd)
          rw [hpieces]
          exact List.mem_cons_self
      · refine List.mem_cons_of_mem x (ih ?_ hd)
        rw [hpieces]
        exact List.mem_cons_of_mem first h

lemma mem_of_mem_strip {c : Char} {s : String} (h : c ∈ (strip s).toList) : c ∈ s.toList := by
  rw [strip, String.toList_ofList, List.mem_reverse] at h
  have hback := (List.dropWhile_sublist _).subset h
  rw [List.mem_reverse] at hback
  exact (List.dropWhile_sublist _).subset hback

lemma mem_strip {c : Char} {s : String} (h : c ∈ s.toList) (hc : isSpace c = false) :
    c ∈ (strip s).toList := by
  have hdrop : ∀ l : List Char, c ∈ l → c ∈ l.dropWhile isSpace := by
    intro l hl
    rw [← List.takeWhile_append_dropWhile (p := isSpace) (l := l), List.mem_append] at hl
    refine hl.resolve_left fun hspace => ?_
    rw [List.mem_takeWhile_imp hspace] at hc
    cases hc
  rw [strip, String.toList_ofList, List.mem_reverse]
  exact hdrop _ (List.mem_reverse.2 (hdrop _ h))

/-- Taking white space off the end does not uncover any at the front. -/
lemma dropWhile_stripEnd (l : List Char) :
    (l.reverse.dropWhile isSpace).reverse.dropWhile isSpace
      = ((l.dropWhile isSpace).reverse.dropWhile isSpace).reverse := by
  induction l with
  | nil => rfl
  | cons c l ih =>
    rw [List.reverse_cons, List.dropWhile_append]
    by_cases hc : isSpace c = true
    · have hfront : (c :: l).dropWhile isSpace = l.dropWhile isSpace :=
        List.dropWhile_cons_of_pos hc
      have hlast : [c].dropWhile isSpace = [] := List.dropWhile_cons_of_pos hc
      rw [hfront, hlast, ← ih]
      split
      · next hall =>
        rw [List.isEmpty_iff.1 hall]
      · rw [List.reverse_append, List.reverse_singleton, List.singleton_append,
          List.dropWhile_cons_of_pos hc]
    · have hfront : (c :: l).dropWhile isSpace = c :: l := List.dropWhile_cons_of_neg hc
      have hlast : [c].dropWhile isSpace = [c] := List.dropWhile_cons_of_neg hc
      rw [hfront, hlast, List.reverse_cons, List.dropWhile_append]
      split
      · rw [hlast, List.reverse_singleton, hlast]
      · rw [List.reverse_append, List.reverse_singleton, List.singleton_append,
          List.dropWhile_cons_of_neg hc]

@[simp] lemma strip_strip (s : String) : strip (strip s) = strip s := by
  have hback := dropWhile_stripEnd (s.toList.dropWhile isSpace)
  rw [List.dropWhile_idempotent] at hback
  rw [strip, strip, String.toList_ofList, hback, List.reverse_reverse, List.dropWhile_idempotent]

lemma cutPrefix_eq_some_iff {p s t : String} : cutPrefix p s = some t ↔ s = p ++ t := by
  unfold cutPrefix
  rw [Option.map_eq_some_iff]
  constructor
  · rintro ⟨l, hl, rfl⟩
    rw [List.isPrefixOf?_eq_some_iff_append_eq] at hl
    apply String.ext
    rw [String.toList_append, String.toList_ofList, hl]
  · intro h
    refine ⟨t.toList, ?_, String.ofList_toList⟩
    rw [List.isPrefixOf?_eq_some_iff_append_eq, h, String.toList_append]

@[simp] lemma cutPrefix_append (p t : String) : cutPrefix p (p ++ t) = some t :=
  cutPrefix_eq_some_iff.2 rfl

/-- `sub in s`. -/
def hasSub (sub s : String) : Bool := s.toList.tails.any sub.toList.isPrefixOf

/-- `replaceFrom` steps over the rest of an occurrence it has replaced. -/
def replaceFrom (old new : List Char) : Nat → List Char → List Char
  | _, [] => []
  | skip + 1, _ :: cs => replaceFrom old new skip cs
  | 0, c :: cs =>
    if old.isPrefixOf (c :: cs) then new ++ replaceFrom old new (old.length - 1) cs
    else c :: replaceFrom old new 0 cs

/-- `s.replace(old, new)`, for an `old` that is not empty. -/
def replace (old new s : String) : String :=
  String.ofList (replaceFrom old.toList new.toList 0 s.toList)

lemma append_left_inj {p s t : String} : p ++ s = p ++ t ↔ s = t := by
  constructor
  · intro h
    have hs := cutPrefix_append p s
    rw [h, cutPrefix_append] at hs
    exact (Option.some.inj hs).symm
  · intro h
    rw [h]

/-- `s.partition(c)`: the part before the first `c`, and the part after it. -/
def partition (c : Char) (s : String) : String × String :=
  (String.ofList (s.toList.takeWhile (· ≠ c)), String.ofList ((s.toList.dropWhile (· ≠ c)).drop 1))

/-- `int(s)` of digits with an optional sign, which is what `[+-]?\d+` matches; at most 4300 digits.
    -/
def Python.readInt (py : Python) (s : String) : Option Int :=
  let (negative, digits) := match s.toList with
    | '-' :: ds => (true, ds)
    | '+' :: ds => (false, ds)
    | ds => (false, ds)
  if digits = [] ∨ 4300 < digits.length then none
  else (digits.mapM py.digit).map fun ds =>
    let n : Int := ds.foldl (fun n d => 10 * n + d) 0
    if negative then -n else n

/-- `int(s)`: white space around it, a sign, and digits that single underscores may group. -/
def Python.parseInt (py : Python) (s : String) : Option Int :=
  let (sign, digits) := match (strip s).toList with
    | '-' :: ds => (['-'], ds)
    | '+' :: ds => ([], ds)
    | ds => ([], ds)
  let groups := digits.splitOn '_'
  if groups.any fun g => g.isEmpty || g.any fun c => (py.digit c).isNone then none
  else py.readInt (String.ofList (sign ++ groups.flatten))

/-! ## Records -/

/-- `for x in v`: what a loop over a value goes through, nothing where it raises. -/
def Json.iterate : Json → Option (List Json)
  | .list xs => some xs
  | .dict o => some (o.map fun p => .str p.1)
  | .str s => some (s.toList.map fun c => .str (String.singleton c))
  | _ => none

/-- `get_nested` (`utils/nested.py`): the value at a dotted path. -/
def getNested (py : Python) (record : Json) (path : String) : Json :=
  (split '.' path).foldl
    (fun val part =>
      match val with
      | .null => .null
      | .dict o => Object.get o part
      | v => py.getattr v part)
    record

/-- A string that is not empty. -/
def Json.text? : Json → Option String
  | .str s => if s = "" then none else some s
  | _ => none

/-- `hit_id` (`utils/es_query.py`): the `_id` a record answers to by its own contents. -/
def hitId (py : Python) (rec : Object) : String :=
  let flat := ["id", "_id", "rule_id", "item_id", "list_id"].map rec.get
  let nested := ["kibana.alert.uuid", "signal.rule.id"].map (getNested py (.dict rec))
  ((flat ++ nested).findSome? Json.text?).getD (py.digest rec)

/-! ## Writing into an object -/

/-- Set the member at a path, creating the objects on the way. -/
def putPath : List String → Json → Object → Object
  | [], _, o => o
  | [k], v, o => Assoc.set k v o
  | k :: rest, v, o => Assoc.set k (.dict (putPath rest v (Object.get o k).fields)) o

/-- `_deep_merge` (`application/es_search/queries.py`): an object is merged member by member, any
    other value replaces the one that was there. -/
def deepMerge (base : Object) : List (String × Json) → Object
  | [] => base
  | (name, .dict o) :: rest =>
    match Assoc.get name base with
    | some (.dict current) => deepMerge (Assoc.set name (.dict (deepMerge current o)) base) rest
    | _ => deepMerge (Assoc.set name (.dict o) base) rest
  | (name, v) :: rest => deepMerge (Assoc.set name v base) rest

end Mockdr
