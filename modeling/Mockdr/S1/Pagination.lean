import Mockdr.Python
import Mockdr.Lib.Keyset

/-!
# Keyset pagination of a list endpoint

`utils/pagination.py` cuts a list into pages. In keyset mode, which is the mode of every list
endpoint with a `CursorSpec`, the cursor of a page holds the identity of its last item, and the next
page starts behind the item of the list that has it (`resumeIndex`).

* `follow` is a client that asks for the first page and then follows `nextCursor` until there is
  none, each request served from the list as it then is.
* `Named` says when a cursor leads back to the item it was made of.
* `keyset_delivers_once`: over a list that stays, the pages give every item once exactly when every
  cursor handed out is such; over lists that are edited between the pages, every item of all of them
  is given once when every cursor handed out is such.
-/

namespace Mockdr.S1

/-! ## Cursors -/

/-- `CursorSpec` -/
structure CursorSpec where
  idColumn : String
  idField : String := "id"
  idSortOrder : String := "asc"
  sortByColumn : String := ""
  sortByField : String := ""
  sortOrder : String := "asc"

namespace CursorSpec

/-- `_sort_by_column` -/
def columnOfSort (spec : CursorSpec) : String :=
  if spec.sortByColumn = "" then spec.idColumn else spec.sortByColumn

/-- `_sort_by_field` -/
def fieldOfSort (spec : CursorSpec) : String :=
  if spec.sortByField = "" then spec.idField else spec.sortByField

end CursorSpec

/-- `AGENT_CURSOR` -/
def agentCursor : CursorSpec := { idColumn := "AgentView.id" }

/-- `FIREWALL_CURSOR` -/
def firewallCursor : CursorSpec where
  idColumn := "FirewallControlRule.created_at"
  idField := "createdAt"
  idSortOrder := "desc"
  sortByColumn := "FirewallControlRule.order"
  sortByField := "order"

/-- The text of a cursor: JSON in base64. -/
structure CursorText where
  /-- `base64.b64encode(json.dumps(payload, separators=(",", ":")).encode()).decode()` -/
  encode : Object → String
  /-- `json.loads(base64.b64decode(text.encode()).decode())`, nothing where it raises -/
  decode : String → Option Json

/-- `str(v or "")` -/
def strOrEmpty (py : Python) (v : Json) : String := if v.truthy then py.toStr v else ""

section

variable (py : Python) (text : CursorText) (spec : CursorSpec)

/-- The payload of the cursor that `_encode_keyset` makes of an item. -/
def keysetPayload (item : Json) : Object :=
  [("id_column", .str spec.idColumn), ("id_value", getNested py item spec.idField),
    ("id_sort_order", .str spec.idSortOrder), ("sort_by_column", .str spec.columnOfSort),
    ("sort_by_value", getNested py item spec.fieldOfSort), ("sort_order", .str spec.sortOrder),
    ("_tiebreak", getNested py item "id")]

/-- `_encode_keyset` -/
def encodeKeyset (item : Json) : String := text.encode (keysetPayload py spec item)

/-- `cursor.replace("%253D", "=").replace("%3D", "=")` -/
def normalized (cursor : String) : String := replace "%3D" "=" (replace "%253D" "=" cursor)

/-- `_decode_keyset_payload` -/
def decodeKeysetPayload (cursor : String) : Object :=
  match text.decode (normalized cursor) with
  | some (.dict payload) => payload
  | _ => []

/-- `_resume_index` -/
def resumeIndex (items : List Json) (idValue tiebreak : Json) : Option Nat :=
  let byId := match tiebreak with
    | .null => none
    | _ => items.findIdx? fun item => strOrEmpty py (getNested py item "id") = py.toStr tiebreak
  let byColumn := items.findIdx? fun item =>
    strOrEmpty py (getNested py item spec.idField) = py.toStr idValue
  (byId.or byColumn).map (· + 1)

/-! ## Pages -/

/-- A list to be cut into pages: a plain list, or one of `Skipped`, which knows how many matched. -/
structure Listing where
  items : List Json
  matched : Option Int := none

/-- What `paginate` answers. -/
structure Page where
  items : List Json
  nextCursor : Option String
  total : Int

/-- Where a page starts, nothing for a cursor that names an item no longer in the list. -/
def startOf (items : List Json) (cursor : Option String) : Option Nat :=
  match cursor with
  | none => some 0
  | some cursor =>
    if cursor = "" then some 0
    else
      let payload := decodeKeysetPayload text cursor
      match Object.get payload "id_value" with
      | .null => some 0
      | idValue => resumeIndex py spec items idValue (Object.get payload "_tiebreak")

/-- `paginate`, with a spec. -/
def paginate (listing : Listing) (cursor : Option String) (limit : Nat) : Page :=
  let items := listing.items
  let total := listing.matched.getD items.length
  match startOf py text spec items cursor with
  | none => ⟨[], none, total⟩
  | some start =>
    let page := (items.drop start).take limit
    let nextCursor := match page.getLast? with
      | some last =>
        if start + page.length < items.length then some (encodeKeyset py text spec last) else none
      | none => none
    ⟨page, nextCursor, total⟩

/-- A client that follows the cursors: the pages it was given by the requests that were served, and
    whether the last of them had no cursor. -/
def follow (limit : Nat) : Option String → List Listing → List (List Json) × Bool
  | _, [] => ([], false)
  | cursor, listing :: listings =>
    let page := paginate py text spec listing cursor limit
    match page.nextCursor with
    | none => ([page.items], true)
    | some cursor =>
      let rest := follow limit (some cursor) listings
      (page.items :: rest.1, rest.2)

end

/-! ## What a cursor leads back to -/

/-- The text of the cursor that holds a payload reads as that payload, whether the padding is
    percent-encoded or not. -/
structure CursorText.ReadsBack (text : CursorText) (payload : Object) : Prop where
  decode : text.decode (text.encode payload) = some (.dict payload)
  noPercent : '%' ∉ (text.encode payload).toList
  notEmpty : text.encode payload ≠ ""

/-- A field of one item reads as the cursor made of another item has it. -/
def ReadsAs (py : Python) (field : String) (c b : Json) : Prop :=
  strOrEmpty py (getNested py b field) = py.toStr (getNested py c field)

instance (py : Python) (field : String) (c b : Json) : Decidable (ReadsAs py field c b) :=
  inferInstanceAs (Decidable (_ = _))

/-- The cursor made of an item leads back to it, in a list where it has `front` before it and `rest`
    behind: its identity column is not null, and it is the first item whose id reads as its own or,
    where no item's does, the first whose identity column reads as its own. -/
def Named (py : Python) (spec : CursorSpec) (front : List Json) (c : Json) (rest : List Json) :
    Prop :=
  getNested py c spec.idField ≠ .null
    ∧ ((ReadsAs py "id" c c ∧ ∀ b ∈ front, ¬ ReadsAs py "id" c b)
      ∨ (∀ b ∈ front ++ c :: rest, ¬ ReadsAs py "id" c b)
        ∧ ReadsAs py spec.idField c c ∧ ∀ b ∈ front, ¬ ReadsAs py spec.idField c b)

/-- The ids of the items are not null and pairwise distinct. -/
def DistinctIds (py : Python) (items : List Json) : Prop :=
  (∀ item ∈ items, getNested py item "id" ≠ .null)
    ∧ items.Pairwise fun a b => getNested py a "id" ≠ getNested py b "id"

lemma DistinctIds.nodup {py : Python} {items : List Json} (h : DistinctIds py items) :
    items.Nodup := by
  refine h.2.imp ?_
  rintro a b hab rfl
  exact hab rfl

section

variable {py : Python} {text : CursorText} {spec : CursorSpec}

lemma replaceFrom_of_not_mem {c : Char} {old new l : List Char} (h : c ∉ l) :
    replaceFrom (c :: old) new 0 l = l := by
  induction l with
  | nil => rfl
  | cons b l ih =>
    obtain ⟨hb, hl⟩ := List.ne_and_not_mem_of_not_mem_cons h
    have hne : (c == b) = false := beq_false_of_ne hb
    rw [replaceFrom, List.isPrefixOf_cons_cons, hne, Bool.false_and, if_neg Bool.false_ne_true,
      ih hl]

lemma normalized_of_not_mem {cursor : String} (h : '%' ∉ cursor.toList) :
    normalized cursor = cursor := by
  have hone : replaceFrom ['%', '2', '5', '3', 'D'] ['='] 0 cursor.toList = cursor.toList :=
    replaceFrom_of_not_mem h
  have htwo : replaceFrom ['%', '3', 'D'] ['='] 0 cursor.toList = cursor.toList :=
    replaceFrom_of_not_mem h
  change String.ofList (replaceFrom ['%', '3', 'D'] ['='] 0
    (String.ofList (replaceFrom ['%', '2', '5', '3', 'D'] ['='] 0 cursor.toList)).toList) = cursor
  rw [hone, String.toList_ofList, htwo, String.ofList_toList]

lemma decodeKeysetPayload_encode {payload : Object} (h : text.ReadsBack payload) :
    decodeKeysetPayload text (text.encode payload) = payload := by
  rw [decodeKeysetPayload, normalized_of_not_mem h.noPercent, h.decode]

/-- Where a list is first met by a predicate: at the element behind a given front part. -/
lemma findIdx?_middle_iff {α : Type*} {p : α → Bool} {front rest : List α} {c : α} :
    (front ++ c :: rest).findIdx? p = some front.length
      ↔ p c = true ∧ ∀ b ∈ front, p b = false := by
  rw [List.findIdx?_append]
  cases hf : front.findIdx? p with
  | some i =>
    obtain ⟨hi, hp, -⟩ := List.findIdx?_eq_some_iff_getElem.1 hf
    constructor
    · intro h
      have hlen : i = front.length := Option.some.inj h
      omega
    · rintro ⟨-, hall⟩
      rw [hall _ (List.getElem_mem hi)] at hp
      cases hp
  | none =>
    rw [List.findIdx?_eq_none_iff] at hf
    rw [List.findIdx?_cons]
    cases hc : p c with
    | true => simpa using hf
    | false =>
      simp only [Bool.false_eq_true, if_false, Option.none_or, Option.map_map,
        Option.map_eq_some_iff, Function.comp_apply, false_and, iff_false, not_exists, not_and]
      intro i _
      omega

/-- The cursor made of an item of a list leads behind that item exactly when it names it. -/
lemma startOf_encodeKeyset_iff {front rest : List Json} {c : Json}
    (hread : text.ReadsBack (keysetPayload py spec c)) (hid : getNested py c "id" ≠ .null) :
    startOf py text spec (front ++ c :: rest) (some (encodeKeyset py text spec c))
        = some (front.length + 1)
      ↔ Named py spec front c rest := by
  have hvalue : Object.get (keysetPayload py spec c) "id_value" = getNested py c spec.idField := rfl
  have htie : Object.get (keysetPayload py spec c) "_tiebreak" = getNested py c "id" := rfl
  rw [startOf]
  dsimp only
  rw [if_neg (show encodeKeyset py text spec c ≠ "" from hread.notEmpty), encodeKeyset,
    decodeKeysetPayload_encode hread, hvalue, htie, Named]
  split
  · next hnull =>
    constructor
    · rintro ⟨⟩
    · intro h
      exact absurd hnull h.1
  · next hne =>
    rw [and_iff_right hne, resumeIndex, Option.map_eq_some_iff]
    simp only [Nat.add_right_cancel_iff, exists_eq_right]
    rw [Option.or_eq_some_iff, findIdx?_middle_iff, findIdx?_middle_iff, List.findIdx?_eq_none_iff]
    · simp only [ReadsAs, decide_eq_true_eq, decide_eq_false_iff_not]
    · exact hid

lemma strOrEmpty_str (s : String) : strOrEmpty py (.str s) = s := by
  rw [strOrEmpty]
  split
  · rfl
  · next h =>
    have hs : s = "" := by simpa [Json.truthy] using h
    exact hs.symm

lemma named_of_strings {items front rest : List Json} {c : Json} (hspec : spec.idField = "id")
    (hd : DistinctIds py items) (hs : ∀ item ∈ items, ∃ s, getNested py item "id" = .str s)
    (hsplit : items = front ++ c :: rest) : Named py spec front c rest := by
  subst hsplit
  have hc : c ∈ front ++ c :: rest := List.mem_append_right _ List.mem_cons_self
  obtain ⟨s, hcs⟩ := hs c hc
  refine ⟨?_, .inl ⟨?_, ?_⟩⟩
  · rw [hspec]
    exact hd.1 c hc
  · rw [ReadsAs, hcs, strOrEmpty_str]
    rfl
  · intro b hb hsame
    obtain ⟨t, hbt⟩ := hs b (List.mem_append_left _ hb)
    rw [ReadsAs, hcs, hbt, strOrEmpty_str] at hsame
    obtain rfl : t = s := hsame
    exact (List.pairwise_append.1 hd.2).2.2 b hb c List.mem_cons_self (hbt.trans hcs.symm)

/-! ## A list that stays -/

/-- The pages of a list that stays, from the first on, end, and give every item once and in order.
    -/
def DeliversAll (py : Python) (text : CursorText) (spec : CursorSpec) (limit : Nat)
    (listing : Listing) : Prop :=
  ∃ n pages, follow py text spec limit none (List.replicate n listing) = (pages, true)
    ∧ pages.flatten = listing.items

/-- The cursor of every page that is not the last leads back to the item it was made of. -/
def EndsNamed (py : Python) (spec : CursorSpec) (limit : Nat) (items : List Json) : Prop :=
  ∀ front c rest, items = front ++ c :: rest → limit ∣ front.length + 1 → rest ≠ [] →
    Named py spec front c rest

variable {limit : Nat} {listing : Listing} {cursor : Option String}

/-- A page that starts behind `k` pages: its items, and its cursor where items are left. -/
lemma paginate_of_startOf {k : Nat} (hl : 0 < limit)
    (hstart : startOf py text spec listing.items cursor = some (k * limit)) :
    let page := paginate py text spec listing cursor limit
    page.items = (listing.items.drop (k * limit)).take limit
      ∧ (listing.items.length ≤ (k + 1) * limit → page.nextCursor = none)
      ∧ ∀ front c rest, listing.items = front ++ c :: rest → rest ≠ [] →
        front.length + 1 = (k + 1) * limit →
        page.nextCursor = some (encodeKeyset py text spec c) := by
  rw [paginate]
  dsimp only
  rw [hstart]
  dsimp only
  refine ⟨rfl, ?_, ?_⟩
  · intro hlen
    rw [Nat.succ_mul] at hlen
    split
    · rw [if_neg]
      rw [List.length_take, List.length_drop]
      omega
    · rfl
  · intro front c rest hitems hrest hk
    rw [Nat.succ_mul] at hk
    have hpos := List.length_pos_iff.2 hrest
    have hlen : listing.items.length = front.length + 1 + rest.length := by
      rw [hitems]
      simp only [List.length_append, List.length_cons]
      omega
    have hlast : ((listing.items.drop (k * limit)).take limit).getLast? = some c := by
      have hindex : k * limit + (min limit (listing.items.length - k * limit) - 1)
          = front.length := by omega
      rw [List.getLast?_eq_getElem?, List.length_take, List.length_drop,
        List.getElem?_take_of_lt (by omega), List.getElem?_drop, hindex, hitems,
        List.getElem?_append_right (Nat.le_refl _), Nat.sub_self]
      rfl
    rw [hlast]
    dsimp only
    rw [if_pos]
    rw [List.length_take, List.length_drop]
    omega

lemma follow_cons {listings : List Listing} :
    follow py text spec limit cursor (listing :: listings)
      = match (paginate py text spec listing cursor limit).nextCursor with
        | none => ([(paginate py text spec listing cursor limit).items], true)
        | some next =>
          ((paginate py text spec listing cursor limit).items
              :: (follow py text spec limit (some next) listings).1,
            (follow py text spec limit (some next) listings).2) := rfl

lemma follow_of_some {listings : List Listing} {next : String}
    (h : (paginate py text spec listing cursor limit).nextCursor = some next) :
    follow py text spec limit cursor (listing :: listings)
      = ((paginate py text spec listing cursor limit).items
          :: (follow py text spec limit (some next) listings).1,
        (follow py text spec limit (some next) listings).2) := by
  rw [follow_cons, h]

lemma exists_eq_append_cons {items : List Json} {i : Nat} (h : i < items.length) :
    ∃ front c rest, items = front ++ c :: rest ∧ front.length = i := by
  refine ⟨items.take i, items[i], items.drop (i + 1), ?_, ?_⟩
  · rw [List.getElem_cons_drop, List.take_append_drop]
  · rw [List.length_take, Nat.min_eq_left h.le]

lemma follow_last {k : Nat} {listings : List Listing} (hl : 0 < limit)
    (hstart : startOf py text spec listing.items cursor = some (k * limit))
    (hlen : listing.items.length ≤ (k + 1) * limit) :
    follow py text spec limit cursor (listing :: listings)
      = ([listing.items.drop (k * limit)], true) := by
  obtain ⟨hitems, hnone, -⟩ := paginate_of_startOf hl hstart
  rw [follow_cons, hnone hlen, hitems, List.take_of_length_le]
  rw [Nat.succ_mul] at hlen
  rw [List.length_drop]
  omega

/-- Pages that start behind `k` pages give all that is left, if every cursor is a name. -/
lemma follow_of_endsNamed (hl : 0 < limit) (hd : DistinctIds py listing.items)
    (hread : ∀ item ∈ listing.items, text.ReadsBack (keysetPayload py spec item))
    (hends : EndsNamed py spec limit listing.items) (m k : Nat)
    (hstart : startOf py text spec listing.items cursor = some (k * limit))
    (hlen : listing.items.length ≤ (k + m + 1) * limit) :
    ∃ pages, follow py text spec limit cursor (List.replicate (m + 1) listing) = (pages, true)
      ∧ pages.flatten = listing.items.drop (k * limit) := by
  induction m generalizing k cursor with
  | zero => exact ⟨_, follow_last hl hstart hlen, List.flatten_singleton⟩
  | succ m ih =>
    obtain ⟨hitems, hnone, hsome⟩ := paginate_of_startOf hl hstart
    by_cases hshort : listing.items.length ≤ (k + 1) * limit
    · exact ⟨_, follow_last hl hstart hshort, List.flatten_singleton⟩
    · have hk : 0 < (k + 1) * limit := Nat.mul_pos k.succ_pos hl
      obtain ⟨front, c, rest, hsplit, hfront⟩ :=
        exists_eq_append_cons (i := (k + 1) * limit - 1) (by omega : _ < listing.items.length)
      have hend : front.length + 1 = (k + 1) * limit := by omega
      have hrest : rest ≠ [] := by
        rintro rfl
        rw [hsplit, List.length_append, List.length_singleton] at hshort
        omega
      have hmem : c ∈ listing.items := by
        rw [hsplit]
        exact List.mem_append_right _ List.mem_cons_self
      have hnamed := hends front c rest hsplit ⟨k + 1, by rw [hend, Nat.mul_comm]⟩ hrest
      have hnext : startOf py text spec listing.items (some (encodeKeyset py text spec c))
          = some ((k + 1) * limit) := by
        rw [hsplit, (startOf_encodeKeyset_iff (hread c hmem) (hd.1 c hmem)).2 hnamed, hend]
      obtain ⟨pages, hfollow, hflat⟩ := ih (k + 1) hnext (by
        have e : k + 1 + m + 1 = k + (m + 1) + 1 := by omega
        rwa [e])
      refine ⟨(listing.items.drop (k * limit)).take limit :: pages, ?_, ?_⟩
      · rw [List.replicate_succ, follow_of_some (hsome front c rest hsplit hrest hend), hfollow,
          hitems]
      · rw [List.flatten_cons, hflat, Nat.succ_mul, ← List.drop_drop,
          List.take_append_drop]

/-- The first item of a page is the one it starts at. -/
lemma head?_follow {q : Nat} (hl : 0 < limit)
    (hstart : startOf py text spec listing.items cursor = some q) (listings : List Listing) :
    (follow py text spec limit cursor (listing :: listings)).1.flatten.head?
      = listing.items[q]? := by
  have hhead : ((listing.items.drop q).take limit).head? = listing.items[q]? := by
    obtain ⟨n, rfl⟩ := Nat.exists_eq_succ_of_ne_zero (Nat.ne_of_gt hl)
    rw [← List.head?_drop]
    cases listing.items.drop q with
    | nil => rfl
    | cons a l => rfl
  rw [follow_cons, paginate]
  dsimp only
  rw [hstart]
  dsimp only
  cases hlast : ((listing.items.drop q).take limit).getLast? with
  | none =>
    dsimp only
    rw [List.flatten_singleton, hhead]
  | some last =>
    dsimp only
    split
    · rw [List.flatten_singleton, hhead]
    · rw [List.flatten_cons, List.head?_append, hhead]
      cases hq : listing.items[q]? with
      | some a => rfl
      | none =>
        rw [List.drop_eq_nil_of_le (List.getElem?_eq_none_iff.1 hq), List.take_nil] at hlast
        cases hlast

/-- Pages that give all that is left have cursors that are names. -/
lemma endsNamed_of_follow (hl : 0 < limit) (hd : DistinctIds py listing.items)
    (hread : ∀ item ∈ listing.items, text.ReadsBack (keysetPayload py spec item))
    (n k : Nat) {pages : List (List Json)}
    (hstart : startOf py text spec listing.items cursor = some (k * limit))
    (hfollow : follow py text spec limit cursor (List.replicate n listing) = (pages, true))
    (hflat : pages.flatten = listing.items.drop (k * limit)) {front rest : List Json} {c : Json}
    (hsplit : listing.items = front ++ c :: rest) (hdvd : limit ∣ front.length + 1)
    (hrest : rest ≠ []) (hk : k * limit < front.length + 1) : Named py spec front c rest := by
  induction n generalizing k cursor pages with
  | zero => cases hfollow
  | succ n ih =>
    obtain ⟨hitems, hnone, hsome⟩ := paginate_of_startOf hl hstart
    have hlong : front.length + 1 < listing.items.length := by
      have hpos := List.length_pos_iff.2 hrest
      rw [hsplit, List.length_append, List.length_cons]
      omega
    -- The place of `c` is the end of this page or of a later one.
    have hle : (k + 1) * limit ≤ front.length + 1 := by
      obtain ⟨j, hj⟩ := hdvd
      rw [hj, Nat.mul_comm limit] at hk ⊢
      exact Nat.mul_le_mul_right limit (Nat.lt_of_mul_lt_mul_right hk)
    have hpos : 0 < (k + 1) * limit := Nat.mul_pos k.succ_pos hl
    obtain ⟨front', c', rest', hsplit', hfront'⟩ :=
      exists_eq_append_cons (i := (k + 1) * limit - 1) (by omega : _ < listing.items.length)
    have hend : front'.length + 1 = (k + 1) * limit := by omega
    have hrest' : rest' ≠ [] := by
      rintro rfl
      rw [hsplit', List.length_append, List.length_singleton] at hlong
      omega
    have hmem : c' ∈ listing.items := by
      rw [hsplit']
      exact List.mem_append_right _ List.mem_cons_self
    rw [List.replicate_succ, follow_of_some (hsome front' c' rest' hsplit' hrest' hend)] at hfollow
    obtain ⟨rfl, hlater⟩ := Prod.mk.inj hfollow
    have hflat' : (follow py text spec limit (some (encodeKeyset py text spec c'))
        (List.replicate n listing)).1.flatten = listing.items.drop ((k + 1) * limit) := by
      rw [List.flatten_cons, hitems] at hflat
      have hcut := List.take_append_drop limit (listing.items.drop (k * limit))
      rw [List.drop_drop, ← Nat.succ_mul] at hcut
      exact List.append_cancel_left (hflat.trans hcut.symm)
    -- The next page starts where this one ends: its first item is the next of the list.
    have hnext : startOf py text spec listing.items (some (encodeKeyset py text spec c'))
        = some ((k + 1) * limit) := by
      obtain ⟨n, rfl⟩ : ∃ n', n = n' + 1 := by
        cases n with
        | zero => cases hlater
        | succ n => exact ⟨n, rfl⟩
      have hlt : (k + 1) * limit < listing.items.length := by omega
      have hhead : listing.items[(k + 1) * limit]? = some listing.items[(k + 1) * limit] :=
        List.getElem?_eq_getElem hlt
      cases hq : startOf py text spec listing.items (some (encodeKeyset py text spec c')) with
      | none =>
        exfalso
        rw [List.replicate_succ, follow_cons, paginate] at hflat'
        dsimp only at hflat'
        rw [hq] at hflat'
        have hnil : listing.items.drop ((k + 1) * limit) = [] := hflat'.symm
        rw [List.drop_eq_nil_iff] at hnil
        omega
      | some q =>
        have h := head?_follow hl hq (List.replicate n listing)
        rw [← List.replicate_succ, hflat', List.head?_drop, hhead] at h
        obtain ⟨hlt, hget⟩ := List.getElem?_eq_some_iff.1 h.symm
        rw [hd.nodup.getElem_inj_iff] at hget
        rw [hget]
    rcases Nat.eq_or_lt_of_le hle with he | hlt
    · obtain ⟨rfl, hcons⟩ := List.append_inj (hsplit'.symm.trans hsplit) (by omega)
      obtain ⟨rfl, rfl⟩ := List.cons.inj hcons
      rw [← startOf_encodeKeyset_iff (hread c' hmem) (hd.1 c' hmem), ← hsplit', hnext, hend]
    · exact ih (k + 1) hnext (Prod.ext rfl hlater) hflat' hlt

lemma deliversAll_iff (hl : 0 < limit) (hd : DistinctIds py listing.items)
    (hread : ∀ item ∈ listing.items, text.ReadsBack (keysetPayload py spec item)) :
    DeliversAll py text spec limit listing ↔ EndsNamed py spec limit listing.items := by
  have hstart : startOf py text spec listing.items none = some (0 * limit) := by
    rw [Nat.zero_mul]
    rfl
  constructor
  · rintro ⟨n, pages, hfollow, hflat⟩ front c rest hsplit hdvd hrest
    refine endsNamed_of_follow hl hd hread n 0 hstart hfollow ?_ hsplit hdvd hrest ?_
    · rw [hflat, Nat.zero_mul, List.drop_zero]
    · rw [Nat.zero_mul]
      exact Nat.succ_pos _
  · intro hends
    have hlen : listing.items.length ≤ (0 + listing.items.length + 1) * limit :=
      le_trans (by omega) (Nat.le_mul_of_pos_right _ hl)
    obtain ⟨pages, hfollow, hflat⟩ :=
      follow_of_endsNamed hl hd hread hends listing.items.length 0 hstart hlen
    rw [Nat.zero_mul, List.drop_zero] at hflat
    exact ⟨_, pages, hfollow, hflat⟩

/-! ## A list that is edited between the pages -/

/-- Every cursor that is followed leads back, in the list as it then is, to the item it was made of.
    -/
def NamedAlong (py : Python) (text : CursorText) (spec : CursorSpec) (limit : Nat) :
    Option Json → List Listing → Prop
  | _, [] => True
  | c, listing :: listings =>
    let page := paginate py text spec listing (c.map (encodeKeyset py text spec)) limit
    (∀ d ∈ c, ∃ front rest, listing.items = front ++ d :: rest ∧ Named py spec front d rest)
      ∧ (page.nextCursor ≠ none → NamedAlong py text spec limit page.items.getLast? listings)

lemma exists_startOf {c : Option Json} (hd : DistinctIds py listing.items)
    (hread : ∀ item ∈ listing.items, text.ReadsBack (keysetPayload py spec item))
    (hnamed : ∀ d ∈ c, ∃ front rest, listing.items = front ++ d :: rest
      ∧ Named py spec front d rest) :
    ∃ start, startOf py text spec listing.items (c.map (encodeKeyset py text spec)) = some start
      ∧ ReadsFrom listing.items c (listing.items.drop start) := by
  cases c with
  | none => exact ⟨0, rfl, List.drop_zero⟩
  | some d =>
    obtain ⟨front, rest, hsplit, hname⟩ := hnamed d rfl
    have hmem : d ∈ listing.items := by
      rw [hsplit]
      exact List.mem_append_right _ List.mem_cons_self
    refine ⟨front.length + 1, ?_, front, ?_⟩
    · rw [hsplit]
      exact (startOf_encodeKeyset_iff (hread d hmem) (hd.1 d hmem)).2 hname
    · rw [hsplit, ← List.singleton_append, ← List.append_assoc, List.drop_left']
      · simp
      · simp

/-- A client whose cursors are all names reads in turns. -/
lemma turns_of_follow (hl : 0 < limit) {listings : List Listing} {c : Option Json}
    {pages : List (List Json)}
    (hd : ∀ listing ∈ listings, DistinctIds py listing.items)
    (hread : ∀ listing ∈ listings, ∀ item ∈ listing.items,
      text.ReadsBack (keysetPayload py spec item))
    (hnamed : NamedAlong py text spec limit c listings)
    (hfollow : follow py text spec limit (c.map (encodeKeyset py text spec)) listings
      = (pages, true)) : Turns limit c (listings.map Listing.items) pages := by
  induction listings generalizing c pages with
  | nil => cases hfollow
  | cons listing listings ih =>
    obtain ⟨hname, hlater⟩ := hnamed
    obtain ⟨start, hstart, hfrom⟩ :=
      exists_startOf (hd _ List.mem_cons_self) (hread _ List.mem_cons_self) hname
    rw [follow_cons] at hfollow
    rw [paginate] at hfollow hlater
    dsimp only at hfollow hlater
    rw [hstart] at hfollow hlater
    dsimp only at hfollow hlater
    cases hlast : ((listing.items.drop start).take limit).getLast? with
    | none =>
      rw [hlast] at hfollow
      obtain ⟨rfl, -⟩ := Prod.mk.inj hfollow
      have hnil := List.getLast?_eq_none_iff.1 hlast
      have hrest : listing.items.drop start = [] := by
        rcases List.take_eq_nil_iff.1 hnil with h | h
        · omega
        · exact h
      rw [hrest] at hfrom ⊢
      rw [List.take_nil]
      exact .last hfrom (Nat.zero_le limit)
    | some last =>
      rw [hlast] at hfollow hlater
      dsimp only at hfollow hlater
      split_ifs at hfollow hlater with hmore
      · obtain ⟨rfl, hdone⟩ := Prod.mk.inj hfollow
        exact .more hfrom hlast (ih (fun l hm => hd l (List.mem_cons_of_mem _ hm))
          (fun l hm => hread l (List.mem_cons_of_mem _ hm)) (hlater (Option.some_ne_none _))
          (Prod.ext rfl hdone))
      · obtain ⟨rfl, -⟩ := Prod.mk.inj hfollow
        rw [List.length_take, List.length_drop] at hmore
        have hall : (listing.items.drop start).length ≤ limit := by
          rw [List.length_drop]
          omega
        rw [List.take_of_length_le hall]
        exact .last hfrom hall

end

/-- The pages of a list that stays give every item once, in order, and end, exactly when the cursor
    of every page but the last is a name. Of lists that are edited between the pages, other than at
    the item a cursor names, every item that is in all of them is given once by a reading that
    ended and whose cursors were names. -/
theorem keyset_delivers_once (py : Python) (text : CursorText) (spec : CursorSpec) (limit : Nat)
    (hl : 0 < limit) :
    (∀ listing : Listing, DistinctIds py listing.items →
      (∀ item ∈ listing.items, text.ReadsBack (keysetPayload py spec item)) →
      (DeliversAll py text spec limit listing ↔ EndsNamed py spec limit listing.items))
    ∧ ∀ (listings : List Listing) (pages : List (List Json)),
      (∀ listing ∈ listings, DistinctIds py listing.items) →
      (∀ listing ∈ listings, ∀ item ∈ listing.items,
        text.ReadsBack (keysetPayload py spec item)) →
      (listings.map Listing.items).IsChain Edited →
      NamedAlong py text spec limit none listings →
      follow py text spec limit none listings = (pages, true) →
      ∀ item, (∀ listing ∈ listings, item ∈ listing.items) → Once item pages.flatten := by
  refine ⟨fun listing hd hread => deliversAll_iff hl hd hread, ?_⟩
  intro listings pages hd hread hedit hnamed hfollow item hitem
  have hturns := turns_of_follow hl hd hread hnamed hfollow
  refine hturns.once ?_ hedit ?_
  · intro l hm
    obtain ⟨listing, hmem, rfl⟩ := List.mem_map.1 hm
    exact (hd listing hmem).nodup
  · intro l hm
    obtain ⟨listing, hmem, rfl⟩ := List.mem_map.1 hm
    exact hitem listing hmem

/-- A record that is nothing but its id. -/
def bare (id : Json) : Json := .dict [("id", id)]

/-- A cursor text that is the id of the item alone, and is read by looking for that item. -/
def bareText (items : List Json) : CursorText where
  encode payload := "c" ++ asciiPython.toStr (Object.get payload "_tiebreak")
  decode text :=
    ((items.map (keysetPayload asciiPython agentCursor)).find? fun payload =>
      "c" ++ asciiPython.toStr (Object.get payload "_tiebreak") = text).map .dict

/-- The records of a list of string ids. -/
def withIds (ids : List String) : List Json := ids.map fun s => bare (.str s)

lemma distinctIds_withIds {ids : List String} (h : ids.Nodup) :
    DistinctIds asciiPython (withIds ids) := by
  have hid : ∀ s : String, getNested asciiPython (bare (.str s)) "id" = .str s := fun _ => rfl
  constructor
  · intro item hitem
    obtain ⟨s, -, rfl⟩ := List.mem_map.1 hitem
    rw [hid]
    exact Json.noConfusion
  · refine List.pairwise_map.2 (h.imp ?_)
    intro a b hne
    rw [hid, hid]
    intro heq
    exact hne (Json.str.inj heq)

lemma named_withIds {ids : List String} (h : ids.Nodup) {front rest : List Json} {c : Json}
    (hsplit : withIds ids = front ++ c :: rest) : Named asciiPython agentCursor front c rest := by
  refine named_of_strings rfl (distinctIds_withIds h) ?_ hsplit
  intro item hitem
  obtain ⟨s, -, rfl⟩ := List.mem_map.1 hitem
  exact ⟨s, rfl⟩

/-- Three agents read one by one, from a list that stays, and from one where another takes the place
    of the second after the first page. -/
theorem keyset_delivers_once_three :
    let text := bareText (withIds ["a", "b", "c", "d"])
    DeliversAll asciiPython text agentCursor 1 ⟨withIds ["a", "b", "c"], none⟩
      ∧ Once (bare (.str "c")) (withIds ["a", "d", "c"]) := by
  have hread : ∀ item ∈ withIds ["a", "b", "c", "d"],
      (bareText (withIds ["a", "b", "c", "d"])).ReadsBack
        (keysetPayload asciiPython agentCursor item) := by
    simp only [withIds, List.map_cons, List.map_nil, List.forall_mem_cons]
    exact ⟨⟨rfl, by decide +kernel, by decide +kernel⟩, ⟨rfl, by decide +kernel, by decide +kernel⟩,
      ⟨rfl, by decide +kernel, by decide +kernel⟩, ⟨rfl, by decide +kernel, by decide +kernel⟩,
      fun _ h => absurd h List.not_mem_nil⟩
  have hkeep : ∀ ids : List String, ids ⊆ ["a", "b", "c", "d"] → ∀ item ∈ withIds ids,
      (bareText (withIds ["a", "b", "c", "d"])).ReadsBack
        (keysetPayload asciiPython agentCursor item) := by
    intro ids hsub item hitem
    exact hread item (List.map_subset _ hsub hitem)
  have habc : (["a", "b", "c"] : List String).Nodup := by decide
  have hadc : (["a", "d", "c"] : List String).Nodup := by decide
  obtain ⟨hstays, hedited⟩ := keyset_delivers_once asciiPython
    (bareText (withIds ["a", "b", "c", "d"])) agentCursor 1 Nat.one_pos
  refine ⟨(hstays ⟨withIds ["a", "b", "c"], none⟩ (distinctIds_withIds habc)
    (hkeep _ (by decide))).2 fun front c rest hsplit _ _ => named_withIds habc hsplit, ?_⟩
  refine hedited [⟨withIds ["a", "b", "c"], none⟩, ⟨withIds ["a", "d", "c"], none⟩,
    ⟨withIds ["a", "d", "c"], none⟩] [withIds ["a"], withIds ["d"], withIds ["c"]] ?_ ?_ ?_ ?_ rfl
    (bare (.str "c")) ?_
  · simp only [List.forall_mem_cons]
    exact ⟨distinctIds_withIds habc, distinctIds_withIds hadc, distinctIds_withIds hadc,
      fun _ h => absurd h List.not_mem_nil⟩
  · simp only [List.forall_mem_cons]
    exact ⟨hkeep _ (by decide), hkeep _ (by decide), hkeep _ (by decide),
      fun _ h => absurd h List.not_mem_nil⟩
  · refine .cons_cons ⟨withIds ["a", "c"], ?_, ?_, ?_⟩ (.cons_cons (Edited.refl _) (.singleton _))
    · exact (List.Sublist.cons _ (List.Sublist.refl _)).cons_cons _
    · exact (List.Sublist.cons _ (List.Sublist.refl _)).cons_cons _
    · intro item h h'
      obtain ⟨s, hs, rfl⟩ := List.mem_map.1 h
      obtain ⟨t, ht, hts⟩ := List.mem_map.1 h'
      have hst : (.str t : Json) = .str s := congrArg (fun j => Json.fields j |>.get "id") hts
      obtain rfl := Json.str.inj hst
      refine List.mem_map_of_mem ?_
      simp only [List.mem_cons, List.not_mem_nil, or_false] at hs ht ⊢
      rcases hs with rfl | rfl | rfl
      · exact .inl rfl
      · simp at ht
      · exact .inr rfl
  · refine ⟨by rintro _ ⟨⟩, fun _ => ⟨?_, fun _ => ⟨?_, fun h => absurd rfl h⟩⟩⟩
    · rintro _ ⟨⟩
      exact ⟨[], withIds ["d", "c"], rfl, named_withIds hadc rfl⟩
    · rintro _ ⟨⟩
      exact ⟨withIds ["a"], withIds ["c"], rfl, named_withIds hadc rfl⟩
  · simp only [List.forall_mem_cons]
    exact ⟨by simp [withIds], by simp [withIds], by simp [withIds],
      fun _ h => absurd h List.not_mem_nil⟩

/-- An item whose id is the number 0 is not found again: after it the reading ends, and the item
    behind it is never given. -/
theorem zero_id_cuts_off :
    DistinctIds asciiPython [bare (.int 0), bare (.int 1)]
      ∧ ¬ DeliversAll asciiPython (bareText [bare (.int 0), bare (.int 1)]) agentCursor 1
        ⟨[bare (.int 0), bare (.int 1)], none⟩ := by
  have hd : DistinctIds asciiPython [bare (.int 0), bare (.int 1)] := by
    have hid : ∀ n : Int, getNested asciiPython (bare (.int n)) "id" = .int n := fun _ => rfl
    simp [DistinctIds, hid]
  refine ⟨hd, fun h => ?_⟩
  rw [deliversAll_iff Nat.one_pos hd] at h
  · obtain ⟨-, hid | hcolumn⟩ := h [] _ _ rfl ⟨_, (Nat.one_mul _).symm⟩ (List.cons_ne_nil _ _)
    · exact absurd hid.1 (by decide +kernel)
    · exact absurd hcolumn.2.1 (by decide +kernel)
  · simp only [List.forall_mem_cons]
    exact ⟨⟨rfl, by decide +kernel, by decide +kernel⟩, ⟨rfl, by decide +kernel, by decide +kernel⟩,
      fun _ h => absurd h List.not_mem_nil⟩

end Mockdr.S1
