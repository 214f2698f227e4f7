import Mockdr.Elastic.Resolution
import Mockdr.Lib.Paging
import Mockdr.Lib.Run

/-!
# Scrolling

The scroll of `application/es_search/queries.py`: a search that is opened with a `scroll` keeps its
request and an offset in a context, and every further page is a new search, at the next offset.

* `scroll` is one further page, and `openScroll` the search that opens a scroll.
* `ScrollStep` is what happens between two pages: any other client may change the store.
-/

namespace Mockdr.Elastic

/-! ## Contexts -/

/-- `_TIME_UNITS`, in seconds. -/
def timeUnits : List (String × ℚ) :=
  [("nanos", 1 / 1000000000), ("micros", 1 / 1000000), ("ms", 1 / 1000), ("s", 1), ("m", 60),
    ("h", 3600), ("d", 86400)]

/-- The decimal number some digits are. -/
def decimal (digits : List Nat) : ℚ := ((digits.foldl (fun n d => 10 * n + d) 0 : Nat) : ℚ)

/-- `keep_alive_seconds`: a number, with digits behind a point or without, and a unit, as
    `_TIME_VALUE` matches them. -/
def keepAliveSeconds (py : Python) : Json → Option ℚ
  | .str text =>
    let isDigit := fun c => (py.digit c).isSome
    let cs := (strip text).toList
    let whole := cs.takeWhile isDigit
    let rest := cs.dropWhile isDigit
    let fraction := match rest with
      | '.' :: rest => rest.takeWhile isDigit
      | _ => []
    let rest := if fraction = [] then rest else rest.drop (fraction.length + 1)
    let unit := String.ofList (rest.dropWhile isSpace)
    if whole = [] then none
    else (Assoc.get unit timeUnits).map fun seconds =>
      (decimal (whole.filterMap py.digit)
        + decimal (fraction.filterMap py.digit) / 10 ^ fraction.length) * seconds
  | _ => none

/-- `_context_expired` -/
def contextExpired (context : SearchContext) (now : ℚ) : Bool :=
  match context.keepAlive with
  | none => false
  | some lifetime => context.accessedAt + lifetime < now

/-- Save a context. -/
def saveContext (s : EsStore) (contextId : String) (context : SearchContext) : EsStore :=
  { s with contexts := save "es_search_contexts" contextId context s.contexts }

/-- `_live_context`: the context, its keep-alive restarted, unless it has expired. -/
def liveContext (py : Python) (s : EsStore) (contextId : String) (keepAlive : Json) (now : ℚ) :
    EsStore × Option SearchContext :=
  match s.contexts.get contextId with
  | none => (s, none)
  | some context =>
    if contextExpired context now then
      ({ s with contexts := s.contexts.erase contextId }, none)
    else
      let context := { context with
        keepAlive := (keepAliveSeconds py keepAlive).or context.keepAlive
        accessedAt := now }
      ({ s with contexts := s.contexts.set contextId context }, some context)

/-- `open_context`, for a fresh id. -/
def openContext (py : Python) (s : EsStore) (contextId index : String) (body : Object)
    (kind : String) (keepAlive : Json) (now : ℚ) : EsStore :=
  saveContext s contextId
    { index, body, offset := 0, kind
      keepAlive := keepAliveSeconds py keepAlive
      accessedAt := now }

/-! ## A scroll -/

/-- What a scroll raises. -/
inductive ScrollError where
  /-- `ScrollIdUnparsableError` -/
  | idUnparsable (contextId : String)
  /-- `SearchContextMissingError`: `No search context found for id [context_id]` -/
  | contextMissing (contextId : String)
  /-- what the search of a page raises -/
  | search (e : SearchError)

/-- `_SCROLL_ID`: 32 hexadecimal digits; the `$` of the pattern lets a newline follow. -/
def isScrollId (contextId : String) : Bool :=
  let isHex := fun c : Char => c.isDigit || ('a' ≤ c && c ≤ 'f')
  let digits := contextId.toList.take 32
  let rest := contextId.toList.drop 32
  digits.length = 32 && digits.all isHex && (rest = [] || rest = ['\n'])

/-- `int(v)` -/
def pyInt (py : Python) : Json → Option Int
  | .bool b => some (if b then 1 else 0)
  | .int n => some n
  | .float q => some (if q < 0 then ⌈q⌉ else ⌊q⌋)
  | .str text => py.parseInt text
  | _ => none

/-- `_SCROLL_DEFAULT_SIZE` -/
def scrollDefaultSize : Int := 10

/-- The size a scroll pages by: `int(body.get("size", default) or default)`. -/
def scrollSize (py : Python) (body : Object) : Option Int :=
  pyInt py (orElse ((Assoc.get "size" body).getD (.int scrollDefaultSize)) (.int scrollDefaultSize))

/-- `{**body, "from": offset, "size": size}` -/
def pageBody (body : Object) (offset size : Int) : Object :=
  Assoc.set "size" (.int size) (Assoc.set "from" (.int offset) body)

/-- `scroll` -/
def scroll (py : Python) (engine : Engine) (s : EsStore) (contextId : String) (keepAlive : Json)
    (now : ℚ) : EsStore × Except ScrollError SearchResult :=
  if !isScrollId contextId then (s, .error (.idUnparsable contextId))
  else
    match liveContext py s contextId keepAlive now with
    | (s, none) => (s, .error (.contextMissing contextId))
    | (s, some context) =>
      match scrollSize py context.body with
      | none => (s, .error (.search .crash))
      | some size =>
        let offset := context.offset + size
        let s := saveContext s contextId { context with offset }
        let page := esSearch py engine s context.index (pageBody context.body offset size) false
        (s, page.mapError .search)

/-- The search route with a `scroll`: the first page, and the context under a fresh id. -/
def openScroll (py : Python) (engine : Engine) (s : EsStore) (index : String) (body : Object)
    (ignoreUnavailable : Bool) (contextId : String) (keepAlive : Json) (now : ℚ) :
    Except SearchError (EsStore × SearchResult) := do
  let page ← esSearch py engine s index body ignoreUnavailable
  return (openContext py s contextId index body "scroll" keepAlive now, page)

/-! ## What happens between two pages -/

/-- A step after a scroll is opened: the client asks for the next page, or another client changes
    the store in whatever way. -/
inductive ScrollStep where
  | next (keepAlive : Json) (now : ℚ)
  | other (change : EsStore → EsStore)

section

-- What a search makes of a query may depend on when it is made.
variable (py : Python) (engine : ℚ → Engine) (contextId : String)

/-- The store after a step. -/
def scrollStep (s : EsStore) : ScrollStep → EsStore
  | .next keepAlive now => (scroll py (engine now) s contextId keepAlive now).1
  | .other change => change s

/-- What the client is answered along a run. -/
def scrollAnswers (s : EsStore) : List ScrollStep → List (Except ScrollError SearchResult)
  | [] => []
  | .next keepAlive now :: run =>
    let (s, answer) := scroll py (engine now) s contextId keepAlive now
    answer :: scrollAnswers s run
  | .other change :: run => scrollAnswers (change s) run

end

/-! ## The search of a page -/

section

variable {py : Python} {body : Object} {offset size : Nat}

/-- What follows the check of `terminate_after` is reached when that is no negative number. -/
lemma terminateAfter_eq_ok_iff {v : Json} {e : SearchError}
    {rest : Unit → Except SearchError Unit} :
    (match v with
      | .int n => if n < 0 then (Except.error e >>= rest) else rest ()
      | _ => rest ()) = .ok ()
      ↔ (∀ n, v = .int n → 0 ≤ n) ∧ rest () = .ok () := by
  split
  · next n =>
    split_ifs with hneg
    · constructor
      · rintro ⟨⟩
      · rintro ⟨hpos, -⟩
        exact absurd (hpos n rfl) (Int.not_le.2 hneg)
    · have hpos : ∀ m, Json.int n = .int m → 0 ≤ m := by
        rintro m ⟨⟩
        exact Int.not_lt.1 hneg
      exact (and_iff_right hpos).symm
  · next hne =>
    exact (and_iff_right fun n h => absurd h (hne n)).symm

/-- A search body is accepted exactly when its members and bounds are. -/
lemma validateSearchBody_eq_ok_iff :
    validateSearchBody py body = .ok ()
      ↔ (∀ member ∈ body, validateMember py member = .ok ())
        ∧ (∀ n, body.get "terminate_after" = .int n → 0 ≤ n)
        ∧ validateSearchAfter py body = .ok ()
        ∧ ∃ start size, asBound py (body.get "from") "from" = .ok start
          ∧ asBound py (body.get "size") "size" = .ok size
          ∧ start.getD 0 + size.getD 10 ≤ maxResultWindow := by
  rw [← forM_eq_ok_iff, validateSearchBody, bind_eq_ok_iff]
  constructor
  · rintro ⟨_, hmembers, h⟩
    obtain ⟨hterm, h⟩ := terminateAfter_eq_ok_iff.1 h
    obtain ⟨_, hafter, h⟩ := bind_eq_ok_iff.1 h
    obtain ⟨start, hstart, h⟩ := bind_eq_ok_iff.1 h
    obtain ⟨size, hsize, h⟩ := bind_eq_ok_iff.1 h
    refine ⟨hmembers, hterm, hafter, start, size, hstart, hsize, ?_⟩
    by_contra hwindow
    rw [if_pos (Nat.not_le.1 hwindow)] at h
    cases h
  · rintro ⟨hmembers, hterm, hafter, start, size, hstart, hsize, hwindow⟩
    refine ⟨(), hmembers, terminateAfter_eq_ok_iff.2 ⟨hterm, ?_⟩⟩
    refine bind_eq_ok_iff.2 ⟨(), hafter, bind_eq_ok_iff.2 ⟨start, hstart, bind_eq_ok_iff.2
      ⟨size, hsize, if_neg (Nat.not_lt.2 hwindow)⟩⟩⟩

variable {engine : Engine} {s : EsStore} {index : String} {records : List Doc}
  {matched page : List Placed} {total : Nat} {keys : List SortKey} {aggregations : Option Json}

lemma get_pageBody {key : String} (hfrom : key ≠ "from") (hsize : key ≠ "size") (m n : Int) :
    Assoc.get key (pageBody body m n) = Assoc.get key body := by
  rw [pageBody, Assoc.get_set_ne _ _ hsize, Assoc.get_set_ne _ _ hfrom]

lemma objectGet_pageBody {key : String} (hfrom : key ≠ "from") (hsize : key ≠ "size") (m n : Int) :
    (pageBody body m n).get key = body.get key := by
  rw [Object.get, Object.get, get_pageBody hfrom hsize]

lemma get_from_pageBody (m n : Int) : Assoc.get "from" (pageBody body m n) = some (.int m) := by
  rw [pageBody, Assoc.get_set_ne _ _ (by decide), Assoc.get_set_self]

lemma get_size_pageBody (m n : Int) : Assoc.get "size" (pageBody body m n) = some (.int n) :=
  Assoc.get_set_self _ _ _

lemma asBound_nat {n : Nat} (h : n ≤ maxResultWindow) (name : String) :
    asBound py (.int n) name = .ok (some n) := by
  have h' : n ≤ 10000 := h
  rw [asBound]
  dsimp only
  rw [if_neg (by omega), if_neg (by omega), Int.toNat_natCast]

lemma validateMember_bound (n : Int) :
    validateMember py ("from", .int n) = .ok () ∧ validateMember py ("size", .int n) = .ok () :=
  ⟨rfl, rfl⟩

lemma validateSearchBody_pageBody (h : validateSearchBody py body = .ok ())
    (hwindow : offset + size ≤ maxResultWindow) :
    validateSearchBody py (pageBody body offset size) = .ok () := by
  obtain ⟨hmembers, hterm, hafter, -⟩ := validateSearchBody_eq_ok_iff.1 h
  refine validateSearchBody_eq_ok_iff.2 ⟨?_, ?_, ?_, some offset, some size, ?_, ?_, hwindow⟩
  · intro member hmember
    rcases Assoc.mem_set hmember with rfl | hmember
    · exact (validateMember_bound _).2
    · rcases Assoc.mem_set hmember with rfl | hmember
      · exact (validateMember_bound _).1
      · exact hmembers member hmember
  · rwa [objectGet_pageBody (by decide) (by decide)]
  · rw [validateSearchAfter, objectGet_pageBody (by decide) (by decide),
      objectGet_pageBody (by decide) (by decide)]
    exact hafter
  · rw [Object.get, get_from_pageBody]
    exact asBound_nat (Nat.le_of_add_right_le hwindow) "from"
  · rw [Object.get, get_size_pageBody]
    exact asBound_nat (Nat.le_of_add_left_le hwindow) "size"

lemma filterEsRecords_pageBody (leaf : Leaf) (m n : Int) (placed : List Placed) :
    filterEsRecords py leaf (pageBody body m n) placed = filterEsRecords py leaf body placed := by
  rw [filterEsRecords, filterEsRecords, objectGet_pageBody (by decide) (by decide)]

lemma matching_pageBody (leaf : Leaf) (m n : Int) (placed : List Placed) :
    matching py engine leaf (pageBody body m n) placed = matching py engine leaf body placed := by
  have hsort : (pageBody body m n).get "sort" = body.get "sort" :=
    objectGet_pageBody (by decide) (by decide) m n
  have hafter : (pageBody body m n).get "search_after" = body.get "search_after" :=
    objectGet_pageBody (by decide) (by decide) m n
  simp only [matching, filterEsRecords_pageBody, sortEsRecords, hsort, hafter]

lemma cutPage_pageBody (hwindow : offset + size ≤ maxResultWindow) (placed : List Placed) :
    cutPage py (pageBody body offset size) placed = .ok ((placed.drop offset).take size) := by
  rw [cutPage, get_from_pageBody, get_size_pageBody, Option.getD_some, Option.getD_some,
    asBound_nat (Nat.le_of_add_right_le hwindow), asBound_nat (Nat.le_of_add_left_le hwindow)]
  rfl

/-- A search that is answered is answered for any page in the window. -/
lemma Searches.pageBody
    (h : Searches py engine s index records body matched page total keys aggregations)
    (hwindow : offset + size ≤ maxResultWindow) :
    Searches py engine s index records (pageBody body offset size) matched
      ((matched.drop offset).take size) total keys aggregations where
  valid := validateSearchBody_pageBody h.valid hwindow
  sortable := by
    rw [objectGet_pageBody (by decide) (by decide)]
    exact h.sortable
  found := by
    rw [matching_pageBody]
    exact h.found
  cut := cutPage_pageBody hwindow matched
  asked := by
    have hasked := h.asked
    rw [queryClause] at hasked ⊢
    rw [objectGet_pageBody (by decide) (by decide)]
    split at hasked
    · cases hasked
    · rfl
  counted := by
    rw [objectGet_pageBody (by decide) (by decide)]
    exact h.counted
  sorted := by
    rw [objectGet_pageBody (by decide) (by decide)]
    exact h.sorted
  aggregated := by
    rw [searchAggregations, filterEsRecords_pageBody, objectGet_pageBody (by decide) (by decide),
      objectGet_pageBody (by decide) (by decide)]
    exact h.aggregated

lemma esSearch_congr {t : EsStore} (hd : t.documents = s.documents) (hi : t.indices = s.indices)
    (ha : t.alerts = s.alerts) (he : t.endpoints = s.endpoints) (ignoreUnavailable : Bool) :
    esSearch py engine t index body ignoreUnavailable
      = esSearch py engine s index body ignoreUnavailable := by
  obtain ⟨d, i, c, a, e⟩ := s
  obtain ⟨d', i', c', a', e'⟩ := t
  obtain rfl : d' = d := hd
  obtain rfl : i' = i := hi
  obtain rfl : a' = a := ha
  obtain rfl : e' = e := he
  rfl

end

/-! ## What a client reads -/

/-- What a hit says of its document: the id, and the part of the source that was asked for. -/
def Hit.document (hit : Hit) : String × Option Object := (hit.docId, hit.source)

/-- What the hit of a document says of it. -/
def shown (py : Python) (body : Object) (d : Doc) : String × Option Object :=
  (givenId py d.toRec,
    (applySourceFilter py (body.get "_source") ⟨"", "", false, some d.source, none⟩).source)

/-- The documents of a page. -/
def SearchResult.documents (r : SearchResult) : List (String × Option Object) :=
  r.hits.map Hit.document

/-- The documents a search finds, in its order. -/
def FindsDocs (py : Python) (engine : Engine) (s : EsStore) (index : String) (body : Object)
    (docs : List Doc) : Prop :=
  ∃ matched, matching py engine (searchLeaf py engine.others (termsLookup py s)) body
      (docPositions (docsOf py s index)) = .ok matched
    ∧ matched.map Placed.toDoc = docs

/-- A body asks for its matches from the first one on, `size` at a time: it gives no offset, and a
    size that is positive, or null where the matches are no more than the size a scroll then pages
    by. -/
structure AsksPages (py : Python) (body : Object) (size count : Nat) : Prop where
  start : ∃ start, asBound py ((Assoc.get "from" body).getD (.int 0)) "from" = .ok start
    ∧ start.getD 0 = 0
  size : 0 < size ∧ asBound py ((Assoc.get "size" body).getD (.int 10)) "size" = .ok (some size)
    ∨ size = 10 ∧ count ≤ size
      ∧ asBound py ((Assoc.get "size" body).getD (.int 10)) "size" = .ok none

section

variable {py : Python} {engine : Engine} {s t : EsStore} {index : String} {body : Object}
  {docs : List Doc} {offset size count : Nat} {r : SearchResult}

lemma FindsDocs.congr (hd : t.documents = s.documents) (hi : t.indices = s.indices)
    (ha : t.alerts = s.alerts) (he : t.endpoints = s.endpoints)
    (h : FindsDocs py engine s index body docs) : FindsDocs py engine t index body docs := by
  obtain ⟨d, i, c, a, e⟩ := s
  obtain ⟨d', i', c', a', e'⟩ := t
  obtain rfl : d' = d := hd
  obtain rfl : i' = i := hi
  obtain rfl : a' = a := ha
  obtain rfl : e' = e := he
  exact h

lemma FindsDocs.unique {docs' : List Doc} (h : FindsDocs py engine s index body docs)
    (h' : FindsDocs py engine s index body docs') : docs = docs' := by
  obtain ⟨matched, hmatched, rfl⟩ := h
  obtain ⟨matched', hmatched', rfl⟩ := h'
  rw [Except.ok.inj (hmatched.symm.trans hmatched')]

/-- A source filter is about the source alone. -/
lemma applySourceFilter_document (py : Python) (spec : Json) (hit hit' : Hit)
    (h : hit.source = hit'.source) :
    (applySourceFilter py spec hit).docId = hit.docId
      ∧ (applySourceFilter py spec hit).source = (applySourceFilter py spec hit').source := by
  have hproject : ∀ includes excludes : List String,
      (if includes.isEmpty && excludes.isEmpty then hit
        else { hit with source := some (project (hit.source.getD []) includes excludes) }).docId
          = hit.docId
        ∧ (if includes.isEmpty && excludes.isEmpty then hit
          else { hit with source := some (project (hit.source.getD []) includes excludes) }).source
          = (if includes.isEmpty && excludes.isEmpty then hit'
            else { hit' with
              source := some (project (hit'.source.getD []) includes excludes) }).source := by
    intro includes excludes
    split_ifs
    · exact ⟨rfl, h⟩
    · exact ⟨rfl, by rw [h]⟩
  cases spec with
  | null => exact ⟨rfl, h⟩
  | bool asked =>
    cases asked with
    | true => exact ⟨rfl, h⟩
    | false => exact ⟨rfl, rfl⟩
  | dict o => exact hproject _ _
  | _ => exact hproject _ _

lemma documents_hitsOf (index : String) (records : List Doc) (keys : List SortKey)
    (page : List Placed) :
    (hitsOf py engine index records body keys page).map Hit.document
      = (page.map Placed.toDoc).map (shown py body) := by
  rw [hitsOf, List.map_map, List.map_map]
  apply List.map_congr_left
  intro d _
  obtain ⟨hid, hsource⟩ := applySourceFilter_document py (body.get "_source")
    (wrapAsHit py engine.millis index keys
      (sortFieldKinds py engine.millis (records.map Doc.toRec) keys) d)
    ⟨"", "", false, some d.source, none⟩ rfl
  exact Prod.ext hid hsource

lemma esSearch_documents {ignoreUnavailable : Bool}
    (h : esSearch py engine s index body ignoreUnavailable = .ok r) :
    ∃ matched page, matching py engine (searchLeaf py engine.others (termsLookup py s)) body
          (docPositions (docsOf py s index)) = .ok matched
      ∧ cutPage py body matched = .ok page
      ∧ r.documents = (page.map Placed.toDoc).map (shown py body) := by
  obtain ⟨_, hresolve, hsearch⟩ := bind_eq_ok_iff.1 h
  obtain rfl := resolveDocs_eq_ok (mapError_eq_ok_iff.1 hresolve)
  obtain ⟨matched, page, total, keys, aggs, hs, rfl⟩ := searchOver_eq_ok_iff.1 hsearch
  exact ⟨matched, page, hs.found, hs.cut, documents_hitsOf _ _ _ _⟩

lemma FindsDocs.esSearch_pageBody (hfinds : FindsDocs py engine s index body docs)
    (h : esSearch py engine s index body false = .ok r)
    (hwindow : offset + size ≤ maxResultWindow) :
    ∃ r', esSearch py engine s index (pageBody body offset size) false = .ok r'
      ∧ r'.documents = ((docs.drop offset).take size).map (shown py body) := by
  obtain ⟨_, hresolve, hsearch⟩ := bind_eq_ok_iff.1 h
  obtain rfl := resolveDocs_eq_ok (mapError_eq_ok_iff.1 hresolve)
  obtain ⟨matched, page, total, keys, aggs, hs, -⟩ := searchOver_eq_ok_iff.1 hsearch
  obtain ⟨_, hmatched, rfl⟩ := hfinds
  obtain rfl := Except.ok.inj (hmatched.symm.trans hs.found)
  refine ⟨_, bind_eq_ok_iff.2 ⟨_, hresolve, searchOver_eq_ok_iff.2 ⟨_, _, _, _, _,
    hs.pageBody hwindow, rfl⟩⟩, ?_⟩
  have hshown : shown py (pageBody body offset size) = shown py body := by
    funext d
    rw [shown, shown, objectGet_pageBody (by decide) (by decide)]
  rw [← List.map_drop, ← List.map_take, ← hshown]
  exact documents_hitsOf _ _ _ _

/-- A bound that is accepted is null and no bound, or the number that `int` reads. -/
lemma asBound_cases {v : Json} {name : String} {b : Option Nat} (h : asBound py v name = .ok b) :
    (v = .null ∧ b = none) ∨ ∃ n : Nat, pyInt py v = some (n : Int) ∧ b = some n := by
  have hbound : ∀ {bound : Int} {e e' : SearchError},
      (if bound < -2147483648 ∨ 2147483647 < bound then Except.error e
        else if bound < 0 then Except.error e' else Except.ok (some bound.toNat))
        = Except.ok b → ∃ n : Nat, bound = n ∧ b = some n := by
    intro bound e e' h
    split_ifs at h with hrange hneg
    exact ⟨bound.toNat, (Int.toNat_of_nonneg (Int.not_lt.1 hneg)).symm, (Except.ok.inj h).symm⟩
  cases v with
  | null => exact .inl ⟨rfl, (Except.ok.inj h).symm⟩
  | int m =>
    obtain ⟨n, rfl, rfl⟩ := hbound h
    exact .inr ⟨n, rfl, rfl⟩
  | float q =>
    obtain ⟨n, hq, rfl⟩ := hbound h
    exact .inr ⟨n, congrArg some hq, rfl⟩
  | str text =>
    simp only [asBound] at h
    cases hparse : py.parseInt text with
    | none =>
      rw [hparse] at h
      cases h
    | some m =>
      rw [hparse] at h
      obtain ⟨n, rfl, rfl⟩ := hbound h
      exact .inr ⟨n, hparse, rfl⟩
  | _ => cases h

/-- What `int` reads as a number other than zero is no falsy value. -/
lemma truthy_of_pyInt {v : Json} {n : Int} (h : pyInt py v = some n) (hn : n ≠ 0) :
    v.truthy = true := by
  cases v with
  | bool b =>
    cases b with
    | true => rfl
    | false => exact absurd (Option.some.inj h).symm hn
  | int m =>
    obtain rfl := Option.some.inj h
    exact decide_eq_true hn
  | float q =>
    refine decide_eq_true ?_
    rintro rfl
    exact hn (Option.some.inj h).symm
  | str text =>
    refine decide_eq_true ?_
    rintro rfl
    cases h
  | _ => cases h

lemma AsksPages.scrollSize_eq (h : AsksPages py body size count) :
    0 < size ∧ scrollSize py body = some (size : Int) := by
  obtain ⟨hpos, hsize⟩ | ⟨rfl, -, hsize⟩ := h.size
  · refine ⟨hpos, ?_⟩
    obtain ⟨-, hb⟩ | ⟨n, hread, hb⟩ := asBound_cases hsize
    · cases hb
    · obtain rfl := Option.some.inj hb
      rw [scrollSize, scrollDefaultSize, orElse, if_pos (truthy_of_pyInt hread (by omega))]
      exact hread
  · refine ⟨by decide, ?_⟩
    obtain ⟨hnull, -⟩ | ⟨n, -, hb⟩ := asBound_cases hsize
    · rw [scrollSize, scrollDefaultSize, hnull]
      rfl
    · cases hb

/-- The first page is the first `size` documents. -/
lemma AsksPages.cutPage_eq (h : AsksPages py body size count) {matched : List Placed}
    (hcount : matched.length = count) : cutPage py body matched = .ok (matched.take size) := by
  obtain ⟨start, hstart, hzero⟩ := h.start
  rw [cutPage, hstart]
  obtain ⟨-, hsize⟩ | ⟨-, hle, hsize⟩ := h.size
  · rw [hsize]
    change Except.ok ((matched.drop (start.getD 0)).take size) = _
    rw [hzero, List.drop_zero]
  · rw [hsize]
    change Except.ok (matched.drop (start.getD 0)) = _
    rw [hzero, List.drop_zero, List.take_of_length_le (hcount.le.trans hle)]

end

/-! ## A run of a scroll -/

section

variable (py : Python) (engine : ℚ → Engine) (contextId index : String) (body : Object)
  (docs : List Doc)

/-- The context of a scroll is there, at an offset. -/
def Carries (s : EsStore) (offset : Int) : Prop :=
  ∃ context, s.contexts.get contextId = some context ∧ context.index = index
    ∧ context.body = body ∧ context.offset = offset

/-- A step leaves a scroll undisturbed. Another client leaves its context alone; and when the client
    asks for a page, the context has not expired, and the search the scroll was opened with would be
    answered and find the same documents in the same order. -/
def Undisturbed (s : EsStore) : ScrollStep → Prop
  | .next _ now =>
    (∀ context, s.contexts.get contextId = some context → contextExpired context now = false)
      ∧ (∃ answer, esSearch py (engine now) s index body false = .ok answer)
      ∧ FindsDocs py (engine now) s index body docs
  | .other change => (change s).contexts.get contextId = s.contexts.get contextId

end

section

variable {py : Python} {engine : ℚ → Engine} {contextId index : String} {body : Object}
  {docs : List Doc} {s : EsStore} {size k : Nat} {keepAlive : Json} {now : ℚ}

/-- A page changes the contexts alone. -/
lemma scroll_frame (engine : Engine) :
    let t := (scroll py engine s contextId keepAlive now).1
    t.documents = s.documents ∧ t.indices = s.indices ∧ t.alerts = s.alerts
      ∧ t.endpoints = s.endpoints := by
  have hlive : ∀ {t : EsStore} {context : Option SearchContext},
      liveContext py s contextId keepAlive now = (t, context) →
        t.documents = s.documents ∧ t.indices = s.indices ∧ t.alerts = s.alerts
          ∧ t.endpoints = s.endpoints := by
    intro t context h
    rw [liveContext] at h
    split at h
    · cases h
      exact ⟨rfl, rfl, rfl, rfl⟩
    · split_ifs at h
      · cases h
        exact ⟨rfl, rfl, rfl, rfl⟩
      · cases h
        exact ⟨rfl, rfl, rfl, rfl⟩
  rw [scroll]
  split_ifs
  · exact ⟨rfl, rfl, rfl, rfl⟩
  · cases h : liveContext py s contextId keepAlive now with
    | mk t context =>
      cases context with
      | none => exact hlive h
      | some context =>
        obtain ⟨hd, hi, ha, he⟩ := hlive h
        dsimp only
        cases scrollSize py context.body with
        | none => exact ⟨hd, hi, ha, he⟩
        | some n => exact ⟨hd, hi, ha, he⟩

/-- One page of a scroll that is undisturbed: the page at the next offset, which the context is at
    afterwards. -/
lemma scroll_page (hid : isScrollId contextId = true)
    (hsize : scrollSize py body = some (size : Int))
    (hc : Carries contextId index body s (k * size : Nat))
    (h : Undisturbed py engine contextId index body docs s (.next keepAlive now))
    (hwindow : (k + 1) * size + size ≤ maxResultWindow) :
    Carries contextId index body (scroll py (engine now) s contextId keepAlive now).1
        ((k + 1) * size : Nat)
      ∧ ∃ r, (scroll py (engine now) s contextId keepAlive now).2 = .ok r
        ∧ r.documents = ((docs.drop ((k + 1) * size)).take size).map (shown py body) := by
  obtain ⟨context, hget, rfl, rfl, hoffset⟩ := hc
  obtain ⟨halive, ⟨answer, hanswer⟩, hfinds⟩ := h
  have hnext : context.offset + (size : Int) = (((k + 1) * size : Nat) : Int) := by
    rw [hoffset, Nat.succ_mul, Nat.cast_add]
  obtain ⟨r, hr, hdocs⟩ := hfinds.esSearch_pageBody hanswer hwindow
  rw [scroll, if_neg (by rw [hid]; decide), liveContext, hget]
  dsimp only
  rw [halive context hget, if_neg Bool.false_ne_true]
  dsimp only
  rw [hsize]
  dsimp only
  rw [hnext]
  refine ⟨⟨_, get_save_self _ _ _ _, rfl, rfl, rfl⟩, r, ?_, hdocs⟩
  exact mapError_eq_ok_iff.2 (Eq.trans (esSearch_congr (s := s) rfl rfl rfl rfl false) hr)

/-- A run that leaves a scroll undisturbed reads out what is left from its offset on. -/
lemma readsOut_scrollAnswers (hid : isScrollId contextId = true) (hpos : 0 < size)
    (hsize : scrollSize py body = some (size : Int))
    (hwindow : ∀ k, k * size < docs.length → (k + 1) * size + size ≤ maxResultWindow)
    {run : List ScrollStep} (hk : k * size < docs.length)
    (hc : Carries contextId index body s (k * size : Nat))
    (h : Along (scrollStep py engine contextId)
      (Undisturbed py engine contextId index body docs) s run) :
    ReadsOut ((scrollAnswers py engine contextId s run).map (Except.map SearchResult.documents))
      ((docs.drop ((k + 1) * size)).map (shown py body)) := by
  induction run generalizing s k with
  | nil => trivial
  | cons step run ih =>
    cases step with
    | other change =>
      refine ih hk ?_ h.2
      have hkept : (change s).contexts.get contextId = s.contexts.get contextId := h.1
      rw [Carries, hkept]
      exact hc
    | next keepAlive now =>
      obtain ⟨hc', r, hr, hdocs⟩ := scroll_page hid hsize hc h.1 (hwindow k hk)
      rw [scrollAnswers]
      dsimp only
      rw [hr, List.map_cons, Except.map, hdocs, List.map_take]
      refine .take hpos ?_
      intro hleft
      -- The page is not empty, so that there is a next one.
      have hk' : (k + 1) * size < docs.length := by
        by_contra hend
        rw [List.drop_eq_nil_of_le (Nat.not_lt.1 hend)] at hleft
        exact hleft rfl
      rw [← List.map_drop, List.drop_drop, ← Nat.succ_mul]
      exact ih hk' hc' h.2

/-- A scroll reads out what its search found. Whatever search is opened with a scroll, where it asks
    for its matches from the first one on and every page that is asked for lies in the result
    window, the answers of a run that leaves the scroll undisturbed give the documents that were
    found at the opening, each once and in the order of the search, up to the first empty page, and
    all of them if that page is reached. -/
theorem scroll_complete (py : Python) (engine : ℚ → Engine) (s : EsStore) (index : String)
    (body : Object) (ignoreUnavailable : Bool) (contextId : String) (keepAlive : Json) (now : ℚ)
    {t : EsStore} {first : SearchResult} (hid : isScrollId contextId = true)
    (hopen : openScroll py (engine now) s index body ignoreUnavailable contextId keepAlive now
      = .ok (t, first)) :
    ∃ docs, FindsDocs py (engine now) s index body docs
      ∧ ∀ size run, AsksPages py body size docs.length
        → (∀ k, k * size < docs.length → (k + 1) * size + size ≤ maxResultWindow)
        → Along (scrollStep py engine contextId)
            (Undisturbed py engine contextId index body docs) t run
        → ReadsOut ((.ok first :: scrollAnswers py engine contextId t run).map
              (Except.map SearchResult.documents))
            (docs.map (shown py body)) := by
  obtain ⟨page, hpage, hcontext⟩ := bind_eq_ok_iff.1 hopen
  cases hcontext
  obtain ⟨matched, cut, hmatched, hcut, hdocs⟩ := esSearch_documents hpage
  refine ⟨matched.map Placed.toDoc, ⟨matched, hmatched, rfl⟩, ?_⟩
  intro size run hasks hwindow hrun
  obtain ⟨hpos, hsize⟩ := hasks.scrollSize_eq
  have hfirst : cut = matched.take size :=
    Except.ok.inj (hcut.symm.trans (hasks.cutPage_eq (List.length_map _).symm))
  rw [List.map_cons, Except.map, hdocs, hfirst, List.map_take, List.map_take]
  refine .take hpos ?_
  intro hsome
  have hcount : 0 * size < (matched.map Placed.toDoc).length := by
    rw [Nat.zero_mul, List.length_pos_iff]
    exact fun hnil => hsome (by rw [hnil]; rfl)
  have hc : Carries contextId index body
      (openContext py s contextId index body "scroll" keepAlive now) (0 * size : Nat) :=
    ⟨_, get_save_self _ _ _ _, rfl, rfl, by rw [Nat.zero_mul]; rfl⟩
  rw [← List.map_drop]
  have hread := readsOut_scrollAnswers hid hpos hsize hwindow hcount hc hrun
  rwa [Nat.zero_add, Nat.one_mul] at hread

/-- Three documents of one index, which are searchable. -/
def threeDocuments : EsStore :=
  ["1", "2", "3"].foldl (fun s docId => (esIndexDoc s "a" docId [] true).1) (.seeded .empty .empty)

/-- The id of a scroll. -/
def scrollId : String := "0123456789abcdef0123456789abcdef"

/-- A search for everything, two hits a page. -/
def twoAtATime : Object := [("size", .int 2)]

/-- The store in which the scroll of three documents is opened. -/
def threeScrolled : EsStore :=
  openContext asciiPython threeDocuments scrollId "a" twoAtATime "scroll" (.str "1m") 0

lemma alive_of_all {found : Option SearchContext}
    (h : found.all (fun context => !contextExpired context now) = true) :
    ∀ context, found = some context → contextExpired context now = false := by
  rintro context rfl
  simpa using h

lemma findsDocs_three {t : EsStore} (hd : t.documents = threeDocuments.documents)
    (hi : t.indices = threeDocuments.indices) (ha : t.alerts = threeDocuments.alerts)
    (he : t.endpoints = threeDocuments.endpoints) :
    (∃ answer, esSearch asciiPython plainEngine t "a" twoAtATime false = .ok answer)
      ∧ FindsDocs asciiPython plainEngine t "a" twoAtATime
        (docsOf asciiPython threeDocuments "a") := by
  have hfinds : FindsDocs asciiPython plainEngine threeDocuments "a" twoAtATime
      (docsOf asciiPython threeDocuments "a") := ⟨_, rfl, docPositions_toDoc _⟩
  rw [esSearch_congr hd hi ha he]
  exact ⟨⟨_, rfl⟩, hfinds.congr hd hi ha he⟩

/-- Three documents, two at a time: two pages and the empty one. -/
theorem scroll_complete_three :
    ∃ t first, openScroll asciiPython plainEngine threeDocuments "a" twoAtATime false scrollId
        (.str "1m") 0 = .ok (t, first)
      ∧ ReadsOut ((.ok first :: scrollAnswers asciiPython (fun _ => plainEngine) scrollId t
            [.next .null 1, .next .null 2]).map (Except.map SearchResult.documents))
          [("1", some []), ("2", some []), ("3", some [])] := by
  have hopen : openScroll asciiPython plainEngine threeDocuments "a" twoAtATime false scrollId
      (.str "1m") 0 = .ok (_, _) := rfl
  obtain ⟨docs, hfinds, hread⟩ := scroll_complete asciiPython (fun _ => plainEngine)
    threeDocuments "a" twoAtATime false scrollId (.str "1m") 0 (by decide) hopen
  obtain rfl := hfinds.unique (findsDocs_three rfl rfl rfl rfl).2
  have hshown : (docsOf asciiPython threeDocuments "a").map (shown asciiPython twoAtATime)
      = [("1", some []), ("2", some []), ("3", some [])] := rfl
  have hwindow : ∀ k, k * 2 < (docsOf asciiPython threeDocuments "a").length →
      (k + 1) * 2 + 2 ≤ maxResultWindow := by
    intro k hk
    have hthree : k * 2 < 3 := hk
    change (k + 1) * 2 + 2 ≤ 10000
    omega
  refine ⟨_, _, hopen, ?_⟩
  rw [← hshown]
  refine hread 2 [.next .null 1, .next .null 2] ⟨⟨_, rfl, rfl⟩, .inl ⟨by decide, rfl⟩⟩ hwindow ?_
  obtain ⟨hd, hi, ha, he⟩ := @scroll_frame asciiPython scrollId threeScrolled .null 1 plainEngine
  refine ⟨⟨alive_of_all ?_, findsDocs_three rfl rfl rfl rfl⟩,
    ⟨alive_of_all ?_, findsDocs_three hd hi ha he⟩, trivial⟩
  · decide +kernel
  · decide +kernel

/-- The store in which a document was deleted after the first page. -/
def threeDeleted : EsStore := (esDeleteDoc threeScrolled "a" "1" true).1

/-- A search for everything with a large page. -/
def largePage : Object := [("size", .int 5001)]

/-- Two scrolls of three documents that go wrong. The first asks for 5001 hits a page, which the
    search accepts: all three are on the first page, and the next one, which should be empty, lies
    outside the result window and is refused. In the second, two at a time, a document deleted
    between two pages moves the others up: the third is on neither page. -/
theorem scroll_incomplete :
    (∃ t first e,
      openScroll asciiPython plainEngine threeDocuments "a" largePage false scrollId (.str "1m") 0
          = .ok (t, first)
        ∧ FindsDocs asciiPython plainEngine threeDocuments "a" largePage
          (docsOf asciiPython threeDocuments "a")
        ∧ scrollAnswers asciiPython (fun _ => plainEngine) scrollId t [.next .null 1] = [.error e]
        ∧ ¬ ReadsOut [.ok first.documents, .error e]
            ((docsOf asciiPython threeDocuments "a").map (shown asciiPython largePage)))
      ∧ ∃ first r,
        openScroll asciiPython plainEngine threeDocuments "a" twoAtATime false scrollId
            (.str "1m") 0 = .ok (threeScrolled, first)
          ∧ FindsDocs asciiPython plainEngine threeDocuments "a" twoAtATime
            (docsOf asciiPython threeDocuments "a")
          ∧ scrollAnswers asciiPython (fun _ => plainEngine) scrollId threeScrolled
              [.other fun s => (esDeleteDoc s "a" "1" true).1, .next .null 1] = [.ok r]
          ∧ ¬ ReadsOut [.ok first.documents, (.ok r.documents : Except ScrollError _)]
              ((docsOf asciiPython threeDocuments "a").map (shown asciiPython twoAtATime)) := by
  constructor
  · have hrefused : (scroll asciiPython plainEngine
        (openContext asciiPython threeDocuments scrollId "a" largePage "scroll" (.str "1m") 0)
        scrollId .null 1).2.toOption.isNone = true := by decide +kernel
    cases hanswer : (scroll asciiPython plainEngine
        (openContext asciiPython threeDocuments scrollId "a" largePage "scroll" (.str "1m") 0)
        scrollId .null 1).2 with
    | ok r =>
      rw [hanswer] at hrefused
      cases hrefused
    | error e =>
      refine ⟨_, _, e, rfl, ⟨_, rfl, docPositions_toDoc _⟩, congrArg (fun a => [a]) hanswer, ?_⟩
      rintro ⟨left, -, hrest⟩
      exact hrest
  · have hc : Carries scrollId "a" twoAtATime threeDeleted (0 * 2 : Nat) := ⟨_, rfl, rfl, rfl, rfl⟩
    -- What the search finds by now are the other two documents.
    have hnow : Undisturbed asciiPython (fun _ => plainEngine) scrollId "a" twoAtATime
        (docsOf asciiPython threeDeleted "a") threeDeleted (.next .null 1) :=
      ⟨alive_of_all (by decide +kernel), ⟨_, rfl⟩, _, rfl, docPositions_toDoc _⟩
    have hsize : scrollSize asciiPython twoAtATime = some ((2 : Nat) : Int) := rfl
    obtain ⟨-, r, hr, hdocs⟩ := scroll_page (by decide) hsize hc hnow (by decide)
    have hnone : r.documents = [] := hdocs
    refine ⟨_, r, rfl, (findsDocs_three rfl rfl rfl rfl).2, congrArg (fun a => [a]) hr, ?_⟩
    rw [hnone]
    rintro ⟨left, hleft, hrest⟩
    cases hrest
    cases hleft

end

end Mockdr.Elastic
