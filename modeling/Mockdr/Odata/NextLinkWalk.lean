import Mockdr.Odata.NextLink

/-!
# Following the links

A client that follows the links of a collection reads its records one after the other.

* `NextOf` is what a link has in common with the request that the client began with: every parameter
  that is no page cursor, and one page cursor. Such a link asks for the same records
  (`question_pageLink`) from the next page on (`pageOffset_pageLink`, `top_pageLink`).
* `walk_yields`: the walk comes to an end, and reads what the request asked for from its own page
  start on, each record once and in order.
-/

namespace Mockdr

namespace OdataPaging

variable {α : Type} {py : PagingPython}

/-- A link asks what a request asked, and has one page cursor. -/
structure NextOf (py : Python) (cursor : Cursor) (url link : Url) : Prop where
  scheme : link.scheme = url.scheme
  netloc : link.netloc = url.netloc
  path : link.path = url.path
  question : question py link = question py url
  cursor : ∃ value, (parseQsl link.query).filter (fun p => isCursor py p.1) = [(cursor.name, value)]

/-! ## The parameters of a link -/

lemma parseQsl_urlencode (params : QueryParams) : parseQsl (urlencode params "$") = params := by
  have hplain : QueryString.Plain "$".toList := by
    intro c hc
    obtain rfl := List.mem_singleton.1 hc
    decide
  rw [parseQsl, urlencode, String.toList_ofList, QueryString.parseQsl_urlencodePairs hplain,
    List.map_map]
  refine List.map_id'' (fun p => ?_) _
  exact Prod.ext String.ofList_toList String.ofList_toList

lemma isCursor_name (py : Python) (cursor : Cursor) : isCursor py cursor.name = true := by
  cases cursor <;> simp [isCursor, Cursor.name]

/-- `$skip`, `$skiptoken` and `$top` are in lower case. -/
lemma lower_name (py : PagingPython) {s : String} (hs : s ∈ [SKIP, SKIPTOKEN, "$top"]) :
    py.lower s = s := by
  have hascii : ∀ c ∈ s.toList, c.toNat < 128 := by
    have hall : ([SKIP, SKIPTOKEN, "$top"].all fun s => s.toList.all fun c =>
        decide (c.toNat < 128)) = true := by decide +kernel
    intro c hc
    exact of_decide_eq_true (List.all_eq_true.1 (List.all_eq_true.1 hall s hs) c hc)
  have hlower : ([SKIP, SKIPTOKEN, "$top"].all fun s =>
      String.ofList (s.toList.map Char.toLower) == s) = true := by decide +kernel
  rw [py.lower_ascii s hascii]
  exact eq_of_beq (List.all_eq_true.1 hlower s hs)

lemma parseQsl_withCursor (url : Url) (cursor : Cursor) (value : String) :
    parseQsl (withCursor url cursor.name value (isCursor py.toPython) "$").query
      = question py.toPython url ++ [(cursor.name, value)] :=
  parseQsl_urlencode _

lemma question_withCursor (url : Url) (cursor : Cursor) (value : String) :
    question py.toPython (withCursor url cursor.name value (isCursor py.toPython) "$")
      = question py.toPython url := by
  rw [question, parseQsl_withCursor, List.filter_append, List.filter_singleton,
    isCursor_name, question, List.filter_filter]
  simp

lemma nextOf_withCursor (url : Url) (cursor : Cursor) (value : String) :
    NextOf py.toPython cursor url
      (withCursor url cursor.name value (isCursor py.toPython) "$") := by
  have hnone : (question py.toPython url).filter (fun p => isCursor py.toPython p.1) = [] := by
    rw [List.filter_eq_nil_iff]
    intro p hp
    have hnot := (List.mem_filter.1 hp).2
    simpa using hnot
  refine ⟨by rw [withCursor], by rw [withCursor], by rw [withCursor],
    question_withCursor url cursor value, value, ?_⟩
  have hcursor : isCursor py.toPython (cursor.name, value).1 = true := isCursor_name _ cursor
  rw [parseQsl_withCursor, List.filter_append, hnone, List.nil_append, List.filter_singleton,
    hcursor]
  rfl

lemma NextOf.trans {cursor : Cursor} {url link next : Url} (h : NextOf py.toPython cursor url link)
    (hnext : NextOf py.toPython cursor link next) : NextOf py.toPython cursor url next where
  scheme := hnext.scheme.trans h.scheme
  netloc := hnext.netloc.trans h.netloc
  path := hnext.path.trans h.path
  question := hnext.question.trans h.question
  cursor := hnext.cursor

/-! ## What the router reads of a link -/

lemma lastValue_concat_self (name value : String) (params : QueryParams) :
    lastValue name (params ++ [(name, value)]) = some value := by
  rw [lastValue, List.reverse_append, List.reverse_singleton, List.singleton_append,
    List.find?_cons_of_pos (by simp)]
  rfl

lemma lastValue_question {name : String} (hname : isCursor py.toPython name = false) (url : Url) :
    lastValue name (question py.toPython url) = lastValue name (parseQsl url.query) := by
  rw [lastValue, lastValue, question, ← List.filter_reverse, List.find?_filter]
  congr 2
  funext p
  by_cases hp : p.1 = name
  · simp [hp, hname]
  · simp [hp]

/-- `$top` is no page cursor. -/
lemma isCursor_top (py : PagingPython) : isCursor py.toPython "$top" = false := by
  have hskip := lower_name py (s := SKIP) (by decide)
  have hskiptoken := lower_name py (s := SKIPTOKEN) (by decide)
  have htop := lower_name py (s := "$top") (by decide)
  rw [isCursor, hskip, hskiptoken, htop]
  decide

lemma top_congr (c : Collection α) {url link : Url}
    (h : question py.toPython link = question py.toPython url) :
    c.top py (parseQsl link.query) = c.top py (parseQsl url.query) := by
  have hlast : lastValue "$top" (parseQsl link.query) = lastValue "$top" (parseQsl url.query) := by
    rw [← lastValue_question (isCursor_top py), h, lastValue_question (isCursor_top py)]
  rw [Collection.top, queryInt, hlast, Collection.top, queryInt]

lemma one_le_top {c : Collection α} {params : QueryParams} {top : Nat}
    (h : c.top py params = .ok top) : 1 ≤ top := by
  unfold Collection.top queryInt at h
  split at h
  · obtain rfl := Except.ok.inj h
    exact c.one_le_defaultTop
  · split at h
    · split_ifs at h with hbounds
      obtain rfl := Except.ok.inj h
      exact hbounds.1
    · cases h

lemma decodeSkiptoken_encodeSkiptoken (py : PagingPython) {offset : Nat} (h : offset ≤ MAXSIZE) :
    decodeSkiptoken py.toPython (encodeSkiptoken offset) = some offset := by
  have hread : py.parseInt (toString (offset : Int)) = some (offset : Int) :=
    parseInt_toString py.digit_ascii (length_toDigits_le h)
  simp only [decodeSkiptoken, encodeSkiptoken, String.toList_ofList,
    Base64.pad_stripPad_urlsafeEncode, Base64.urlsafeDecode_urlsafeEncode, decodeStrict,
    QueryString.decodeUtf8_encodeUtf8, String.ofList_toList, if_true, Option.bind_eq_bind,
    Option.bind_some, cutPrefix_eq_some_iff.2 rfl, hread]

lemma encodeSkiptoken_ne (py : PagingPython) {offset : Nat} (h : offset ≤ MAXSIZE) :
    encodeSkiptoken offset ≠ "" := by
  intro hempty
  have hread := decodeSkiptoken_encodeSkiptoken py h
  have hnone : decodeSkiptoken py.toPython "" = none := rfl
  rw [hempty, hnone] at hread
  cases hread

lemma directoryToken_append (py : PagingPython) (token : String) {params : QueryParams}
    (h : ∀ p ∈ params, isCursor py.toPython p.1 = false) (rest : QueryParams) :
    directoryToken py.toPython token (params ++ rest) = directoryToken py.toPython token rest := by
  induction params with
  | nil => rfl
  | cons p params ih =>
    obtain ⟨hp, hparams⟩ := List.forall_mem_cons.1 h
    rw [isCursor, lower_name py (by decide), lower_name py (by decide)] at hp
    simp only [List.mem_cons, List.not_mem_nil, or_false, decide_eq_false_iff_not, not_or] at hp
    rw [List.cons_append, directoryToken, if_neg hp.1, if_neg hp.2, ih hparams]

/-- A link starts where the page before it ended. -/
lemma pageOffset_pageLink {url link fallback : Url} {cursor : Cursor} {next total : Nat}
    (htotal : total ≤ MAXSIZE)
    (h : pageLink py.toPython (some url) next total fallback cursor = some link) :
    pageOffset py cursor (parseQsl link.query) = .ok next ∧ NextOf py.toPython cursor url link
      ∧ next < total := by
  unfold pageLink at h
  split_ifs at h with hend
  obtain rfl := Option.some.inj h
  rw [Option.getD_some]
  have hnext : next ≤ MAXSIZE := by omega
  refine ⟨?_, nextOf_withCursor _ _ _, Nat.lt_of_not_le hend⟩
  rw [parseQsl_withCursor]
  cases cursor with
  | skip =>
    simp only [pageOffset, queryInt, Cursor.name, lastValue_concat_self, py.int_str next hnext]
    rfl
  | skiptoken =>
    have hquestion : ∀ p ∈ question py.toPython url, isCursor py.toPython p.1 = false :=
      fun p hp => by simpa using (List.mem_filter.1 hp).2
    have hlower : py.lower SKIPTOKEN = SKIPTOKEN := lower_name py (by decide)
    have hne : SKIPTOKEN ≠ SKIP := by decide
    simp only [pageOffset, directoryPageOffset, Cursor.name]
    rw [directoryToken_append py "" hquestion, directoryToken, hlower, if_neg hne, if_pos rfl,
      directoryToken]
    simp only [bind, Except.bind, if_neg (encodeSkiptoken_ne py hnext),
      decodeSkiptoken_encodeSkiptoken py hnext]
    rfl

/-! ## The walk -/

/-- More requests than were needed change nothing. -/
lemma walk_mono {c : Collection α} {m n : Nat} (hmn : m ≤ n) {url : Url}
    {read : List α × List Url} (h : c.walk py m url = some read) : c.walk py n url = some read := by
  induction m generalizing n url read with
  | zero => cases h
  | succ m ih =>
    obtain ⟨n, rfl⟩ := Nat.exists_eq_add_of_le' (Nat.one_le_of_lt hmn)
    unfold Collection.walk at h ⊢
    cases hlist : c.list py url with
    | error e =>
      simp only [hlist] at h
      cases h
    | ok page =>
      obtain ⟨value, nextLink⟩ := page
      cases nextLink with
      | none =>
        simp only [hlist] at h ⊢
        exact h
      | some link =>
        simp only [hlist, Option.map_eq_some_iff] at h ⊢
        obtain ⟨rest, hrest, hread⟩ := h
        exact ⟨rest, ih (Nat.le_of_succ_le_succ hmn) hrest, hread⟩

lemma walk_succ (c : Collection α) {url : Url} {start top : Nat}
    (hstart : pageOffset py c.cursor (parseQsl url.query) = .ok start)
    (htop : c.top py (parseQsl url.query) = .ok top) (requests : Nat) :
    c.walk py (requests + 1) url
      = match pageLink py.toPython (some url) (start + top)
          (c.records (question py.toPython url)).length (c.fallback top) c.cursor with
        | none => some (((c.records (question py.toPython url)).drop start).take top, [])
        | some link => (c.walk py requests link).map fun rest =>
          (((c.records (question py.toPython url)).drop start).take top ++ rest.1,
            link :: rest.2) := by
  have hlist : c.list py url
      = .ok ⟨((c.records (question py.toPython url)).drop start).take top,
        pageLink py.toPython (some url) (start + top)
          (c.records (question py.toPython url)).length (c.fallback top) c.cursor⟩ := by
    simp only [Collection.list, hstart, htop, bind, Except.bind]
    rfl
  rw [Collection.walk, hlist]
  cases pageLink py.toPython (some url) (start + top)
    (c.records (question py.toPython url)).length (c.fallback top) c.cursor <;> rfl

/-- A request that is accepted is walked to its end, by induction on the records that are left. -/
lemma exists_walk (c : Collection α) {url : Url} {start top left : Nat}
    (hstart : pageOffset py c.cursor (parseQsl url.query) = .ok start)
    (htop : c.top py (parseQsl url.query) = .ok top)
    (hleft : (c.records (question py.toPython url)).length - start ≤ left) :
    ∃ links, (∀ link ∈ links, NextOf py.toPython c.cursor url link)
      ∧ c.walk py (left + 1) url
        = some ((c.records (question py.toPython url)).drop start, links) := by
  induction left generalizing url start with
  | zero =>
    have hend : pageLink py.toPython (some url) (start + top)
        (c.records (question py.toPython url)).length (c.fallback top) c.cursor = none :=
      if_pos (by omega)
    refine ⟨[], fun link h => absurd h List.not_mem_nil, ?_⟩
    rw [walk_succ c hstart htop, hend]
    simp only
    rw [List.take_of_length_le (by rw [List.length_drop]; omega)]
  | succ left ih =>
    rw [walk_succ c hstart htop]
    cases hlink : pageLink py.toPython (some url) (start + top)
        (c.records (question py.toPython url)).length (c.fallback top) c.cursor with
    | none =>
      have hend : (c.records (question py.toPython url)).length ≤ start + top := by
        by_contra hlt
        simp only [pageLink, if_neg hlt] at hlink
        cases hlink
      refine ⟨[], fun link h => absurd h List.not_mem_nil, ?_⟩
      simp only
      rw [List.take_of_length_le (by rw [List.length_drop]; omega)]
    | some link =>
      obtain ⟨hoffset, hnext, hlt⟩ := pageOffset_pageLink (c.length_records _) hlink
      have htop' := (top_congr c hnext.question).trans htop
      have hone := one_le_top htop
      obtain ⟨links, hlinks, hwalk⟩ :=
        ih hoffset htop' (by rw [hnext.question]; omega)
      refine ⟨link :: links, ?_, ?_⟩
      · rw [List.forall_mem_cons]
        exact ⟨hnext, fun later h => hnext.trans (hlinks later h)⟩
      · simp only [hwalk, Option.map_some, hnext.question]
        rw [← List.drop_drop, List.take_append_drop]

/-- A request that is accepted is walked to its end: the client reads the records that it asks for
    from its own page start on, each once and in order, and every link that it follows has every
    parameter of the request that is no page cursor, and one page cursor. -/
theorem walk_yields (c : Collection α) {url : Url} {start top : Nat}
    (hstart : pageOffset py c.cursor (parseQsl url.query) = .ok start)
    (htop : c.top py (parseQsl url.query) = .ok top) :
    ∃ links, (∀ link ∈ links, NextOf py.toPython c.cursor url link)
      ∧ ∃ n, ∀ m, n ≤ m → c.walk py m url
        = some ((c.records (question py.toPython url)).drop start, links) := by
  obtain ⟨links, hlinks, hwalk⟩ := exists_walk c hstart htop le_rfl
  exact ⟨links, hlinks, _, fun m hm => walk_mono hm hwalk⟩

/-- A request with blank, repeated and percent-encoded parameters. -/
def actionsUrl : Url :=
  ⟨"http", "mock", "/mde/api/machineactions", "$top=1&a=&a=%26b&$SkipToken=x", ""⟩

/-- A walk over two machine actions. -/
theorem walk_yields_actions :
    ∃ links, (∀ link ∈ links, NextOf asciiPagingPython.toPython .skip actionsUrl link)
      ∧ ∃ n, ∀ m, n ≤ m →
        (listMachineActions (fun _ => ["a", "b"]) fun _ => by decide).walk asciiPagingPython m
          actionsUrl = some (["a", "b"], links) :=
  @walk_yields _ asciiPagingPython (listMachineActions (fun _ => ["a", "b"]) fun _ => by decide)
    actionsUrl 0 1 (by decide +kernel) (by decide +kernel)

/-- A request that skips an action does not read it, and a request for directory objects that uses
    `$skip` is refused. -/
theorem walk_yields_skip :
    (¬∃ links n, ∀ m, n ≤ m →
        (listMachineActions (fun _ => ["a", "b"]) fun _ => by decide).walk asciiPagingPython m
          ⟨"http", "mock", "/mde/api/machineactions", "$skip=1", ""⟩ = some (["a", "b"], links))
      ∧ (listUsers (fun _ => ["a", "b"]) fun _ => by decide).list asciiPagingPython
          ⟨"http", "mock", "/graph/v1.0/users", "$skip=0", ""⟩ = .error .skipNotSupported := by
  refine ⟨?_, by decide +kernel⟩
  rintro ⟨links, n, h⟩
  have hwalk : (listMachineActions (fun _ => ["a", "b"]) fun _ => by decide).walk asciiPagingPython
      1 ⟨"http", "mock", "/mde/api/machineactions", "$skip=1", ""⟩ = some (["b"], []) := by
    decide +kernel
  have hlater := walk_mono (Nat.le_max_right n 1) hwalk
  rw [h _ (Nat.le_max_left n 1)] at hlater
  have hlength : 2 = 1 := congrArg List.length (congrArg Prod.fst (Option.some.inj hlater))
  exact absurd hlength (by decide)

end OdataPaging

end Mockdr
