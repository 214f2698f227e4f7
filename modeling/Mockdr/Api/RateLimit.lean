import Mockdr.Api.TenantScope
import Mockdr.Lib.SlidingWindow
import Mathlib.Algebra.Order.Ring.Rat
import Mathlib.Tactic.Linarith

/-!
# The rate limiter

`api/middleware/rate_limit.py`: the moments of the requests of the last minute, a bucket for each
token and one for the requests to Falcon that present none.

* `bucket` looks a bucket up, after it has evicted those that have been idle for a minute; `call`
  counts a request or refuses it; `serve` answers one request after the other.
* `keyOf`, `limitedAs`: the bucket of a request, and the token whose requests are limited together
  with it.
* `rate_limited`: what the limiter guarantees along every sequence of requests, whichever idle
  buckets are evicted.
-/

namespace Mockdr

namespace RateLimit

open QueryString SlidingWindow
open TenantScope (isDevPath)

/-- `RateLimitConfig` -/
structure RateLimitConfig where
  enabled : Bool
  requestsPerMinute : Nat

/-- The hexadecimal digest of an `Authorization` header. -/
@[ext] structure TokenHint where
  text : String
  length_eq : text.length = 64
  deriving DecidableEq

/-- `_counters` -/
abbrev Counters := Dict String (List ℚ)

/-- A request, with what the clock shows when its bucket is looked up and when it is counted. -/
structure Call where
  scope : TenantScope.Request
  clock : Span ℚ

/-- What Falcon's answers state: the budget of a minute and what is left of it. -/
structure Budget where
  limit : Nat
  remaining : Nat
  deriving DecidableEq

/-- What becomes of a request. -/
inductive Answer where
  | served (budget : Option Budget)
  | refused (budget : Option Budget)
  deriving DecidableEq

/-- Whether a request is let through. -/
def Answer.isServed : Answer → Bool
  | .served _ => true
  | .refused _ => false

/-- `_UNAUTHENTICATED_EXEMPT_PATHS` -/
def exemptPaths : List String := ["/web/api/v2.1/system/status"]

/-- `_CS_PREFIX` -/
def csPrefix : String := "/cs"

/-- `_CS_API_LIMIT` -/
def csApiLimit : Nat := 6000

/-- `_CS_UNAUTHENTICATED_LIMIT` -/
def csUnauthenticatedLimit : Nat := 300

/-- `bytes.lower`, of one byte. -/
def lowerByte (b : UInt8) : UInt8 := if 65 ≤ b ∧ b ≤ 90 then b + 32 else b

section

variable (hexdigest : List UInt8 → TokenHint)

/-- `_token_hint` -/
def tokenHint (scope : TenantScope.Request) : Option TokenHint :=
  (scope.headers.find? fun header =>
    header.1.map lowerByte = encodeUtf8 "authorization".toList).map fun header =>
      hexdigest header.2

/-- The buckets that are left when idle ones are evicted. -/
def evict (windowStart : ℚ) (counters : Counters) : Counters :=
  counters.filter fun entry => !idle windowStart entry.2

variable (sweep : ℚ → Counters → Counters)

/-- `_bucket`, with what it evicts. -/
def bucket (key : String) (now : ℚ) (counters : Counters) : Counters × List ℚ :=
  let windowStart := now - 60
  let counters := sweep windowStart counters
  let times := expire windowStart ((counters.get key).getD [])
  (counters.set key times, times)

variable (config : RateLimitConfig)

/-- The token that a request to Falcon presents, none to a token route. -/
def presented (scope : TenantScope.Request) : Option TokenHint :=
  if startsWith scope.path "/cs/oauth2/" then none else tokenHint hexdigest scope

/-- `_falcon` -/
def falcon (request : Call) (counters : Counters) : Counters × Answer :=
  let token := presented hexdigest request.scope
  let limit :=
    if config.enabled then config.requestsPerMinute
    else if token.isNone then csUnauthenticatedLimit else csApiLimit
  let key := match token with
    | none => "unauthenticated"
    | some hint => hint.text
  let (counters, times) := bucket sweep key request.clock.first counters
  if config.enabled ∧ token.isSome ∧ limit ≤ times.length then
    (counters, .refused (some ⟨limit, 0⟩))
  else
    let times := times ++ [request.clock.last]
    (counters.set key times, .served (some ⟨limit, limit - times.length⟩))

/-- `RateLimitMiddleware.__call__` -/
def call (request : Call) (counters : Counters) : Counters × Answer :=
  if request.scope.type ≠ "http" then (counters, .served none)
  else if isDevPath request.scope.path ∨ request.scope.path ∈ exemptPaths then
    (counters, .served none)
  else if startsWith request.scope.path csPrefix then
    falcon hexdigest sweep config request counters
  else
    match config.enabled, tokenHint hexdigest request.scope with
    | true, some hint =>
      let (counters, times) := bucket sweep hint.text request.clock.first counters
      if config.requestsPerMinute ≤ times.length then (counters, .refused none)
      else (counters.set hint.text (times ++ [request.clock.last]), .served none)
    | _, _ => (counters, .served none)

/-- Answer one request after the other. -/
def serve : Counters → List Call → List (Call × Answer)
  | _, [] => []
  | counters, request :: requests =>
    let (counters, answer) := call hexdigest sweep config request counters
    (request, answer) :: serve counters requests

/-! ## The requests that are counted -/

/-- The bucket that a request is counted in, if it is counted. -/
def keyOf (request : Call) : Option String :=
  if request.scope.type ≠ "http" then none
  else if isDevPath request.scope.path ∨ request.scope.path ∈ exemptPaths then none
  else if startsWith request.scope.path csPrefix then
    match presented hexdigest request.scope with
    | none => some "unauthenticated"
    | some hint => some hint.text
  else if config.enabled then (tokenHint hexdigest request.scope).map TokenHint.text
  else none

/-- The token whose requests are limited together with a request: the one it presents, unless its
    path is exempt or a token route of Falcon's. -/
def limitedAs (request : Call) : Option TokenHint :=
  if request.scope.type ≠ "http" then none
  else if isDevPath request.scope.path ∨ request.scope.path ∈ exemptPaths then none
  else presented hexdigest request.scope

/-- What an answer states. -/
def budgetOf (request : Call) (used : Nat) : Option Budget :=
  if startsWith request.scope.path csPrefix then
    let limit :=
      if config.enabled then config.requestsPerMinute
      else if (presented hexdigest request.scope).isNone then csUnauthenticatedLimit else csApiLimit
    some ⟨limit, limit - used⟩
  else none

/-- Whether a request is refused, by the number of requests in its bucket. -/
def Refuses (request : Call) (used : Nat) : Prop :=
  config.enabled = true ∧ (limitedAs hexdigest request).isSome ∧ config.requestsPerMinute ≤ used

/-- When the requests of a token were let through that are limited together. -/
def admitted (hint : TokenHint) (log : List (Call × Answer)) : List (Span ℚ) :=
  log.filterMap fun e =>
    if limitedAs hexdigest e.1 = some hint ∧ e.2.isServed then some e.1.clock else none

instance (request : Call) (used : Nat) : Decidable (Refuses hexdigest config request used) :=
  inferInstanceAs (Decidable (_ ∧ _ ∧ _))

lemma startsWith_csPrefix {path : String} (h : startsWith path "/cs/oauth2/" = true) :
    startsWith path csPrefix = true := by
  obtain ⟨rest, hrest⟩ := Option.isSome_iff_exists.1 h
  rw [cutPrefix_eq_some_iff] at hrest
  refine Option.isSome_iff_exists.2 ⟨"/oauth2/" ++ rest, cutPrefix_eq_some_iff.2 ?_⟩
  rw [hrest, ← String.append_assoc]
  rfl

lemma presented_eq {scope : TenantScope.Request} (h : ¬ startsWith scope.path csPrefix = true) :
    presented hexdigest scope = tokenHint hexdigest scope :=
  if_neg fun hoauth => h (startsWith_csPrefix hoauth)

/-- What becomes of a request, by its bucket and the number of requests there. -/
lemma call_eq (request : Call) (counters : Counters) :
    call hexdigest sweep config request counters =
      match keyOf hexdigest config request with
      | none => (counters, .served none)
      | some key =>
        let (counters, times) := bucket sweep key request.clock.first counters
        if Refuses hexdigest config request times.length then
          (counters, .refused (budgetOf hexdigest config request times.length))
        else
          (counters.set key (times ++ [request.clock.last]),
            .served (budgetOf hexdigest config request (times.length + 1))) := by
  rw [call, keyOf]
  split_ifs with htype hexempt hcs henabled
  · rfl
  · rfl
  · have hlimited : limitedAs hexdigest request = presented hexdigest request.scope := by
      rw [limitedAs, if_neg htype, if_neg hexempt]
    rw [falcon]
    simp only [Refuses, budgetOf, hlimited, if_pos hcs]
    cases presented hexdigest request.scope with
    | none => simp only [Option.isSome_none, Bool.false_eq_true, false_and, and_false, if_false,
        List.length_append, List.length_singleton]
    | some hint =>
      simp only [Option.isSome_some, true_and, List.length_append, List.length_singleton]
      cases config.enabled with
      | false => simp only [Bool.false_eq_true, false_and, if_false]
      | true =>
        simp only [true_and, if_true]
        split_ifs with hfull
        · rw [Nat.sub_eq_zero_of_le hfull]
        · rfl
  · have hlimited : limitedAs hexdigest request = tokenHint hexdigest request.scope := by
      rw [limitedAs, if_neg htype, if_neg hexempt, presented_eq hexdigest hcs]
    simp only [Refuses, budgetOf, hlimited, if_neg hcs, henabled]
    cases tokenHint hexdigest request.scope with
    | none => rfl
    | some hint => simp only [Option.isSome_some, true_and, Option.map_some]
  · rw [Bool.not_eq_true] at henabled
    rw [henabled]

/-! ## A limiter that remembers everything -/

/-- The moments at which requests of a bucket were counted. -/
def momentsOf (key : String) (log : List (Call × Answer)) : List ℚ :=
  log.filterMap fun e =>
    if keyOf hexdigest config e.1 = some key ∧ e.2.isServed then some e.1.clock.last else none

/-- The answer to a request after others. -/
def answerAfter (log : List (Call × Answer)) (request : Call) : Answer :=
  match keyOf hexdigest config request with
  | none => .served none
  | some key =>
    let used := (momentsOf hexdigest config key log).countP (request.clock.first - 60 ≤ ·)
    if Refuses hexdigest config request used then .refused (budgetOf hexdigest config request used)
    else .served (budgetOf hexdigest config request (used + 1))

/-- The answers to one request after the other. -/
def answersOf : List (Call × Answer) → List Call → List (Call × Answer)
  | _, [] => []
  | log, request :: requests =>
    let entry := (request, answerAfter hexdigest config log request)
    entry :: answersOf (log ++ [entry]) requests

/-- The moments in a bucket. -/
def timesOf (counters : Counters) (key : String) : List ℚ := (counters.get key).getD []

/-- The buckets agree with a log, as far as any later window goes. -/
structure Tracks (log : List (Call × Answer)) (now : ℚ) (counters : Counters) : Prop where
  ordered : ∀ key, (timesOf counters key).Pairwise (· ≤ ·)
  past : ∀ key, ∀ t ∈ timesOf counters key, t ≤ now
  recent : ∀ key start, now - 60 ≤ start →
    (timesOf counters key).filter (start ≤ ·)
      = (momentsOf hexdigest config key log).filter (start ≤ ·)

end

/-- Only buckets that are idle are evicted. -/
def EvictsIdle (sweep : ℚ → Counters → Counters) : Prop :=
  ∀ start counters key, (sweep start counters).get key = counters.get key
    ∨ (sweep start counters).get key = none
      ∧ ∀ times, counters.get key = some times → idle start times = true

/-- The requests come one after the other. -/
def Clocked (requests : List Call) : Prop :=
  requests.Pairwise fun a b => a.clock.last ≤ b.clock.first

variable {hexdigest : List UInt8 → TokenHint} {sweep : ℚ → Counters → Counters}
  {config : RateLimitConfig} {log : List (Call × Answer)} {now later : ℚ} {counters : Counters}
  {request : Call} {answer : Answer} {key : String}

lemma evict_evictsIdle : EvictsIdle evict := by
  intro start counters key
  rw [evict, Dict.get_filter]
  cases counters.get key with
  | none => exact .inl rfl
  | some times =>
    cases hidle : idle start times with
    | false => exact .inl (by rw [Option.filter_some, hidle]; rfl)
    | true =>
      refine .inr ⟨by rw [Option.filter_some, hidle]; rfl, fun times' h => ?_⟩
      rw [← Option.some.inj h]
      exact hidle

lemma timesOf_set (counters : Counters) (key other : String) (times : List ℚ) :
    timesOf (counters.set key times) other = if other = key then times else timesOf counters other
    := by
  rw [timesOf, Dict.get_set]
  split_ifs <;> rfl

lemma tracks_empty (now : ℚ) : Tracks hexdigest config [] now Dict.empty where
  ordered _ := List.Pairwise.nil
  past _ _ h := nomatch h
  recent _ _ _ := rfl

lemma Tracks.mono (h : Tracks hexdigest config log now counters) (hnow : now ≤ later) :
    Tracks hexdigest config log later counters where
  ordered := h.ordered
  past key t ht := (h.past key t ht).trans hnow
  recent key start hstart := h.recent key start (by linarith)

/-- Buckets that are idle can be evicted. -/
lemma Tracks.evict (h : Tracks hexdigest config log now counters) (hsweep : EvictsIdle sweep) :
    Tracks hexdigest config log now (sweep (now - 60) counters) := by
  have hcases : ∀ key, timesOf (sweep (now - 60) counters) key = timesOf counters key
      ∨ timesOf (sweep (now - 60) counters) key = []
        ∧ idle (now - 60) (timesOf counters key) = true := by
    intro key
    obtain hsame | ⟨hnone, hidle⟩ := hsweep (now - 60) counters key
    · exact .inl (by rw [timesOf, timesOf, hsame])
    · refine .inr ⟨by rw [timesOf, hnone]; rfl, ?_⟩
      rw [timesOf]
      cases hget : counters.get key with
      | none => rfl
      | some times => exact hidle times hget
  constructor
  · intro key
    obtain hsame | ⟨hnil, -⟩ := hcases key
    · rw [hsame]
      exact h.ordered key
    · rw [hnil]
      exact List.Pairwise.nil
  · intro key t ht
    obtain hsame | ⟨hnil, -⟩ := hcases key
    · rw [hsame] at ht
      exact h.past key t ht
    · rw [hnil] at ht
      cases ht
  · intro key start hstart
    obtain hsame | ⟨hnil, hidle⟩ := hcases key
    · rw [hsame]
      exact h.recent key start hstart
    · rw [hnil, ← h.recent key start hstart, filter_of_idle (h.ordered key) hidle hstart]
      rfl

/-- The bucket of a key, once it is looked up, is what the log has of the last minute. -/
lemma Tracks.bucket (h : Tracks hexdigest config log now counters) (hsweep : EvictsIdle sweep)
    (key : String) :
    Tracks hexdigest config log now (bucket sweep key now counters).1
      ∧ timesOf (bucket sweep key now counters).1 key = (bucket sweep key now counters).2
      ∧ (bucket sweep key now counters).2
        = (momentsOf hexdigest config key log).filter (now - 60 ≤ ·) := by
  have hswept := h.evict hsweep
  have htimes : (RateLimit.bucket sweep key now counters).2
      = (timesOf (sweep (now - 60) counters) key).filter (now - 60 ≤ ·) :=
    expire_eq_filter (hswept.ordered key)
  have hset : ∀ other, timesOf (RateLimit.bucket sweep key now counters).1 other
      = if other = key then (timesOf (sweep (now - 60) counters) key).filter (now - 60 ≤ ·)
        else timesOf (sweep (now - 60) counters) other := by
    intro other
    rw [← htimes]
    exact timesOf_set _ key other _
  refine ⟨⟨fun other => ?_, fun other t ht => ?_, fun other start hstart => ?_⟩, ?_, ?_⟩
  · rw [hset]
    split_ifs with hother
    · exact (hswept.ordered key).filter _
    · exact hswept.ordered other
  · rw [hset] at ht
    split_ifs at ht with hother
    · exact hswept.past key t (List.mem_of_mem_filter ht)
    · exact hswept.past other t ht
  · rw [hset]
    split_ifs with hother
    · rw [hother, filter_filter_le hstart]
      exact hswept.recent key start hstart
    · exact hswept.recent other start hstart
  · rw [hset, if_pos rfl, htimes]
  · rw [htimes]
    exact hswept.recent key _ le_rfl

lemma momentsOf_append (key : String) (log rest : List (Call × Answer)) :
    momentsOf hexdigest config key (log ++ rest)
      = momentsOf hexdigest config key log ++ momentsOf hexdigest config key rest :=
  List.filterMap_append

lemma momentsOf_singleton (key : String) (request : Call) (answer : Answer) :
    momentsOf hexdigest config key [(request, answer)]
      = if keyOf hexdigest config request = some key ∧ answer.isServed = true
        then [request.clock.last] else [] := by
  rw [momentsOf, List.filterMap_cons, List.filterMap_nil]
  dsimp only
  split_ifs <;> rfl

lemma Tracks.pass (h : Tracks hexdigest config log now counters)
    (hpass : ∀ key, ¬ (keyOf hexdigest config request = some key ∧ answer.isServed = true)) :
    Tracks hexdigest config (log ++ [(request, answer)]) now counters where
  ordered := h.ordered
  past := h.past
  recent key start hstart := by
    rw [momentsOf_append, momentsOf_singleton, if_neg (hpass key), List.append_nil]
    exact h.recent key start hstart

/-- A request that is counted joins its bucket. -/
lemma Tracks.count (h : Tracks hexdigest config log now counters) (hnow : now ≤ request.clock.last)
    (hkey : keyOf hexdigest config request = some key) (hserved : answer.isServed = true) :
    Tracks hexdigest config (log ++ [(request, answer)]) request.clock.last
      (counters.set key (timesOf counters key ++ [request.clock.last])) := by
  have hmoments : ∀ other, momentsOf hexdigest config other [(request, answer)]
      = if other = key then [request.clock.last] else [] := by
    intro other
    rw [momentsOf_singleton, hkey]
    refine if_congr ?_ rfl rfl
    rw [and_iff_left hserved, Option.some_inj, eq_comm]
  constructor
  · intro other
    rw [timesOf_set]
    split_ifs with hother
    · refine List.pairwise_append.2 ⟨h.ordered key, List.pairwise_singleton _ _, ?_⟩
      intro t ht u hu
      rw [List.mem_singleton.1 hu]
      exact (h.past key t ht).trans hnow
    · exact h.ordered other
  · intro other t ht
    rw [timesOf_set] at ht
    split_ifs at ht with hother
    · obtain ht | ht := List.mem_append.1 ht
      · exact (h.past key t ht).trans hnow
      · exact (List.mem_singleton.1 ht).le
    · exact (h.past other t ht).trans hnow
  · intro other start hstart
    rw [timesOf_set, momentsOf_append, hmoments]
    split_ifs with hother
    · rw [hother, List.filter_append, List.filter_append, h.recent key start (by linarith)]
    · rw [List.append_nil]
      exact h.recent other start (by linarith)

/-- The middleware answers a request as the limiter that remembers everything does. -/
lemma Tracks.call (h : Tracks hexdigest config log now counters) (hsweep : EvictsIdle sweep)
    (hnow : now ≤ request.clock.first) :
    (call hexdigest sweep config request counters).2 = answerAfter hexdigest config log request
      ∧ Tracks hexdigest config (log ++ [(request, answerAfter hexdigest config log request)])
        request.clock.last (call hexdigest sweep config request counters).1 := by
  have hfirst := h.mono hnow
  rw [call_eq, answerAfter]
  cases hkey : keyOf hexdigest config request with
  | none =>
    refine ⟨rfl, (hfirst.pass fun key hcount => ?_).mono request.clock.le⟩
    rw [hkey] at hcount
    cases hcount.1
  | some key =>
    obtain ⟨hbucket, hself, htimes⟩ := hfirst.bucket hsweep key
    have hused : (RateLimit.bucket sweep key request.clock.first counters).2.length
        = (momentsOf hexdigest config key log).countP (request.clock.first - 60 ≤ ·) := by
      rw [htimes, List.countP_eq_length_filter]
    dsimp only
    rw [hused]
    split_ifs with hrefuses
    · refine ⟨rfl, Tracks.mono (hbucket.pass ?_) request.clock.le⟩
      rintro other ⟨-, hserved⟩
      cases hserved
    · refine ⟨rfl, ?_⟩
      rw [← hself]
      exact hbucket.count request.clock.le hkey rfl

/-- The middleware answers requests that come one after the other as that limiter does. -/
lemma Tracks.serve {requests : List Call} (h : Tracks hexdigest config log now counters)
    (hsweep : EvictsIdle sweep) (hclock : Clocked requests)
    (hnow : ∀ request ∈ requests, now ≤ request.clock.first) :
    serve hexdigest sweep config counters requests = answersOf hexdigest config log requests := by
  induction requests generalizing log now counters with
  | nil => rfl
  | cons request requests ih =>
    obtain ⟨hlater, hrest⟩ := List.pairwise_cons.1 hclock
    obtain ⟨hanswer, hnext⟩ := h.call hsweep (hnow request List.mem_cons_self)
    rw [RateLimit.serve, answersOf]
    dsimp only
    rw [hanswer, ih hnext hrest hlater]

/-! ## What the limiter guarantees -/

lemma tokenHint_of_limitedAs {hint : TokenHint} (h : limitedAs hexdigest request = some hint) :
    tokenHint hexdigest request.scope = some hint := by
  rw [limitedAs] at h
  split_ifs at h
  rw [presented] at h
  split_ifs at h
  exact h

/-- While the limiter is on, the bucket of a token has the requests that are limited as it. -/
lemma keyOf_eq_text_iff (henabled : config.enabled = true) {hint : TokenHint} :
    keyOf hexdigest config request = some hint.text ↔ limitedAs hexdigest request = some hint := by
  have hmap : ∀ token : Option TokenHint,
      token.map TokenHint.text = some hint.text ↔ token = some hint := by
    intro token
    cases token with
    | none => exact iff_of_false nofun nofun
    | some found =>
      rw [Option.map_some, Option.some_inj, Option.some_inj, TokenHint.ext_iff]
  rw [keyOf, limitedAs]
  split_ifs with htype hexempt hcs
  · exact iff_of_false nofun nofun
  · exact iff_of_false nofun nofun
  · cases presented hexdigest request.scope with
    | none =>
      refine iff_of_false (fun h => ?_) nofun
      have hlength := hint.length_eq
      rw [← Option.some.inj h] at hlength
      exact absurd hlength (by decide)
    | some found => exact hmap (some found)
  · rw [presented_eq hexdigest hcs]
    exact hmap _

lemma momentsOf_text (henabled : config.enabled = true) (hint : TokenHint)
    (log : List (Call × Answer)) :
    momentsOf hexdigest config hint.text log = (admitted hexdigest hint log).map Span.last := by
  rw [momentsOf, admitted, List.map_filterMap]
  refine List.filterMap_congr fun e _ => ?_
  simp only [keyOf_eq_text_iff henabled]
  split_ifs <;> rfl

/-- Every answer of a log is the one after the entries before it. -/
def Recalled (hexdigest : List UInt8 → TokenHint) (config : RateLimitConfig)
    (log : List (Call × Answer)) : Prop :=
  ∀ pre e post, log = pre ++ e :: post → e.2 = answerAfter hexdigest config pre e.1

lemma recalled_answersOf (requests : List Call) :
    ∀ log pre e post, answersOf hexdigest config log requests = pre ++ e :: post →
      e.2 = answerAfter hexdigest config (log ++ pre) e.1 := by
  induction requests with
  | nil =>
    intro log pre e post h
    exact absurd h.symm (List.append_ne_nil_of_right_ne_nil _ (List.cons_ne_nil _ _))
  | cons request requests ih =>
    intro log pre e post h
    rw [answersOf] at h
    cases pre with
    | nil =>
      obtain ⟨rfl, -⟩ := List.cons.inj h
      rw [List.append_nil]
    | cons first pre =>
      obtain ⟨rfl, hrest⟩ := List.cons.inj h
      rw [ih _ pre e post hrest, List.append_assoc, List.singleton_append]

lemma map_fst_answersOf (log : List (Call × Answer)) (requests : List Call) :
    (answersOf hexdigest config log requests).map Prod.fst = requests := by
  induction requests generalizing log with
  | nil => rfl
  | cons request requests ih => rw [answersOf, List.map_cons, ih]

lemma answerAfter_of_limitedAs (henabled : config.enabled = true) {hint : TokenHint}
    (h : limitedAs hexdigest request = some hint) :
    (answerAfter hexdigest config log request).isServed = false
      ↔ config.requestsPerMinute
        ≤ (admitted hexdigest hint log).countP (request.clock.first - 60 ≤ ·.last) := by
  rw [answerAfter, (keyOf_eq_text_iff henabled).2 h]
  dsimp only
  rw [momentsOf_text henabled, List.countP_map]
  have hrefuses : ∀ used, Refuses hexdigest config request used
      ↔ config.requestsPerMinute ≤ used := by
    intro used
    rw [Refuses, h]
    exact ⟨fun hr => hr.2.2, fun hr => ⟨henabled, rfl, hr⟩⟩
  split_ifs with hfull
  · exact iff_of_true rfl ((hrefuses _).1 hfull)
  · exact iff_of_false (Bool.noConfusion ·) fun h => hfull ((hrefuses _).2 h)

lemma countP_admitted_le (henabled : config.enabled = true) (h : Recalled hexdigest config log)
    (hint : TokenHint) (x : ℚ) :
    (admitted hexdigest hint log).countP (fun s => x ≤ s.last ∧ s.first ≤ x + 60)
      ≤ config.requestsPerMinute := by
  refine countP_window_le (fun pre s post heq => ?_) x
  rw [admitted, List.filterMap_eq_append_iff] at heq
  obtain ⟨front, rest, rfl, hfront, hrest⟩ := heq
  obtain ⟨skipped, e, back, rfl, hskipped, he, -⟩ := List.filterMap_eq_cons_iff.1 hrest
  have hanswer := h (front ++ skipped) e back (List.append_assoc _ _ _).symm
  have hpre : admitted hexdigest hint (front ++ skipped) = pre := by
    rw [admitted, List.filterMap_append, hfront, List.filterMap_eq_nil_iff.2 hskipped,
      List.append_nil]
  split_ifs at he with hserved
  obtain rfl := Option.some.inj he
  rw [← hpre]
  by_contra hfull
  have hrefused := (answerAfter_of_limitedAs henabled hserved.1).2 (not_lt.1 hfull)
  rw [← hanswer, hserved.2] at hrefused
  cases hrefused

/-- A request is refused after a minute in which as many of its token were let through. -/
lemma countP_admitted_of_refused (henabled : config.enabled = true)
    {pre post : List (Call × Answer)}
    (h : Recalled hexdigest config (pre ++ (request, answer) :: post))
    (hrefused : answer.isServed = false) :
    ∃ hint, limitedAs hexdigest request = some hint
      ∧ (admitted hexdigest hint pre).countP (request.clock.first - 60 ≤ ·.last)
        ≥ config.requestsPerMinute := by
  have hanswer : answer = answerAfter hexdigest config pre request :=
    h pre (request, answer) post rfl
  cases hlimited : limitedAs hexdigest request with
  | some hint =>
    refine ⟨hint, rfl, (answerAfter_of_limitedAs henabled hlimited).1 ?_⟩
    rw [← hanswer, hrefused]
  | none =>
    have hserved : (answerAfter hexdigest config pre request).isServed = true := by
      rw [answerAfter]
      cases keyOf hexdigest config request with
      | none => rfl
      | some key =>
        dsimp only
        rw [if_neg]
        · rfl
        · rintro ⟨-, hsome, -⟩
          rw [hlimited] at hsome
          cases hsome
    rw [← hanswer, hrefused] at hserved
    cases hserved

/-- Along requests that come one after the other, under a fixed limit: at most as many requests of a
    token are let through in any minute, of those that the limiter is over; a request is refused
    only if as many of its token were let through in the minute before it; and whichever idle
    buckets are evicted, the answers are the same. -/
theorem rate_limited (hexdigest : List UInt8 → TokenHint) (limit : Nat) {requests : List Call}
    (hclock : Clocked requests) :
    let log := serve hexdigest evict ⟨true, limit⟩ Dict.empty requests
    (∀ hint x, (admitted hexdigest hint log).countP (fun s => x ≤ s.last ∧ s.first ≤ x + 60)
        ≤ limit)
      ∧ (∀ pre request answer post, log = pre ++ (request, answer) :: post →
          answer.isServed = false →
          ∃ hint, tokenHint hexdigest request.scope = some hint
            ∧ (admitted hexdigest hint pre).countP (fun s =>
              request.clock.first - 60 ≤ s.last ∧ s.last ≤ request.clock.first) = limit)
      ∧ ∀ sweep, EvictsIdle sweep →
        serve hexdigest sweep ⟨true, limit⟩ Dict.empty requests = log := by
  obtain ⟨now, hnow⟩ : ∃ now : ℚ, ∀ request ∈ requests, now ≤ request.clock.first := by
    cases requests with
    | nil => exact ⟨0, nofun⟩
    | cons first rest =>
      refine ⟨first.clock.first, fun request hmem => ?_⟩
      obtain rfl | hmem := List.mem_cons.1 hmem
      · exact le_rfl
      · exact first.clock.le.trans ((List.pairwise_cons.1 hclock).1 request hmem)
  have hserve : ∀ sweep, EvictsIdle sweep →
      serve hexdigest sweep ⟨true, limit⟩ Dict.empty requests
        = answersOf hexdigest ⟨true, limit⟩ [] requests :=
    fun _ hsweep => (tracks_empty now).serve hsweep hclock hnow
  intro log
  have hlog : log = answersOf hexdigest ⟨true, limit⟩ [] requests := hserve evict evict_evictsIdle
  have hrecalled : Recalled hexdigest ⟨true, limit⟩ log := by
    intro pre e post heq
    rw [hlog] at heq
    exact recalled_answersOf requests [] pre e post heq
  refine ⟨fun hint x => countP_admitted_le rfl hrecalled hint x, ?_, ?_⟩
  · intro pre request answer post heq hrefused
    rw [heq] at hrecalled
    obtain ⟨hint, hlimited, hfull⟩ := countP_admitted_of_refused rfl hrecalled hrefused
    refine ⟨hint, tokenHint_of_limitedAs hlimited, ?_⟩
    -- the requests before it were counted before its bucket was looked up
    have hordered : Clocked ((pre ++ (request, answer) :: post).map Prod.fst) := by
      rw [← heq, hlog, map_fst_answersOf]
      exact hclock
    have hbefore : ∀ s ∈ admitted hexdigest hint pre, s.last ≤ request.clock.first := by
      intro s hs
      obtain ⟨e, he, hes⟩ := List.mem_filterMap.1 hs
      split_ifs at hes
      obtain rfl := Option.some.inj hes
      rw [Clocked, List.map_append, List.map_cons] at hordered
      exact (List.pairwise_append.1 hordered).2.2 e.1 (List.mem_map_of_mem he) request
        List.mem_cons_self
    have hpre : Recalled hexdigest ⟨true, limit⟩ pre := by
      intro front e back hfront
      refine hrecalled front e (back ++ (request, answer) :: post) ?_
      rw [hfront, List.append_assoc, List.cons_append]
    refine le_antisymm ?_ ?_
    · refine le_trans (List.countP_mono_left fun s _ hs => ?_)
        (countP_admitted_le rfl hpre hint (request.clock.first - 60))
      obtain ⟨hfrom, hto⟩ := of_decide_eq_true hs
      refine decide_eq_true ⟨hfrom, ?_⟩
      have := s.le
      linarith
    · refine le_trans hfull (List.countP_mono_left fun s hs hfrom => ?_)
      exact decide_eq_true ⟨of_decide_eq_true hfrom, hbefore s hs⟩
  · intro sweep hsweep
    rw [hlog]
    exact hserve sweep hsweep

/-- A digest that does not depend on the header. -/
def oneDigest : List UInt8 → TokenHint := fun _ => ⟨String.ofList (List.replicate 64 'a'), rfl⟩

/-- A request with a token, at one moment. -/
def askedAt (path : String) (t : ℚ) : Call :=
  ⟨⟨"http", path, [(encodeUtf8 "authorization".toList, [])], []⟩, ⟨t, t, le_rfl⟩⟩

/-- Two requests for agents, a second apart. -/
theorem rate_limited_agents :
    let log := serve oneDigest evict ⟨true, 1⟩ Dict.empty
      [askedAt "/web/api/v2.1/agents" 0, askedAt "/web/api/v2.1/agents" 1]
    (∀ hint x, (admitted oneDigest hint log).countP (fun s => x ≤ s.last ∧ s.first ≤ x + 60) ≤ 1)
      ∧ (∀ pre request answer post, log = pre ++ (request, answer) :: post →
          answer.isServed = false →
          ∃ hint, tokenHint oneDigest request.scope = some hint
            ∧ (admitted oneDigest hint pre).countP (fun s =>
              request.clock.first - 60 ≤ s.last ∧ s.last ≤ request.clock.first) = 1)
      ∧ ∀ sweep, EvictsIdle sweep →
        serve oneDigest sweep ⟨true, 1⟩ Dict.empty
          [askedAt "/web/api/v2.1/agents" 0, askedAt "/web/api/v2.1/agents" 1] = log :=
  rate_limited oneDigest 1 (List.pairwise_pair.2 zero_le_one)

/-- A token route of Falcon's is not limited: with a limit of one, both requests with a token within
    a second are let through. -/
theorem token_route_unlimited :
    [askedAt "/cs/oauth2/token" 0, askedAt "/cs/oauth2/token" 1].map (fun request =>
        tokenHint oneDigest request.scope) = [some (oneDigest []), some (oneDigest [])]
      ∧ (serve oneDigest evict ⟨true, 1⟩ Dict.empty
        [askedAt "/cs/oauth2/token" 0, askedAt "/cs/oauth2/token" 1]).map (fun e => e.2.isServed)
        = [true, true] := by
  decide +kernel

end RateLimit

end Mockdr
