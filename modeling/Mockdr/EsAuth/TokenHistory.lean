import Mathlib
import Mockdr.EsAuth.Tokens

/-!
# What a request does to the tokens

* `History` is the two collections with every request that was made of them, each with the
  collections it met (`Moment`).
* `Moment.Mints`, `Issues`, `Revokes`, `Names` are what a request of the past did with a token.
* `Change` says once what a request does to every record of the collections; one lemma for every
  kind of request.
-/

namespace Mockdr

namespace EsAuth

/-- A request and the collections it meets. -/
structure Moment where
  store : Store
  action : Action

/-- The collections and the requests that were made of them. -/
structure History where
  store : Store
  past : List Moment

/-- No request has been made. -/
def History.init : History := ⟨.init, []⟩

variable (py : Python) (users : String → Option User)

/-- Answer a request and remember it. -/
def observe (h : History) (a : Action) : History :=
  ⟨step py users h.store a, ⟨h.store, a⟩ :: h.past⟩

/-- The tokens that a request draws, if it comes to that. -/
def Action.drawn (a : Action) : Option Drawn :=
  match a.call py users with
  | .ok (.mint _ _ drawn) | .ok (.refresh _ drawn) => some drawn
  | _ => none

namespace Moment

variable (m : Moment)

/-- The request is answered with tokens. -/
def Answers (response : Granted) : Prop :=
  (handle py users m.store m.action).2 = .granted response

/-- The request is to trade a refresh token. -/
def Refreshes (refreshToken : String) : Prop :=
  ∃ drawn, m.action.call py users = .ok (.refresh refreshToken drawn)

/-- A refresh token is traded for a new pair. -/
def Mints (refreshToken : String) (response : Granted) : Prop :=
  ∃ drawn, m.action.call py users = .ok (.refresh refreshToken drawn)
    ∧ m.Answers py users response ∧ response.accessToken = drawn.accessToken

/-- A refresh token is granted. -/
def Issues (refreshToken : String) : Prop :=
  ∃ response drawn, m.Answers py users response ∧ response.refreshToken = some refreshToken
    ∧ m.action.drawn py users = some drawn ∧ response.accessToken = drawn.accessToken

/-- Every token of a user is invalidated. -/
def RevokesAll (caller : Caller) : Prop :=
  ∃ username, m.action.call py users = .ok (.invalidate (.all username))
    ∧ covers username caller = true

/-- A refresh token is invalidated, by itself or with its user's. -/
def Revokes (refreshToken : String) : Prop :=
  ∃ record, m.store.refreshTokens.get refreshToken = some record
    ∧ (m.action.call py users = .ok (.invalidate (.refresh refreshToken))
      ∨ m.RevokesAll py users record.caller)

/-- An access token is invalidated by itself. -/
def Names (accessToken : String) : Prop :=
  m.action.call py users = .ok (.invalidate (.access accessToken))
    ∧ m.store.tokens.contains accessToken = true

end Moment

/-! ## One step -/

/-- What a request does to every record of the two collections. -/
structure Change (s : Store) (a : Action) (s' : Store) : Prop where
  token : ∀ key record', s'.tokens.get key = some record' →
    (∃ record, s.tokens.get key = some record ∧ record'.caller = record.caller
      ∧ record'.createdAt = record.createdAt ∧ record'.expiresAt = record.expiresAt
      ∧ (record'.invalidated = true ↔ record.invalidated = true
        ∨ (Moment.mk s a).Names py users key ∨ (Moment.mk s a).RevokesAll py users record.caller))
    ∨ ∃ drawn, a.drawn py users = some drawn ∧ key = drawn.accessToken
      ∧ record'.invalidated = false
  reaped : ∀ key record, s.tokens.get key = some record → s'.tokens.get key = none →
    record.createdAt + TOKEN_DOCUMENT_LIFETIME_SECONDS < a.now
  refreshToken : ∀ key record', s'.refreshTokens.get key = some record' →
    (∃ record, s.refreshTokens.get key = some record ∧ record'.caller = record.caller
      ∧ record'.createdAt = record.createdAt
      ∧ (record'.invalidated = true ↔ record.invalidated = true
        ∨ (Moment.mk s a).Revokes py users key)
      ∧ (record'.refreshed = record.refreshed
          ∧ (∀ response, ¬ (Moment.mk s a).Mints py users key response)
        ∨ ∃ response drawn, record.refreshed = none
          ∧ record'.refreshed = some (a.now, response)
          ∧ (∀ response', (Moment.mk s a).Mints py users key response' → response' = response)
          ∧ a.drawn py users = some drawn ∧ response.accessToken = drawn.accessToken
          ∧ s'.tokens.get response.accessToken
            = some ⟨record.caller, a.now, a.now + TOKEN_LIFETIME_SECONDS, false⟩))
    ∨ ∃ drawn, a.drawn py users = some drawn ∧ key = drawn.refreshToken
      ∧ record'.createdAt = a.now ∧ record'.refreshed = none ∧ record'.invalidated = false
  issued : ∀ key, (Moment.mk s a).Issues py users key →
    ∃ drawn, a.drawn py users = some drawn ∧ key = drawn.refreshToken

variable {py users} {s : Store} {a : Action} {now : ℚ} {drawn : Drawn}

lemma handle_of_call {call : Call} (h : a.call py users = .ok call) :
    handle py users s a = perform a.now s call := by
  rw [handle, h]

lemma step_of_call {call : Call} (h : a.call py users = .ok call) :
    step py users s a = (perform a.now s call).1 := by
  rw [step, handle_of_call h]

/-- A request that leaves the collections, answers no tokens of its own, and invalidates what is
    invalid already. -/
lemma Change.quiet
    (hnames : ∀ key record, s.tokens.get key = some record →
      (Moment.mk s a).Names py users key → record.invalidated = true)
    (hall : ∀ caller, ¬ (Moment.mk s a).RevokesAll py users caller)
    (hrevokes : ∀ key record, s.refreshTokens.get key = some record →
      (Moment.mk s a).Revokes py users key → record.invalidated = true)
    (hmints : ∀ key response, ¬ (Moment.mk s a).Mints py users key response)
    (hissues : ∀ key, ¬ (Moment.mk s a).Issues py users key) : Change py users s a s where
  token key record h := by
    refine .inl ⟨record, h, rfl, rfl, rfl, .inl, ?_⟩
    rintro (hinv | hname | hrevoked)
    · exact hinv
    · exact hnames key record h hname
    · exact absurd hrevoked (hall _)
  reaped key record h hnone := by
    rw [h] at hnone
    cases hnone
  refreshToken key record h := by
    refine .inl ⟨record, h, rfl, rfl, ⟨.inl, ?_⟩, .inl ⟨rfl, hmints key⟩⟩
    rintro (hinv | hrevoked)
    · exact hinv
    · exact hrevokes key record h hrevoked
  issued key h := absurd h (hissues key)

lemma mint_eq (now : ℚ) (drawn : Drawn) (caller : Caller) (withRefresh : Bool) (s : Store) :
    mint now drawn caller withRefresh s
      = (⟨s.tokens.set drawn.accessToken ⟨caller, now, now + TOKEN_LIFETIME_SECONDS, false⟩,
          if withRefresh then s.refreshTokens.set drawn.refreshToken
            ⟨caller, drawn.accessToken, now, false, none⟩ else s.refreshTokens⟩,
        ⟨drawn.accessToken, if withRefresh then some drawn.refreshToken else none, caller⟩) := by
  cases withRefresh <;> rfl

lemma verdict_first {record : RefreshRecord} (h : record.verdict now = .first) :
    record.invalidated = false ∧ now ≤ record.createdAt + TOKEN_DOCUMENT_LIFETIME_SECONDS
      ∧ record.refreshed = none := by
  rw [RefreshRecord.verdict] at h
  split_ifs at h with hinv hold
  split at h
  · split_ifs at h
  · next hnone => exact ⟨eq_false_of_ne_true hinv, not_lt.1 hold, hnone⟩

lemma verdict_again {record : RefreshRecord} {response : Granted}
    (h : record.verdict now = .again response) :
    record.invalidated = false ∧ now ≤ record.createdAt + TOKEN_DOCUMENT_LIFETIME_SECONDS
      ∧ ∃ refreshedAt, record.refreshed = some (refreshedAt, response)
        ∧ now ≤ refreshedAt + REFRESH_REUSE_SECONDS := by
  rw [RefreshRecord.verdict] at h
  split_ifs at h with hinv hold
  split at h
  · next refreshedAt supersededBy hsome =>
    split_ifs at h with hlate
    cases h
    exact ⟨eq_false_of_ne_true hinv, not_lt.1 hold, refreshedAt, hsome, not_lt.1 hlate⟩
  · cases h

/-- What becomes of a refresh. -/
lemma refresh_cases (now : ℚ) (drawn : Drawn) (token : String) (s : Store) :
    (∃ refusal, refresh now drawn token s = (s, .refused refusal))
      ∨ ∃ record, s.refreshTokens.get token = some record
        ∧ ((∃ response, record.verdict now = .again response
            ∧ refresh now drawn token s = (s, .granted response))
          ∨ record.verdict now = .first
            ∧ refresh now drawn token s
              = (⟨s.tokens.set drawn.accessToken
                    ⟨record.caller, now, now + TOKEN_LIFETIME_SECONDS, false⟩,
                  (s.refreshTokens.set drawn.refreshToken
                    ⟨record.caller, drawn.accessToken, now, false, none⟩).set token
                    { record with
                      refreshed := some (now,
                        ⟨drawn.accessToken, some drawn.refreshToken, record.caller⟩) }⟩,
                .granted ⟨drawn.accessToken, some drawn.refreshToken, record.caller⟩)) := by
  unfold refresh
  cases hget : s.refreshTokens.get token with
  | none => exact .inl ⟨_, rfl⟩
  | some record =>
    cases hverdict : record.verdict now with
    | refused description =>
      exact .inl ⟨.oauthError "invalid_grant" description, by simp only [hverdict]⟩
    | again response => exact .inr ⟨record, rfl, .inl ⟨response, hverdict, by simp only [hverdict]⟩⟩
    | first =>
      refine .inr ⟨record, rfl, .inr ⟨hverdict, ?_⟩⟩
      simp only [hverdict, mint_eq, if_true]

/-! ## The requests, one by one -/

lemma Change.refused {refusal : Refusal} (hcall : a.call py users = .error refusal) :
    Change py users s a s := by
  refine Change.quiet ?_ ?_ ?_ ?_ ?_
  · rintro key record - ⟨hname, -⟩
    rw [hcall] at hname
    cases hname
  · rintro caller ⟨username, hall, -⟩
    rw [hcall] at hall
    cases hall
  · rintro key record - ⟨record', -, hone | ⟨username, hall, -⟩⟩
    · rw [hcall] at hone
      cases hone
    · rw [hcall] at hall
      cases hall
  · rintro key response ⟨drawn, hrefresh, -⟩
    rw [hcall] at hrefresh
    cases hrefresh
  · rintro key ⟨response, drawn, hanswer, -⟩
    rw [Moment.Answers, handle, hcall] at hanswer
    cases hanswer

lemma not_granted {response : Response} (hanswer : (handle py users s a).2 = response)
    (hno : ∀ granted, response ≠ .granted granted) :
    (∀ key granted, ¬ (Moment.mk s a).Mints py users key granted)
      ∧ ∀ key, ¬ (Moment.mk s a).Issues py users key := by
  constructor
  · rintro key granted ⟨drawn, -, hgranted, -⟩
    exact hno granted (hanswer ▸ hgranted)
  · rintro key ⟨granted, drawn, hgranted, -⟩
    exact hno granted (hanswer ▸ hgranted)

lemma not_invalidating {call : Call} (hcall : a.call py users = .ok call)
    (hno : ∀ target, call ≠ .invalidate target) :
    (∀ key, ¬ (Moment.mk s a).Names py users key)
      ∧ (∀ caller, ¬ (Moment.mk s a).RevokesAll py users caller)
      ∧ ∀ key, ¬ (Moment.mk s a).Revokes py users key := by
  have hne : ∀ target, a.call py users ≠ .ok (.invalidate target) := by
    intro target heq
    rw [hcall] at heq
    exact hno target (Except.ok.inj heq)
  refine ⟨fun key h => hne _ h.1, ?_, ?_⟩
  · rintro caller ⟨username, hall, -⟩
    exact hne _ hall
  · rintro key ⟨record, -, hone | ⟨username, hall, -⟩⟩
    · exact hne _ hone
    · exact hne _ hall

/-- A grant to a user. -/
lemma Change.mint {caller : Caller} {withRefresh : Bool}
    (hcall : a.call py users = .ok (.mint caller withRefresh drawn)) :
    Change py users s a (step py users s a) := by
  have hdrawn : a.drawn py users = some drawn := by rw [Action.drawn, hcall]
  obtain ⟨hnames, hall, hrevokes⟩ := not_invalidating (s := s) hcall nofun
  have hmints : ∀ key response, ¬ (Moment.mk s a).Mints py users key response := by
    rintro key response ⟨drawn', hrefresh, -⟩
    rw [hcall] at hrefresh
    cases hrefresh
  have hstep := step_of_call (s := s) hcall
  rw [perform, mint_eq] at hstep
  rw [hstep]
  constructor
  · intro key record' hget
    rw [Dict.get_set] at hget
    split_ifs at hget with hkey
    · cases hget
      exact .inr ⟨drawn, hdrawn, hkey, rfl⟩
    · exact .inl ⟨record', hget, rfl, rfl, rfl, by simp [hnames, hall]⟩
  · intro key record hget hnone
    rw [Dict.get_set] at hnone
    split_ifs at hnone
    rw [hget] at hnone
    cases hnone
  · intro key record' hget
    have hold : s.refreshTokens.get key = some record' →
        ∃ record, s.refreshTokens.get key = some record ∧ record'.caller = record.caller
          ∧ record'.createdAt = record.createdAt
          ∧ (record'.invalidated = true ↔ record.invalidated = true
            ∨ (Moment.mk s a).Revokes py users key)
          ∧ record'.refreshed = record.refreshed
          ∧ (∀ response, ¬ (Moment.mk s a).Mints py users key response) := fun hget =>
      ⟨record', hget, rfl, rfl, by simp [hrevokes], rfl, hmints key⟩
    cases withRefresh with
    | false =>
      obtain ⟨record, hrec, hcaller, hcreated, hinv, hsame⟩ := hold hget
      exact .inl ⟨record, hrec, hcaller, hcreated, hinv, .inl hsame⟩
    | true =>
      rw [if_pos rfl, Dict.get_set] at hget
      split_ifs at hget with hkey
      · cases hget
        exact .inr ⟨drawn, hdrawn, hkey, rfl, rfl, rfl⟩
      · obtain ⟨record, hrec, hcaller, hcreated, hinv, hsame⟩ := hold hget
        exact .inl ⟨record, hrec, hcaller, hcreated, hinv, .inl hsame⟩
  · rintro key ⟨response, drawn', hanswer, hkey, hdrawn', -⟩
    rw [Moment.Answers, handle_of_call hcall, perform, mint_eq] at hanswer
    cases hanswer
    cases withRefresh with
    | false => cases hkey
    | true =>
      cases hkey
      exact ⟨drawn, hdrawn, rfl⟩

/-- Trading a refresh token, whose remembered pair was drawn before. -/
lemma Change.refresh {token : String}
    (hcall : a.call py users = .ok (.refresh token drawn))
    (hfresh : ∀ record, s.refreshTokens.get token = some record → drawn.refreshToken ≠ token
      ∧ ∀ refreshedAt response, record.refreshed = some (refreshedAt, response) →
        response.accessToken ≠ drawn.accessToken) :
    Change py users s a (step py users s a) := by
  have hdrawn : a.drawn py users = some drawn := by rw [Action.drawn, hcall]
  obtain ⟨hnames, hall, hrevokes⟩ := not_invalidating (s := s) hcall nofun
  have hstep := step_of_call (s := s) hcall
  have hanswers := handle_of_call (s := s) hcall
  rw [perform] at hstep hanswers
  rcases refresh_cases a.now drawn token s with
    ⟨refusal, heq⟩ | ⟨record, hget, ⟨response, hverdict, heq⟩ | ⟨hverdict, heq⟩⟩
  · rw [heq] at hstep hanswers
    rw [hstep]
    obtain ⟨hmints, hissues⟩ := not_granted (s := s) (a := a) (congrArg Prod.snd hanswers) nofun
    exact Change.quiet (fun key _ _ h => absurd h (hnames key)) hall
      (fun key _ _ h => absurd h (hrevokes key)) hmints hissues
  · rw [heq] at hstep hanswers
    rw [hstep]
    obtain ⟨-, -, refreshedAt, hrefreshed, -⟩ := verdict_again hverdict
    have hne := (hfresh record hget).2 refreshedAt response hrefreshed
    refine Change.quiet (fun key _ _ h => absurd h (hnames key)) hall
      (fun key _ _ h => absurd h (hrevokes key)) ?_ ?_
    · rintro key response' ⟨drawn', hrefresh, hanswer, hsame⟩
      rw [hcall] at hrefresh
      cases hrefresh
      rw [Moment.Answers, hanswers] at hanswer
      cases hanswer
      exact hne hsame
    · rintro key ⟨response', drawn', hanswer, -, hdrawn', hsame⟩
      rw [hdrawn] at hdrawn'
      cases hdrawn'
      rw [Moment.Answers, hanswers] at hanswer
      cases hanswer
      exact hne hsame
  · rw [heq] at hstep hanswers
    rw [hstep]
    obtain ⟨-, -, hnone⟩ := verdict_first hverdict
    constructor
    · intro key record' hget'
      rw [Dict.get_set] at hget'
      split_ifs at hget' with hkey
      · cases hget'
        exact .inr ⟨drawn, hdrawn, hkey, rfl⟩
      · exact .inl ⟨record', hget', rfl, rfl, rfl, by simp [hnames, hall]⟩
    · intro key record' hget' hnone'
      rw [Dict.get_set] at hnone'
      split_ifs at hnone'
      rw [hget'] at hnone'
      cases hnone'
    · intro key record' hget'
      dsimp only at hget'
      rw [Dict.get_set] at hget'
      split_ifs at hget' with hkey
      · -- the record of the token that is traded
        subst hkey
        cases hget'
        refine .inl ⟨record, hget, rfl, rfl, by simp [hrevokes], .inr ⟨_, drawn, hnone, rfl, ?_,
          hdrawn, rfl, Dict.get_set_self _ _ _⟩⟩
        rintro response' ⟨drawn', -, hanswer, -⟩
        rw [Moment.Answers, hanswers] at hanswer
        cases hanswer
        rfl
      · have hmints : ∀ response, ¬ (Moment.mk s a).Mints py users key response := by
          rintro response ⟨drawn', hrefresh, -⟩
          rw [hcall] at hrefresh
          cases hrefresh
          exact hkey rfl
        rw [Dict.get_set] at hget'
        split_ifs at hget' with hnew
        · cases hget'
          exact .inr ⟨drawn, hdrawn, hnew, rfl, rfl, rfl⟩
        · exact .inl ⟨record', hget', rfl, rfl, by simp [hrevokes], .inl ⟨rfl, hmints⟩⟩
    · rintro key ⟨response, drawn', hanswer, hkey, -⟩
      rw [Moment.Answers, hanswers] at hanswer
      cases hanswer
      cases hkey
      exact ⟨drawn, hdrawn, rfl⟩

/-- Invalidating one access token. -/
lemma Change.invalidateAccess {token : String}
    (hcall : a.call py users = .ok (.invalidate (.access token))) :
    Change py users s a (step py users s a) := by
  have hnames : ∀ key record, s.tokens.get key = some record →
      ((Moment.mk s a).Names py users key ↔ key = token) := by
    intro key record hget
    constructor
    · rintro ⟨hname, -⟩
      rw [hcall] at hname
      cases hname
      rfl
    · rintro rfl
      exact ⟨hcall, by rw [Dict.contains, hget]; rfl⟩
  have hall : ∀ caller, ¬ (Moment.mk s a).RevokesAll py users caller := by
    rintro caller ⟨username, hall, -⟩
    rw [hcall] at hall
    cases hall
  have hrevokes : ∀ key, ¬ (Moment.mk s a).Revokes py users key := by
    rintro key ⟨record, -, hone | hrevoked⟩
    · rw [hcall] at hone
      cases hone
    · exact hall _ hrevoked
  have hstep := step_of_call (s := s) hcall
  have hanswers := handle_of_call (s := s) hcall
  rw [perform, EsAuth.invalidateAccess] at hstep hanswers
  split at hstep
  · next hnone =>
    rw [hnone] at hanswers
    rw [hstep]
    obtain ⟨hmints, hissues⟩ := not_granted (s := s) (a := a) (congrArg Prod.snd hanswers)
      (by rintro _ ⟨⟩)
    refine Change.quiet (fun key record hget hname => ?_) hall
      (fun key _ _ h => absurd h (hrevokes key)) hmints hissues
    rw [(hnames key record hget).1 hname, hnone] at hget
    cases hget
  · next record hget =>
    rw [hget] at hanswers
    dsimp only at hanswers
    split at hstep
    · next hinv =>
      rw [if_pos hinv] at hanswers
      rw [hstep]
      obtain ⟨hmints, hissues⟩ := not_granted (s := s) (a := a) (congrArg Prod.snd hanswers)
        (by rintro _ ⟨⟩)
      refine Change.quiet (fun key record' hget' hname => ?_) hall
        (fun key _ _ h => absurd h (hrevokes key)) hmints hissues
      rw [(hnames key record' hget').1 hname, hget] at hget'
      cases hget'
      exact hinv
    · next hinv =>
      rw [if_neg hinv] at hanswers
      rw [hstep]
      obtain ⟨hmints, hissues⟩ := not_granted (s := s) (a := a) (congrArg Prod.snd hanswers)
        (by rintro _ ⟨⟩)
      constructor
      · intro key record' hget'
        rw [Dict.get_set] at hget'
        split_ifs at hget' with hkey
        · subst hkey
          cases hget'
          exact .inl ⟨record, hget, rfl, rfl, rfl, by simp [(hnames _ record hget).2 rfl]⟩
        · refine .inl ⟨record', hget', rfl, rfl, rfl, ?_⟩
          simp [(hnames key record' hget').not.2 hkey, hall]
      · intro key record' hget' hnone
        rw [Dict.get_set] at hnone
        split_ifs at hnone
        rw [hget'] at hnone
        cases hnone
      · intro key record' hget'
        exact .inl ⟨record', hget', rfl, rfl, by simp [hrevokes], .inl ⟨rfl, hmints key⟩⟩
      · intro key hissue
        exact absurd hissue (hissues key)

/-- Invalidating one refresh token. -/
lemma Change.invalidateRefresh {token : String}
    (hcall : a.call py users = .ok (.invalidate (.refresh token))) :
    Change py users s a (step py users s a) := by
  have hnames : ∀ key, ¬ (Moment.mk s a).Names py users key := by
    rintro key ⟨hname, -⟩
    rw [hcall] at hname
    cases hname
  have hall : ∀ caller, ¬ (Moment.mk s a).RevokesAll py users caller := by
    rintro caller ⟨username, hall, -⟩
    rw [hcall] at hall
    cases hall
  have hrevokes : ∀ key record, s.refreshTokens.get key = some record →
      ((Moment.mk s a).Revokes py users key ↔ key = token) := by
    intro key record hget
    constructor
    · rintro ⟨record', -, hone | hrevoked⟩
      · rw [hcall] at hone
        cases hone
        rfl
      · exact absurd hrevoked (hall _)
    · rintro rfl
      exact ⟨record, hget, .inl hcall⟩
  have hstep := step_of_call (s := s) hcall
  have hanswers := handle_of_call (s := s) hcall
  rw [perform, EsAuth.invalidateRefresh] at hstep hanswers
  split at hstep
  · next hnone =>
    rw [hnone] at hanswers
    rw [hstep]
    obtain ⟨hmints, hissues⟩ := not_granted (s := s) (a := a) (congrArg Prod.snd hanswers) nofun
    refine Change.quiet (fun key _ _ h => absurd h (hnames key)) hall
      (fun key record hget hrevoked => ?_) hmints hissues
    rw [(hrevokes key record hget).1 hrevoked, hnone] at hget
    cases hget
  · next record hget =>
    rw [hget] at hanswers
    dsimp only at hanswers
    split at hstep
    · next hinv =>
      rw [if_pos hinv] at hanswers
      rw [hstep]
      obtain ⟨hmints, hissues⟩ := not_granted (s := s) (a := a) (congrArg Prod.snd hanswers) nofun
      refine Change.quiet (fun key _ _ h => absurd h (hnames key)) hall
        (fun key record' hget' hrevoked => ?_) hmints hissues
      rw [(hrevokes key record' hget').1 hrevoked, hget] at hget'
      cases hget'
      exact hinv
    · next hinv =>
      rw [if_neg hinv] at hanswers
      rw [hstep]
      obtain ⟨hmints, hissues⟩ := not_granted (s := s) (a := a) (congrArg Prod.snd hanswers) nofun
      constructor
      · intro key record' hget'
        exact .inl ⟨record', hget', rfl, rfl, rfl, by simp [hnames, hall]⟩
      · intro key record' hget' hnone
        rw [hget'] at hnone
        cases hnone
      · intro key record' hget'
        rw [Dict.get_set] at hget'
        split_ifs at hget' with hkey
        · subst hkey
          cases hget'
          exact .inl ⟨record, hget, rfl, rfl, by simp [(hrevokes _ record hget).2 rfl],
            .inl ⟨rfl, hmints _⟩⟩
        · refine .inl ⟨record', hget', rfl, rfl, ?_, .inl ⟨rfl, hmints key⟩⟩
          simp [(hrevokes key record' hget').not.2 hkey]
      · intro key hissue
        exact absurd hissue (hissues key)

/-- Invalidating the tokens of a user, or everyone's. -/
lemma Change.invalidateAll {username : Option String}
    (hcall : a.call py users = .ok (.invalidate (.all username))) :
    Change py users s a (step py users s a) := by
  have hnames : ∀ key, ¬ (Moment.mk s a).Names py users key := by
    rintro key ⟨hname, -⟩
    rw [hcall] at hname
    cases hname
  have hall : ∀ caller, (Moment.mk s a).RevokesAll py users caller
      ↔ covers username caller = true := by
    intro caller
    constructor
    · rintro ⟨username', hall, hcovers⟩
      rw [hcall] at hall
      cases hall
      exact hcovers
    · exact fun h => ⟨username, hcall, h⟩
  have hrevokes : ∀ key record, s.refreshTokens.get key = some record →
      ((Moment.mk s a).Revokes py users key ↔ covers username record.caller = true) := by
    intro key record hget
    constructor
    · rintro ⟨record', hget', hone | hrevoked⟩
      · rw [hcall] at hone
        cases hone
      · rw [hget] at hget'
        cases hget'
        exact (hall _).1 hrevoked
    · exact fun h => ⟨record, hget, .inr ((hall _).2 h)⟩
  have hstep := step_of_call (s := s) hcall
  have hanswers := handle_of_call (s := s) hcall
  rw [perform, EsAuth.invalidateAll] at hstep hanswers
  rw [hstep]
  obtain ⟨hmints, hissues⟩ := not_granted (s := s) (a := a) (congrArg Prod.snd hanswers) nofun
  constructor
  · intro key record' hget'
    rw [Dict.get_mapValues, Option.map_eq_some_iff] at hget'
    obtain ⟨record, hget, rfl⟩ := hget'
    refine .inl ⟨record, hget, ?_⟩
    split_ifs with hcovers
    · exact ⟨rfl, rfl, rfl, by simp [(hall _).2 hcovers]⟩
    · exact ⟨rfl, rfl, rfl, by simp [hnames, hall, hcovers]⟩
  · intro key record hget hnone
    rw [Dict.get_mapValues, hget] at hnone
    cases hnone
  · intro key record' hget'
    rw [Dict.get_mapValues, Option.map_eq_some_iff] at hget'
    obtain ⟨record, hget, rfl⟩ := hget'
    refine .inl ⟨record, hget, ?_⟩
    split_ifs with hcovers
    · exact ⟨rfl, rfl, by simp [(hrevokes key record hget).2 hcovers], .inl ⟨rfl, hmints key⟩⟩
    · exact ⟨rfl, rfl, by simp [(hrevokes key record hget).not.2 hcovers], .inl ⟨rfl, hmints key⟩⟩
  · intro key hissue
    exact absurd hissue (hissues key)

lemma Change.reap (hcall : a.call py users = .ok .reap) :
    Change py users s a (step py users s a) := by
  obtain ⟨hnames, hall, hrevokes⟩ := not_invalidating (s := s) hcall nofun
  have hstep := step_of_call (s := s) hcall
  have hanswers := handle_of_call (s := s) hcall
  rw [perform, reapTokens] at hstep hanswers
  rw [hstep]
  obtain ⟨hmints, hissues⟩ := not_granted (s := s) (a := a) (congrArg Prod.snd hanswers) nofun
  constructor
  · intro key record hget
    rw [Dict.get_filter, Option.filter_eq_some_iff] at hget
    exact .inl ⟨record, hget.1, rfl, rfl, rfl, by simp [hnames, hall]⟩
  · intro key record hget hnone
    rw [Dict.get_filter, hget] at hnone
    simpa using hnone
  · intro key record hget
    rw [Dict.get_filter, Option.filter_eq_some_iff] at hget
    exact .inl ⟨record, hget.1, rfl, rfl, by simp [hrevokes], .inl ⟨rfl, hmints key⟩⟩
  · intro key hissue
    exact absurd hissue (hissues key)

end EsAuth

end Mockdr
