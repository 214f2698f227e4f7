import Mathlib.Tactic.Linarith
import Mockdr.EsAuth.TokenHistory
import Mockdr.Lib.Run

/-!
# The life of a refresh token

* `Lawful` is what a request keeps to, whatever was requested before.
* `Coherent` is what the records have to do with the past: every step keeps it
  (`Coherent.observe`).
* `tokens_lawful`: every request of every run is lawful. A refresh token mints one pair, while it is
  valid, and answers the same pair again; the access token of an answer is valid exactly when it has
  not been invalidated by itself, which a repeated refresh does not ask.
-/

namespace Mockdr

namespace EsAuth

variable (py : Python) (users : String → Option User)

/-- Time does not go back, and the tokens that are drawn were not drawn before. -/
structure Admitted (h : History) (a : Action) : Prop where
  later : ∀ m ∈ h.past, m.action.now ≤ a.now
  fresh : ∀ drawn, a.drawn py users = some drawn →
    ∀ m ∈ h.past, ∀ drawn', m.action.drawn py users = some drawn' →
      drawn'.accessToken ≠ drawn.accessToken ∧ drawn'.refreshToken ≠ drawn.refreshToken

/-- What is promised of a request. -/
structure Lawful (h : History) (a : Action) : Prop where
  /-- a refresh token mints one pair -/
  once : ∀ token response, (Moment.mk h.store a).Mints py users token response →
    ∀ m ∈ h.past, ∀ response', ¬ m.Mints py users token response'
  /-- and none after it was invalidated or has expired -/
  live : ∀ token response, (Moment.mk h.store a).Mints py users token response →
    ∀ m ∈ h.past, ¬ m.Revokes py users token
      ∧ (m.Issues py users token → a.now ≤ m.action.now + TOKEN_DOCUMENT_LIFETIME_SECONDS)
  /-- a refresh that is repeated answers the pair that was minted, within the window -/
  again : ∀ token response, (Moment.mk h.store a).Refreshes py users token →
    (Moment.mk h.store a).Answers py users response →
    ∀ m ∈ h.past, ∀ response', m.Mints py users token response' →
      response = response' ∧ a.now ≤ m.action.now + REFRESH_REUSE_SECONDS
  /-- an access token that is answered is valid, unless it was invalidated by itself -/
  valid : ∀ response, (Moment.mk h.store a).Answers py users response →
    (tokenValid (step py users h.store a) a.now response.accessToken = true
      ↔ ∀ m ∈ h.past, ¬ m.Names py users response.accessToken)

variable {py : Python} {users : String → Option User} {h : History} {a : Action} {s : Store}
  {drawn : Drawn}

/-! ## Runs -/

/-- A token that a request of the past has drawn. -/
def DrawnBefore (py : Python) (users : String → Option User) (past : List Moment)
    (part : Drawn → String) (key : String) : Prop :=
  ∃ m ∈ past, ∃ drawn, m.action.drawn py users = some drawn ∧ part drawn = key

/-- What the records have to do with the past. -/
structure Coherent (py : Python) (users : String → Option User) (h : History) : Prop where
  tokenDrawn : ∀ key record, h.store.tokens.get key = some record →
    DrawnBefore py users h.past Drawn.accessToken key
  refreshDrawn : ∀ key record, h.store.refreshTokens.get key = some record →
    DrawnBefore py users h.past Drawn.refreshToken key
  heldToken : ∀ m ∈ h.past, ∀ key, m.store.tokens.contains key = true →
    DrawnBefore py users h.past Drawn.accessToken key
  heldRefresh : ∀ m ∈ h.past, ∀ key, m.store.refreshTokens.contains key = true →
    DrawnBefore py users h.past Drawn.refreshToken key
  issuedDrawn : ∀ m ∈ h.past, ∀ key, m.Issues py users key →
    DrawnBefore py users h.past Drawn.refreshToken key
  named : ∀ key record, h.store.tokens.get key = some record →
    ∀ m ∈ h.past, m.Names py users key → record.invalidated = true
  issued : ∀ key record, h.store.refreshTokens.get key = some record →
    ∀ m ∈ h.past, m.Issues py users key → m.action.now = record.createdAt
  revoked : ∀ key record, h.store.refreshTokens.get key = some record →
    ∀ m ∈ h.past, m.Revokes py users key → record.invalidated = true
  minted : ∀ key record, h.store.refreshTokens.get key = some record →
    ∀ m ∈ h.past, ∀ response, m.Mints py users key response →
      record.refreshed = some (m.action.now, response)
  pairDrawn : ∀ key record, h.store.refreshTokens.get key = some record →
    ∀ refreshedAt response, record.refreshed = some (refreshedAt, response) →
      DrawnBefore py users h.past Drawn.accessToken response.accessToken
  pairGone : ∀ key record, h.store.refreshTokens.get key = some record →
    ∀ refreshedAt response, record.refreshed = some (refreshedAt, response) →
      h.store.tokens.get response.accessToken = none →
      ∃ m ∈ h.past, refreshedAt + TOKEN_DOCUMENT_LIFETIME_SECONDS < m.action.now
  pair : ∀ key record, h.store.refreshTokens.get key = some record →
    ∀ refreshedAt response, record.refreshed = some (refreshedAt, response) →
      ∀ token, h.store.tokens.get response.accessToken = some token →
        token.createdAt = refreshedAt ∧ token.expiresAt = refreshedAt + TOKEN_LIFETIME_SECONDS
          ∧ token.caller = record.caller
          ∧ (token.invalidated = true → record.invalidated = true
            ∨ ∃ m ∈ h.past, m.Names py users response.accessToken)

lemma DrawnBefore.cons {past : List Moment} {part : Drawn → String} {key : String} {m : Moment}
    (h : DrawnBefore py users past part key) : DrawnBefore py users (m :: past) part key := by
  obtain ⟨m', hm', hdrawn⟩ := h
  exact ⟨m', List.mem_cons_of_mem m hm', hdrawn⟩

lemma Admitted.not_drawnBefore (ha : Admitted py users h a)
    (hdrawn : a.drawn py users = some drawn) :
    ¬ DrawnBefore py users h.past Drawn.accessToken drawn.accessToken
      ∧ ¬ DrawnBefore py users h.past Drawn.refreshToken drawn.refreshToken := by
  constructor
  · rintro ⟨m, hm, drawn', hdrawn', hsame⟩
    exact (ha.fresh drawn hdrawn m hm drawn' hdrawn').1 hsame
  · rintro ⟨m, hm, drawn', hdrawn', hsame⟩
    exact (ha.fresh drawn hdrawn m hm drawn' hdrawn').2 hsame

lemma Moment.Mints.contains {m : Moment} {key : String} {response : Granted}
    (hm : m.Mints py users key response) : m.store.refreshTokens.contains key = true := by
  obtain ⟨drawn, hcall, hanswer, -⟩ := hm
  rw [Moment.Answers, handle_of_call hcall, perform] at hanswer
  rcases refresh_cases m.action.now drawn key m.store with ⟨refusal, heq⟩ | ⟨record, hget, -⟩
  · rw [heq] at hanswer
    cases hanswer
  · rw [Dict.contains, hget]
    rfl

lemma Moment.Revokes.contains {m : Moment} {key : String}
    (hm : m.Revokes py users key) : m.store.refreshTokens.contains key = true := by
  obtain ⟨record, hget, -⟩ := hm
  rw [Dict.contains, hget]
  rfl

namespace Coherent

/-- What a request does to the records. -/
lemma change (hs : Coherent py users h) (ha : Admitted py users h a) :
    Change py users h.store a (step py users h.store a) := by
  cases hcall : a.call py users with
  | error refusal =>
    have hstep : step py users h.store a = h.store := by rw [step, handle, hcall]
    rw [hstep]
    exact .refused hcall
  | ok call =>
    cases call with
    | mint caller withRefresh drawn => exact .mint hcall
    | refresh token drawn =>
      have hdrawn : a.drawn py users = some drawn := by rw [Action.drawn, hcall]
      obtain ⟨hnotAccess, hnotRefresh⟩ := ha.not_drawnBefore hdrawn
      refine .refresh hcall fun record hget => ⟨?_, fun refreshedAt response hsome => ?_⟩
      · rintro rfl
        exact hnotRefresh (hs.refreshDrawn _ record hget)
      · intro heq
        exact hnotAccess (heq ▸ hs.pairDrawn token record hget refreshedAt response hsome)
    | invalidate target =>
      cases target with
      | access token => exact .invalidateAccess hcall
      | refresh token => exact .invalidateRefresh hcall
      | all username => exact .invalidateAll hcall
    | reap => exact .reap hcall

lemma held (hs : Coherent py users h) {m : Moment} (hm : m ∈ Moment.mk h.store a :: h.past) :
    (∀ key, m.store.tokens.contains key = true →
        DrawnBefore py users h.past Drawn.accessToken key)
      ∧ ∀ key, m.store.refreshTokens.contains key = true →
        DrawnBefore py users h.past Drawn.refreshToken key := by
  rcases List.mem_cons.1 hm with rfl | hm
  · constructor
    · intro key hkey
      obtain ⟨record, hget⟩ := Option.isSome_iff_exists.1 hkey
      exact hs.tokenDrawn key record hget
    · intro key hkey
      obtain ⟨record, hget⟩ := Option.isSome_iff_exists.1 hkey
      exact hs.refreshDrawn key record hget
  · exact ⟨hs.heldToken m hm, hs.heldRefresh m hm⟩

/-- A request that is admitted leaves the records coherent. -/
lemma observe (hs : Coherent py users h) (ha : Admitted py users h a) :
    Coherent py users (observe py users h a) := by
  have hc := hs.change ha
  rw [EsAuth.observe]
  generalize step py users h.store a = s' at hc
  constructor
  case tokenDrawn =>
    intro key record' hget
    rcases hc.token key record' hget with ⟨record, hold, -⟩ | ⟨drawn, hdrawn, rfl, -⟩
    · exact (hs.tokenDrawn key record hold).cons
    · exact ⟨_, List.mem_cons_self, drawn, hdrawn, rfl⟩
  case refreshDrawn =>
    intro key record' hget
    rcases hc.refreshToken key record' hget with ⟨record, hold, -⟩ | ⟨drawn, hdrawn, rfl, -⟩
    · exact (hs.refreshDrawn key record hold).cons
    · exact ⟨_, List.mem_cons_self, drawn, hdrawn, rfl⟩
  case heldToken => exact fun m hm key hkey => ((hs.held hm).1 key hkey).cons
  case heldRefresh => exact fun m hm key hkey => ((hs.held hm).2 key hkey).cons
  case issuedDrawn =>
    intro m hm key hissues
    rcases List.mem_cons.1 hm with rfl | hm
    · obtain ⟨drawn, hdrawn, rfl⟩ := hc.issued key hissues
      exact ⟨_, List.mem_cons_self, drawn, hdrawn, rfl⟩
    · exact (hs.issuedDrawn m hm key hissues).cons
  case named =>
    intro key record' hget m hm hname
    rcases hc.token key record' hget with ⟨record, hold, -, -, -, hinv⟩ | ⟨drawn, hdrawn, rfl, -⟩
    · rcases List.mem_cons.1 hm with rfl | hm
      · exact hinv.2 (.inr (.inl hname))
      · exact hinv.2 (.inl (hs.named key record hold m hm hname))
    · exact absurd ((hs.held hm).1 _ hname.2) (ha.not_drawnBefore hdrawn).1
  case issued =>
    intro key record' hget m hm hissues
    rcases hc.refreshToken key record' hget with
      ⟨record, hold, -, hcreated, -⟩ | ⟨drawn, hdrawn, rfl, hcreated, -⟩
    · rcases List.mem_cons.1 hm with rfl | hm
      · obtain ⟨drawn, hdrawn, rfl⟩ := hc.issued key hissues
        exact absurd (hs.refreshDrawn _ record hold) (ha.not_drawnBefore hdrawn).2
      · rw [hcreated]
        exact hs.issued key record hold m hm hissues
    · rcases List.mem_cons.1 hm with rfl | hm
      · exact hcreated.symm
      · exact absurd (hs.issuedDrawn m hm _ hissues) (ha.not_drawnBefore hdrawn).2
  case revoked =>
    intro key record' hget m hm hrevokes
    rcases hc.refreshToken key record' hget with
      ⟨record, hold, -, -, hinv, -⟩ | ⟨drawn, hdrawn, rfl, -⟩
    · rcases List.mem_cons.1 hm with rfl | hm
      · exact hinv.2 (.inr hrevokes)
      · exact hinv.2 (.inl (hs.revoked key record hold m hm hrevokes))
    · exact absurd ((hs.held hm).2 _ hrevokes.contains) (ha.not_drawnBefore hdrawn).2
  case minted =>
    intro key record' hget m hm response hmints
    rcases hc.refreshToken key record' hget with
      ⟨record, hold, -, -, -, ⟨hsame, hno⟩ | ⟨minted, drawn, hnone, hsome, honly, -⟩⟩
        | ⟨drawn, hdrawn, rfl, -⟩
    · rcases List.mem_cons.1 hm with rfl | hm
      · exact absurd hmints (hno response)
      · rw [hsame]
        exact hs.minted key record hold m hm response hmints
    · rcases List.mem_cons.1 hm with rfl | hm
      · rw [hsome, honly response hmints]
      · rw [hs.minted key record hold m hm response hmints] at hnone
        cases hnone
    · exact absurd ((hs.held hm).2 _ hmints.contains) (ha.not_drawnBefore hdrawn).2
  case pairDrawn =>
    intro key record' hget refreshedAt response hrefreshed
    rcases hc.refreshToken key record' hget with
      ⟨record, hold, -, -, -, ⟨hsame, -⟩ | ⟨minted, drawn, -, hsome, -, hdrawn, haccess, -⟩⟩
        | ⟨drawn, hdrawn, -, -, hnone, -⟩
    · rw [hsame] at hrefreshed
      exact (hs.pairDrawn key record hold refreshedAt response hrefreshed).cons
    · rw [hsome] at hrefreshed
      cases hrefreshed
      exact ⟨_, List.mem_cons_self, drawn, hdrawn, haccess.symm⟩
    · rw [hnone] at hrefreshed
      cases hrefreshed
  case pairGone =>
    intro key record' hget refreshedAt response hrefreshed hgone
    rcases hc.refreshToken key record' hget with
      ⟨record, hold, -, -, -, ⟨hsame, -⟩ | ⟨minted, drawn, -, hsome, -, -, -, htoken⟩⟩
        | ⟨drawn, hdrawn, -, -, hnone, -⟩
    · rw [hsame] at hrefreshed
      cases htoken : h.store.tokens.get response.accessToken with
      | none =>
        obtain ⟨m, hm, hlate⟩ := hs.pairGone key record hold refreshedAt response hrefreshed htoken
        exact ⟨m, List.mem_cons_of_mem _ hm, hlate⟩
      | some token =>
        obtain ⟨hcreated, -⟩ := hs.pair key record hold refreshedAt response hrefreshed token htoken
        refine ⟨_, List.mem_cons_self, ?_⟩
        rw [← hcreated]
        exact hc.reaped _ token htoken hgone
    · rw [hsome] at hrefreshed
      cases hrefreshed
      rw [htoken] at hgone
      cases hgone
    · rw [hnone] at hrefreshed
      cases hrefreshed
  case pair =>
    intro key record' hget refreshedAt response hrefreshed token' htoken'
    rcases hc.refreshToken key record' hget with
      ⟨record, hold, hcaller, -, hinv, ⟨hsame, -⟩ | ⟨minted, drawn, -, hsome, -, -, -, htoken⟩⟩
        | ⟨drawn, hdrawn, -, -, hnone, -⟩
    · rw [hsame] at hrefreshed
      rcases hc.token _ token' htoken' with
        ⟨token, htoken, hcaller', hcreated', hexpires', hinv'⟩ | ⟨drawn, hdrawn, haccess, -⟩
      · obtain ⟨hcreated, hexpires, hsameCaller, hwhy⟩ :=
          hs.pair key record hold refreshedAt response hrefreshed token htoken
        refine ⟨hcreated'.trans hcreated, hexpires'.trans hexpires, ?_, ?_⟩
        · rw [hcaller', hsameCaller, hcaller]
        · intro hinvalid
          rcases hinv'.1 hinvalid with hbefore | hname | hrevoked
          · rcases hwhy hbefore with hrecord | ⟨m, hm, hname⟩
            · exact .inl (hinv.2 (.inl hrecord))
            · exact .inr ⟨m, List.mem_cons_of_mem _ hm, hname⟩
          · exact .inr ⟨_, List.mem_cons_self, hname⟩
          · rw [hsameCaller] at hrevoked
            exact .inl (hinv.2 (.inr ⟨record, hold, .inr hrevoked⟩))
      · have hbefore := hs.pairDrawn key record hold refreshedAt response hrefreshed
        rw [haccess] at hbefore
        exact absurd hbefore (ha.not_drawnBefore hdrawn).1
    · rw [hsome] at hrefreshed
      cases hrefreshed
      rw [htoken] at htoken'
      cases htoken'
      exact ⟨rfl, rfl, hcaller.symm, nofun⟩
    · rw [hnone] at hrefreshed
      cases hrefreshed

end Coherent

/-- An answer has a pair of its own, or is that of an earlier refresh. -/
lemma answers_cases {response : Granted} (hanswer : (Moment.mk s a).Answers py users response) :
    (∃ drawn caller, a.drawn py users = some drawn ∧ response.accessToken = drawn.accessToken
        ∧ (step py users s a).tokens.get response.accessToken
          = some ⟨caller, a.now, a.now + TOKEN_LIFETIME_SECONDS, false⟩
        ∧ ∀ token, (Moment.mk s a).Refreshes py users token →
          ∃ record, s.refreshTokens.get token = some record ∧ record.verdict a.now = .first)
      ∨ ∃ token record drawn, a.call py users = .ok (.refresh token drawn)
        ∧ s.refreshTokens.get token = some record ∧ record.verdict a.now = .again response
        ∧ step py users s a = s := by
  rw [Moment.Answers] at hanswer
  cases hcall : a.call py users with
  | error refusal =>
    rw [handle, hcall] at hanswer
    cases hanswer
  | ok call =>
    have hstep := step_of_call (s := s) hcall
    rw [handle_of_call hcall] at hanswer
    cases call with
    | mint caller withRefresh drawn =>
      rw [perform, mint_eq] at hanswer hstep
      cases hanswer
      refine .inl ⟨drawn, caller, by rw [Action.drawn, hcall], rfl, ?_, ?_⟩
      · rw [hstep]
        exact Dict.get_set_self _ _ _
      · rintro token ⟨drawn', hrefresh⟩
        rw [hcall] at hrefresh
        cases hrefresh
    | refresh token drawn =>
      rw [perform] at hanswer hstep
      rcases refresh_cases a.now drawn token s with
        ⟨refusal, heq⟩ | ⟨record, hget, ⟨again, hverdict, heq⟩ | ⟨hverdict, heq⟩⟩
      · rw [heq] at hanswer
        cases hanswer
      · rw [heq] at hanswer hstep
        cases hanswer
        exact .inr ⟨token, record, drawn, rfl, hget, hverdict, hstep⟩
      · rw [heq] at hanswer hstep
        cases hanswer
        refine .inl ⟨drawn, record.caller, by rw [Action.drawn, hcall], rfl, ?_, ?_⟩
        · rw [hstep]
          exact Dict.get_set_self _ _ _
        · rintro token' ⟨drawn', hrefresh⟩
          rw [hcall] at hrefresh
          cases hrefresh
          exact ⟨record, hget, hverdict⟩
    | invalidate target =>
      cases target with
      | access token =>
        rw [perform, invalidateAccess] at hanswer
        split at hanswer
        · cases hanswer
        · split at hanswer <;> cases hanswer
      | refresh token =>
        rw [perform, invalidateRefresh] at hanswer
        split at hanswer
        · cases hanswer
        · split at hanswer <;> cases hanswer
      | all username => cases hanswer
    | reap => cases hanswer

namespace Coherent

lemma first_of_mints (hs : Coherent py users h) (ha : Admitted py users h a) {token : String}
    {response : Granted} (hmints : (Moment.mk h.store a).Mints py users token response) :
    ∃ record, h.store.refreshTokens.get token = some record ∧ record.verdict a.now = .first := by
  obtain ⟨drawn, hcall, hanswer, haccess⟩ := hmints
  rcases answers_cases hanswer with
    ⟨_, _, _, _, _, hfirst⟩ | ⟨token', record, drawn', hcall', hget, hverdict, -⟩
  · exact hfirst token ⟨drawn, hcall⟩
  · obtain ⟨-, -, refreshedAt, hrefreshed, -⟩ := verdict_again hverdict
    have hbefore := hs.pairDrawn token' record hget refreshedAt response hrefreshed
    rw [haccess] at hbefore
    exact absurd hbefore (ha.not_drawnBefore (by rw [Action.drawn, hcall])).1

/-- An access token that is answered is valid exactly when it was not invalidated by itself. -/
lemma valid_iff (hs : Coherent py users h) (ha : Admitted py users h a) {response : Granted}
    (hanswer : (Moment.mk h.store a).Answers py users response) :
    tokenValid (step py users h.store a) a.now response.accessToken = true
      ↔ ∀ m ∈ h.past, ¬ m.Names py users response.accessToken := by
  rcases answers_cases hanswer with
    ⟨drawn, caller, hdrawn, haccess, htoken, -⟩ | ⟨token, record, drawn, -, hget, hverdict, hstep⟩
  · have hvalid : tokenValid (step py users h.store a) a.now response.accessToken = true := by
      simp [tokenValid, htoken, TokenRecord.spent, TOKEN_LIFETIME_SECONDS]
    refine iff_of_true hvalid fun m hm hname => ?_
    rw [haccess] at hname
    exact (ha.not_drawnBefore hdrawn).1 (hs.heldToken m hm _ hname.2)
  · obtain ⟨hinv, -, refreshedAt, hrefreshed, hwindow⟩ := verdict_again hverdict
    rw [hstep]
    simp only [REFRESH_REUSE_SECONDS] at hwindow
    cases htoken : h.store.tokens.get response.accessToken with
    | none =>
      obtain ⟨m, hm, hlate⟩ := hs.pairGone token record hget refreshedAt response hrefreshed htoken
      have hnow := ha.later m hm
      simp only [TOKEN_DOCUMENT_LIFETIME_SECONDS] at hlate
      linarith
    | some held =>
      obtain ⟨-, hexpires, -, hwhy⟩ :=
        hs.pair token record hget refreshedAt response hrefreshed held htoken
      have hlives : ¬ held.expiresAt ≤ a.now := by
        rw [hexpires, not_le, TOKEN_LIFETIME_SECONDS]
        linarith
      have hspent : tokenValid h.store a.now response.accessToken = !held.invalidated := by
        simp [tokenValid, htoken, TokenRecord.spent, hlives]
      rw [hspent, Bool.not_eq_true', ← Bool.not_eq_true]
      constructor
      · intro hno m hm hname
        exact hno (hs.named _ held htoken m hm hname)
      · intro hnone hinvalid
        rcases hwhy hinvalid with hrecord | ⟨m, hm, hname⟩
        · rw [hinv] at hrecord
          cases hrecord
        · exact hnone m hm hname

/-- A request that is admitted is lawful. -/
lemma lawful (hs : Coherent py users h) (ha : Admitted py users h a) : Lawful py users h a where
  once token response hmints m hm response' hmints' := by
    obtain ⟨record, hget, hverdict⟩ := hs.first_of_mints ha hmints
    obtain ⟨-, -, hnone⟩ := verdict_first hverdict
    rw [hs.minted token record hget m hm response' hmints'] at hnone
    cases hnone
  live token response hmints m hm := by
    obtain ⟨record, hget, hverdict⟩ := hs.first_of_mints ha hmints
    obtain ⟨hinv, hyoung, -⟩ := verdict_first hverdict
    refine ⟨fun hrevokes => ?_, fun hissues => ?_⟩
    · rw [hs.revoked token record hget m hm hrevokes] at hinv
      cases hinv
    · rw [hs.issued token record hget m hm hissues]
      exact hyoung
  again token response hrefreshes hanswer m hm response' hmints' := by
    obtain ⟨drawn, hcall⟩ := hrefreshes
    rcases answers_cases hanswer with
      ⟨_, _, _, _, _, hfirst⟩ | ⟨token', record, drawn', hcall', hget, hverdict, -⟩
    · obtain ⟨record, hget, hverdict⟩ := hfirst token ⟨drawn, hcall⟩
      obtain ⟨-, -, hnone⟩ := verdict_first hverdict
      rw [hs.minted token record hget m hm response' hmints'] at hnone
      cases hnone
    · rw [hcall] at hcall'
      cases hcall'
      obtain ⟨-, -, refreshedAt, hrefreshed, hwindow⟩ := verdict_again hverdict
      rw [hs.minted token record hget m hm response' hmints'] at hrefreshed
      cases hrefreshed
      exact ⟨rfl, hwindow⟩
  valid _ hanswer := hs.valid_iff ha hanswer

end Coherent

lemma coherent_init : Coherent py users .init := by
  have htoken : ∀ {key record}, History.init.store.tokens.get key = some record → False :=
    nofun
  have hrefresh : ∀ {key record}, History.init.store.refreshTokens.get key = some record → False :=
    nofun
  have hpast : ∀ {m}, m ∈ History.init.past → False := List.not_mem_nil
  constructor
  case tokenDrawn => exact fun _ _ h => (htoken h).elim
  case named => exact fun _ _ h => (htoken h).elim
  case heldToken => exact fun _ h => (hpast h).elim
  case heldRefresh => exact fun _ h => (hpast h).elim
  case issuedDrawn => exact fun _ h => (hpast h).elim
  all_goals exact fun _ _ h => (hrefresh h).elim

/-- Every request of every run is lawful: a refresh token mints one pair, none after it was
    invalidated or has expired, and answers that pair again within the window; the access token of
    an answer is valid unless a request invalidated that very token. -/
theorem tokens_lawful (py : Python) (users : String → Option User) {as : List Action}
    (ha : Along (observe py users) (Admitted py users) .init as) :
    Along (observe py users) (Lawful py users) .init as := by
  refine (Along.congr (I := Coherent py users) (P := fun _ _ => True) ?_ ?_ ha coherent_init).1
    (Along.of_forall fun _ _ => trivial)
  · exact fun h a ha hs => hs.observe ha
  · exact fun h a ha hs => iff_of_true trivial (hs.lawful ha)

/-- The user that the concrete runs authenticate. -/
def elastic : String → Option User
  | "elastic" => some ⟨"mock-elastic-password", "admin"⟩
  | _ => none

/-- A password grant, which draws `a1` and `r1`. -/
def login : Action :=
  ⟨0, .create ⟨"elastic", "admin"⟩ [("grant_type", .str "password"), ("username", .str "elastic"),
    ("password", .str "mock-elastic-password")] ⟨"a1", "r1"⟩⟩

/-- Trade `r1`. -/
def trade (now : ℚ) (drawn : Drawn) : Action :=
  ⟨now, .create ⟨"elastic", "admin"⟩ [("grant_type", .str "refresh_token"),
    ("refresh_token", .str "r1")] drawn⟩

/-- Invalidate the access token `a2`. -/
def logout (now : ℚ) : Action := ⟨now, .invalidate [("token", .str "a2")]⟩

/-- A refresh, its access token invalidated, and the refresh again. -/
def replay : List Action :=
  [login, trade 1 ⟨"a2", "r2"⟩, logout 2, trade 3 ⟨"a3", "r3"⟩]

lemma drawn_login : login.drawn asciiPython elastic = some ⟨"a1", "r1"⟩ := by decide +kernel

lemma drawn_trade (now : ℚ) (drawn : Drawn) :
    (trade now drawn).drawn asciiPython elastic = some drawn := by
  have hcall : (trade now drawn).call asciiPython elastic = .ok (.refresh "r1" drawn) := rfl
  rw [Action.drawn, hcall]

lemma drawn_logout (now : ℚ) : (logout now).drawn asciiPython elastic = none := rfl

lemma admitted_replay :
    Along (observe asciiPython elastic) (Admitted asciiPython elastic) .init replay := by
  refine ⟨⟨nofun, nofun⟩, ⟨?_, ?_⟩, ⟨?_, ?_⟩, ⟨?_, ?_⟩, trivial⟩
  case refine_1 => simp [observe, History.init, login, trade]
  case refine_3 => simp [observe, History.init, login, trade, logout]
  case refine_5 => norm_num [observe, History.init, login, trade, logout]
  all_goals simp [observe, History.init, drawn_login, drawn_trade, drawn_logout]

/-- The run is lawful at every step. -/
theorem tokens_lawful_replay :
    Along (observe asciiPython elastic) (Lawful asciiPython elastic) .init replay :=
  tokens_lawful asciiPython elastic admitted_replay

/-- The refresh that is repeated answers an access token that was invalidated. -/
theorem replayed_token_invalid :
    Along (observe asciiPython elastic) (Admitted asciiPython elastic) .init replay
      ∧ (Moment.mk (runFrom (step asciiPython elastic) .init (replay.take 3))
          (trade 3 ⟨"a3", "r3"⟩)).Answers asciiPython elastic
            ⟨"a2", some "r2", ⟨"elastic", "admin"⟩⟩
      ∧ tokenValid (runFrom (step asciiPython elastic) .init replay) 3 "a2" = false := by
  refine ⟨admitted_replay, ?_, ?_⟩
  · rw [Moment.Answers]
    decide +kernel
  · decide +kernel

end EsAuth

end Mockdr
