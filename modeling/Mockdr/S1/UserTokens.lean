import Mockdr.Lib.Run
import Mockdr.S1.Users

/-!
# API tokens follow their users

* `Consistent`: every stored token is the current token of one user, and has its role. `Follows`
  adds what is authorised by it.
* `step_consistent`: a request that draws what is new keeps it.
* `Lost`: the user of a token is deleted or has another. `kept_of_run`: a token that is not drawn
  again keeps its user.
* `tokens_follow`: along a run the tokens follow, and a token that is lost authorises nothing.
-/

namespace Mockdr

namespace Users

variable (py : DatePython)

/-! ## What holds of the tokens -/

/-- Every stored token is the current token of one user and has its role; users are stored under
    their ids, and no token is empty. -/
structure Consistent (s : Store) : Prop where
  keyed : ∀ id user, s.users.get id = some user → user.id = id
  current : ∀ token record, s.tokens.get token = some record →
    ∃ user, s.users.get record.userId = some user ∧ user.apiToken = token
      ∧ record.role = user.role
  single : ∀ token record id user, s.tokens.get token = some record →
    s.users.get id = some user → user.apiToken = token → id = record.userId
  named : s.tokens.get "" = none

/-- Every stored token is the one current token of one user, and what it authorises is the user's
    role. -/
structure Follows (s : Store) : Prop extends Consistent s where
  one : ∀ token token' record record', s.tokens.get token = some record →
    s.tokens.get token' = some record' → record.userId = record'.userId → token = token'
  authorised : ∀ now authorization record, requireAuth py now authorization s = some record →
    ∃ user, s.users.get record.userId = some user
      ∧ authorization = some ("ApiToken " ++ user.apiToken) ∧ record.role = user.role

/-- A user is deleted, or the token has been replaced. -/
def Lost (s : Store) (userId token : String) : Prop :=
  ∀ user, s.users.get userId = some user → user.apiToken ≠ token

/-! ## What is asked of the requests -/

/-- A token that nobody has. -/
def Unused (s : Store) (token : String) : Prop :=
  s.tokens.get token = none ∧ ∀ id user, s.users.get id = some user → user.apiToken ≠ token

/-- The tokens that a request draws. -/
def drawnTokens : Action → List String
  | .createUser _ drawn _ | .generateApiToken _ drawn => [drawn.token]
  | _ => []

/-- The tokens that a run draws are different, and nobody has one of them. -/
structure Draws (s : Store) (as : List Action) : Prop where
  nodup : (as.flatMap drawnTokens).Nodup
  unused : ∀ token ∈ as.flatMap drawnTokens, token ≠ "" ∧ Unused s token

/-- The id that is drawn for a user is no user's. -/
def NewUser (s : Store) : Action → Prop
  | .createUser ids _ _ => s.users.get ids.uid = none
  | _ => True

/-! ## The commands -/

variable {s : Store}

lemma get_deleteToken {tokens : Dict String TokenRecord} (hnamed : tokens.get "" = none)
    (token t : String) :
    (deleteToken token tokens).get t = if t = token then none else tokens.get t := by
  unfold deleteToken
  split_ifs with hempty ht ht
  · rw [ht, hempty, hnamed]
  · rfl
  · rw [ht, Dict.get_erase_self]
  · exact Dict.get_erase_ne _ ht

/-- The record of a user's token has the user's role then, and no other is changed. -/
lemma get_syncTokenRole {user : User} {tokens : Dict String TokenRecord} {t : String}
    {record : TokenRecord} (hnamed : tokens.get "" = none)
    (h : (syncTokenRole user tokens).get t = some record) :
    ∃ old, tokens.get t = some old ∧ record.userId = old.userId
      ∧ record.role = if t = user.apiToken then user.role else old.role := by
  unfold syncTokenRole at h
  split_ifs at h with hempty
  · refine ⟨record, h, rfl, ?_⟩
    rw [if_neg]
    rintro rfl
    rw [hempty, hnamed] at h
    cases h
  · cases hget : tokens.get user.apiToken with
    | none =>
      simp only [hget] at h
      refine ⟨record, h, rfl, ?_⟩
      rw [if_neg]
      rintro rfl
      rw [hget] at h
      cases h
    | some old =>
      simp only [hget] at h
      rw [Dict.get_set] at h
      split_ifs at h with ht
      · obtain rfl := Option.some.inj h
        exact ⟨old, ht ▸ hget, rfl, by rw [if_pos ht]⟩
      · exact ⟨record, h, rfl, by rw [if_neg ht]⟩

/-- A new user has the token that was drawn for it. -/
lemma createUser_consistent {ids : Ids} {drawn : Drawn} {data : Object} (hs : Consistent s)
    (huser : s.users.get ids.uid = none) (hne : drawn.token ≠ "") (hunused : Unused s drawn.token) :
    Consistent (createUser ids drawn data s) := by
  have hold : ∀ {id user}, s.users.get id = some user → id ≠ ids.uid := by
    rintro id user hget rfl
    rw [huser] at hget
    cases hget
  constructor
  · intro id user hget
    simp only [createUser, Dict.get_set] at hget
    split_ifs at hget with hid
    · obtain rfl := Option.some.inj hget
      exact hid.symm
    · exact hs.keyed id user hget
  · intro token record hget
    simp only [createUser, Dict.get_set] at hget ⊢
    split_ifs at hget with htoken
    · obtain rfl := Option.some.inj hget
      exact ⟨_, if_pos rfl, htoken.symm, rfl⟩
    · obtain ⟨user, huser', hrest⟩ := hs.current token record hget
      exact ⟨user, (if_neg (hold huser')).trans huser', hrest⟩
  · intro token record id user hrecord huser' htoken'
    simp only [createUser, Dict.get_set] at hrecord huser'
    split_ifs at hrecord with htoken <;> split_ifs at huser' with hid
    · obtain rfl := Option.some.inj hrecord
      exact hid
    · exact absurd (htoken'.trans htoken) (hunused.2 id user huser')
    · obtain rfl := Option.some.inj huser'
      exact absurd htoken'.symm htoken
    · exact hs.single token record id user hrecord huser' htoken'
  · exact (Dict.get_set_ne _ _ hne.symm).trans hs.named

/-- An update of a user writes its role to its token. -/
lemma updateUser_consistent {userId : String} {data : Object} (hs : Consistent s) :
    Consistent (updateUser userId data s) := by
  cases huser : s.users.get userId with
  | none =>
    simp only [updateUser, huser]
    exact hs
  | some user =>
    have hid : user.id = userId := hs.keyed userId user huser
    have hrecords : ∀ {t record},
        (if data.has "role" then syncTokenRole (user.updated data) s.tokens else s.tokens).get t
          = some record → ∃ old, s.tokens.get t = some old ∧ record.userId = old.userId
          ∧ record.role = if t = user.apiToken then (user.updated data).role else old.role := by
      intro t record h
      by_cases hrole : data.has "role" = true
      · rw [if_pos hrole] at h
        exact get_syncTokenRole hs.named h
      · rw [if_neg hrole] at h
        refine ⟨record, h, rfl, ?_⟩
        split_ifs with ht
        · obtain ⟨user', huser', -, hrole'⟩ := hs.current t record h
          rw [← hs.single t record userId user h huser ht.symm, huser] at huser'
          obtain rfl := Option.some.inj huser'
          have hnone : Assoc.get "role" data = none := by
            rw [Object.has, Bool.not_eq_true, Option.isSome_eq_false_iff,
              Option.isNone_iff_eq_none] at hrole
            exact hrole
          simp only [hrole', User.updated, arg, hnone, Option.getD_none]
        · rfl
    simp only [updateUser, huser]
    constructor
    · intro id user' hget
      rw [Dict.get_set] at hget
      split_ifs at hget with hid'
      · obtain rfl := Option.some.inj hget
        exact hid'.symm
      · exact hs.keyed id user' hget
    · intro token record hget
      obtain ⟨old, hold, huserId, hrole⟩ := hrecords hget
      obtain ⟨user', huser', htoken, hrole'⟩ := hs.current token old hold
      simp only [Dict.get_set, huserId]
      by_cases hsame : old.userId = userId
      · rw [hsame, huser] at huser'
        obtain rfl := Option.some.inj huser'
        exact ⟨_, if_pos (hsame.trans hid.symm), htoken, by rw [hrole, if_pos htoken.symm]⟩
      · refine ⟨user', (if_neg fun h => hsame (h.trans hid)).trans huser', htoken, ?_⟩
        rw [hrole, if_neg, hrole']
        intro htoken'
        exact hsame (hs.single token old userId user hold huser htoken'.symm).symm
    · intro token record id user' hrecord huser' htoken
      obtain ⟨old, hold, huserId, -⟩ := hrecords hrecord
      rw [Dict.get_set] at huser'
      rw [huserId]
      split_ifs at huser' with hid'
      · obtain rfl := Option.some.inj huser'
        rw [hid']
        exact hs.single token old _ user hold (hid.symm ▸ huser) htoken
      · exact hs.single token old id user' hold huser' htoken
    · cases hempty : (if data.has "role" then syncTokenRole (user.updated data) s.tokens
          else s.tokens).get "" with
      | none => rfl
      | some record =>
        obtain ⟨old, hold, -⟩ := hrecords hempty
        rw [hs.named] at hold
        cases hold

/-- A user that goes takes its token. -/
lemma deleteUser_consistent (hs : Consistent s) (userId : String) :
    Consistent (deleteUser userId s) := by
  cases huser : s.users.get userId with
  | none =>
    simp only [deleteUser, huser]
    exact hs
  | some user =>
    have hback : ∀ {id user'}, (s.users.erase userId).get id = some user' →
        s.users.get id = some user' := by
      intro id user' h
      rw [Dict.get_erase] at h
      split_ifs at h
      exact h
    simp only [deleteUser, huser]
    constructor
    · exact fun id user' hget => hs.keyed id user' (hback hget)
    · intro token record hget
      rw [get_deleteToken hs.named] at hget
      split_ifs at hget with htoken
      obtain ⟨user', huser', htoken', hrole⟩ := hs.current token record hget
      refine ⟨user', ?_, htoken', hrole⟩
      rw [Dict.get_erase_ne, huser']
      intro hid
      rw [hid, huser] at huser'
      obtain rfl := Option.some.inj huser'
      exact htoken htoken'.symm
    · intro token record id user' hrecord huser' htoken'
      rw [get_deleteToken hs.named] at hrecord
      split_ifs at hrecord
      exact hs.single token record id user' hrecord (hback huser') htoken'
    · rw [get_deleteToken hs.named]
      split_ifs
      · rfl
      · exact hs.named

/-- A token that is replaced goes, and the new one is its user's. -/
lemma generateApiToken_consistent {userId : String} {drawn : Drawn} (hs : Consistent s)
    (hne : drawn.token ≠ "") (hunused : Unused s drawn.token) :
    Consistent (generateApiToken userId drawn s) := by
  cases huser : s.users.get userId with
  | none =>
    simp only [generateApiToken, huser]
    exact hs
  | some user =>
    have hid : user.id = userId := hs.keyed userId user huser
    have hrecords : ∀ {t record}, t ≠ drawn.token →
        ((deleteToken user.apiToken s.tokens).set drawn.token
          { recordOf drawn { user with apiToken := drawn.token } with userId := userId }).get t
          = some record → t ≠ user.apiToken ∧ s.tokens.get t = some record := by
      intro t record ht hget
      rw [Dict.get_set_ne _ _ ht, get_deleteToken hs.named] at hget
      split_ifs at hget with htoken
      exact ⟨htoken, hget⟩
    simp only [generateApiToken, huser]
    constructor
    · intro id user' hget
      rw [Dict.get_set] at hget
      split_ifs at hget with hid'
      · obtain rfl := Option.some.inj hget
        exact hid'.symm
      · exact hs.keyed id user' hget
    · intro token record hget
      by_cases htoken : token = drawn.token
      · rw [htoken, Dict.get_set_self] at hget
        obtain rfl := Option.some.inj hget
        refine ⟨{ user with apiToken := drawn.token }, ?_, htoken.symm, rfl⟩
        rw [hid]
        exact Dict.get_set_self _ _ _
      · obtain ⟨hold, hget⟩ := hrecords htoken hget
        obtain ⟨user', huser', htoken', hrole⟩ := hs.current token record hget
        refine ⟨user', ?_, htoken', hrole⟩
        rw [hid, Dict.get_set_ne, huser']
        intro hsame
        rw [hsame, huser] at huser'
        obtain rfl := Option.some.inj huser'
        exact hold htoken'.symm
    · intro token record id user' hrecord huser' htoken'
      rw [Dict.get_set] at huser'
      by_cases htoken : token = drawn.token
      · rw [htoken, Dict.get_set_self] at hrecord
        obtain rfl := Option.some.inj hrecord
        split_ifs at huser' with hid'
        · exact hid'.trans hid
        · exact absurd (htoken'.trans htoken) (hunused.2 id user' huser')
      · obtain ⟨_, hget⟩ := hrecords htoken hrecord
        split_ifs at huser' with hid'
        · obtain rfl := Option.some.inj huser'
          exact absurd htoken'.symm htoken
        · exact hs.single token record id user' hget huser' htoken'
    · rw [Dict.get_set_ne _ _ hne.symm, get_deleteToken hs.named]
      split_ifs
      · rfl
      · exact hs.named

/-- A request that draws what is new keeps the tokens consistent. -/
lemma step_consistent {a : Action} (hs : Consistent s) (huser : NewUser s a)
    (htokens : ∀ token ∈ drawnTokens a, token ≠ "" ∧ Unused s token) : Consistent (step s a) := by
  cases a with
  | createUser ids drawn data =>
    obtain ⟨hne, hunused⟩ := htokens drawn.token (List.mem_singleton_self _)
    exact createUser_consistent hs huser hne hunused
  | updateUser userId data => exact updateUser_consistent hs
  | deleteUser userId => exact deleteUser_consistent hs userId
  | bulkDeleteUsers ids =>
    simp only [step, bulkDeleteUsers]
    induction ids generalizing s with
    | nil => exact hs
    | cons id ids ih => exact ih (deleteUser_consistent hs id) trivial (fun _ h => nomatch h)
  | generateApiToken userId drawn =>
    obtain ⟨hne, hunused⟩ := htokens drawn.token (List.mem_singleton_self _)
    exact generateApiToken_consistent hs hne hunused

/-! ## Tokens that are not drawn -/

lemma kept_of_deleteUser (userId : String) :
    (∀ token record, (deleteUser userId s).tokens.get token = some record →
        s.tokens.get token = some record)
      ∧ ∀ id user, (deleteUser userId s).users.get id = some user →
        s.users.get id = some user := by
  unfold deleteUser
  split
  · exact ⟨fun _ _ h => h, fun _ _ h => h⟩
  · constructor
    · intro token record h
      simp only [deleteToken] at h
      split_ifs at h
      · exact h
      · rw [Dict.get_erase] at h
        split_ifs at h
        exact h
    · intro id user h
      rw [Dict.get_erase] at h
      split_ifs at h
      exact h

/-- A request keeps the user of a token that it does not draw, and gives it to no user. -/
lemma kept_of_step {a : Action} {token : String} (hdrawn : token ∉ drawnTokens a) :
    (∀ record, (step s a).tokens.get token = some record →
        ∃ old, s.tokens.get token = some old ∧ record.userId = old.userId)
      ∧ ∀ id user, (step s a).users.get id = some user → user.apiToken = token →
        ∃ id' user', s.users.get id' = some user' ∧ user'.apiToken = token := by
  cases a with
  | createUser ids drawn data =>
    have hne : token ≠ drawn.token := fun h => hdrawn (h ▸ List.mem_singleton_self _)
    simp only [step, createUser]
    constructor
    · intro record h
      rw [Dict.get_set_ne _ _ hne] at h
      exact ⟨record, h, rfl⟩
    · intro id user h htoken
      rw [Dict.get_set] at h
      split_ifs at h
      · obtain rfl := Option.some.inj h
        exact absurd htoken.symm hne
      · exact ⟨id, user, h, htoken⟩
  | updateUser userId data =>
    simp only [step, updateUser]
    cases huser : s.users.get userId with
    | none => exact ⟨fun record h => ⟨record, h, rfl⟩, fun id user h ht => ⟨id, user, h, ht⟩⟩
    | some user =>
      constructor
      · intro record h
        simp only [syncTokenRole] at h
        split_ifs at h
        · exact ⟨record, h, rfl⟩
        · split at h
          · exact ⟨record, h, rfl⟩
          · rename_i old hold
            rw [Dict.get_set] at h
            split_ifs at h with ht
            · obtain rfl := Option.some.inj h
              exact ⟨old, ht ▸ hold, rfl⟩
            · exact ⟨record, h, rfl⟩
        · exact ⟨record, h, rfl⟩
      · intro id user' h htoken
        simp only [Dict.get_set] at h
        split_ifs at h
        · obtain rfl := Option.some.inj h
          exact ⟨userId, user, huser, htoken⟩
        · exact ⟨id, user', h, htoken⟩
  | deleteUser userId =>
    obtain ⟨htokens, husers⟩ := kept_of_deleteUser (s := s) userId
    exact ⟨fun record h => ⟨record, htokens token record h, rfl⟩,
      fun id user h ht => ⟨id, user, husers id user h, ht⟩⟩
  | bulkDeleteUsers ids =>
    simp only [step, bulkDeleteUsers]
    induction ids generalizing s with
    | nil => exact ⟨fun record h => ⟨record, h, rfl⟩, fun id user h ht => ⟨id, user, h, ht⟩⟩
    | cons id ids ih =>
      obtain ⟨htokens, husers⟩ := kept_of_deleteUser (s := s) id
      obtain ⟨htokens', husers'⟩ := ih (s := deleteUser id s) hdrawn
      constructor
      · intro record h
        obtain ⟨old, hold, hid⟩ := htokens' record h
        exact ⟨old, htokens token old hold, hid⟩
      · intro id' user h ht
        obtain ⟨id'', user', h', ht'⟩ := husers' id' user h ht
        exact ⟨id'', user', husers id'' user' h', ht'⟩
  | generateApiToken userId drawn =>
    have hne : token ≠ drawn.token := fun h => hdrawn (h ▸ List.mem_singleton_self _)
    simp only [step, generateApiToken]
    cases huser : s.users.get userId with
    | none => exact ⟨fun record h => ⟨record, h, rfl⟩, fun id user h ht => ⟨id, user, h, ht⟩⟩
    | some old =>
      constructor
      · intro record h
        simp only [Dict.get_set_ne _ _ hne, deleteToken] at h
        split_ifs at h
        · exact ⟨record, h, rfl⟩
        · rw [Dict.get_erase] at h
          split_ifs at h
          exact ⟨record, h, rfl⟩
      · intro id user h htoken
        simp only [Dict.get_set] at h
        split_ifs at h
        · obtain rfl := Option.some.inj h
          exact absurd htoken.symm hne
        · exact ⟨id, user, h, htoken⟩

/-- A token that nobody has, and that a request does not draw, nobody has afterwards. -/
lemma Unused.step {a : Action} {token : String} (h : Unused s token)
    (hdrawn : token ∉ drawnTokens a) : Unused (step s a) token := by
  obtain ⟨htokens, husers⟩ := kept_of_step (s := s) hdrawn
  constructor
  · cases hget : (Users.step s a).tokens.get token with
    | none => rfl
    | some record =>
      obtain ⟨old, hold, -⟩ := htokens record hget
      rw [h.1] at hold
      cases hold
  · intro id user hget htoken
    obtain ⟨id', user', hget', htoken'⟩ := husers id user hget htoken
    exact h.2 id' user' hget' htoken'

/-! ## Along a run -/

lemma Draws.tail {a : Action} {as : List Action} (h : Draws s (a :: as)) :
    Draws (step s a) as := by
  have hnodup : (drawnTokens a ++ as.flatMap drawnTokens).Nodup := h.nodup
  obtain ⟨-, hrest, hapart⟩ := List.nodup_append.1 hnodup
  refine ⟨hrest, fun token htoken => ?_⟩
  obtain ⟨hne, hunused⟩ := h.unused token (List.mem_append_right _ htoken)
  exact ⟨hne, hunused.step fun hmem => hapart token hmem token htoken rfl⟩

lemma Draws.append {as bs : List Action} (h : Draws s (as ++ bs)) :
    Draws s as ∧ Draws (runFrom step s as) bs := by
  constructor
  · have hnodup := h.nodup
    rw [List.flatMap_append] at hnodup
    refine ⟨(List.nodup_append.1 hnodup).1, fun token htoken => h.unused token ?_⟩
    rw [List.flatMap_append]
    exact List.mem_append_left _ htoken
  · induction as generalizing s with
    | nil => exact h
    | cons a as ih => exact ih h.tail

lemma run_consistent {as : List Action} (hs : Consistent s) (hdraws : Draws s as)
    (hnew : Along step NewUser s as) : Consistent (runFrom step s as) := by
  induction as generalizing s with
  | nil => exact hs
  | cons a as ih =>
    refine ih (step_consistent hs hnew.1 fun token htoken => ?_) hdraws.tail hnew.2
    exact hdraws.unused token (List.mem_append_left _ htoken)

/-- A run keeps the user of a token that it does not draw. -/
lemma kept_of_run {as : List Action} {token : String} (hdrawn : token ∉ as.flatMap drawnTokens)
    {record : TokenRecord} (h : (runFrom step s as).tokens.get token = some record) :
    ∃ old, s.tokens.get token = some old ∧ record.userId = old.userId := by
  induction as generalizing s with
  | nil => exact ⟨record, h, rfl⟩
  | cons a as ih =>
    rw [List.flatMap_cons, List.mem_append, not_or] at hdrawn
    obtain ⟨middle, hmiddle, hid⟩ := ih hdrawn.2 h
    obtain ⟨old, hold, hid'⟩ := (kept_of_step hdrawn.1).1 middle hmiddle
    exact ⟨old, hold, hid.trans hid'⟩

lemma Draws.not_mem {as : List Action} (h : Draws s as) {token : String} {record : TokenRecord}
    (hget : s.tokens.get token = some record) : token ∉ as.flatMap drawnTokens := by
  intro hmem
  rw [(h.unused token hmem).2.1] at hget
  cases hget

lemma requireAuth_stored {now : Int} {authorization : Option String} {record : TokenRecord}
    (h : requireAuth py now authorization s = some record) :
    ∃ token, authorization = some ("ApiToken " ++ token) ∧ s.tokens.get token = some record := by
  simp only [requireAuth, Option.bind_eq_bind, Option.bind_eq_some_iff] at h
  obtain ⟨header, hheader, token, hcut, record', hget, h⟩ := h
  split_ifs at h
  obtain rfl := Option.some.inj h
  exact ⟨token, by rw [hheader, cutPrefix_eq_some_iff.1 hcut], hget⟩

lemma Consistent.follows (hs : Consistent s) : Follows py s where
  toConsistent := hs
  one token token' record record' hget hget' hid := by
    obtain ⟨user, huser, rfl, -⟩ := hs.current token record hget
    obtain ⟨user', huser', rfl, -⟩ := hs.current token' record' hget'
    rw [hid, huser'] at huser
    rw [Option.some.inj huser]
  authorised now authorization record h := by
    obtain ⟨token, hheader, hget⟩ := requireAuth_stored py h
    obtain ⟨user, huser, rfl, hrole⟩ := hs.current token record hget
    exact ⟨user, huser, hheader, hrole⟩

/-- Along a run from tokens that are consistent, with tokens and ids that are new, every stored
    token is the one current token of an existing user and authorises the user's role; and a token
    whose user is deleted or has another authorises nothing from then on. -/
theorem tokens_follow {as : List Action} (hs : Consistent s) (hdraws : Draws s as)
    (hnew : Along step NewUser s as) :
    (∀ pre, pre <+: as → Follows py (runFrom step s pre))
      ∧ ∀ pre mid post token record, pre ++ mid ++ post <+: as →
        (runFrom step s pre).tokens.get token = some record →
        Lost (runFrom step s (pre ++ mid)) record.userId token →
        ∀ now, requireAuth py now (some ("ApiToken " ++ token))
          (runFrom step s (pre ++ mid ++ post)) = none := by
  have hrun : ∀ pre, pre <+: as → Consistent (runFrom step s pre) := by
    rintro pre ⟨rest, rfl⟩
    exact run_consistent hs hdraws.append.1 (Along.append_iff.1 hnew).1
  refine ⟨fun pre hpre => (hrun pre hpre).follows py, ?_⟩
  intro pre mid post token record hpre hget hlost now
  have hmid : Consistent (runFrom step s (pre ++ mid)) :=
    hrun _ ((List.prefix_append _ post).trans hpre)
  obtain ⟨rest, rfl⟩ := hpre
  have hlater : Draws (runFrom step s pre) (mid ++ (post ++ rest)) := by
    refine (Draws.append (s := s) ?_).2
    rwa [← List.append_assoc, ← List.append_assoc]
  obtain ⟨hdrawsMid, hdrawsPost⟩ := hlater.append
  -- the token is no record's where it is lost
  have hnone : (runFrom step s (pre ++ mid)).tokens.get token = none := by
    cases hget' : (runFrom step s (pre ++ mid)).tokens.get token with
    | none => rfl
    | some record' =>
      obtain ⟨user, huser, htoken, -⟩ := hmid.current token record' hget'
      rw [runFrom_append] at hget'
      obtain ⟨old, hold, hid⟩ := kept_of_run (hdrawsMid.not_mem hget) hget'
      rw [hget] at hold
      obtain rfl := Option.some.inj hold
      exact absurd htoken (hlost user (hid ▸ huser))
  -- and it is not drawn again
  have hnot : token ∉ post.flatMap drawnTokens := by
    intro hmem
    refine hlater.not_mem hget ?_
    rw [List.flatMap_append, List.flatMap_append]
    exact List.mem_append_right _ (List.mem_append_left _ hmem)
  cases hauth : requireAuth py now (some ("ApiToken " ++ token))
      (runFrom step s (pre ++ mid ++ post)) with
  | none => rfl
  | some record' =>
    obtain ⟨token', hheader, hget'⟩ := requireAuth_stored py hauth
    obtain rfl := append_left_inj.1 (Option.some.inj hheader)
    rw [runFrom_append] at hget'
    obtain ⟨old, hold, -⟩ := kept_of_run hnot hget'
    rw [hnone] at hold
    cases hold

/-- No user, no token. -/
def noUsers : Store := ⟨Dict.empty, Dict.empty, []⟩

lemma consistent_noUsers : Consistent noUsers where
  keyed _ _ h := nomatch h
  current _ _ h := nomatch h
  single _ _ _ _ h := nomatch h
  named := rfl

/-- A user is made, demoted, given another token and deleted. -/
theorem tokens_follow_demoted :
    (∀ pre, pre <+: [.createUser ⟨"u", "r", "q", ""⟩ ⟨"t", "x"⟩ [("role", .str "Admin")],
        .updateUser "u" [("role", .str "Viewer")], .generateApiToken "u" ⟨"v", "x"⟩,
        .deleteUser "u"] →
      Follows ⟨fun _ => some 0⟩ (runFrom step noUsers pre))
    ∧ ∀ pre mid post token record, pre ++ mid ++ post <+:
        [.createUser ⟨"u", "r", "q", ""⟩ ⟨"t", "x"⟩ [("role", .str "Admin")],
        .updateUser "u" [("role", .str "Viewer")], .generateApiToken "u" ⟨"v", "x"⟩,
        .deleteUser "u"] →
      (runFrom step noUsers pre).tokens.get token = some record →
      Lost (runFrom step noUsers (pre ++ mid)) record.userId token →
      ∀ now, requireAuth ⟨fun _ => some 0⟩ now (some ("ApiToken " ++ token))
        (runFrom step noUsers (pre ++ mid ++ post)) = none := by
  refine tokens_follow _ consistent_noUsers ⟨by decide, ?_⟩
    ⟨rfl, trivial, trivial, trivial, trivial⟩
  intro token htoken
  refine ⟨?_, rfl, fun _ _ h => nomatch h⟩
  rintro rfl
  exact absurd htoken (by decide)

end Users

end Mockdr
