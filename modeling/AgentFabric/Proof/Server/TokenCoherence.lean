import AgentFabric.Construction.Server.Auth

namespace AgentFabric.Server
open Transition AuthService

/-- Decoding a signed token gives its claims, and a token text always carries the same claims. -/
structure Jwt.Lawful (jwt : Jwt) : Prop where
  decode_encode : ∀ claims now decoded, jwt.decode (jwt.encode claims) now = .ok decoded →
    decoded = claims
  decode_stable : ∀ bearerToken now later decoded other, jwt.decode bearerToken now = .ok decoded →
    jwt.decode bearerToken later = .ok other → other = decoded

/-- One registration of a principal with its effective scopes. -/
structure Registration where
  principalId : String
  tenantId : String
  principalType : String
  scopes : List String
  deriving DecidableEq

/-- The claims and the expiry of a token that was issued. -/
structure IssuedToken where
  claims : Claims
  expiresAt : UtcTime
  deriving DecidableEq

/-- What happened in a run so far and the time of its last call. -/
structure AuthHistory where
  registrations : List Registration
  issued : List IssuedToken
  rotated : List String
  now : Nat

structure AuthRun where
  rows : AuthRows
  history : AuthHistory

section Run

variable (jwt : Jwt) (sha256 : String → String) (rolePermissions : String → List String)
  (rows : AuthRows)

/-- The token that a principal is issued. -/
def issuedToken (principalId : String) (ttlSeconds : Int) (tokenId : String)
    (now : UtcTime) : Option IssuedToken := do
  let principal ← rows.principals.get? principalId
  let expiresAt ← (expiry now ttlSeconds).toOption
  some ⟨claimsOf rolePermissions principal tokenId expiresAt now, expiresAt⟩

/-- The tokens that an accepted call issues. -/
def issuedBy (timed : TimedCall) : List IssuedToken :=
  match timed.call with
  | .issueToken principalId ttlSeconds tokenId =>
      (issuedToken rolePermissions rows principalId ttlSeconds tokenId timed.now).toList
  | .rotateToken bearerToken ttlSeconds tokenId =>
      match authenticate jwt sha256 rows bearerToken timed.now with
      | .error _ => []
      | .ok principal =>
          (issuedToken rolePermissions rows principal.principalId ttlSeconds tokenId
            timed.now).toList
  | .registerPrincipal _ _ _ _ _ => []
  | .authenticate _ => []

/-- A registration is kept with its effective scopes. -/
def registeredBy (timed : TimedCall) : List Registration :=
  match timed.call with
  | .registerPrincipal principalId tenantId principalType scopes role =>
      [⟨principalId, tenantId, principalType, effectiveScopes rolePermissions scopes role⟩]
  | .issueToken _ _ _ => []
  | .rotateToken _ _ _ => []
  | .authenticate _ => []

/-- The token that an accepted call rotates away. -/
def rotatedBy (timed : TimedCall) : List String :=
  match timed.call with
  | .rotateToken bearerToken _ _ => [bearerToken]
  | .registerPrincipal _ _ _ _ _ => []
  | .issueToken _ _ _ => []
  | .authenticate _ => []

variable (state : AuthRun)

/-- A call that raises only moves the time. -/
def remember (timed : TimedCall) : Except PyError AuthAnswer → AuthHistory
  | .error _ => { state.history with now := timed.now.wall.micros }
  | .ok _ => {
      registrations := state.history.registrations ++ registeredBy rolePermissions timed
      issued := state.history.issued ++ issuedBy jwt sha256 rolePermissions state.rows timed
      rotated := state.history.rotated ++ rotatedBy timed
      now := timed.now.wall.micros }

/-- The service answers a call and its history follows. -/
def followedAuth : Machine AuthRun TimedCall (Except PyError AuthAnswer) := fun state timed =>
  let outcome := answer jwt sha256 rolePermissions state.rows timed
  (outcome.1, ⟨outcome.2, remember jwt sha256 rolePermissions state timed outcome.1⟩)

def AuthRun.initial : AuthRun := ⟨AuthService.initial, ⟨[], [], [], 0⟩⟩

/-- The token that a call presents. -/
def AuthCall.bearer? : AuthCall → Option String
  | .rotateToken bearerToken _ _ => some bearerToken
  | .authenticate bearerToken => some bearerToken
  | .registerPrincipal _ _ _ _ _ => none
  | .issueToken _ _ _ => none

/-- The clock does not go back, and a presented token that decodes carries issued claims. -/
structure Environment (state : AuthRun) (timed : TimedCall) : Prop where
  timely : state.history.now ≤ timed.now.wall.micros
  unforgeable : ∀ bearerToken claims, timed.call.bearer? = some bearerToken →
    jwt.decode bearerToken timed.now = .ok claims →
      ∃ issued ∈ state.history.issued, issued.claims = claims

/-- A registration of the principal has the tenant and type of its row and the given scopes. -/
def RegisteredWith (registrations : List Registration) (principal : Principal)
    (scopes : List String) : Prop :=
  (⟨principal.principalId, principal.tenantId, principal.principalType, scopes⟩ : Registration) ∈
    registrations

/-- A token that is neither revoked nor expired. -/
def LiveAt (now : Nat) (issued : IssuedToken) : Prop :=
  ∃ token, rows.tokens.get? issued.claims.jti = some token ∧ token.revoked = false ∧
    now < token.expiresAt.wall.micros

/-- A registration keeps the scopes of every live token of its principal registered with the new
tenant and type, and a new token has scopes that are registered with the stored tenant and type. -/
def KeepsIdentity (timed : TimedCall) : Prop :=
  match timed.call with
  | .registerPrincipal principalId tenantId principalType scopes role =>
      ∀ issued ∈ state.history.issued, issued.claims.sub = principalId →
        LiveAt state.rows timed.now.wall.micros issued →
          RegisteredWith (state.history.registrations ++ registeredBy rolePermissions timed)
            (registerPrincipal rolePermissions state.rows principalId tenantId principalType scopes
              role).1 (sortedSet issued.claims.scp)
  | .issueToken principalId _ _ => ∀ principal, state.rows.principals.get? principalId = some principal →
      RegisteredWith state.history.registrations principal (issuedScopes rolePermissions principal)
  | .rotateToken bearerToken _ _ => ∀ caller principal,
      authenticate jwt sha256 state.rows bearerToken timed.now = .ok caller →
        state.rows.principals.get? caller.principalId = some principal →
          RegisteredWith state.history.registrations principal
            (issuedScopes rolePermissions principal)
  | .authenticate _ => True

/-- The rows agree with the history. -/
structure Sound (state : AuthRun) : Prop where
  named : ∀ principalId principal, state.rows.principals.get? principalId = some principal →
    principal.principalId = principalId
  issued : ∀ issued ∈ state.history.issued, ∃ token,
    state.rows.tokens.get? issued.claims.jti = some token ∧ token.expiresAt = issued.expiresAt
  rotated : ∀ bearerToken ∈ state.history.rotated, ∃ now claims token,
    jwt.decode bearerToken now = .ok claims ∧ state.rows.tokens.get? claims.jti = some token ∧
      token.revoked = true

/-- Every live token has scopes that are registered with the tenant and type of its principal. -/
def CoherentTokens : Prop :=
  ∀ issued ∈ state.history.issued, LiveAt state.rows state.history.now issued →
    ∀ principal, state.rows.principals.get? issued.claims.sub = some principal →
      RegisteredWith state.history.registrations principal (sortedSet issued.claims.scp)

end Run

variable {jwt : Jwt} {sha256 : String → String} {rolePermissions : String → List String}

/-- An authenticated token decodes to claims whose row is live and whose principal is stored. -/
theorem authenticate_eq_ok {rows : AuthRows} {bearerToken : String} {now : UtcTime}
    {caller : AuthPrincipal}
    (authenticated : authenticate jwt sha256 rows bearerToken now = .ok caller) :
    ∃ claims token principal, jwt.decode bearerToken now = .ok claims ∧
      rows.tokens.get? claims.jti = some token ∧ token.revoked = false ∧
      now.wall.micros < token.expiresAt.wall.micros ∧
      rows.principals.get? claims.sub = some principal ∧
      caller = ⟨principal.principalId, principal.tenantId, sortedSet claims.scp,
        principal.principalType, claims.jti⟩ := by
  unfold authenticate at authenticated
  obtain ⟨claims, decoded, authenticated⟩ := bind_eq_ok_iff.mp authenticated
  by_cases unnamed : claims.jti = ""
  · rw [if_pos unnamed] at authenticated
    cases authenticated
  rw [if_neg unnamed] at authenticated
  cases found : rows.tokens.get? claims.jti with
  | none =>
      rw [found] at authenticated
      cases authenticated
  | some token =>
      rw [found] at authenticated
      dsimp only at authenticated
      by_cases revoked : token.revoked = true
      · rw [if_pos revoked] at authenticated
        cases authenticated
      rw [if_neg revoked] at authenticated
      by_cases expired : token.expiresAt.wall.micros ≤ now.wall.micros
      · rw [if_pos expired] at authenticated
        cases authenticated
      rw [if_neg expired] at authenticated
      by_cases other : token.tokenHash ≠ sha256 bearerToken
      · rw [if_pos other] at authenticated
        cases authenticated
      rw [if_neg other] at authenticated
      cases stored : rows.principals.get? claims.sub with
      | none =>
          rw [stored] at authenticated
          cases authenticated
      | some principal =>
          rw [stored] at authenticated
          exact ⟨claims, token, principal, decoded, found, (Bool.not_eq_true _).mp revoked,
            not_le.mp expired, stored, (Except.ok.inj authenticated).symm⟩

/-- An accepted issue adds the row of a new id. -/
theorem issueToken_eq_ok {rows after : AuthRows} {principalId tokenId bearerToken : String}
    {ttlSeconds : Int} {now : UtcTime}
    (accepted : issueToken jwt sha256 rolePermissions rows principalId ttlSeconds tokenId now =
      .ok (bearerToken, after)) :
    ∃ principal expiresAt, rows.principals.get? principalId = some principal ∧
      issuedToken rolePermissions rows principalId ttlSeconds tokenId now =
        some ⟨claimsOf rolePermissions principal tokenId expiresAt now, expiresAt⟩ ∧
      rows.tokens.get? tokenId = none ∧
      after = ⟨rows.principals, rows.tokens.set tokenId
        ⟨principal.principalId, sha256 bearerToken, expiresAt, false⟩⟩ := by
  unfold issueToken at accepted
  cases stored : rows.principals.get? principalId with
  | none =>
      rw [stored] at accepted
      cases accepted
  | some principal =>
      rw [stored] at accepted
      obtain ⟨expiresAt, expires, accepted⟩ := bind_eq_ok_iff.mp accepted
      cases fresh : rows.tokens.get? tokenId with
      | some token =>
          rw [fresh] at accepted
          cases accepted
      | none =>
          rw [fresh] at accepted
          obtain ⟨rfl, rfl⟩ := Prod.mk.inj (Except.ok.inj accepted)
          refine ⟨principal, expiresAt, rfl, ?_, rfl, rfl⟩
          rw [issuedToken, stored, expires]
          rfl

/-- A revocation changes only the row of its token. -/
theorem revoke_tokens (rows : AuthRows) (tokenId query : String) :
    (revoke rows tokenId).tokens.get? query =
      if query = tokenId then
        (rows.tokens.get? tokenId).map fun token => { token with revoked := true }
      else rows.tokens.get? query := by
  unfold revoke
  cases found : rows.tokens.get? tokenId with
  | none =>
      by_cases same : query = tokenId
      · rw [if_pos same, same, found]
        rfl
      · rw [if_neg same]
  | some token => rw [Dict.get?_set, Option.map_some]

@[simp] theorem revoke_principals (rows : AuthRows) (tokenId : String) :
    (revoke rows tokenId).principals = rows.principals := by
  unfold revoke
  split <;> rfl

/-- The sorted set of a sorted set is the same list. -/
theorem sortedSet_sortedSet (texts : List String) : sortedSet (sortedSet texts) = sortedSet texts := by
  have distinct : (Sorting.sortedBy id texts.dedup).Nodup :=
    (Sorting.sortedBy_perm id texts.dedup).nodup_iff.mpr (List.nodup_dedup texts)
  rw [sortedSet, sortedSet, distinct.dedup]
  exact Sorting.sortedBy_of_pairwise id _ (Sorting.sortedBy_pairwise id _)

/-- A token that is live later is live now. -/
theorem LiveAt.earlier {rows : AuthRows} {issued : IssuedToken} {now later : Nat}
    (live : LiveAt rows later issued) (order : now ≤ later) : LiveAt rows now issued := by
  obtain ⟨token, found, unrevoked, before⟩ := live
  exact ⟨token, found, unrevoked, lt_of_le_of_lt order before⟩

section Steps

variable {rows : AuthRows} {history : AuthHistory}

theorem Sound.register (sound : Sound jwt ⟨rows, history⟩)
    (principalId tenantId principalType : String) (scopes : List String) (role : String)
    (registrations : List Registration) (now : Nat) :
    Sound jwt ⟨(registerPrincipal rolePermissions rows principalId tenantId principalType scopes
      role).2, { history with registrations, now }⟩ where
  named query principal found := by
    simp only [registerPrincipal, Dict.get?_set] at found
    by_cases same : query = principalId
    · rw [if_pos same] at found
      rw [← Option.some.inj found, same]
    · rw [if_neg same] at found
      exact sound.named query principal found
  issued := sound.issued
  rotated := sound.rotated

/-- A row for a new id keeps the rows of the tokens that exist. -/
theorem Sound.issue (sound : Sound jwt ⟨rows, history⟩) (token : Token) (issued : IssuedToken)
    (fresh : rows.tokens.get? issued.claims.jti = none)
    (expires : token.expiresAt = issued.expiresAt) (now : Nat) :
    Sound jwt ⟨⟨rows.principals, rows.tokens.set issued.claims.jti token⟩,
      { history with issued := history.issued ++ [issued], now }⟩ := by
  have kept {tokenId : String} {stored : Token} (found : rows.tokens.get? tokenId = some stored) :
      (rows.tokens.set issued.claims.jti token).get? tokenId = some stored := by
    rw [Dict.get?_set, if_neg]
    · exact found
    · rintro rfl
      cases fresh.symm.trans found
  refine ⟨sound.named, fun other member => ?_, fun bearerToken member => ?_⟩
  · rcases List.mem_append.mp member with old | new
    · obtain ⟨stored, found, same⟩ := sound.issued other old
      exact ⟨stored, kept found, same⟩
    · rw [List.mem_singleton.mp new]
      exact ⟨token, Dict.get?_set_self _ _ _, expires⟩
  · obtain ⟨time, claims, stored, decoded, found, revoked⟩ := sound.rotated bearerToken member
    exact ⟨time, claims, stored, decoded, kept found, revoked⟩

variable {now : UtcTime}

/-- A rotation revokes the row of the token that it rotates away. -/
theorem Sound.revoke (sound : Sound jwt ⟨rows, history⟩) {bearerToken : String}
    {caller : AuthPrincipal}
    (authenticated : authenticate jwt sha256 rows bearerToken now = .ok caller) :
    Sound jwt ⟨AuthService.revoke rows caller.tokenId,
      { history with rotated := history.rotated ++ [bearerToken] }⟩ := by
  have kept {tokenId : String} {stored : Token} (found : rows.tokens.get? tokenId = some stored) :
      ∃ token, (AuthService.revoke rows caller.tokenId).tokens.get? tokenId = some token ∧
        token.expiresAt = stored.expiresAt ∧ (stored.revoked = true → token.revoked = true) := by
    rw [revoke_tokens]
    by_cases same : tokenId = caller.tokenId
    · rw [if_pos same, ← same, found]
      exact ⟨_, rfl, rfl, fun _ => rfl⟩
    · rw [if_neg same]
      exact ⟨stored, found, rfl, id⟩
  refine ⟨fun principalId principal found => ?_, fun issued member => ?_, fun token member => ?_⟩
  · rw [revoke_principals] at found
    exact sound.named principalId principal found
  · obtain ⟨stored, found, same⟩ := sound.issued issued member
    obtain ⟨token, present, expires, -⟩ := kept found
    exact ⟨token, present, expires.trans same⟩
  · rcases List.mem_append.mp member with old | new
    · obtain ⟨time, claims, stored, decoded, found, revoked⟩ := sound.rotated token old
      obtain ⟨after, present, -, stays⟩ := kept found
      exact ⟨time, claims, after, decoded, present, stays revoked⟩
    · rw [List.mem_singleton.mp new]
      obtain ⟨claims, stored, principal, decoded, found, -, -, -, rfl⟩ :=
        authenticate_eq_ok authenticated
      refine ⟨now, claims, { stored with revoked := true }, decoded, ?_, rfl⟩
      rw [revoke_tokens, if_pos rfl, found]
      rfl

variable {principalId tokenId bearerToken : String}

/-- An accepted issue is followed by the history. -/
theorem Sound.issueToken (sound : Sound jwt ⟨rows, history⟩) {after : AuthRows} {ttlSeconds : Int}
    (accepted : issueToken jwt sha256 rolePermissions rows principalId ttlSeconds
      tokenId now = .ok (bearerToken, after)) (time : Nat) :
    Sound jwt ⟨after, { history with
      issued := history.issued ++
        (issuedToken rolePermissions rows principalId ttlSeconds tokenId now).toList
      now := time }⟩ := by
  obtain ⟨principal, expiresAt, -, issues, fresh, rfl⟩ := issueToken_eq_ok accepted
  rw [issues]
  exact sound.issue _ ⟨claimsOf rolePermissions principal tokenId expiresAt now, expiresAt⟩ fresh
    rfl time

/-- The history of an unchanged service stays sound. -/
theorem Sound.later (sound : Sound jwt ⟨rows, history⟩) (now : Nat) :
    Sound jwt ⟨rows, { history with now }⟩ :=
  ⟨sound.named, sound.issued, sound.rotated⟩

theorem sound_step (state : AuthRun) (timed : TimedCall) (sound : Sound jwt state) :
    Sound jwt (followedAuth jwt sha256 rolePermissions state timed).2 := by
  obtain ⟨rows, history⟩ := state
  obtain ⟨now, call⟩ := timed
  cases call with
  | registerPrincipal principalId tenantId principalType scopes role =>
      have kept : Sound jwt ⟨(registerPrincipal rolePermissions rows principalId tenantId principalType
          scopes role).2, { history with
            registrations := history.registrations ++ registeredBy rolePermissions
              ⟨now, .registerPrincipal principalId tenantId principalType scopes role⟩
            now := now.wall.micros }⟩ := sound.register _ _ _ _ _ _ _
      simpa [followedAuth, answer, remember, issuedBy, rotatedBy] using kept
  | issueToken principalId ttlSeconds tokenId =>
      simp only [followedAuth, answer]
      cases outcome : issueToken jwt sha256 rolePermissions rows principalId ttlSeconds
          tokenId now with
      | error error => exact sound.later _
      | ok accepted =>
          have kept := sound.issueToken outcome now.wall.micros
          simpa [answering, remember, issuedBy, registeredBy, rotatedBy] using kept
  | rotateToken bearerToken ttlSeconds tokenId =>
      simp only [followedAuth, answer]
      cases outcome : rotateToken jwt sha256 rolePermissions rows bearerToken ttlSeconds
          tokenId now with
      | error error => exact sound.later _
      | ok accepted =>
          obtain ⟨caller, authenticated, issues⟩ := bind_eq_ok_iff.mp outcome
          have kept := (sound.revoke authenticated).issueToken issues now.wall.micros
          have same : issuedToken rolePermissions (AuthService.revoke rows caller.tokenId)
              caller.principalId ttlSeconds tokenId now =
                issuedToken rolePermissions rows caller.principalId ttlSeconds tokenId now := by
            rw [issuedToken, revoke_principals]
            rfl
          rw [same] at kept
          simpa [answering, remember, issuedBy, registeredBy, rotatedBy, authenticated] using kept
  | authenticate bearerToken =>
      simp only [followedAuth, answer]
      cases authenticate jwt sha256 rows bearerToken now with
      | error error => exact sound.later _
      | ok caller =>
          have kept := sound.later now.wall.micros
          simpa [Except.map, remember, issuedBy, registeredBy, rotatedBy] using kept

section

variable (coherent : CoherentTokens ⟨rows, history⟩)
include coherent

/-- Coherent tokens stay coherent while time passes. -/
theorem CoherentTokens.later {now : Nat}
    (timely : history.now ≤ now) : CoherentTokens ⟨rows, { history with now }⟩ :=
  fun issued member live => coherent issued member (live.earlier timely)

/-- A revocation leaves fewer live tokens. -/
theorem CoherentTokens.revoke (tokenId : String) (rotated : List String) :
    CoherentTokens ⟨AuthService.revoke rows tokenId, { history with rotated }⟩ := by
  intro issued member live principal found
  rw [revoke_principals] at found
  refine coherent issued member ?_ principal found
  obtain ⟨token, present, unrevoked, before⟩ := live
  rw [revoke_tokens] at present
  by_cases same : issued.claims.jti = tokenId
  · rw [if_pos same] at present
    obtain ⟨stored, -, rfl⟩ := Option.map_eq_some_iff.mp present
    cases unrevoked
  · rw [if_neg same] at present
    exact ⟨token, present, unrevoked, before⟩

/-- A new token has the scopes of a registration with the stored tenant and type. -/
theorem CoherentTokens.issueToken
    (sound : Sound jwt ⟨rows, history⟩) {after : AuthRows} {ttlSeconds : Int}
    (accepted : issueToken jwt sha256 rolePermissions rows principalId ttlSeconds
      tokenId now = .ok (bearerToken, after))
    (registered : ∀ principal, rows.principals.get? principalId = some principal →
      RegisteredWith history.registrations principal (issuedScopes rolePermissions principal))
    {time : Nat} (timely : history.now ≤ time) :
    CoherentTokens ⟨after, { history with
      issued := history.issued ++
        (issuedToken rolePermissions rows principalId ttlSeconds tokenId now).toList
      now := time }⟩ := by
  obtain ⟨stored, expiresAt, present, issues, fresh, rfl⟩ := issueToken_eq_ok accepted
  rw [issues]
  intro issued member live principal found
  rcases List.mem_append.mp member with old | new
  · obtain ⟨token, exists', -⟩ := sound.issued issued old
    have other : issued.claims.jti ≠ tokenId := by
      intro same
      rw [same] at exists'
      cases fresh.symm.trans exists'
    refine coherent issued old ?_ principal found
    obtain ⟨row, shown, unrevoked, before⟩ := live.earlier timely
    rw [Dict.get?_set, if_neg other] at shown
    exact ⟨row, shown, unrevoked, before⟩
  · obtain rfl := List.mem_singleton.mp new
    have named : stored.principalId = principalId := sound.named principalId stored present
    have same : principal = stored := by
      have again : rows.principals.get? stored.principalId = some principal := found
      rw [named, present] at again
      exact (Option.some.inj again).symm
    rw [same]
    have scopes := registered stored present
    rw [claimsOf, issuedScopes, sortedSet_sortedSet]
    exact scopes

end

theorem coherent_step (state : AuthRun) (timed : TimedCall) (sound : Sound jwt state)
    (coherent : CoherentTokens state) (timely : state.history.now ≤ timed.now.wall.micros)
    (keeps : KeepsIdentity jwt sha256 rolePermissions state timed) :
    CoherentTokens (followedAuth jwt sha256 rolePermissions state timed).2 := by
  obtain ⟨rows, history⟩ := state
  obtain ⟨now, call⟩ := timed
  cases call with
  | registerPrincipal principalId tenantId principalType scopes role =>
      intro issued member live principal found
      simp only [followedAuth, answer, remember, issuedBy, List.append_nil] at member live found ⊢
      simp only [registerPrincipal, Dict.get?_set] at found
      by_cases same : issued.claims.sub = principalId
      · rw [if_pos same] at found
        rw [← Option.some.inj found]
        exact keeps issued member same live
      · rw [if_neg same] at found
        exact List.mem_append_left _ (coherent issued member (live.earlier timely) principal found)
  | issueToken principalId ttlSeconds tokenId =>
      simp only [followedAuth, answer]
      cases outcome : issueToken jwt sha256 rolePermissions rows principalId ttlSeconds
          tokenId now with
      | error error => exact coherent.later timely
      | ok accepted =>
          have kept := coherent.issueToken sound outcome keeps timely
          simpa [answering, remember, issuedBy, registeredBy, rotatedBy] using kept
  | rotateToken bearerToken ttlSeconds tokenId =>
      simp only [followedAuth, answer]
      cases outcome : rotateToken jwt sha256 rolePermissions rows bearerToken ttlSeconds
          tokenId now with
      | error error => exact coherent.later timely
      | ok accepted =>
          obtain ⟨caller, authenticated, issues⟩ := bind_eq_ok_iff.mp outcome
          have kept := (coherent.revoke caller.tokenId (history.rotated ++ [bearerToken])).issueToken
            (sound.revoke authenticated) issues (by
              intro principal found
              rw [revoke_principals] at found
              exact keeps caller principal authenticated found) timely
          have same : issuedToken rolePermissions (AuthService.revoke rows caller.tokenId)
              caller.principalId ttlSeconds tokenId now =
                issuedToken rolePermissions rows caller.principalId ttlSeconds tokenId now := by
            rw [issuedToken, revoke_principals]
            rfl
          rw [same] at kept
          simpa [answering, remember, issuedBy, registeredBy, rotatedBy, authenticated] using kept
  | authenticate bearerToken =>
      simp only [followedAuth, answer]
      cases authenticate jwt sha256 rows bearerToken now with
      | error error => exact coherent.later timely
      | ok caller =>
          have kept := coherent.later timely
          simpa [Except.map, remember, issuedBy, registeredBy, rotatedBy] using kept

end Steps

theorem sound_initial : Sound jwt AuthRun.initial where
  named _ _ found := by cases found
  issued _ member := by cases member
  rotated _ member := by cases member

/-- The state of a run and its last call meet the environment. -/
theorem environment_last {calls : List TimedCall} {timed : TimedCall}
    (environment : Guarded (followedAuth jwt sha256 rolePermissions) (Environment jwt)
      AuthRun.initial (calls ++ [timed])) :
    Guarded (followedAuth jwt sha256 rolePermissions) (Environment jwt) AuthRun.initial calls ∧
      Environment jwt (run (followedAuth jwt sha256 rolePermissions) AuthRun.initial calls) timed := by
  obtain ⟨before, last⟩ := (guarded_append _ _ _ _ _).mp environment
  exact ⟨before, last.1⟩

/-- A run whose calls keep the identities has coherent tokens. -/
theorem coherent_run (calls : List TimedCall)
    (environment : Guarded (followedAuth jwt sha256 rolePermissions) (Environment jwt)
      AuthRun.initial calls)
    (keeps : Guarded (followedAuth jwt sha256 rolePermissions)
      (KeepsIdentity jwt sha256 rolePermissions) AuthRun.initial calls) :
    CoherentTokens (run (followedAuth jwt sha256 rolePermissions) AuthRun.initial calls) := by
  refine (run_invariant_of_guarded _ _ (fun state => Sound jwt state ∧ CoherentTokens state) ?_ _
    calls ⟨sound_initial, fun _ member => by cases member⟩ (environment.and keeps)).2
  rintro state timed ⟨sound, coherent⟩ ⟨outside, identity⟩
  exact ⟨sound_step state timed sound,
    coherent_step state timed sound coherent outside.timely identity⟩

/-- A token that authenticates was not rotated away and has not expired. When every call of the run
keeps the identities, one registration of its principal has its tenant, type and scopes. -/
theorem authRun_coherent (lawful : jwt.Lawful) (calls : List TimedCall) (now : UtcTime)
    (bearerToken : String) (caller : AuthPrincipal)
    (environment : Guarded (followedAuth jwt sha256 rolePermissions) (Environment jwt)
      AuthRun.initial (calls ++ [⟨now, .authenticate bearerToken⟩]))
    (authenticated : authenticate jwt sha256
      (run (followedAuth jwt sha256 rolePermissions) AuthRun.initial calls).rows bearerToken now =
        .ok caller) :
    let history := (run (followedAuth jwt sha256 rolePermissions) AuthRun.initial calls).history
    bearerToken ∉ history.rotated ∧
      (∀ issued ∈ history.issued, jwt.encode issued.claims = bearerToken →
        now.wall.micros < issued.expiresAt.wall.micros) ∧
      (Guarded (followedAuth jwt sha256 rolePermissions)
          (KeepsIdentity jwt sha256 rolePermissions) AuthRun.initial calls →
        (⟨caller.principalId, caller.tenantId, caller.principalType, caller.scopes⟩ :
          Registration) ∈ history.registrations) := by
  intro history
  obtain ⟨before, last⟩ := environment_last environment
  have sound : Sound jwt (run (followedAuth jwt sha256 rolePermissions) AuthRun.initial calls) :=
    run_invariant _ (Sound jwt) sound_step _ calls sound_initial
  obtain ⟨claims, token, principal, decoded, found, unrevoked, unexpired, stored, rfl⟩ :=
    authenticate_eq_ok authenticated
  refine ⟨fun retired => ?_, fun issued member same => ?_, fun keeps => ?_⟩
  · obtain ⟨time, others, row, read, present, revoked⟩ := sound.rotated bearerToken retired
    obtain rfl := lawful.decode_stable bearerToken time now others claims read decoded
    rw [Option.some.inj (found.symm.trans present), revoked] at unrevoked
    cases unrevoked
  · rw [← same] at decoded
    obtain rfl := lawful.decode_encode issued.claims now claims decoded
    obtain ⟨row, present, expires⟩ := sound.issued issued member
    rw [Option.some.inj (found.symm.trans present), expires] at unexpired
    exact unexpired
  · obtain ⟨issued, member, rfl⟩ := last.unforgeable bearerToken claims rfl decoded
    have live : LiveAt (run (followedAuth jwt sha256 rolePermissions) AuthRun.initial calls).rows
        history.now issued :=
      ⟨token, found, unrevoked, lt_of_le_of_lt last.timely unexpired⟩
    exact coherent_run calls before keeps issued member live principal stored

def Claims.asDict (claims : Claims) : Json := .obj [
  ("sub", .str claims.sub), ("tid", .str claims.tid), ("scp", .arr (claims.scp.map .str)),
  ("pty", .str claims.pty), ("jti", .str claims.jti), ("exp", .int claims.exp),
  ("iat", .int claims.iat)]

variable (known : List Claims)

/-- A library that signs claims with their text and decodes only the text of known claims. -/
def Jwt.plain : Jwt where
  encode claims := String.ofList claims.asDict.render
  decode bearerToken _ :=
    match known.find? fun claims => String.ofList claims.asDict.render = bearerToken with
    | none => .error (.responseError "invalid token")
    | some claims => .ok claims

theorem Claims.asDict_injective : Function.Injective fun claims : Claims =>
    String.ofList claims.asDict.render := by
  intro first second same
  have documents : first.asDict = second.asDict := by
    apply Json.write_injective Json.compact_lawful
    rw [← Json.render_eq_write, ← Json.render_eq_write]
    exact String.ofList_injective same
  obtain ⟨_, _, scp, _, _, _, _⟩ := first
  obtain ⟨_, _, other, _, _, _, _⟩ := second
  simp only [asDict, Json.obj.injEq, List.cons.injEq, Prod.mk.injEq, true_and, and_true,
    Json.str.injEq, Json.arr.injEq, Json.int.injEq] at documents
  obtain ⟨rfl, rfl, scopes, rfl, rfl, rfl, rfl⟩ := documents
  have strings : Function.Injective Json.str := fun _ _ equal => Json.str.inj equal
  rw [List.map_injective_iff.mpr strings scopes]

theorem Jwt.plain_lawful : (Jwt.plain known).Lawful where
  decode_encode claims now decoded read := by
    unfold plain at read
    dsimp only at read
    split at read
    · cases read
    · rename_i found
      obtain rfl := Except.ok.inj read
      have texts := List.find?_some found
      exact Claims.asDict_injective (of_decide_eq_true texts)
  decode_stable bearerToken now later decoded other read again := by
    exact Except.ok.inj (again.symm.trans read)

/-- The claims of the first token of an agent. -/
def firstClaims : Claims :=
  ⟨"agent-1", "tenant-a", ["read"], "user", "token-1", -62135593200, -62135596800⟩

/-- An agent is registered and gets a token. -/
def firstCalls : List TimedCall := [
  ⟨.first, .registerPrincipal "agent-1" "tenant-a" "user" ["read"] "none"⟩,
  ⟨.first, .issueToken "agent-1" 3600 "token-1"⟩]

/-- The agent moves to another tenant after it got its token. -/
def movedCalls : List TimedCall :=
  firstCalls ++ [⟨.first, .registerPrincipal "agent-1" "tenant-b" "user" ["write"] "none"⟩]

/-- A role without permissions. -/
def noRoles : String → List String := fun _ => []

/-- The signing library of an example knows the claims of its first token. -/
def firstJwt : Jwt := .plain [firstClaims]

def firstBearer : String := firstJwt.encode firstClaims

/-- The claims of the token that the first one is rotated to. -/
def secondClaims : Claims := { firstClaims with jti := "token-2" }

def rotatingJwt : Jwt := .plain [firstClaims, secondClaims]

/-- An agent gets a token and rotates it. -/
def rotatingCalls : List TimedCall := [
  ⟨.first, .registerPrincipal "agent-1" "tenant-a" "user" ["read"] "none"⟩,
  ⟨.first, .issueToken "agent-1" 3600 "token-1"⟩,
  ⟨.first, .rotateToken (rotatingJwt.encode firstClaims) 3600 "token-2"⟩]

/-- A call that presents the text of issued claims presents these claims. -/
theorem environment_issued (claims : Claims) (state : AuthRun)
    (call : AuthCall) (presents : call.bearer? = some ((Jwt.plain known).encode claims))
    (timely : state.history.now = 0)
    (issued : ⟨claims, ⟨⟨3600000000, by decide⟩⟩⟩ ∈ state.history.issued) :
    Environment (.plain known) state ⟨.first, call⟩ where
  timely := by
    rw [timely]
    exact Nat.zero_le _
  unforgeable bearerToken read presented decoded := by
    obtain rfl := Option.some.inj (presents.symm.trans presented)
    obtain rfl := (Jwt.plain_lawful known).decode_encode claims .first read decoded
    exact ⟨_, issued, rfl⟩

/-- Every step of the rotation keeps the identity of its agent and presents issued tokens. -/
theorem rotatingCalls_guarded :
    Guarded (followedAuth rotatingJwt id noRoles) (KeepsIdentity rotatingJwt id noRoles)
        AuthRun.initial rotatingCalls ∧
      Guarded (followedAuth rotatingJwt id noRoles) (Environment rotatingJwt) AuthRun.initial
        (rotatingCalls ++ [⟨.first, .authenticate (rotatingJwt.encode secondClaims)⟩]) := by
  refine ⟨⟨?_, ?_, ?_, trivial⟩, ⟨Nat.le_refl _, fun _ _ presented => by cases presented⟩,
    ⟨Nat.le_refl _, fun _ _ presented => by cases presented⟩,
    environment_issued _ firstClaims _ _ rfl rfl (by decide +kernel),
    environment_issued _ secondClaims _ _ rfl (by decide +kernel) (by decide +kernel), trivial⟩
  · intro issued listed
    cases listed
  · intro principal found
    obtain rfl := Option.some.inj (show some _ = some principal from found)
    unfold RegisteredWith
    decide +kernel
  · intro caller principal read found
    have known : authenticate rotatingJwt id
        (run (followedAuth rotatingJwt id noRoles) AuthRun.initial (rotatingCalls.take 2)).rows
        (rotatingJwt.encode firstClaims) .first =
          .ok ⟨"agent-1", "tenant-a", ["read"], "user", "token-1"⟩ := by
      decide +kernel
    obtain rfl := Except.ok.inj (known.symm.trans read)
    obtain rfl := Option.some.inj (show some _ = some principal from found)
    unfold RegisteredWith
    decide +kernel

/-- The rotated token authenticates its agent as it was registered. -/
theorem authRun_coherent_rotated :
    let state := run (followedAuth rotatingJwt id noRoles) AuthRun.initial rotatingCalls
    rotatingJwt.encode secondClaims ∉ state.history.rotated ∧
      (∀ issued ∈ state.history.issued,
        rotatingJwt.encode issued.claims = rotatingJwt.encode secondClaims →
          UtcTime.first.wall.micros < issued.expiresAt.wall.micros) ∧
      (⟨"agent-1", "tenant-a", "user", ["read"]⟩ : Registration) ∈ state.history.registrations := by
  obtain ⟨unrotated, unexpired, registered⟩ := authRun_coherent
    (Jwt.plain_lawful [firstClaims, secondClaims]) rotatingCalls .first
    (rotatingJwt.encode secondClaims) ⟨"agent-1", "tenant-a", ["read"], "user", "token-2"⟩
    rotatingCalls_guarded.2 (by decide +kernel)
  exact ⟨unrotated, unexpired, registered rotatingCalls_guarded.1⟩

/-- A token that was issued before its agent moved to another tenant authenticates with the scopes of
the old registration and the tenant of the new one. -/
theorem authRun_not_coherent :
    ¬ ∀ (calls : List TimedCall) (now : UtcTime) (bearerToken : String) (caller : AuthPrincipal),
      Guarded (followedAuth firstJwt id noRoles) (Environment firstJwt) AuthRun.initial
        (calls ++ [⟨now, .authenticate bearerToken⟩]) →
      authenticate firstJwt id
        (run (followedAuth firstJwt id noRoles) AuthRun.initial calls).rows bearerToken now =
          .ok caller →
      (⟨caller.principalId, caller.tenantId, caller.principalType, caller.scopes⟩ :
        Registration) ∈
          (run (followedAuth firstJwt id noRoles) AuthRun.initial calls).history.registrations := by
  intro coherent
  have registered := coherent movedCalls .first firstBearer
    ⟨"agent-1", "tenant-b", ["read"], "user", "token-1"⟩
    ⟨⟨by decide +kernel, fun _ _ presented => by cases presented⟩,
      ⟨by decide +kernel, fun _ _ presented => by cases presented⟩,
      ⟨by decide +kernel, fun _ _ presented => by cases presented⟩,
      environment_issued _ firstClaims _ _ rfl (by decide +kernel) (by decide +kernel), trivial⟩
    (by decide +kernel)
  exact absurd registered (by decide +kernel)

end AgentFabric.Server
