import VirtueStack.Shared.Json

/-!
# Bearer tokens (api/middleware/auth.go)

Access, 2FA and re-authentication tokens are JWTs over one claims type, signed with one secret.
A middleware or a validator has the token parsed, with its signature, issuer and times, and then
looks at the purpose claim.

* `JWTLibrary` the functions of the JWT library that are called, over the texts of tokens `τ`, of
  which `default` is the empty one, and `JWTLibrary.Lawful` what its documentation says of them;
* `JWTClaims` the claims; the outer `sub` hides that of the registered claims;
* `jwtAuth`, `optionalJWTAuth`, `jwtOrCustomerAPIKeyAuth` the middlewares, up to `c.Next()`.

Times are nanoseconds since the epoch.
-/

namespace VirtueStack.Auth
open List

structure AuthConfig where
  jwtSecret : String
  issuer : String
  deriving DecidableEq, Repr

/-- `jwt.RegisteredClaims` without the audience -/
structure RegisteredClaims where
  issuer : String
  subject : String
  expiresAt : Option Int
  notBefore : Option Int
  issuedAt : Option Int
  id : String
  deriving DecidableEq, Repr

structure JWTClaims extends RegisteredClaims where
  userID : String
  userType : String
  role : String
  purpose : String
  deriving DecidableEq, Repr

def tempTokenPurposeValue : String := "2fa"
def reauthTokenPurposeValue : String := "reauth"

def second : Int := 1000000000
def tempTokenDuration : Int := 5 * 60 * second
def reauthTokenDuration : Int := 15 * 60 * second

/-! ## the library -/

/-- the method of a header, as far as it is looked at -/
inductive SigningMethod where
  | hmac (alg : String)
  | other (alg : String)
  deriving DecidableEq

def signingMethodHS256 : SigningMethod := .hmac "HS256"

def SigningMethod.alg : SigningMethod → String
  | .hmac alg => alg
  | .other alg => alg

/-- `WithIssuer`, `WithExpirationRequired` and `WithValidMethods` -/
structure ParserOptions where
  issuer : String
  expirationRequired : Bool
  validMethods : List String

structure JWTLibrary (τ : Type) where
  newNumericDate : Int → Int
  signedString : SigningMethod → JWTClaims → String → Except GoError τ
  /-- at a time: the claims, and `token.Valid` -/
  parseWithClaims : τ → (SigningMethod → Except GoError String) → ParserOptions → Int →
    Except GoError (JWTClaims × Bool)

/-- the validator accepts the claims at this time; an empty issuer is not looked for -/
structure ParserOptions.Accepts (opts : ParserOptions) (now : Int) (c : JWTClaims) : Prop where
  exp : ∀ exp, c.expiresAt = some exp → now < exp
  required : opts.expirationRequired = true → c.expiresAt ≠ none
  nbf : ∀ nbf, c.notBefore = some nbf → nbf ≤ now
  iss : opts.issuer = "" ∨ c.issuer = opts.issuer

structure JWTLibrary.Lawful {τ : Type} [Inhabited τ] (jwt : JWTLibrary τ) : Prop where
  /-- `TimePrecision` is one second -/
  date (t : Int) : jwt.newNumericDate t = t / second * second
  /-- HMAC takes every key of bytes, and a token has three segments -/
  signs (c : JWTClaims) (secret : String) :
    ∃ token, jwt.signedString signingMethodHS256 c secret = .ok token ∧ token ≠ default
  /-- a signature verifies under the secret it was made with and under no other; the subject is lost
  in the document, where the outer member has its name -/
  parses {token : τ} {c : JWTClaims} {secret : String}
    (keyFunc : SigningMethod → Except GoError String)
    (opts : ParserOptions) (now : Int) (r : JWTClaims × Bool)
    (h : jwt.signedString signingMethodHS256 c secret = .ok token) :
    jwt.parseWithClaims token keyFunc opts now = .ok r ↔ r = ({ c with subject := "" }, true) ∧
      signingMethodHS256.alg ∈ opts.validMethods ∧ keyFunc signingMethodHS256 = .ok secret ∧
      opts.Accepts now c

section
variable {τ : Type} (jwt : JWTLibrary τ)

/-! ## issuing -/

def wrapError {α : Type} (context : String) : Except GoError α → Except GoError α
  | .ok a => .ok a
  | .error e => .error (.wrap context e)

def generateAccessToken (config : AuthConfig) (userID userType role : String) (duration now : Int)
    (uuid : String) : Except GoError τ :=
  wrapError "signing access token" (jwt.signedString signingMethodHS256
    { userID, userType, role, purpose := "", subject := userID, issuer := config.issuer,
      issuedAt := some (jwt.newNumericDate now), notBefore := some (jwt.newNumericDate now),
      expiresAt := some (jwt.newNumericDate (now + duration)), id := uuid }
    config.jwtSecret)

/-- a token of one purpose, without a role and without a first day -/
def generatePurposeToken (name purpose : String) (duration : Int) (config : AuthConfig)
    (userID userType : String) (now : Int) (uuid : String) : Except GoError τ :=
  wrapError ("signing " ++ name ++ " token") (jwt.signedString signingMethodHS256
    { userID, userType, role := "", purpose, subject := userID, issuer := config.issuer,
      issuedAt := some (jwt.newNumericDate now), notBefore := none,
      expiresAt := some (jwt.newNumericDate (now + duration)), id := uuid }
    config.jwtSecret)

def generateTempToken : AuthConfig → String → String → Int → String → Except GoError τ :=
  generatePurposeToken jwt "temp" tempTokenPurposeValue tempTokenDuration

def generateReauthToken : AuthConfig → String → String → Int → String → Except GoError τ :=
  generatePurposeToken jwt "reauth" reauthTokenPurposeValue reauthTokenDuration

/-! ## parsing -/

/-- the secret, for an HMAC method -/
def keyFunc (config : AuthConfig) : SigningMethod → Except GoError String
  | .hmac _ => .ok config.jwtSecret
  | .other alg => .error (.new ("unexpected signing method: " ++ alg))

def parserOptions (config : AuthConfig) : ParserOptions :=
  ⟨config.issuer, true, [signingMethodHS256.alg]⟩

def parseAndValidateJWT (config : AuthConfig) (now : Int) (tokenString : τ) :
    Except GoError JWTClaims := do
  let (claims, valid) ← wrapError "parsing jwt"
    (jwt.parseWithClaims tokenString (keyFunc config) (parserOptions config) now)
  if valid then .ok claims else .error (.new "token is not valid")

def validatePurpose (name purpose : String) (config : AuthConfig) (now : Int)
    (tokenString : τ) : Except GoError JWTClaims := do
  let claims ← wrapError ("parsing " ++ name ++ " token")
    (parseAndValidateJWT jwt config now tokenString)
  if claims.purpose ≠ purpose then .error (.new ("token is not a " ++ name ++ " token"))
  else .ok claims

def validateTempToken : AuthConfig → Int → τ → Except GoError JWTClaims :=
  validatePurpose jwt "temp" tempTokenPurposeValue

def validateReauthToken : AuthConfig → Int → τ → Except GoError JWTClaims :=
  validatePurpose jwt "reauth" reauthTokenPurposeValue

end

/-! ## the middlewares -/

structure Principal where
  userID : String
  userType : String
  role : String
  actorType : String
  apiKeyID : String
  permissions : List String
  vmIDs : List String
  deriving DecidableEq, Repr

structure CustomerAPIKeyInfo where
  keyID : String
  customerID : String
  permissions : List String
  allowedIPs : List String
  vmIDs : List String

structure Request (τ : Type) where
  /-- the access token cookie, if it can be read -/
  cookie : Option τ
  /-- the two parts of the Authorization header, if it has two -/
  authorization : Option (String × τ)
  apiKey : String
  /-- whether the source address is in a list -/
  checkAllowedIP : List String → Bool

inductive Outcome where
  | aborted (status : Nat) (code message : String)
  /-- the handler runs, with the principal of the context -/
  | next (principal : Option Principal)

def authContext (claims : JWTClaims) : Outcome :=
  .next (some
    { userID := claims.userID, userType := claims.userType, role := claims.role,
      actorType := claims.userType, apiKeyID := "", permissions := [], vmIDs := [] })

def customerAPIKeyContext (info : CustomerAPIKeyInfo) : Outcome :=
  .next (some
    { userID := info.customerID, userType := "customer", role := "",
      actorType := "customer_api_key", apiKeyID := info.keyID, permissions := info.permissions,
      vmIDs := info.vmIDs })

section
variable {τ : Type} [Inhabited τ] [DecidableEq τ]

def bearerToken : Option (String × τ) → τ
  | none => default
  | some (scheme, token) => if equalFold scheme "Bearer" then token else default

def getAccessTokenFromCookie (c : Request τ) : τ :=
  match c.cookie with
  | none => bearerToken c.authorization
  | some token => if token = default then bearerToken c.authorization else token

variable (jwt : JWTLibrary τ) (config : AuthConfig) (now : Int)

def jwtAuth (c : Request τ) : Outcome :=
  let tokenString := getAccessTokenFromCookie c
  if tokenString = default then .aborted 401 "MISSING_TOKEN" "authentication token is required"
  else match parseAndValidateJWT jwt config now tokenString with
    | .error _ => .aborted 401 "INVALID_TOKEN" "token is invalid or expired"
    | .ok claims =>
      if claims.purpose = tempTokenPurposeValue then
        .aborted 401 "INVALID_TOKEN" "temp tokens are not accepted here"
      else authContext claims

def optionalJWTAuth (c : Request τ) : Outcome :=
  let tokenString := getAccessTokenFromCookie c
  if tokenString = default then .next none
  else match parseAndValidateJWT jwt config now tokenString with
    | .error _ => .next none
    | .ok claims => if claims.purpose ≠ tempTokenPurposeValue then authContext claims
        else .next none

variable (keyValidator : String → Except GoError CustomerAPIKeyInfo) (c : Request τ)

def customerAPIKeyAuth :
    Outcome :=
  if c.apiKey = "" then
    .aborted 401 "MISSING_AUTH" "either authentication cookie or X-API-Key header is required"
  else match keyValidator c.apiKey with
    | .error _ => .aborted 401 "INVALID_API_KEY" "API key is invalid, revoked, or expired"
    | .ok info =>
      if info.allowedIPs ≠ [] ∧ c.checkAllowedIP info.allowedIPs = false then
        .aborted 403 "IP_NOT_ALLOWED" "source IP is not permitted for this API key"
      else customerAPIKeyContext info

/-- a token that is there and is refused does not fall through to the API key -/
def jwtOrCustomerAPIKeyAuth : Outcome :=
  let tokenString := getAccessTokenFromCookie c
  if tokenString = default then customerAPIKeyAuth keyValidator c
  else match parseAndValidateJWT jwt config now tokenString with
    | .error _ => .aborted 401 "INVALID_TOKEN" "token is invalid or expired"
    | .ok claims =>
      if claims.purpose ≠ tempTokenPurposeValue then authContext claims
      else .aborted 401 "INVALID_TOKEN" "token is invalid or expired"

end

/-! ## parsing an issued token -/

section
variable {τ : Type} [Inhabited τ] {jwt : JWTLibrary τ} {config : AuthConfig} {now : Int}
  {tokenString : τ} {claims : JWTClaims}

lemma parseAndValidateJWT_signed (hj : jwt.Lawful) {c : JWTClaims} {secret : String}
    (h : jwt.signedString signingMethodHS256 c secret = .ok tokenString) :
    parseAndValidateJWT jwt config now tokenString = .ok claims ↔
      claims = { c with subject := "" } ∧
      secret = config.jwtSecret ∧ (parserOptions config).Accepts now c := by
  have hparse := fun r => hj.parses (keyFunc config) (parserOptions config) now r h
  have hkey : keyFunc config signingMethodHS256 = .ok secret ↔ secret = config.jwtSecret :=
    (Except.ok.injEq _ _).to_iff.trans eq_comm
  unfold parseAndValidateJWT
  cases hp : jwt.parseWithClaims tokenString (keyFunc config) (parserOptions config) now with
  | error e =>
    refine iff_of_false nofun fun ⟨_, hs, hv⟩ => ?_
    cases hp.symm.trans ((hparse _).mpr ⟨rfl, mem_singleton_self _, hkey.mpr hs, hv⟩)
  | ok r =>
    obtain ⟨rfl, -, hs, hv⟩ := (hparse r).mp hp
    exact ⟨fun he => ⟨(Except.ok.inj he).symm, hkey.mp hs, hv⟩, fun he =>
      congrArg Except.ok he.1.symm⟩

omit [Inhabited τ] in
lemma validatePurpose_eq_ok {name purpose : String} :
    validatePurpose jwt name purpose config now tokenString = .ok claims ↔
      parseAndValidateJWT jwt config now tokenString = .ok claims ∧ claims.purpose = purpose := by
  unfold validatePurpose
  cases hp : parseAndValidateJWT jwt config now tokenString with
  | error e => simp [wrapError, bind, Except.bind]
  | ok d =>
    show (if d.purpose ≠ _ then _ else _) = _ ↔ _
    by_cases h : d.purpose = purpose
    · rw [if_neg (not_not.mpr h), Except.ok.injEq]
      exact ⟨fun he => ⟨he, he ▸ h⟩, And.left⟩
    · rw [if_pos h]
      refine ⟨fun he => (by cases he), fun he => ?_⟩
      cases he.1
      exact absurd he.2 h

end

/-! ## what a token is accepted as -/

section
variable {τ : Type} [Inhabited τ] [DecidableEq τ] (jwt : JWTLibrary τ)

/-- one of the middlewares lets the request through as `p` -/
def Authenticates (config : AuthConfig) (now : Int) (c : Request τ) (p : Principal) : Prop :=
  jwtAuth jwt config now c = .next (some p) ∨ optionalJWTAuth jwt config now c = .next (some p) ∨
    ∃ keyValidator, jwtOrCustomerAPIKeyAuth jwt config now keyValidator c = .next (some p)

variable {jwt} in
/-- the three middlewares let the same tokens through -/
lemma authenticates_iff {config : AuthConfig} {now : Int} {c : Request τ} {p : Principal}
    (hc : getAccessTokenFromCookie c ≠ default) : Authenticates jwt config now c p ↔
      ∃ claims, parseAndValidateJWT jwt config now (getAccessTokenFromCookie c) = .ok claims ∧
        claims.purpose ≠ tempTokenPurposeValue ∧ authContext claims = .next (some p) := by
  unfold Authenticates jwtAuth optionalJWTAuth jwtOrCustomerAPIKeyAuth
  simp only [if_neg hc]
  cases parseAndValidateJWT jwt config now (getAccessTokenFromCookie c) with
  | error e => simp
  | ok claims =>
    by_cases hp : claims.purpose = tempTokenPurposeValue
    · simp [hp]
    · simp [hp]

inductive Kind where
  | access
  | temp
  | reauth
  deriving DecidableEq, Repr

/-- a call of one of the three issuers; role and duration are read for an access token -/
structure Issue where
  kind : Kind
  config : AuthConfig
  userID : String
  userType : String
  role : String
  duration : Int
  now : Int
  uuid : String
  deriving DecidableEq, Repr

variable (i : Issue)

omit [Inhabited τ] [DecidableEq τ] in
def Issue.token : Except GoError τ :=
  match i.kind with
  | .access => generateAccessToken jwt i.config i.userID i.userType i.role i.duration i.now i.uuid
  | .temp => generateTempToken jwt i.config i.userID i.userType i.now i.uuid
  | .reauth => generateReauthToken jwt i.config i.userID i.userType i.now i.uuid

/-- the token is accepted, under this configuration and at this time, as what it was issued as and
for whom it was issued for, and as nothing else -/
structure Disjoint (i : Issue) (config : AuthConfig) (now : Int) (tokenString : τ) : Prop where
  access (c : Request τ) (p : Principal) : getAccessTokenFromCookie c = tokenString →
    Authenticates jwt config now c p →
      i.kind = .access ∧ p.userID = i.userID ∧ p.userType = i.userType
  temp (claims : JWTClaims) : validateTempToken jwt config now tokenString = .ok claims →
    i.kind = .temp ∧ claims.userID = i.userID ∧ claims.userType = i.userType
  reauth (claims : JWTClaims) : validateReauthToken jwt config now tokenString = .ok claims →
    i.kind = .reauth ∧ claims.userID = i.userID ∧ claims.userType = i.userType

/-- the acceptor would take a re-authentication token of this issue as genuine and in time -/
def Issue.Live (config : AuthConfig) (now : Int) : Prop :=
  i.config.jwtSecret = config.jwtSecret ∧ (config.issuer = "" ∨ i.config.issuer = config.issuer) ∧
    now < (i.now + reauthTokenDuration) / second * second

instance (i : Issue) (config : AuthConfig) (now : Int) : Decidable (i.Live config now) :=
  inferInstanceAs (Decidable (_ ∧ _ ∧ _))

def Kind.purpose : Kind → String
  | .access => ""
  | .temp => tempTokenPurposeValue
  | .reauth => reauthTokenPurposeValue

def Kind.lifetime (duration : Int) : Kind → Int
  | .access => duration
  | .temp => tempTokenDuration
  | .reauth => reauthTokenDuration

/-- the claims of the token, with dates of whole seconds -/
def Issue.claims : JWTClaims :=
  { userID := i.userID, userType := i.userType, subject := i.userID, issuer := i.config.issuer,
    role := if i.kind = .access then i.role else "",
    purpose := i.kind.purpose,
    issuedAt := some (i.now / second * second),
    notBefore := if i.kind = .access then some (i.now / second * second) else none,
    expiresAt := some ((i.now + i.kind.lifetime i.duration) / second * second),
    id := i.uuid }

variable {jwt}

omit [DecidableEq τ] in
lemma token_eq_ok (hj : jwt.Lawful) {tokenString : τ} : i.token jwt = .ok tokenString ↔
    jwt.signedString signingMethodHS256 i.claims i.config.jwtSecret = .ok tokenString := by
  have hsign : ∃ context, i.token jwt =
      wrapError context (jwt.signedString signingMethodHS256 i.claims i.config.jwtSecret) := by
    obtain ⟨kind, config, userID, userType, role, duration, now, uuid⟩ := i
    cases kind <;>
      simp only [Issue.token, generateAccessToken, generateTempToken, generateReauthToken,
        generatePurposeToken, hj.date] <;> exact ⟨_, rfl⟩
  obtain ⟨context, hsign⟩ := hsign
  rw [hsign]
  cases jwt.signedString signingMethodHS256 i.claims i.config.jwtSecret with
  | ok token => exact Iff.rfl
  | error e => exact iff_of_false nofun nofun

lemma purpose_eq_temp : i.claims.purpose = tempTokenPurposeValue ↔ i.kind = .temp := by
  obtain ⟨kind, config, userID, userType, role, duration, now, uuid⟩ := i
  cases kind <;> simp [Issue.claims, Kind.purpose, tempTokenPurposeValue, reauthTokenPurposeValue]

lemma purpose_eq_reauth : i.claims.purpose = reauthTokenPurposeValue ↔ i.kind = .reauth := by
  obtain ⟨kind, config, userID, userType, role, duration, now, uuid⟩ := i
  cases kind <;> simp [Issue.claims, Kind.purpose, tempTokenPurposeValue, reauthTokenPurposeValue]

/-- what the validator looks at in a token that was issued -/
lemma accepts_issued {config : AuthConfig} {now : Int} :
    (parserOptions config).Accepts now i.claims ↔
    now < (i.now + i.kind.lifetime i.duration) / second * second ∧
      (i.kind = .access → i.now / second * second ≤ now) ∧
      (config.issuer = "" ∨ i.config.issuer = config.issuer) := by
  constructor
  · intro h
    exact ⟨h.exp _ rfl, fun hk => h.nbf _ (if_pos hk), h.iss⟩
  · rintro ⟨hexp, hnbf, hiss⟩
    refine ⟨fun exp he => Option.some.inj he ▸ hexp, nofun, fun nbf hn => ?_, hiss⟩
    have hn' : (if i.kind = .access then some (i.now / second * second) else none) = some nbf := hn
    split at hn'
    · rename_i hk
      exact Option.some.inj hn' ▸ hnbf hk
    · cases hn'

lemma reauth_live_iff {i : Issue} {config : AuthConfig} {now : Int} (hk : i.kind = .reauth) :
    (i.config.jwtSecret = config.jwtSecret ∧ (parserOptions config).Accepts now i.claims) ↔
      i.Live config now := by
  rw [accepts_issued, hk]
  exact and_congr_right fun _ =>
    ⟨fun h => ⟨h.2.2, h.1⟩, fun h => ⟨h.2, fun h => Kind.noConfusion h, h.1⟩⟩

/-- **The kinds of tokens are disjoint, except that the middlewares take a live re-authentication
token as an access token.** -/
theorem kinds_disjoint_iff (hj : jwt.Lawful) (config : AuthConfig) (now : Int) (tokenString : τ)
    (hi : i.token jwt = .ok tokenString) :
    Disjoint jwt i config now tokenString ↔ ¬ (i.kind = .reauth ∧ i.Live config now) := by
  have hsigned := (token_eq_ok i hj).mp hi
  have hparse : ∀ claims, parseAndValidateJWT jwt config now tokenString = .ok claims ↔
    _ := fun claims =>
    parseAndValidateJWT_signed hj hsigned
  have hempty : tokenString ≠ default := by
    obtain ⟨token, htoken, hne⟩ := hj.signs i.claims i.config.jwtSecret
    exact Except.ok.inj (htoken.symm.trans hsigned) ▸ hne
  constructor
  · rintro h ⟨hk, hlive⟩
    -- the token goes into the cookie of a request
    have hcookie : getAccessTokenFromCookie ⟨some tokenString, none, "", fun _ => false⟩ =
      tokenString :=
      if_neg hempty
    have hread := (hparse { i.claims with subject := "" }).mpr ⟨rfl, (reauth_live_iff hk).mpr hlive⟩
    rw [← hcookie] at hread
    have hpurpose : i.claims.purpose ≠ tempTokenPurposeValue := by
      intro he
      rw [purpose_eq_temp, hk] at he
      cases he
    have hauth := (authenticates_iff (hcookie.symm ▸ hempty)).mpr ⟨_, hread, hpurpose, rfl⟩
    have haccess := (h.access _ _ hcookie hauth).1
    rw [hk] at haccess
    cases haccess
  · intro h
    refine ⟨fun c p hc hp => ?_, fun claims hclaims => ?_, fun claims hclaims => ?_⟩
    · rw [authenticates_iff (hc.symm ▸ hempty), hc] at hp
      obtain ⟨claims, hclaims, hpurpose, hctx⟩ := hp
      obtain ⟨rfl, hvalid⟩ := (hparse claims).mp hclaims
      cases hctx
      refine ⟨?_, rfl, rfl⟩
      -- neither of the other kinds gets here
      cases hk : i.kind with
      | access => rfl
      | temp => exact absurd ((purpose_eq_temp i).mpr hk) hpurpose
      | reauth => exact absurd ⟨hk, (reauth_live_iff hk).mp hvalid⟩ h
    · obtain ⟨hclaims, hpurpose⟩ := validatePurpose_eq_ok.mp hclaims
      obtain ⟨rfl, -⟩ := (hparse claims).mp hclaims
      exact ⟨(purpose_eq_temp i).mp hpurpose, rfl, rfl⟩
    · obtain ⟨hclaims, hpurpose⟩ := validatePurpose_eq_ok.mp hclaims
      obtain ⟨rfl, -⟩ := (hparse claims).mp hclaims
      exact ⟨(purpose_eq_reauth i).mp hpurpose, rfl, rfl⟩

end

/-! ## a library -/

/-- the claims and the secret in the place of a text -/
abbrev Sealed : Type := Option (JWTClaims × String)

instance (opts : ParserOptions) (now : Int) (c : JWTClaims) : Decidable (opts.Accepts now c) :=
  decidable_of_iff ((∀ exp ∈ c.expiresAt, now < exp) ∧
    (opts.expirationRequired = true → c.expiresAt ≠ none) ∧
      (∀ nbf ∈ c.notBefore, nbf ≤ now) ∧ (opts.issuer = "" ∨ c.issuer = opts.issuer))
    ⟨fun h => ⟨h.1, h.2.1, h.2.2.1, h.2.2.2⟩, fun h => ⟨h.exp, h.required, h.nbf, h.iss⟩⟩

def sealing : JWTLibrary Sealed where
  newNumericDate t := t / second * second
  signedString _ c secret := .ok (some (c, secret))
  parseWithClaims token keyFunc opts now :=
    match token with
    | none => .error (.new "token is malformed: token contains an invalid number of segments")
    | some (c, secret) =>
      if signingMethodHS256.alg ∉ opts.validMethods then
        .error (.new "token signature is invalid: signing method HS256 is invalid")
      else do
        let key ← keyFunc signingMethodHS256
        if key ≠ secret then .error (.new "token signature is invalid: signature is invalid")
        else if opts.Accepts now c then .ok ({ c with subject := "" }, true)
        else .error (.new "token has invalid claims")

lemma sealing_lawful : sealing.Lawful where
  date _ := rfl
  signs c secret := ⟨_, rfl, nofun⟩
  parses := by
    rintro _ c secret keyFunc opts now r ⟨⟩
    show (if _ then _ else _) = _ ↔ _
    by_cases hm : signingMethodHS256.alg ∈ opts.validMethods
    · rw [if_neg (not_not.mpr hm)]
      cases keyFunc signingMethodHS256 with
      | error e => exact iff_of_false nofun fun h => nomatch h.2.2.1
      | ok key =>
        rw [ok_bind]
        by_cases hk : key = secret
        · by_cases hv : opts.Accepts now c
          · simp [hk, hv, hm, eq_comm]
          · simp [hk, hv]
        · simp [hk]
    · simp [hm]

def someConfig : AuthConfig := ⟨"a secret of the controller", "virtuestack"⟩

/-- an administrator's token for a destructive operation -/
def someReauth : Issue := ⟨.reauth, someConfig, "admin-1", "admin", "", 0, 0, "token-1"⟩

def someTemp : Issue := { someReauth with kind := .temp }

/-- a 2FA ticket is accepted as a 2FA ticket only -/
theorem someTemp_disjoint : ∃ tokenString, someTemp.token sealing = .ok tokenString ∧
    Disjoint sealing someTemp someConfig second tokenString :=
  ⟨_, rfl, (kinds_disjoint_iff someTemp sealing_lawful someConfig second _ rfl).mpr (by decide)⟩

/-- **A re-authentication token opens every route that asks for an access token.** One second
after it was issued `jwtAuth` runs the handler as the administrator. -/
theorem reauth_opens_routes : ∃ tokenString, someReauth.token sealing = .ok tokenString ∧
    ¬ Disjoint sealing someReauth someConfig second tokenString := by
  refine ⟨_, rfl, fun h => ?_⟩
  let c : Request Sealed :=
    ⟨none, some ("Bearer", some (someReauth.claims, someConfig.jwtSecret)), "", fun _ => false⟩
  have hne : getAccessTokenFromCookie c ≠ default := Option.some_ne_none _
  have hparse : parseAndValidateJWT sealing someConfig second (getAccessTokenFromCookie c) =
      .ok { someReauth.claims with subject := "" } :=
    (parseAndValidateJWT_signed sealing_lawful rfl).mpr
      ⟨rfl, (reauth_live_iff rfl).mpr (by decide : someReauth.Live someConfig second)⟩
  have hauth := h.access c ⟨"admin-1", "admin", "", "admin", "", [], []⟩ rfl
    ((authenticates_iff hne).mpr ⟨_, hparse, by decide, rfl⟩)
  exact absurd hauth.1 (by decide)

end VirtueStack.Auth
