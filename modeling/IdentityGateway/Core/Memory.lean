import IdentityGateway.Core.Basic
import IdentityGateway.Password
import IdentityGateway.Table

/-!
# A core in memory

A core for development that keeps users and tokens in tables. Every operation is made of
sections that each see the tables at one time: a look-up and a refresh are one section, a
registration hashes before its section, and a login checks the password between two.
-/

namespace IdentityGateway.Memory

/-- What a token is good for: access and session tokens identify a user, refresh and session tokens
are exchanged for new ones. -/
inductive TokenKind where
  | access
  | refresh
  | session
  deriving DecidableEq, Repr

/-- What is remembered of a token that was handed out, under its text. -/
structure IssuedToken where
  userId : UserId
  kind : TokenKind
  expiresAt : Timestamp
  /-- The access token handed out with a refresh token. -/
  pairedAccess : Option String
  deriving DecidableEq, Repr

/-- A token is good strictly before its end. -/
def IssuedToken.isLive (t : IssuedToken) (now : Timestamp) : Bool :=
  now.before t.expiresAt

/-- Users by id, ids by email address, and tokens. -/
structure Store where
  users : Table UserId Identity
  byEmail : Table String UserId
  tokens : Table String IssuedToken
  deriving DecidableEq, Repr

/-- The store before any user. -/
def Store.empty : Store := ⟨.empty, .empty, .empty⟩

/-- What is issued, for how long, and how passwords are stored. -/
structure Policy where
  mode : GrantMode
  /-- The lifetime of access tokens in seconds, as it was asked for. -/
  requestedLifetime : Nat
  scheme : Password.Scheme

/-- The longest lifetime of an access token, which is ten years. -/
def longestLifetime : Nat := 10 * 365 * 24 * 60 * 60

/-- The lifetime of a refresh token, which is thirty days. -/
def refreshLifetime : Nat := 30 * 24 * 60 * 60

/-- The lifetime of access tokens in seconds. -/
def Policy.accessLifetime (policy : Policy) : Nat :=
  min policy.requestedLifetime longestLifetime

/-- The kind of token that a refresh takes. -/
def Policy.refreshKind (policy : Policy) : TokenKind :=
  match policy.mode with
  | .session => .session
  | .tokenPair => .refresh

/-- Email addresses are the same if they differ in margins and ASCII case only. -/
def normalizeEmail (email : String) : String :=
  Text.lowerAscii (Text.trim email)

/-! ## Sections -/

/-- The entries that a grant adds to the table of tokens: one session token, or an access token and
the refresh token that remembers it. -/
def newTokens (policy : Policy) (moment : Moment) (user : Identity) :
    List (String × IssuedToken) :=
  match policy.mode with
  | .session => [
    (moment.firstToken,
      ⟨user.id, .session, moment.issuedAt.addSeconds Grant.sessionLifetime, none⟩)]
  | .tokenPair => [
    (moment.firstToken,
      ⟨user.id, .access, moment.issuedAt.addSeconds policy.accessLifetime, none⟩),
    (moment.secondToken,
      ⟨user.id, .refresh, moment.issuedAt.addSeconds refreshLifetime,
        some moment.firstToken⟩)]

/-- What the client is handed, with the same tokens as are entered in the table. -/
def newGrant (policy : Policy) (moment : Moment) (user : Identity) : Grant :=
  match policy.mode with
  | .session =>
    .session ⟨moment.firstToken, some (moment.issuedAt.addSeconds Grant.sessionLifetime)⟩ user
  | .tokenPair => .tokenPair {
      accessToken := moment.firstToken
      refreshToken := some moment.secondToken
      expiresIn := some policy.accessLifetime
      tokenType := some "Bearer"
      user }

/-- Hands out a grant; tokens that are no longer good are dropped before. -/
def issue (policy : Policy) (moment : Moment) (user : Identity) (store : Store) :
    Grant × Store :=
  let live := store.tokens.keep fun t => t.isLive moment.issuedAt
  (newGrant policy moment user,
    { store with tokens := live.insertAll (newTokens policy moment user) })

/-- The user of a token that is good for look-ups. -/
def Store.identityOf (store : Store) (now : Timestamp) (token : String) : Option Identity := do
  let issued ← store.tokens.get? token
  if issued.kind ≠ .refresh ∧ issued.isLive now then store.users.get? issued.userId else none

/-- The user with an email address. -/
def Store.userOf (store : Store) (email : String) : Option Identity := do
  let id ← store.byEmail.get? (normalizeEmail email)
  store.users.get? id

/-- Whether a login has the right password. No password fits a user who has none stored. -/
def passwordFits (policy : Policy) (user : Identity) (password : String) : Bool :=
  user.passwordHash.any fun stored => policy.scheme.verify stored password

/-- The text that is kept of a new password. Without a salt, or where the digest cannot be made, the
registration fails for reasons of the core's own. -/
def storedPassword (policy : Policy) (moment : Moment) (password : String) :
    Except CoreFailure String :=
  match moment.saltFault with
  | some detail => .error (.internal detail)
  | none => match policy.scheme.store moment.salt password with
    | .error detail => .error (.internal detail)
    | .ok stored => .ok stored

/-- The user that a registration creates. -/
def newUser (moment : Moment) (account : NewAccount) (stored : String) : Identity where
  id := .text moment.userId
  email := normalizeEmail account.email
  name := account.name
  emailVerified := false
  createdAt := moment.now
  updatedAt := moment.now
  passwordHash := some stored

/-- The store once a user is known by id and by email address. -/
def Store.enter (store : Store) (user : Identity) : Store :=
  { store with
    byEmail := store.byEmail.insert user.email user.id
    users := store.users.insert user.id user }

/-- Enters a new user, unless the email address is taken, and hands out a grant. -/
def enroll (policy : Policy) (moment : Moment) (user : Identity) (store : Store) :
    GrantResult × Store :=
  if store.byEmail.contains user.email then (.error .emailTaken, store)
  else
    let (grant, store) := issue policy moment user (store.enter user)
    (.ok grant, store)

/-- The token that a refresh may take. -/
def Store.refreshable (store : Store) (policy : Policy) (now : Timestamp)
    (token : String) : Option IssuedToken :=
  (store.tokens.get? token).filter fun t => t.kind = policy.refreshKind && t.isLive now

/-- The store without a token that is taken and the one handed out with it. -/
def Store.spend (store : Store) (token : String) (issued : IssuedToken) : Store :=
  let tokens := store.tokens.erase token
  match issued.pairedAccess with
  | none => { store with tokens }
  | some access => { store with tokens := tokens.erase access }

/-- Takes a token and hands out a new grant for its user. -/
def exchange (policy : Policy) (moment : Moment) (token : String) (store : Store) :
    GrantResult × Store :=
  match store.refreshable policy moment.now token with
  | none => (.error .invalidCredentials, store)
  | some issued =>
    let store := store.spend token issued
    match store.users.get? issued.userId with
    | none => (.error .invalidCredentials, store)
    | some user =>
      let (grant, store) := issue policy moment user store
      (.ok grant, store)

/-! ## Operations -/

/-- Logs a user in: the password is checked on the user as they were found. -/
def login (policy : Policy) (moment : Moment) (email password : String) (store : Store) :
    GrantResult × Store :=
  match (store.userOf email).filter fun u => passwordFits policy u password with
  | none => (.error .invalidCredentials, store)
  | some user =>
    let (grant, store) := issue policy moment user store
    (.ok grant, store)

/-- Creates an account. The password is digested first, before it is known whether the address is
free. -/
def register (policy : Policy) (moment : Moment) (account : NewAccount) (store : Store) :
    GrantResult × Store :=
  match storedPassword policy moment account.password with
  | .error failure => (.error failure, store)
  | .ok stored => enroll policy moment (newUser moment account stored) store

/-- Answers a request for a grant. -/
def grant (policy : Policy) (moment : Moment) (request : GrantRequest) (store : Store) :
    GrantResult × Store :=
  match request with
  | .login email password => login policy moment email password store
  | .register account => register policy moment account store
  | .refresh token => exchange policy moment token store

/-- The core with a policy, which answers at once. -/
def core (policy : Policy) : Core Store where
  name := "memory"
  lookup moment token store := (⟨.ok (store.identityOf moment.now token), 0⟩, store)
  grant moment request store :=
    let (result, store) := Memory.grant policy moment request store
    (⟨result, 0⟩, store)

end IdentityGateway.Memory
