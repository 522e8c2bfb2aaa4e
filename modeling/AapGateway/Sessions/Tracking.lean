import AapGateway.Foundations.Retention
import AapGateway.Foundations.Table

/-!
# Session tracking

Saving a Django session runs `track_user_session`: the session of a logged-in user gets a
`UserSessionMembership` the first time it is seen, and the user's sessions over the limit are
then removed. The tables carry the constraints the database enforces, so every operation here
keeps them.

Times are seconds. `track_user_session` reads the clock twice, once for the `created` time of a new
membership and once for the instant at which sessions count as expired; both readings are inputs.

## Main definitions

* `SessionDb`: users, sessions, memberships and the limit preference;
* `SessionDb.getActiveMembershipsOverLimit`: the memberships to evict;
* `SessionDb.trackUserSession`: the signal handler;
* `SessionDb.run`: any sequence of saves, deletions and changes of the preference.
-/

namespace AapGateway.Sessions

/-- What a session's data holds under `SESSION_KEY`. -/
inductive Decoded where
  /-- `get_decoded` raises. -/
  | corrupted
  /-- No user, or an empty user id. -/
  | anonymous
  /-- A user id that `int` rejects. -/
  | notNumeric
  /-- A numeric user id. -/
  | user (pk : ℤ)
  deriving DecidableEq

/-- A row of `django_session`. -/
structure Session where
  /-- The primary key. -/
  sessionKey : String
  /-- The decoded session data. -/
  sessionData : Decoded
  /-- When the session expires. -/
  expireDate : ℤ
  deriving DecidableEq

/-- A row of `UserSessionMembership`. -/
structure UserSessionMembership where
  /-- The primary key. -/
  pk : ℕ
  /-- The user who owns the session. -/
  user : ℤ
  /-- The key of the session. -/
  session : String
  /-- When the session was first tracked. -/
  created : ℤ
  deriving DecidableEq

/-- The order of `-created, -pk` sorts by this key, greatest first. -/
def UserSessionMembership.age (m : UserSessionMembership) : ℤ ×ₗ ℕ := toLex (m.created, m.pk)

/-- A value of `MAX_EXTRA_SESSIONS_PER_USER`, which the preference bounds from below. -/
structure MaxExtraSessions where
  /-- The number of sessions beyond the first, or `-1` for no limit. -/
  value : ℤ
  /-- The preference's `min_value`. -/
  min_value : -1 ≤ value
  deriving DecidableEq

/-- The tables the handler reads and writes, with the constraints of the database. -/
structure SessionDb where
  /-- The primary keys of the users. -/
  users : List ℤ
  /-- `django_session`. -/
  sessions : List Session
  /-- The memberships, in the order of their insertion. -/
  memberships : List UserSessionMembership
  /-- The next value of the membership's sequence. -/
  nextPk : ℕ
  /-- The preference, or `none` when it is not registered. -/
  limit : Option MaxExtraSessions
  /-- `session_key` is the primary key. -/
  sessionKey_nodup : (sessions.map Session.sessionKey).Nodup
  /-- `session` is a one-to-one field. -/
  session_nodup : (memberships.map UserSessionMembership.session).Nodup
  /-- `session` is a foreign key. -/
  session_mem : ∀ m ∈ memberships, m.session ∈ sessions.map Session.sessionKey
  /-- `user` is a foreign key. -/
  user_mem : ∀ m ∈ memberships, m.user ∈ users
  /-- The sequence has given out every primary key in use. -/
  pk_lt : ∀ m ∈ memberships, m.pk < nextPk

namespace SessionDb

variable (db : SessionDb)

/-- The session of a key. -/
def session? (key : String) : Option Session := db.sessions.find? (·.sessionKey = key)

/-- A session of that key exists and expires after `now`. -/
def isActive (now : ℤ) (key : String) : Bool := (db.session? key).any (now < ·.expireDate)

/-- The memberships of a user whose session expires after `now`. -/
def active (user now : ℤ) : List UserSessionMembership :=
  db.memberships.filter fun m => m.user = user ∧ db.isActive now m.session

/-- The user's active memberships past the newest `limit + 1`. -/
def getActiveMembershipsOverLimit (user now : ℤ) : List UserSessionMembership :=
  match db.limit with
  -- `SettingNotSetException`
  | none => []
  | some limit =>
    if limit.value = -1 then []
    else Retention.overLimit UserSessionMembership.age (limit.value + 1).toNat (db.active user now)

/-- Writing a session by key. -/
def saveSession (s : Session) : SessionDb where
  users := db.users
  sessions := Table.upsert Session.sessionKey s db.sessions
  memberships := db.memberships
  nextPk := db.nextPk
  limit := db.limit
  sessionKey_nodup := Table.nodup_map_key_upsert db.sessionKey_nodup
  session_nodup := db.session_nodup
  session_mem m hm := Table.mem_map_key_upsert.mpr (Or.inr (db.session_mem m hm))
  user_mem := db.user_mem
  pk_lt := db.pk_lt

/-- Deleting a session by key, which cascades to its membership. -/
def deleteSession (key : String) : SessionDb where
  users := db.users
  sessions := Table.erase (·.sessionKey = key) db.sessions
  memberships := Table.erase (·.session = key) db.memberships
  nextPk := db.nextPk
  limit := db.limit
  sessionKey_nodup := db.sessionKey_nodup.sublist (List.filter_sublist.map _)
  session_nodup := db.session_nodup.sublist (List.filter_sublist.map _)
  session_mem m hm := by
    obtain ⟨hm, hkey⟩ := Table.mem_erase.mp hm
    obtain ⟨s, hs, hsm⟩ := List.mem_map.mp (db.session_mem m hm)
    exact List.mem_map.mpr ⟨s, Table.mem_erase.mpr ⟨hs, by rw [hsm]; exact hkey⟩, hsm⟩
  user_mem m hm := db.user_mem m (Table.mem_erase.mp hm).1
  pk_lt m hm := db.pk_lt m (Table.mem_erase.mp hm).1

/-- The row a new membership would be. -/
def newMembership (user : ℤ) (key : String) (created : ℤ) : UserSessionMembership :=
  { pk := db.nextPk, user := user, session := key, created := created }

/-- The constraints a new membership of a user and a session has to meet. -/
def CanTrack (user : ℤ) (key : String) : Prop :=
  user ∈ db.users ∧ key ∈ db.sessions.map Session.sessionKey ∧
    key ∉ db.memberships.map UserSessionMembership.session

instance (user : ℤ) (key : String) : Decidable (db.CanTrack user key) :=
  inferInstanceAs (Decidable (_ ∧ _ ∧ _))

/-- Inserting a membership that meets the constraints. -/
def createMembership (user : ℤ) (key : String) (created : ℤ) (h : db.CanTrack user key) :
    SessionDb where
  users := db.users
  sessions := db.sessions
  memberships := db.memberships ++ [db.newMembership user key created]
  nextPk := db.nextPk + 1
  limit := db.limit
  sessionKey_nodup := db.sessionKey_nodup
  session_nodup := by
    rw [List.map_append]
    refine db.session_nodup.append (List.nodup_singleton _) ?_
    intro k hk hnew
    obtain rfl := List.mem_singleton.mp hnew
    exact h.2.2 hk
  session_mem m hm := by
    rcases List.mem_append.mp hm with hm | hm
    · exact db.session_mem m hm
    · obtain rfl := List.mem_singleton.mp hm
      exact h.2.1
  user_mem m hm := by
    rcases List.mem_append.mp hm with hm | hm
    · exact db.user_mem m hm
    · obtain rfl := List.mem_singleton.mp hm
      exact h.1
  pk_lt m hm := by
    rcases List.mem_append.mp hm with hm | hm
    · exact Nat.lt_succ_of_lt (db.pk_lt m hm)
    · obtain rfl := List.mem_singleton.mp hm
      exact Nat.lt_succ_self _

/-- How `get_or_create` of a membership ends. -/
inductive GetOrCreate where
  /-- The membership was there. -/
  | got
  /-- The membership was inserted. -/
  | created (db : SessionDb)
  /-- The insert violates a constraint. -/
  | integrityError

/-- `UserSessionMembership.objects.get_or_create`. -/
def getOrCreate (user : ℤ) (key : String) (created : ℤ) : GetOrCreate :=
  if db.memberships.any fun m => m.user = user ∧ m.session = key then .got
  else if h : db.CanTrack user key then .created (db.createMembership user key created h)
  else .integrityError

/-- Deleting sessions one after the other. -/
def deleteSessions (keys : List String) : SessionDb := keys.foldl deleteSession db

/-- The handler of a session that was saved. -/
def trackUserSession (s : Session) (created now : ℤ) : SessionDb :=
  match s.sessionData with
  | .corrupted => db
  | .anonymous => db
  | .notNumeric => db
  | .user pk =>
    if pk ∈ db.users then
      match db.getOrCreate pk s.sessionKey created with
      | .got => db
      | .integrityError => db
      | .created db =>
        db.deleteSessions
          ((db.getActiveMembershipsOverLimit pk now).map UserSessionMembership.session)
    else db

/-- Changing the preference. -/
def setLimit (limit : Option MaxExtraSessions) : SessionDb := { db with limit := limit }

/-- Adding a user. -/
def createUser (pk : ℤ) : SessionDb :=
  { db with users := pk :: db.users, user_mem := fun m hm =>
      List.mem_cons_of_mem _ (db.user_mem m hm) }

/-- Deleting a user, which cascades to the memberships and leaves the sessions. -/
def deleteUser (pk : ℤ) : SessionDb where
  users := Table.erase (· = pk) db.users
  sessions := db.sessions
  memberships := Table.erase (·.user = pk) db.memberships
  nextPk := db.nextPk
  limit := db.limit
  sessionKey_nodup := db.sessionKey_nodup
  session_nodup := db.session_nodup.sublist (List.filter_sublist.map _)
  session_mem m hm := db.session_mem m (Table.mem_erase.mp hm).1
  user_mem m hm := by
    obtain ⟨hm, huser⟩ := Table.mem_erase.mp hm
    exact Table.mem_erase.mpr ⟨db.user_mem m hm, huser⟩
  pk_lt m hm := db.pk_lt m (Table.mem_erase.mp hm).1

end SessionDb

/-- What can happen to the tables. A session that expires stays in its table, so expiry is no event:
it is the clock reading of a later one. -/
inductive Event where
  /-- A session is saved, by a login or by any other request, and the handler runs. -/
  | save (s : Session) (created now : ℤ)
  /-- A session is deleted: a logout, or the clean-up of expired sessions. -/
  | delete (key : String)
  /-- The preference is changed. -/
  | setLimit (limit : Option MaxExtraSessions)
  /-- A user is added. -/
  | createUser (pk : ℤ)
  /-- A user is deleted. -/
  | deleteUser (pk : ℤ)

/-- The tables after an event. -/
def SessionDb.step (db : SessionDb) : Event → SessionDb
  | .save s created now => (db.saveSession s).trackUserSession s created now
  | .delete key => db.deleteSession key
  | .setLimit limit => db.setLimit limit
  | .createUser pk => db.createUser pk
  | .deleteUser pk => db.deleteUser pk

/-- The tables after a sequence of events. -/
def SessionDb.run (db : SessionDb) (events : List Event) : SessionDb :=
  events.foldl SessionDb.step db

/-- The `created` readings of the clock never go back, starting from an instant. -/
def Chronological : ℤ → List Event → Prop
  | _, [] => True
  | start, .save _ created _ :: events => start ≤ created ∧ Chronological created events
  | start, .delete _ :: events => Chronological start events
  | start, .setLimit _ :: events => Chronological start events
  | start, .createUser _ :: events => Chronological start events
  | start, .deleteUser _ :: events => Chronological start events

/-- The tables of a fresh installation. -/
def SessionDb.empty : SessionDb where
  users := []
  sessions := []
  memberships := []
  nextPk := 1
  limit := none
  sessionKey_nodup := List.nodup_nil
  session_nodup := List.nodup_nil
  session_mem := by simp
  user_mem := by simp
  pk_lt := by simp

end AapGateway.Sessions
