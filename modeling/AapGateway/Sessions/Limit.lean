import AapGateway.Sessions.Tracking

/-!
# The session limit in sequential runs

After a run of any events, a newly tracked session of a user leaves at most `limit + 1` of that
user's sessions unexpired, and they are the most recently created ones. The new session is the
newest of them, since memberships are created in the order of the clock, so it is kept unless it
has itself expired when the handler counts: an expired session is never counted, kept or evicted.

## Main results

* `limitEnforced_of_newlyTracked`: the limit holds after every newly tracked session of a run, and
  `-1` removes nothing;
* `not_newSessionActive_expired`: a session saved after its expiry is not among the active ones.
-/

namespace AapGateway.Sessions

namespace SessionDb

/-- The clock has reached the creation of every membership. -/
def CreatedBy (db : SessionDb) (t : ℤ) : Prop := ∀ m ∈ db.memberships, m.created ≤ t

/-- The session was saved for a user that exists, and no membership holds it yet. -/
def NewlyTracked (db : SessionDb) (s : Session) (user : ℤ) : Prop :=
  s.sessionData = .user user ∧ user ∈ db.users ∧
    s.sessionKey ∉ db.memberships.map UserSessionMembership.session

/-- What the limit promises of the tables before and after a save of the session `key`: few
sessions, the newest ones, and nothing of the other users touched. -/
structure LimitEnforced (before after : SessionDb) (key : String) (user limit now : ℤ) : Prop where
  /-- At most `limit` others beside the new session are unexpired. -/
  count_le : ((after.active user now).length : ℤ) ≤ limit + 1
  /-- No unexpired session was removed that is newer than one that stayed. -/
  newest : ∀ kept ∈ after.active user now, ∀ gone ∈ before.memberships,
    gone ∉ after.memberships → gone.created ≤ kept.created
  /-- The other users have the memberships they had. -/
  others : ∀ m, m.user ≠ user → (m ∈ after.memberships ↔ m ∈ before.memberships)
  /-- Every other session that is not tracked for the user is the row it was. -/
  untouched : ∀ k, k ≠ key → (∀ m ∈ before.memberships, m.user = user → m.session ≠ k) →
    after.session? k = before.session? k

/-- The new session is among the user's unexpired sessions. -/
def NewSessionActive (after : SessionDb) (key : String) (user now : ℤ) : Prop :=
  ∃ m ∈ after.active user now, m.session = key

/-- No session and no membership is removed. -/
def NothingRemoved (before after : SessionDb) : Prop :=
  (∀ m ∈ before.memberships, m ∈ after.memberships) ∧
    ∀ k, (before.session? k).isSome → (after.session? k).isSome

variable {db : SessionDb} {s : Session} {user now created : ℤ} {m : UserSessionMembership}

/-- The active memberships are those of the user with an unexpired session. -/
theorem mem_active :
    m ∈ db.active user now ↔ m ∈ db.memberships ∧ m.user = user ∧ db.isActive now m.session := by
  simp [active]

/-- Two memberships of one session are one membership. -/
theorem eq_of_session_eq {m' : UserSessionMembership} (hm : m ∈ db.memberships)
    (hm' : m' ∈ db.memberships) (h : m.session = m'.session) : m = m' :=
  List.inj_on_of_nodup_map db.session_nodup hm hm' h

/-- A table of memberships has no row twice. -/
theorem memberships_nodup (db : SessionDb) : db.memberships.Nodup := db.session_nodup.of_map _

/-- The active memberships are distinct. -/
theorem active_nodup (db : SessionDb) (user now : ℤ) : (db.active user now).Nodup :=
  db.memberships_nodup.filter _

/-! ## Deleting the sessions over the limit -/

/-- The memberships after the deletion of some sessions. -/
theorem memberships_deleteSessions (db : SessionDb) (keys : List String) :
    (db.deleteSessions keys).memberships = db.memberships.filter fun m => m.session ∉ keys := by
  unfold deleteSessions
  induction keys generalizing db with
  | nil => simp
  | cons key keys ih =>
      rw [List.foldl_cons, ih]
      show (Table.erase _ db.memberships).filter _ = _
      rw [Table.erase, List.filter_filter]
      refine List.filter_congr fun m _ => ?_
      simp [Bool.and_comm]

/-- The sessions that are not deleted are the rows they were. -/
theorem session?_deleteSessions (db : SessionDb) {keys : List String} {key : String}
    (h : key ∉ keys) : (db.deleteSessions keys).session? key = db.session? key := by
  unfold deleteSessions
  induction keys generalizing db with
  | nil => rfl
  | cons k keys ih =>
      rw [List.mem_cons, not_or] at h
      rw [List.foldl_cons, ih _ h.2]
      refine Table.find?_erase db.sessions fun b hb => ?_
      have hbk : b.sessionKey = key := of_decide_eq_true hb
      simpa [hbk] using h.1

section Evict

variable (db user now) in
/-- The tables once the user's memberships past the newest `allowed` are evicted. -/
def evict (allowed : ℕ) : SessionDb :=
  db.deleteSessions ((Retention.overLimit UserSessionMembership.age allowed
    (db.active user now)).map UserSessionMembership.session)

variable {allowed : ℕ}

/-- The sessions evicted are those of the memberships over the limit. -/
theorem session_mem_over_iff (hm : m ∈ db.memberships) :
    m.session ∈ (Retention.overLimit UserSessionMembership.age allowed
      (db.active user now)).map UserSessionMembership.session ↔
      m ∈ Retention.overLimit UserSessionMembership.age allowed (db.active user now) := by
  constructor
  · intro h
    obtain ⟨m', hm', hsession⟩ := List.mem_map.mp h
    have hmem : m' ∈ db.memberships := (mem_active.mp (Retention.mem_of_mem_overLimit hm')).1
    rwa [← eq_of_session_eq hmem hm hsession]
  · exact fun h => List.mem_map_of_mem h

/-- The memberships that stay are those not over the limit. -/
theorem mem_memberships_evict :
    m ∈ (db.evict user now allowed).memberships ↔ m ∈ db.memberships ∧
      m ∉ Retention.overLimit UserSessionMembership.age allowed (db.active user now) := by
  rw [evict, memberships_deleteSessions, List.mem_filter, decide_eq_true_eq]
  exact and_congr_right fun hm => not_congr (session_mem_over_iff hm)

/-- A session whose membership stays is the row it was. -/
theorem session?_evict (hm : m ∈ (db.evict user now allowed).memberships) :
    (db.evict user now allowed).session? m.session = db.session? m.session := by
  obtain ⟨hmem, hover⟩ := mem_memberships_evict.mp hm
  exact session?_deleteSessions db ((session_mem_over_iff hmem).not.mpr hover)

/-- The memberships that stay active are the newest of the active ones. -/
theorem mem_active_evict :
    m ∈ (db.evict user now allowed).active user now ↔
      m ∈ Retention.retained UserSessionMembership.age allowed (db.active user now) := by
  rw [Retention.mem_retained, mem_active, mem_active]
  constructor
  · rintro ⟨hm, huser, hactive⟩
    rw [isActive, session?_evict hm] at hactive
    obtain ⟨hmem, hover⟩ := mem_memberships_evict.mp hm
    exact ⟨⟨hmem, huser, hactive⟩, hover⟩
  · rintro ⟨⟨hmem, huser, hactive⟩, hover⟩
    have hm : m ∈ (db.evict user now allowed).memberships := mem_memberships_evict.mpr ⟨hmem, hover⟩
    refine ⟨hm, huser, ?_⟩
    rw [isActive, session?_evict hm]
    exact hactive

/-- As many memberships stay active as were, up to the allowed number. -/
theorem length_active_evict :
    ((db.evict user now allowed).active user now).length =
      min allowed (db.active user now).length := by
  have hnodup := db.active_nodup user now
  have hperm : ((db.evict user now allowed).active user now).Perm
      (Retention.retained UserSessionMembership.age allowed (db.active user now)) :=
    (List.perm_ext_iff_of_nodup (active_nodup _ user now) (hnodup.filter _)).mpr
      fun _ => mem_active_evict
  rw [hperm.length_eq, Retention.length_retained hnodup]

end Evict

/-! ## Creation times along a run -/

/-- The handler adds no membership but one created at its reading of the clock. -/
theorem mem_memberships_trackUserSession
    (hm : m ∈ (db.trackUserSession s created now).memberships) :
    m ∈ db.memberships ∨ m.created = created := by
  unfold trackUserSession at hm
  split at hm
  case h_4 pk _ =>
    split at hm
    · rename_i huser
      unfold getOrCreate at hm
      split at hm
      · exact Or.inl hm
      · exact Or.inl hm
      · rename_i db' hcreated
        rw [memberships_deleteSessions] at hm
        have hm' : m ∈ db'.memberships := (List.mem_filter.mp hm).1
        -- the row was inserted by this call
        split at hcreated
        · cases hcreated
        · split at hcreated
          · injection hcreated with hdb
            rw [← hdb] at hm'
            rcases List.mem_append.mp hm' with hold | hnew
            · exact Or.inl hold
            · rw [List.mem_singleton.mp hnew]
              exact Or.inr rfl
          · cases hcreated
    · exact Or.inl hm
  all_goals exact Or.inl hm

/-- A save leaves no membership younger than its reading of the clock. -/
theorem CreatedBy.save {start : ℤ} (h : db.CreatedBy start) (hstart : start ≤ created) :
    (db.step (.save s created now)).CreatedBy created := by
  intro m hm
  rcases mem_memberships_trackUserSession hm with hold | hnew
  · exact (h m hold).trans hstart
  · exact hnew.le

/-- The clock of a run has reached the creation of every membership. -/
theorem createdBy_run {start : ℤ} {events : List Event} (h : db.CreatedBy start)
    (hchron : Chronological start (events ++ [.save s created now])) :
    (db.run events).CreatedBy created := by
  induction events generalizing db start with
  | nil =>
      intro m hm
      exact (h m hm).trans hchron.1
  | cons event events ih =>
      cases event with
      | save s' created' now' => exact ih (h.save hchron.1) hchron.2
      | delete key => exact ih (fun m hm => h m (Table.mem_erase.mp hm).1) hchron
      | setLimit limit => exact ih h hchron
      | createUser pk => exact ih h hchron
      | deleteUser pk => exact ih (fun m hm => h m (Table.mem_erase.mp hm).1) hchron

/-! ## A newly tracked session -/

/-- A session just saved for an existing user can be tracked unless it is. -/
theorem NewlyTracked.canTrack (h : db.NewlyTracked s user) :
    (db.saveSession s).CanTrack user s.sessionKey :=
  ⟨h.2.1, Table.mem_map_key_upsert.mpr (Or.inl rfl), h.2.2⟩

/-- The tables when the handler counts the sessions of the user: the new one is inserted. -/
def tracked (db : SessionDb) (s : Session) (user created : ℤ) (h : db.NewlyTracked s user) :
    SessionDb :=
  (db.saveSession s).createMembership user s.sessionKey created h.canTrack

/-- The handler inserts the membership and deletes what is over the limit. -/
theorem step_save_of_newlyTracked (h : db.NewlyTracked s user) :
    db.step (.save s created now) = (db.tracked s user created h).deleteSessions
      (((db.tracked s user created h).getActiveMembershipsOverLimit user now).map
        UserSessionMembership.session) := by
  have hany : ((db.saveSession s).memberships.any
      fun m => m.user = user ∧ m.session = s.sessionKey) = false := by
    rw [List.any_eq_false]
    intro m hm
    simp only [decide_eq_true_eq, not_and]
    exact fun _ hsession => h.2.2 (hsession ▸ List.mem_map_of_mem hm)
  have hcreate : (db.saveSession s).getOrCreate user s.sessionKey created =
      .created (db.tracked s user created h) := by
    simp only [getOrCreate, hany, Bool.false_eq_true, if_false]
    rw [dif_pos h.canTrack]
    rfl
  have huser : user ∈ (db.saveSession s).users := h.2.1
  simp only [step, trackUserSession, h.1, if_pos huser, hcreate]

/-- The memberships counted are those that were there and the new one. -/
theorem mem_memberships_tracked (h : db.NewlyTracked s user) :
    m ∈ (db.tracked s user created h).memberships ↔
      m ∈ db.memberships ∨ m = db.newMembership user s.sessionKey created := by
  show m ∈ db.memberships ++ [_] ↔ _
  rw [List.mem_append, List.mem_singleton]
  rfl

/-- The sessions counted are those that were there and the one saved. -/
theorem session?_tracked (h : db.NewlyTracked s user) (key : String) :
    (db.tracked s user created h).session? key =
      if key = s.sessionKey then some s else db.session? key :=
  Table.find?_upsert Session.sessionKey s db.sessions key

/-- Under a limit, a newly tracked session leaves the newest `limit + 1` active. -/
theorem step_save_eq_evict (h : db.NewlyTracked s user) {limit : MaxExtraSessions}
    (hlimit : db.limit = some limit) (hnonneg : 0 ≤ limit.value) :
    db.step (.save s created now) =
      (db.tracked s user created h).evict user now (limit.value + 1).toNat := by
  have hne : limit.value ≠ -1 := by omega
  have htracked : (db.tracked s user created h).limit = some limit := hlimit
  rw [step_save_of_newlyTracked h, getActiveMembershipsOverLimit, htracked]
  simp only [if_neg hne]
  rfl

/-- The limit holds after a newly tracked session. -/
theorem limitEnforced_step (h : db.NewlyTracked s user) {limit : MaxExtraSessions}
    (hlimit : db.limit = some limit) (hnonneg : 0 ≤ limit.value) :
    LimitEnforced db (db.step (.save s created now)) s.sessionKey user limit.value now := by
  rw [step_save_eq_evict h hlimit hnonneg]
  constructor
  case count_le =>
    rw [length_active_evict]
    omega
  case newest =>
    intro kept hkept gone hgone hremoved
    have hmem : gone ∈ (db.tracked s user created h).memberships :=
      (mem_memberships_tracked h).mpr (Or.inl hgone)
    -- a membership that is gone was over the limit
    have hover := not_not.mp fun hnot => hremoved (mem_memberships_evict.mpr ⟨hmem, hnot⟩)
    have hage := Retention.key_le_of_retained (active_nodup _ user now)
      (mem_active_evict.mp hkept) hover
    exact (Prod.Lex.le_iff.mp hage).elim le_of_lt fun heq => heq.1.le
  case others =>
    intro m hm
    rw [mem_memberships_evict, mem_memberships_tracked]
    constructor
    · rintro ⟨hold | rfl, -⟩
      · exact hold
      · exact absurd rfl hm
    · intro hold
      exact ⟨Or.inl hold,
        fun hover => hm (mem_active.mp (Retention.mem_of_mem_overLimit hover)).2.1⟩
  case untouched =>
    intro k hk hkeys
    rw [evict, session?_deleteSessions, session?_tracked, if_neg hk]
    intro hmem
    obtain ⟨m, hm, rfl⟩ := List.mem_map.mp hmem
    obtain ⟨hmember, huser, -⟩ := mem_active.mp (Retention.mem_of_mem_overLimit hm)
    rcases (mem_memberships_tracked h).mp hmember with hold | rfl
    · exact hkeys m hold huser rfl
    · exact hk rfl

/-- The new membership is the newest, once the clock has reached the others. -/
theorem age_lt_newMembership (hcreated : db.CreatedBy created) (hm : m ∈ db.memberships) :
    m.age < (db.newMembership user s.sessionKey created).age := by
  rw [UserSessionMembership.age, UserSessionMembership.age, Prod.Lex.toLex_lt_toLex]
  rcases (hcreated m hm).lt_or_eq with hlt | heq
  · exact Or.inl hlt
  · exact Or.inr ⟨heq, db.pk_lt m hm⟩

/-- A newly tracked session that has not expired is kept. -/
theorem newSessionActive_step (h : db.NewlyTracked s user) (hcreated : db.CreatedBy created)
    {limit : MaxExtraSessions} (hlimit : db.limit = some limit) (hnonneg : 0 ≤ limit.value)
    (hexpire : now < s.expireDate) :
    NewSessionActive (db.step (.save s created now)) s.sessionKey user now := by
  rw [step_save_eq_evict h hlimit hnonneg]
  refine ⟨db.newMembership user s.sessionKey created, mem_active_evict.mpr ?_, rfl⟩
  have hactive : (db.tracked s user created h).isActive now s.sessionKey = true := by
    rw [isActive, session?_tracked, if_pos rfl]
    simpa using hexpire
  refine Retention.mem_retained_of_newest (active_nodup _ user now) (by omega) ?_ ?_
  · exact mem_active.mpr ⟨(mem_memberships_tracked h).mpr (Or.inr rfl), rfl, hactive⟩
  · intro m hm hne
    have hold := ((mem_memberships_tracked h).mp (mem_active.mp hm).1).resolve_right hne
    exact age_lt_newMembership hcreated hold

/-- A session that is not newly tracked is saved, and nothing else happens. -/
theorem step_save_of_not_newlyTracked (h : ∀ user, ¬db.NewlyTracked s user) :
    db.step (.save s created now) = db.saveSession s := by
  rw [step, trackUserSession]
  split
  case h_4 pk hdata =>
    split
    · rename_i huser
      -- an insert that meets the constraints would be a newly tracked session
      have hcannot : ¬(db.saveSession s).CanTrack pk s.sessionKey :=
        fun hcan => h pk ⟨hdata, huser, hcan.2.2⟩
      rw [getOrCreate, dif_neg hcannot]
      split
      · rfl
      · rfl
      · rename_i hcreated
        split at hcreated <;> cases hcreated
    · rfl
  all_goals rfl

/-- Without a limit a save removes nothing. -/
theorem nothingRemoved_step {limit : MaxExtraSessions} (hlimit : db.limit = some limit)
    (hunlimited : limit.value = -1) : NothingRemoved db (db.step (.save s created now)) := by
  by_cases hnew : ∃ user, db.NewlyTracked s user
  · obtain ⟨user, hnew⟩ := hnew
    have htracked : (db.tracked s user created hnew).limit = some limit := hlimit
    have hstep : db.step (.save s created now) = db.tracked s user created hnew := by
      rw [step_save_of_newlyTracked hnew, getActiveMembershipsOverLimit, htracked]
      simp only [if_pos hunlimited]
      rfl
    rw [hstep]
    refine ⟨fun m hm => (mem_memberships_tracked hnew).mpr (Or.inl hm), fun k hk => ?_⟩
    rw [session?_tracked]
    split
    · rfl
    · exact hk
  · rw [step_save_of_not_newlyTracked fun user h => hnew ⟨user, h⟩]
    refine ⟨fun m hm => hm, fun k hk => ?_⟩
    rw [session?, saveSession, Table.find?_upsert]
    split
    · rfl
    · exact hk

end SessionDb

/-- In every run with a clock that does not go back, a newly tracked session of a user under a limit
`L ≥ 0` leaves that user at most `L + 1` unexpired sessions, the newest ones, with the new one among
them unless it has itself expired, and touches no other session; under `-1` nothing is removed. -/
theorem limitEnforced_of_newlyTracked (db : SessionDb) (start : ℤ) (hstart : db.CreatedBy start)
    (events : List Event) (s : Session) (created now : ℤ)
    (hchron : Chronological start (events ++ [.save s created now])) :
    (∀ user limit, (db.run events).NewlyTracked s user → (db.run events).limit = some limit →
      0 ≤ limit.value →
        ((db.run events).LimitEnforced
          ((db.run events).step (.save s created now)) s.sessionKey user
          limit.value now ∧
        (now < s.expireDate → ((db.run events).step (.save s created now)).NewSessionActive
          s.sessionKey user now))) ∧
    ∀ limit, (db.run events).limit = some limit → limit.value = -1 →
      (db.run events).NothingRemoved ((db.run events).step (.save s created now)) := by
  have hcreated := SessionDb.createdBy_run hstart hchron
  constructor
  · intro user limit hnew hlimit hnonneg
    exact ⟨SessionDb.limitEnforced_step hnew hlimit hnonneg,
      SessionDb.newSessionActive_step hnew hcreated hlimit hnonneg⟩
  · intro limit hlimit hunlimited
    exact SessionDb.nothingRemoved_step hlimit hunlimited

/-- The events of an installation with one user who may hold one session. -/
def oneSessionAllowed : List Event := [.createUser 1, .setLimit (some ⟨0, by decide⟩)]

/-- The keys of three sessions. -/
def firstKey : String := "k3u8w1z5q0m7n2b4v6c9x8l1j2h5g0f3"

def secondKey : String := "a9s8d7f6g5h4j3k2l1z0x9c8v7b6n5m4"

def lateKey : String := "q1w2e3r4t5y6u7i8o9p0a1s2d3f4g5h6"

/-- That user after a first login. -/
def loggedInOnce : SessionDb :=
  SessionDb.empty.run (oneSessionAllowed ++ [.save ⟨firstKey, .user 1, 100⟩ 10 11])

/-- A second login evicts the first session, and the second stays. -/
theorem limitEnforced_secondLogin :
    loggedInOnce.active 1 20 = [⟨1, 1, firstKey, 10⟩] ∧
    (loggedInOnce.step (.save ⟨secondKey, .user 1, 100⟩ 20 20)).active 1 20 =
      [⟨2, 1, secondKey, 20⟩] ∧
    loggedInOnce.LimitEnforced (loggedInOnce.step (.save ⟨secondKey, .user 1, 100⟩ 20 20))
      secondKey 1 0 20 := by
  refine ⟨by decide +kernel, by decide +kernel, ?_⟩
  have hstart : SessionDb.empty.CreatedBy 0 := by simp [SessionDb.CreatedBy, SessionDb.empty]
  have hlimit := (limitEnforced_of_newlyTracked SessionDb.empty 0 hstart
    (oneSessionAllowed ++ [.save ⟨firstKey, .user 1, 100⟩ 10 11]) ⟨secondKey, .user 1, 100⟩ 20 20
    (by simp [Chronological, oneSessionAllowed])).1 1 ⟨0, by decide⟩
  exact (hlimit ⟨rfl, by decide +kernel, by decide +kernel⟩ rfl (by decide)).1

/-- A session that is saved after its expiry is tracked and not among the active ones. -/
theorem not_newSessionActive_expired :
    SessionDb.empty.CreatedBy 0 ∧
    Chronological 0 (oneSessionAllowed ++ [.save ⟨lateKey, .user 1, 5⟩ 10 10]) ∧
    (SessionDb.empty.run oneSessionAllowed).NewlyTracked ⟨lateKey, .user 1, 5⟩ 1 ∧
    (SessionDb.empty.run oneSessionAllowed).limit = some ⟨0, by decide⟩ ∧
    ¬((SessionDb.empty.run oneSessionAllowed).step
      (.save ⟨lateKey, .user 1, 5⟩ 10 10)).NewSessionActive
      lateKey 1 10 := by
  refine ⟨by simp [SessionDb.CreatedBy, SessionDb.empty],
    by simp [Chronological, oneSessionAllowed],
    ⟨rfl, by decide, by decide⟩, rfl, ?_⟩
  rintro ⟨m, hm, -⟩
  have hnone : ((SessionDb.empty.run oneSessionAllowed).step
      (.save ⟨lateKey, .user 1, 5⟩ 10 10)).active 1 10 = [] := by decide +kernel
  rw [hnone] at hm
  exact List.not_mem_nil hm

end AapGateway.Sessions
