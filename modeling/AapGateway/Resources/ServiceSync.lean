import AapGateway.Foundations.Replica
import AapGateway.Resources.AllServices

/-!
# Keeping the services up to date

A write of an organization, a team, a user, a role definition or a feature flag is passed on to all
downstream services by `ResourceAPIUpdateMixin`, inside the transaction of the write and without
waiting for the answers. An update is passed on if the hash of the serialized resource is another
one than before, that is, than when the request has loaded the resource. A pool of threads sends the
requests, so they reach a service in any order, or not at all, and also before the transaction is
committed or after it has been rolled back.

A service that accepts a request has the content of the request afterwards. Each call of the client
has a number, `World.clock`. The permissions and the validation that come before a write are left
out, since they only refuse it. A transaction that has written a row holds its lock until it ends.

## Main definitions

* `Write` and `performWrite`: the writes of the viewsets, and the requests they make;
* `SyncStep` and `SyncRun`: requests that load a resource and write it, transactions that end, and
  requests to services that are answered, in any order;
* `SyncState.current`: what the gateway has, with the writes that are not yet committed;
* `Undisturbed`: nobody else writes a resource between the loading and the writing of an update, and
  nothing is rolled back;
* `Orderly`: moreover a resource is not written while a request about it is outstanding.

## Main results

* `copy_agrees_of_applied`: in an undisturbed run a service that has accepted the last request about
  a resource agrees with the gateway about it;
* `not_agrees_of_disturbed` and `not_agrees_of_rolledBack`: otherwise it may not;
* `copy_agrees_of_orderly`: in an orderly run a service agrees with the gateway whenever no request
  to it is outstanding.
-/

namespace AapGateway.Resources

open Replica

variable {κ D H : Type}

/-- A write of a viewset, with the `ansible_id` of the resource and its serialized data. -/
inductive Write (κ D : Type) where
  /-- `perform_create`. -/
  | create (ansibleId : κ) (data : D)
  /-- `perform_update`. -/
  | update (ansibleId : κ) (data : D)
  /-- `perform_destroy`. -/
  | destroy (ansibleId : κ)

namespace Write

/-- The resource that is written. -/
def ansibleId : Write κ D → κ
  | .create ansibleId _ => ansibleId
  | .update ansibleId _ => ansibleId
  | .destroy ansibleId => ansibleId

/-- What is there of the resource afterwards. The request to the services has the same content. -/
def content : Write κ D → Option D
  | .create _ data => some data
  | .update _ data => some data
  | .destroy _ => none

/-- The object of the write is there, or is not there yet. -/
def isPossible (current : Option D) : Write κ D → Bool
  | .create _ _ => current.isNone
  | .update _ _ => current.isSome
  | .destroy _ => current.isSome

/-- Whether the services get a request: for an update only if `original_hash != new_hash`. -/
def isPushed [DecidableEq H] (hash : D → H) (original : Option D) : Write κ D → Bool
  | .create _ _ => true
  | .update _ data => original.map hash ≠ some (hash data)
  | .destroy _ => true

end Write

/-- A write that is not yet committed. -/
structure OpenWrite (D : Type) where
  /-- What is there of the resource after the commit. -/
  content : Option D
  /-- Nothing has been raised, so the transaction may commit. -/
  complete : Bool

/-- The gateway's resources as they are committed, what its own requests have loaded, and the
services' copies with the requests that are outstanding. The services are known by the keys of their
routes. -/
structure SyncState (κ D : Type) where
  db : Database
  /-- The `serializer.instance` of each request to the gateway. -/
  loaded : ℕ → Option D
  /-- The transaction that has written a resource and holds the lock on its row. -/
  held : κ → Option (OpenWrite D)
  world : World ℕ κ (Option D)

/-- What the gateway has of a resource when the open transactions are committed. -/
def SyncState.current (s : SyncState κ D) (id : κ) : Option D :=
  match s.held id with
  | some o => o.content
  | none => s.world.source id

/-- The source and the copies, as if the open transactions were committed. -/
def SyncState.view (s : SyncState κ D) : World ℕ κ (Option D) :=
  { s.world with source := s.current }

section Sync

variable [DecidableEq κ] [DecidableEq H] (client : AllServicesClient) (hash : D → H)

/-- The services that get a request now. -/
def SyncState.targets (s : SyncState κ D) : List ℕ :=
  (client.getServices s.db.toTables).map Route.pk

/-- The row of a resource is written in a transaction that stays open. -/
def SyncState.hold (s : SyncState κ D) (id : κ) (o : OpenWrite D) : SyncState κ D :=
  { s with held := Function.update s.held id (some o) }

/-- The transaction that has written a resource is over. -/
def SyncState.release (s : SyncState κ D) (id : κ) : SyncState κ D :=
  { s with held := Function.update s.held id none }

/-- The transaction that has written a resource is committed. -/
def SyncState.commit (s : SyncState κ D) (id : κ) (o : OpenWrite D) : SyncState κ D :=
  { s.release id with world := s.world.setSource id o.content }

/-- The write of a request, of whose requests to services so many are submitted before something is
raised. -/
def performWrite (s : SyncState κ D) (request : ℕ) (w : Write κ D) (submitted : ℕ) :
    SyncState κ D :=
  if w.isPushed hash (s.loaded request) then
    let targets := s.targets client
    { s.hold w.ansibleId ⟨w.content, decide (targets.length ≤ submitted)⟩ with
      world := s.world.send w.ansibleId w.content (targets.take submitted) }
  else s.hold w.ansibleId ⟨w.content, true⟩

/-- What happens next. -/
inductive SyncEvent (κ D : Type) where
  /-- The tables of the services are written. -/
  | reconfigure (db : Database)
  /-- A request loads the object that it is about. -/
  | load (request : ℕ) (ansibleId : κ)
  | write (request : ℕ) (w : Write κ D) (submitted : ℕ)
  /-- The transaction that has written the resource is committed. -/
  | commit (ansibleId : κ)
  | rollBack (ansibleId : κ)
  /-- A service accepts a request. -/
  | accept (m : Message ℕ κ (Option D))
  /-- A request fails: it times out, or the service rejects it. -/
  | fail (m : Message ℕ κ (Option D))

/-- One step. -/
inductive SyncStep : SyncState κ D → SyncEvent κ D → SyncState κ D → Prop
  | reconfigure (s : SyncState κ D) (db : Database) :
      SyncStep s (.reconfigure db) { s with db := db }
  | load (s : SyncState κ D) (request : ℕ) (id : κ) :
      SyncStep s (.load request id)
        { s with loaded := Function.update s.loaded request (s.world.source id) }
  | write (s : SyncState κ D) (request : ℕ) (w : Write κ D) (submitted : ℕ)
      (hfree : s.held w.ansibleId = none)
      (hpossible : w.isPossible (s.world.source w.ansibleId) = true) :
      SyncStep s (.write request w submitted) (performWrite client hash s request w submitted)
  | commit (s : SyncState κ D) (id : κ) (o : OpenWrite D) (hheld : s.held id = some o)
      (hcomplete : o.complete = true) :
      SyncStep s (.commit id) (s.commit id o)
  | rollBack (s : SyncState κ D) (id : κ) (o : OpenWrite D) (hheld : s.held id = some o) :
      SyncStep s (.rollBack id) (s.release id)
  | accept (s : SyncState κ D) (before after : List (Message ℕ κ (Option D)))
      (m : Message ℕ κ (Option D)) (hflight : s.world.flight = before ++ m :: after) :
      SyncStep s (.accept m) { s with world := { s.world.take m with flight := before ++ after } }
  | fail (s : SyncState κ D) (before after : List (Message ℕ κ (Option D)))
      (m : Message ℕ κ (Option D)) (hflight : s.world.flight = before ++ m :: after) :
      SyncStep s (.fail m) { s with world := { s.world with flight := before ++ after } }

/-- The states that admitted steps lead to. -/
inductive SyncRun (admitted : SyncState κ D → SyncEvent κ D → Prop) (init : SyncState κ D) :
    SyncState κ D → Prop
  | start : SyncRun admitted init init
  | step {s s' : SyncState κ D} {e : SyncEvent κ D} (h : SyncRun admitted init s)
      (hadmitted : admitted s e) (hstep : SyncStep client hash s e s') :
      SyncRun admitted init s'

/-- What a request updates is what it has loaded. -/
def UpdatesLoaded (s : SyncState κ D) : SyncEvent κ D → Prop
  | .write request (.update id _) _ => s.loaded request = s.world.source id
  | _ => True

/-- No write is rolled back. -/
def KeepsWrites (_ : SyncState κ D) : SyncEvent κ D → Prop
  | .rollBack _ => False
  | _ => True

/-- What a request updates is what it has loaded, and no write is rolled back. -/
def Undisturbed (s : SyncState κ D) (e : SyncEvent κ D) : Prop :=
  UpdatesLoaded s e ∧ KeepsWrites s e

/-- Moreover a resource is written only while no request about it is outstanding, the service is
sent the request of every write, and none of them fails there. -/
def Orderly (service : ℕ) (s : SyncState κ D) (e : SyncEvent κ D) : Prop :=
  Undisturbed s e ∧
    match e with
    | .write _ w submitted => service ∈ (s.targets client).take submitted ∧
        ∀ m ∈ s.world.flight, m.key ≠ w.ansibleId
    | .fail m => m.place ≠ service
    | _ => True

/-- The services agree with the gateway, nothing is under way, and no transaction is open. -/
structure SyncState.Quiet (s : SyncState κ D) : Prop where
  inSync : s.world.InSync (Option.map hash)
  held : ∀ id, s.held id = none

variable {client hash} {init s s' : SyncState κ D} {e : SyncEvent κ D} {service : ℕ}

omit [DecidableEq κ] [DecidableEq H] in
/-- Where no transaction is open, the gateway has what is committed. -/
theorem current_of_held {id : κ} (h : s.held id = none) : s.current id = s.world.source id := by
  rw [SyncState.current, h]

omit [DecidableEq H] in
/-- An open write is what there will be. -/
theorem current_hold (id : κ) (o : OpenWrite D) :
    (s.hold id o).current = Function.update s.current id o.content := by
  funext id'
  by_cases hid : id' = id
  · subst hid
    simp only [SyncState.current, SyncState.hold, Function.update_self]
  · simp only [SyncState.current, SyncState.hold, Function.update_of_ne hid]

omit [DecidableEq H] in
/-- A commit changes nothing of what there will be. -/
theorem view_commit {id : κ} {o : OpenWrite D} (h : s.held id = some o) :
    (s.commit id o).view = s.view := by
  have hcurrent : (s.commit id o).current = s.current := by
    funext id'
    by_cases hid : id' = id
    · subst hid
      simp only [SyncState.current, SyncState.commit, SyncState.release, World.setSource,
        Function.update_self, h]
    · simp only [SyncState.current, SyncState.commit, SyncState.release, World.setSource,
        Function.update_of_ne hid]
  exact congrArg (fun source => { s.world with source := source }) hcurrent

variable (client hash) in
/-- A write of what has been loaded changes the resource, and tells the services unless the change
does not show in the hash. -/
theorem step_of_write {request : ℕ} {w : Write κ D} {submitted : ℕ}
    (hupdates : UpdatesLoaded s (.write request w submitted))
    (hfree : s.held w.ansibleId = none) :
    Step (Option.map hash) s.view
        (.publish w.ansibleId w.content ((s.targets client).take submitted))
        (performWrite client hash s request w submitted).view ∨
      Step (Option.map hash) s.view (.revise w.ansibleId w.content)
        (performWrite client hash s request w submitted).view := by
  rw [performWrite]
  dsimp only
  split_ifs with hpushed
  · left
    have hview : ({ s.hold w.ansibleId
          ⟨w.content, decide ((s.targets client).length ≤ submitted)⟩ with
        world := s.world.send w.ansibleId w.content ((s.targets client).take submitted) } :
          SyncState κ D).view =
        (s.view.setSource w.ansibleId w.content).send w.ansibleId w.content
          ((s.targets client).take submitted) := by
      rw [SyncState.view, World.send, SyncState.view, World.setSource]
      exact congrArg (fun source => { (s.world.send w.ansibleId w.content
        ((s.targets client).take submitted)) with source := source }) (current_hold _ _)
    rw [hview]
    exact .publish _ _ _ _
  · right
    have hview : (s.hold w.ansibleId ⟨w.content, true⟩).view =
        s.view.setSource w.ansibleId w.content :=
      congrArg (fun source => { s.world with source := source }) (current_hold _ _)
    rw [hview]
    apply Step.revise
    -- Only an update can go unnoticed, and then the hashes are equal.
    rcases w with ⟨id, data⟩ | ⟨id, data⟩ | id
    · exact absurd rfl hpushed
    · have hloaded : s.loaded request = s.view.source id :=
        Eq.trans hupdates (current_of_held hfree).symm
      rw [hloaded] at hpushed
      have hequal : (s.view.source id).map hash = some (hash data) := by
        by_contra hne
        exact hpushed (decide_eq_true hne)
      exact hequal.symm
    · exact absurd rfl hpushed

/-- An undisturbed run of the gateway and its services is a run of a source and its copies. A write
counts when it is made, before it is committed. -/
theorem view_run (h : SyncRun client hash Undisturbed init s) :
    Run (Option.map hash) (fun _ _ => True) init.view s.view := by
  induction h with
  | start => exact .start
  | @step s s' e hrun hadmitted hstep ih =>
      rcases hstep with ⟨db⟩ | ⟨request, id⟩ | ⟨request, w, submitted, hfree, -⟩ |
        ⟨id, o, hheld, -⟩ | ⟨id, o, -⟩ | ⟨before, after, m, hflight⟩ | ⟨before, after, m, hflight⟩
      · exact ih
      · exact ih
      · rcases step_of_write client hash hadmitted.1 hfree with hpublish | hrevise
        · exact ih.step trivial hpublish
        · exact ih.step trivial hrevise
      · rw [view_commit hheld]
        exact ih
      · exact hadmitted.2.elim
      · exact ih.step trivial (.apply s.view before after m hflight)
      · exact ih.step trivial (.lose s.view before after m hflight)

/-- An orderly run changes one thing at a time. -/
theorem view_run_of_orderly (h : SyncRun client hash (Orderly client service) init s) :
    Run (Option.map hash) (OneAtATime service) init.view s.view := by
  induction h with
  | start => exact .start
  | @step s s' e hrun hadmitted hstep ih =>
      rcases hstep with ⟨db⟩ | ⟨request, id⟩ | ⟨request, w, submitted, hfree, -⟩ |
        ⟨id, o, hheld, -⟩ | ⟨id, o, -⟩ | ⟨before, after, m, hflight⟩ | ⟨before, after, m, hflight⟩
      · exact ih
      · exact ih
      · obtain ⟨⟨hupdates, -⟩, hidle⟩ := hadmitted
        rcases step_of_write client hash hupdates hfree with hpublish | hrevise
        · exact ih.step (e := .publish w.ansibleId w.content ((s.targets client).take submitted))
            hidle hpublish
        · exact ih.step (e := .revise w.ansibleId w.content) trivial hrevise
      · rw [view_commit hheld]
        exact ih
      · exact hadmitted.1.2.elim
      · exact ih.step (e := .apply m) trivial (.apply s.view before after m hflight)
      · exact ih.step (e := .lose m) hadmitted.2 (.lose s.view before after m hflight)

omit [DecidableEq κ] [DecidableEq H] in
/-- In a quiet state the copies agree with what the gateway has. -/
theorem SyncState.Quiet.view (h : s.Quiet hash) : s.view.InSync (Option.map hash) := by
  have hsource : s.view.source = s.world.source := funext fun id => current_of_held (h.held id)
  constructor
  · intro service id
    rw [hsource]
    exact h.inSync.view_copy service id
  · exact h.inSync.flight
  · exact h.inSync.applied
  · exact h.inSync.latest_le

/-- In an orderly run a service agrees with the gateway about a resource whenever no request to it
about this resource is outstanding and no write of it is open. -/
theorem copy_agrees_of_orderly {id : κ} (hquiet : init.Quiet hash)
    (h : SyncRun client hash (Orderly client service) init s) (hclosed : s.held id = none)
    (hidle : ∀ m ∈ s.world.flight, m.place = service → m.key ≠ id) :
    (s.world.copies service id).map hash = (s.world.source id).map hash := by
  rw [← current_of_held hclosed]
  exact view_copy_of_settled hquiet.view (view_run_of_orderly h) hidle

/-! ### Where it does not hold -/

section Disturbed

variable {id : κ} {a b : D}

/-- After an update a service can have accepted its request while the transaction is open. -/
theorem exists_accepted {admitted : SyncState κ D → SyncEvent κ D → Prop}
    (hadmitted : ∀ s e, Undisturbed s e → admitted s e) (h : SyncRun client hash admitted init s)
    (request : ℕ) (hloaded : s.loaded request = some a) (hsource : s.world.source id = some a)
    (hfree : s.held id = none) (hne : hash a ≠ hash b) (hservice : service ∈ s.targets client) :
    ∃ world, SyncRun client hash admitted init { s.hold id ⟨some b, true⟩ with world := world } ∧
      world.source = s.world.source ∧ world.copies service id = some b ∧
      world.applied service id = world.latest id := by
  -- The write of `b` goes out to all targets, among them the service.
  let sent := s.world.send id (some b) (s.targets client)
  let message : Message ℕ κ (Option D) := ⟨service, id, some b, s.world.clock + 1⟩
  have hwrite : performWrite client hash s request (.update id b) (s.targets client).length =
      { s.hold id ⟨some b, true⟩ with world := sent } := by
    have hpushed : (Write.update id b).isPushed hash (s.loaded request) = true := by
      simp [hloaded, Write.isPushed, hne]
    rw [performWrite, if_pos hpushed]
    simp only [le_refl, decide_true, List.take_length]
    rfl
  have hpossible : (Write.update id b).isPossible (s.world.source id) = true := by
    rw [hsource]
    rfl
  have hupdated : SyncRun client hash admitted init
      { s.hold id ⟨some b, true⟩ with world := sent } := by
    rw [← hwrite]
    exact h.step (e := .write request (.update id b) _)
      (hadmitted _ _ ⟨hloaded.trans hsource.symm, trivial⟩) (.write s request _ _ hfree hpossible)
  have hmessage : message ∈ sent.flight :=
    List.mem_append_right _ (List.mem_map.mpr ⟨service, hservice, rfl⟩)
  -- The service accepts its message before any other one is delivered.
  obtain ⟨before, after, hflight⟩ := List.append_of_mem hmessage
  refine ⟨{ sent.take message with flight := before ++ after },
    hupdated.step (e := .accept message) (hadmitted _ _ ⟨trivial, trivial⟩)
      (.accept _ before after message hflight), rfl, ?_, ?_⟩
  · simp [message, World.take]
  · simp [sent, message, World.take, World.send]

/-- Two requests that load a resource and then update it, the second of them with the content that
both have loaded. The services are not told of the second update, so a service that has accepted
every request keeps the content of the first one. -/
theorem not_agrees_of_disturbed (hsource : s.world.source id = some a) (hfree : s.held id = none)
    (hne : hash a ≠ hash b) (hservice : service ∈ s.targets client) :
    ∃ s', SyncRun client hash KeepsWrites s s' ∧ s'.held id = none ∧
      s'.world.applied service id = s'.world.latest id ∧
      (s'.world.copies service id).map hash ≠ (s'.world.source id).map hash := by
  let loaded := Function.update (Function.update s.loaded 0 (some a)) 1 (some a)
  have hload : SyncRun client hash KeepsWrites s { s with loaded := loaded } := by
    have hstart : SyncRun client hash KeepsWrites s s := .start
    have hboth := (hstart.step (e := .load 0 id) trivial (.load s 0 id)).step (e := .load 1 id)
      trivial (.load _ 1 id)
    rwa [hsource] at hboth
  have hloaded : loaded 1 = some a := by simp [loaded]
  obtain ⟨world, haccepted, -, hcopy, happlied⟩ := exists_accepted (fun _ _ h => h.2) hload 1
    hloaded hsource hfree hne hservice
  let committed : SyncState κ D := SyncState.commit
    { ({ s with loaded := loaded } : SyncState κ D).hold id ⟨some b, true⟩ with world := world } id
    ⟨some b, true⟩
  have hcommitted : SyncRun client hash KeepsWrites s committed :=
    haccepted.step (e := .commit id) trivial
      (.commit _ id _ (Function.update_self id _ _) rfl)
  -- The second update does not differ from what its request has loaded.
  have hfree' : committed.held id = none := by
    simp [committed, SyncState.commit, SyncState.release]
  have hpossible : (Write.update id a).isPossible (committed.world.source id) = true := by
    simp [committed, SyncState.commit, World.setSource, Write.isPossible]
  have hwrite : performWrite client hash committed 0 (.update id a) 0 =
      committed.hold id ⟨some a, true⟩ := by
    have hpushed : ¬(Write.update id a).isPushed hash (committed.loaded 0) = true := by
      simp [committed, SyncState.commit, SyncState.release, SyncState.hold, loaded, Write.isPushed]
    rw [performWrite, if_neg hpushed]
    rfl
  have hupdated := hcommitted.step (e := .write 0 (.update id a) 0) trivial
    (.write committed 0 _ 0 hfree' hpossible)
  rw [hwrite] at hupdated
  refine ⟨_, hupdated.step (e := .commit id) trivial
    (.commit _ id _ (Function.update_self id _ _) rfl), ?_, happlied, ?_⟩
  · simp [SyncState.commit, SyncState.release]
  · simpa [committed, SyncState.commit, SyncState.hold, World.setSource, hcopy] using hne.symm

/-- A write that is rolled back when a service has accepted its request: the service keeps what the
gateway never has. -/
theorem not_agrees_of_rolledBack (hsource : s.world.source id = some a) (hfree : s.held id = none)
    (hne : hash a ≠ hash b) (hservice : service ∈ s.targets client) :
    ∃ s', SyncRun client hash UpdatesLoaded s s' ∧ s'.held id = none ∧
      s'.world.applied service id = s'.world.latest id ∧
      (s'.world.copies service id).map hash ≠ (s'.world.source id).map hash := by
  have hstart : SyncRun client hash UpdatesLoaded s s := .start
  have hload := hstart.step (e := .load 0 id) trivial (.load s 0 id)
  have hloaded : Function.update s.loaded 0 (s.world.source id) 0 = some a := by simp [hsource]
  obtain ⟨world, haccepted, hworld, hcopy, happlied⟩ := exists_accepted (fun _ _ h => h.1) hload 0
    hloaded hsource hfree hne hservice
  refine ⟨_, haccepted.step (e := .rollBack id) trivial
    (.rollBack _ id _ (Function.update_self id _ _)), ?_, happlied, ?_⟩
  · simp [SyncState.release]
  · have hsame : world.source id = some a := (congrFun hworld id).trans hsource
    simpa [SyncState.release, hcopy, hsame] using hne.symm

end Disturbed

end Sync

/-- The gateway before there are resources, with a controller and a hub. -/
def emptyState : SyncState String ℕ where
  db := sampleDatabase
  loaded := fun _ => none
  held := fun _ => none
  world :=
    { source := fun _ => none
      copies := fun _ _ => none
      flight := []
      clock := 0
      latest := fun _ => 0
      applied := fun _ _ => 0 }

/-- There is nothing to disagree about. -/
theorem quiet_emptyState : emptyState.Quiet (id : ℕ → ℕ) where
  inSync :=
    { view_copy := fun _ _ => rfl
      flight := rfl
      applied := fun _ _ => rfl
      latest_le := fun _ => Nat.zero_le _ }
  held _ := rfl

/-- The client that the viewsets use. -/
def syncClient : AllServicesClient :=
  { sampleClient with waitForResponse := false }

/-- An organization is created. -/
def createdState : SyncState String ℕ :=
  { emptyState.hold "organization" ⟨some 7, true⟩ with
    world := emptyState.world.send "organization" (some 7) [1, 2] }

/-- The hub has accepted it before it is committed. -/
def hubState : SyncState String ℕ :=
  { createdState with world :=
      { createdState.world.take ⟨2, "organization", some 7, 1⟩ with
        flight := [⟨1, "organization", some 7, 1⟩] } }

/-- It is committed. -/
def committedState : SyncState String ℕ :=
  hubState.commit "organization" ⟨some 7, true⟩

/-- Creating the organization, telling the hub and committing is a run that is orderly for the
hub. -/
theorem run_committedState : SyncRun syncClient id (Orderly syncClient 2) emptyState
    committedState := by
  have hwrite : performWrite syncClient id emptyState 0 (.create "organization" 7) 2 =
      createdState := rfl
  have hcreate : SyncRun syncClient id (Orderly syncClient 2) emptyState createdState := by
    rw [← hwrite]
    refine .step (e := .write 0 (.create "organization" 7) 2) .start ?_ (.write _ _ _ _ rfl rfl)
    exact ⟨⟨trivial, trivial⟩, by decide, fun m hm => (nomatch hm)⟩
  exact (hcreate.step (e := .accept ⟨2, "organization", some 7, 1⟩) ⟨⟨trivial, trivial⟩, trivial⟩
    (.accept _ [⟨1, "organization", some 7, 1⟩] [] _ rfl)).step (e := .commit "organization")
      ⟨⟨trivial, trivial⟩, trivial⟩ (.commit _ _ _ rfl rfl)

/-- No request to it is outstanding then. -/
theorem copy_agrees_of_orderly_hub :
    (committedState.world.copies 2 "organization").map id =
      (committedState.world.source "organization").map id := by
  apply copy_agrees_of_orderly quiet_emptyState run_committedState rfl
  intro m hm hplace
  rw [List.mem_singleton.mp hm] at hplace
  cases hplace

end AapGateway.Resources
