import AapGateway.Xds.Cache

/-!
# Polls and writers that overlap

A poll looks its key up and, on a miss, reads the database, builds the response and caches it. A
writer commits its change, and only then drops the keys its signals name. Any number of them may
overlap in any order.

The window is between the read of a poll and its fill: a writer that commits and invalidates in
between has nothing to drop yet, and the poll caches a response that was built before the
commit. Without that order, the cache is coherent once everyone has finished.

## Main results

* `cached_eq_rebuild_of_noOvertaking`: in every interleaving in which no poll is overtaken so,
  what is cached at the end is what would be rebuilt;
* `cached_ne_rebuild_of_overtaking`: one poll and one writer suffice for a stale response.
-/

namespace AapGateway

/-- The class of the row a delete is called on. -/
def Target.sender : Target → Sender
  | .serviceType _ => .serviceType
  | .serviceCluster _ => .serviceCluster
  | .serviceNode _ => .serviceNode
  | .httpPort _ => .httpPort
  | .route _ => .route
  | .caCertificate _ => .caCertificate

/-- A poll, or a writer of a model that has a receiver. -/
inductive XdsParty where
  | poll (key : XdsKey)
  | save (obj : Object) (hasReceiver : receivers obj.sender ≠ [])
  | delete (target : Target) (hasReceiver : receivers target.sender ≠ [])

/-- The steps of a poll or a writer. -/
def XdsParty.toParty (serviceId : String) : XdsParty → CacheAside.Party Database XdsKey
  | .poll key => .reader key
  | .save obj _ => .writer (saveCommit serviceId obj)
  | .delete target _ => .writer (deleteCommit target)

/-- An object whose class has a receiver keeps what every other response reads. -/
theorem Object.keeps_of_hasReceiver {obj : Object} (h : receivers obj.sender ≠ []) (t : Tables)
    (key : XdsKey) : obj.Keeps t key := by
  cases obj with
  | serviceType s => exact absurd rfl h
  | preferences p => exact absurd rfl h
  | _ => trivial

/-- A writer with a receiver leaves every response as it was that it does not drop. -/
theorem rebuild_of_writer {env : XdsEnv} {serviceId : String} {party : XdsParty}
    {f : Database → Option (Database × List XdsKey)} (hf : party.toParty serviceId = .writer f)
    {db db' : Database} {keys : List XdsKey} (hcommit : f db = some (db', keys)) {key : XdsKey}
    (hkey : key ∉ keys) : rebuild env db'.toTables key = rebuild env db.toTables key := by
  cases party with
  | poll key => cases hf
  | save obj hasReceiver =>
      cases hf
      unfold saveCommit at hcommit
      split at hcommit
      · rename_i hsave
        cases hcommit
        exact rebuild_save hsave hkey (Object.keeps_of_hasReceiver hasReceiver _ _)
      · cases hcommit
  | delete target hasReceiver =>
      cases hf
      unfold deleteCommit at hcommit
      split at hcommit
      · rename_i hdelete
        cases hcommit
        rw [Database.toTables_of_commit hdelete]
        exact rebuild_remove db hkey
      · cases hcommit

/-- The database and the cache before any of the parties has begun. -/
def xdsWorld {ι : Type} (db : Database) (cache : XdsKey → Option DiscoveryResponse) :
    CacheAside.World ι Database XdsKey DiscoveryResponse :=
  ⟨db, cache, fun _ => {}⟩

/-- In every interleaving of polls and writers in which no poll fills its key after a writer of
that key has committed and invalidated since the poll read the database, what is cached once all
have finished is what would be rebuilt. -/
theorem cached_eq_rebuild_of_noOvertaking {ι : Type} [DecidableEq ι] (env : XdsEnv)
    (serviceId : String) (party : ι → XdsParty) (db : Database)
    (cache : XdsKey → Option DiscoveryResponse)
    (trace : List (ι × CacheAside.Instr Database XdsKey))
    (hcoherent : CacheAside.Coherent (xdsSystem env) db cache)
    (hcomplete : CacheAside.Completes (fun i => ((party i).toParty serviceId).program) trace)
    (hno : CacheAside.NoOvertaking (xdsSystem env) (xdsWorld db cache) trace) :
    let final := CacheAside.run (xdsSystem env) (xdsWorld db cache) trace
    ∀ key response, final.cache key = some response →
      response = rebuild env final.store.toTables key := by
  have hfoot : ∀ i f, (party i).toParty serviceId = .writer f →
      ∀ s s' ks, f s = some (s', ks) → ∀ k ∉ ks,
        (xdsSystem env).build k s' = (xdsSystem env).build k s := by
    intro i f hf s s' ks hcommit k hk
    exact rebuild_of_writer hf hcommit hk
  exact CacheAside.coherent_run hcoherent (fun _ => rfl) hfoot hcomplete hno

/-- A writer that adds a second node to the controller. -/
def nodeWriter : XdsParty :=
  .save (.serviceNode { pk := 2, name := "node 2", serviceCluster := 1, address := "10.0.0.2" })
    (by decide)

/-- One poll of the clusters and one writer. -/
def pollAndWriter : Bool → XdsParty
  | false => .poll .cds
  | true => nodeWriter

/-- The commit of `nodeWriter`. -/
def nodeCommit : Database → Option (Database × List XdsKey) :=
  saveCommit "gw"
    (.serviceNode { pk := 2, name := "node 2", serviceCluster := 1, address := "10.0.0.2" })

/-- The poll reads after the commit and fills before the invalidation. -/
def overlappingTrace : List (Bool × CacheAside.Instr Database XdsKey) :=
  [(false, .get .cds), (true, .commit nodeCommit), (false, .read), (false, .set .cds),
   (true, .invalidate)]

/-- The overlap of `overlappingTrace` is harmless. -/
theorem cached_eq_rebuild_overlappingTrace :
    let final := CacheAside.run (xdsSystem plainHost)
      (xdsWorld (websocketDatabase true) fun _ => none) overlappingTrace
    ∀ key response, final.cache key = some response →
      response = rebuild plainHost final.store.toTables key := by
  apply cached_eq_rebuild_of_noOvertaking plainHost "gw" pollAndWriter
  · exact CacheAside.coherent_empty _ _
  · intro i
    cases i <;> rfl
  · -- The writer's invalidation comes last, so no fill comes after it.
    intro pre post i k htrace _ hovertaken
    obtain ⟨j, f, -, hsub⟩ := hovertaken
    have hmem : (j, CacheAside.Instr.invalidate) ∈ pre := hsub.subset (by simp)
    rcases pre with _ | ⟨a, _ | ⟨b, _ | ⟨c, _ | ⟨d, _ | ⟨e, l⟩⟩⟩⟩⟩ <;>
      simp [overlappingTrace] at htrace
    obtain ⟨rfl, rfl, rfl, -⟩ := htrace
    simp at hmem

/-- The poll reads, the writer commits and invalidates, and the poll fills: the new node is in
the database, and the response that stays cached does not list it. -/
theorem cached_ne_rebuild_of_overtaking :
    let trace : List (Bool × CacheAside.Instr Database XdsKey) :=
      [(false, .get .cds), (false, .read), (true, .commit nodeCommit), (true, .invalidate),
       (false, .set .cds)]
    let final := CacheAside.run (xdsSystem plainHost)
      (xdsWorld (websocketDatabase true) fun _ => none) trace
    CacheAside.Completes (fun i => ((pollAndWriter i).toParty "gw").program) trace ∧
      ∃ response, final.cache .cds = some response ∧
        response ≠ rebuild plainHost final.store.toTables .cds := by
  refine ⟨?_, rebuild plainHost (websocketTables true) .cds, by decide, by decide⟩
  intro i
  cases i <;> rfl

end AapGateway
