import AapGateway.Migration.CrashRestart

/-!
# Services that are already synchronised

Before the resources of a service are migrated, `_is_service_already_synced` asks whether anything
is left to migrate. It counts the resources of all types at once and reads one page of them, while
`migrate_resource` goes through the pages of one type until there is nothing but the system user.

A run for one type leaves the resources of the other types alone, so what one run has found to be
finished stays finished.

## Main definitions

* `isServiceAlreadySynced`: `_is_service_already_synced`;
* `TypeRun` and `worldAfter`: runs of `migrate_resource` for any types, one after the other;
* `ReturnedFor`: a run for the type has returned normally.

## Main results

* `others_of_perform`: a run for a type keeps the resources of the other types;
* `alreadySynced_of_returned`: the check agrees with the migration.
-/

namespace AapGateway.Migration.Resources

/-- The resource is the system user's. -/
def Setting.isSystemUser (setting : Setting) (i : Item) : Bool :=
  i.resourceType = .user && some i.name = setting.systemUsername

/-- The resources of the migratable types that carry the upstream service id and are not partially
migrated. -/
def Upstream.unmigrated (u : Upstream) : List Item :=
  u.items.filter fun i => i.serviceId = u.serviceId && !i.isPartiallyMigrated

/-- The first page of the unmigrated resources, without the system user if there is one. -/
def Upstream.unmigratedResults (setting : Setting) (u : Upstream) : List Item :=
  let results := u.unmigrated.take u.pageSize
  if setting.systemUsername.getD "" ≠ "" then
    results.filter fun i => i.resourceType ≠ .user || some i.name ≠ setting.systemUsername
  else results

/-- `_is_service_already_synced`, for a registry with so many resources of types that are not
migrated. -/
def isServiceAlreadySynced (setting : Setting) (u : Upstream) (otherResources : ℕ) : Bool :=
  let count := u.unmigrated.length
  -- Something other than the system user is on the first page, or there is a second page.
  if 0 < count ∧
      (u.unmigratedResults setting ≠ [] ∨ (u.unmigrated.take u.pageSize).length < count) then
    false
  else u.items.length + otherResources ≠ 0

/-- A run of `migrate_resource`: its type, the gateway when it starts, and how the upstream service
answers. -/
structure TypeRun where
  type : SharedType
  gateway : Gateway
  env : Environment
  fuel : ℕ

/-- Perform a run. -/
def TypeRun.perform (setting : Setting) (run : TypeRun) (w : World) :
    World × Drain.Outcome MigrationError :=
  migrateResource setting run.type run.env run.fuel { w with gateway := run.gateway }

/-- The world after runs, which may have raised or been cut short. -/
def worldAfter (setting : Setting) (runs : List TypeRun) (w : World) : World :=
  runs.foldl (fun w run => (run.perform setting w).1) w

/-- One of the runs was for the type and returned normally. -/
def ReturnedFor (setting : Setting) (t : SharedType) (runs : List TypeRun) (w : World) : Prop :=
  ∃ earlier run later, runs = earlier ++ run :: later ∧ run.type = t ∧
    (run.perform setting (worldAfter setting earlier w)).2 = .returned

/-! ## The check -/

section Check

variable {setting : Setting} {u : Upstream} {otherResources : ℕ}

/-- The check passes only if all that is left is the system user's. -/
theorem isSystemUser_of_alreadySynced (h : isServiceAlreadySynced setting u otherResources = true)
    {i : Item} (hi : i ∈ u.unmigrated) : setting.isSystemUser i = true := by
  have hpos : 0 < u.unmigrated.length := List.length_pos_of_mem hi
  have hpasses : ¬(u.unmigratedResults setting ≠ [] ∨
      (u.unmigrated.take u.pageSize).length < u.unmigrated.length) := by
    intro hfails
    unfold isServiceAlreadySynced at h
    rw [if_pos ⟨hpos, hfails⟩] at h
    cases h
  obtain ⟨hresults, hlength⟩ := not_or.mp hpasses
  -- The page holds everything, and nothing of it is left after the filter.
  have hall : u.unmigrated.length ≤ u.pageSize := by
    rw [List.length_take] at hlength
    omega
  have hnil : u.unmigratedResults setting = [] := not_not.mp hresults
  unfold Upstream.unmigratedResults at hnil
  rw [List.take_of_length_le hall] at hnil
  dsimp only at hnil
  split at hnil
  · simpa [Setting.isSystemUser] using List.filter_eq_nil_iff.mp hnil i hi
  · exact absurd hnil (List.ne_nil_of_mem hi)

/-- The check passes if all that is left is the system user's, who is there once, and the registry
is not empty. -/
theorem alreadySynced_of_isSystemUser (hname : setting.systemUsername.getD "" ≠ "")
    (hsize : 1 ≤ u.pageSize) (honce : (u.items.filter setting.isSystemUser).length ≤ 1)
    (hregistry : u.items.length + otherResources ≠ 0)
    (h : ∀ i ∈ u.unmigrated, setting.isSystemUser i = true) :
    isServiceAlreadySynced setting u otherResources = true := by
  -- Nothing but the system user is left, who is there once.
  have hlength : u.unmigrated.length ≤ 1 := by
    have hsub := (List.filter_sublist (l := u.items)
      (p := fun i => i.serviceId = u.serviceId && !i.isPartiallyMigrated)).filter
      setting.isSystemUser
    have hself : u.unmigrated.filter setting.isSystemUser = u.unmigrated :=
      List.filter_eq_self.mpr h
    calc u.unmigrated.length = (u.unmigrated.filter setting.isSystemUser).length := by rw [hself]
      _ ≤ (u.items.filter setting.isSystemUser).length := hsub.length_le
      _ ≤ 1 := honce
  have hpage : u.unmigrated.take u.pageSize = u.unmigrated :=
    List.take_of_length_le (hlength.trans hsize)
  have hnil : u.unmigratedResults setting = [] := by
    unfold Upstream.unmigratedResults
    rw [hpage, if_pos hname]
    refine List.filter_eq_nil_iff.mpr fun i hi => ?_
    simpa [Setting.isSystemUser] using h i hi
  unfold isServiceAlreadySynced
  rw [if_neg, decide_eq_true_eq]
  · exact hregistry
  · rintro ⟨-, hresults | hlonger⟩
    · exact hresults hnil
    · rw [hpage] at hlonger
      exact lt_irrefl _ hlonger

end Check

/-! ## Runs for a type -/

/-- Updates of resources of a type leave the other types alone. -/
structure KeepsOthers (t : SharedType) (u u' : Upstream) : Prop where
  serviceId : u'.serviceId = u.serviceId
  pageSize : u'.pageSize = u.pageSize
  labels : u'.items.map Item.label = u.items.map Item.label
  others : ∀ i ∈ u'.items, i.resourceType ≠ t → i ∈ u.items

namespace KeepsOthers

variable {t : SharedType} {u u' u'' : Upstream}

/-- No update. -/
theorem refl (t : SharedType) (u : Upstream) : KeepsOthers t u u :=
  ⟨rfl, rfl, rfl, fun _ hi _ => hi⟩

/-- Updates one after the other. -/
theorem trans (h : KeepsOthers t u u') (h' : KeepsOthers t u' u'') : KeepsOthers t u u'' where
  serviceId := h'.serviceId.trans h.serviceId
  pageSize := h'.pageSize.trans h.pageSize
  labels := h'.labels.trans h.labels
  others := fun i hi hne => h.others i (h'.others i hi hne) hne

/-- What is left of another type was left before. -/
theorem remaining_subset (h : KeepsOthers t u u') {t' : SharedType} (hne : t' ≠ t) :
    u'.remaining t' ⊆ u.remaining t' := by
  intro i hi
  obtain ⟨hitem, htype⟩ := mem_items_of_mem_remaining hi
  have hselected := (List.mem_filter.mp hi).2
  refine List.mem_filter.mpr ⟨h.others i hitem (htype ▸ hne), ?_⟩
  simpa only [Upstream.selects, h.serviceId] using hselected

end KeepsOthers

section Runs

variable {setting : Setting} {t : SharedType}

/-- Every resource that a bulk update would hit is of the type. -/
def Hits (t : SharedType) (bulks : List BulkItem) (u : Upstream) : Prop :=
  ∀ b ∈ bulks, ∀ i ∈ u.items, i.ansibleId = b.ansibleId → i.resourceType = t

/-- An update of a resource of the type. -/
theorem keepsOthers_apply {u u' : Upstream} {bulks : List BulkItem} (hhits : Hits t bulks u)
    {b : BulkItem} (hb : b ∈ bulks) (happly : u.apply b = some u') :
    KeepsOthers t u u' ∧ Hits t bulks u' := by
  obtain ⟨hitems, hserviceId, -, hpageSize, -⟩ := apply_eq_some happly
  have hcases : ∀ i ∈ u'.items, i ∈ u.items ∨ i.resourceType = t := by
    intro i hi
    rw [hitems] at hi
    obtain ⟨j, hj, rfl⟩ := List.mem_map.mp hi
    -- The update changes the items with its ansible id, and keeps their type.
    by_cases hid : j.ansibleId = b.ansibleId
    · rw [if_pos hid]
      exact Or.inr (hhits b hb j hj hid)
    · rw [if_neg hid]
      exact Or.inl hj
  constructor
  · refine ⟨hserviceId, hpageSize, by rw [hitems, map_label_updated], ?_⟩
    intro i hi hne
    exact (hcases i hi).resolve_right hne
  · intro b' hb' i hi hid
    rcases hcases i hi with hold | htype
    · exact hhits b' hb' i hold hid
    · exact htype

/-- A bulk update of resources of the type. -/
theorem keepsOthers_sendBulkUpdate (env : Environment) {w : World} {bulks : List BulkItem}
    (hhits : Hits t bulks w.upstream) :
    KeepsOthers t w.upstream (sendBulkUpdate (post env) bulks w).1.upstream := by
  -- That the updates hit resources of the type only is kept along with the claim.
  refine (sendBulkUpdate_inv (fun w' : World => KeepsOthers t w.upstream w'.upstream ∧
    Hits t bulks w'.upstream) ?_ ⟨.refl _ _, hhits⟩).1
  rintro w' chunk hchunk ⟨hkeeps, hhits⟩
  refine applyAll_inv (fun u _ => KeepsOthers t w.upstream u ∧ Hits t bulks u) ?_ ⟨hkeeps, hhits⟩
  rintro u n b u' hb ⟨hkeeps, hhits⟩ happly
  obtain ⟨hstep, hhits'⟩ := keepsOthers_apply hhits (hchunk b hb) happly
  exact ⟨hkeeps.trans hstep, hhits'⟩

/-- A page of resources of the type. -/
theorem keepsOthers_page (setting : Setting) (env : Environment) {w : World} {results : List Item}
    (hresults : ∀ i ∈ results, i ∈ w.upstream.remaining t) :
    KeepsOthers t w.upstream (processResourcePageBatch setting t env w results).1.upstream := by
  unfold processResourcePageBatch
  rcases hitems : processItems setting t w.upstream.serviceType w.gateway results with ⟨g, r⟩
  obtain ⟨-, hreconciled⟩ := reconciled_of_processItems hitems
  cases r with
  | error e => exact .refl _ _
  | ok payloads =>
      obtain ⟨creates, bulks⟩ := payloads
      obtain ⟨hbulks, -⟩ := hreconciled creates bulks rfl
      -- Each update carries the ansible id of an item of the page, and ansible ids are unique.
      have hhits : Hits t bulks w.upstream := by
        intro b hb j hj hid
        obtain ⟨i, hi, create, hr, -⟩ := hbulks b hb
        obtain ⟨hitem, htype⟩ := mem_items_of_mem_remaining (hresults i hi)
        have hbid : b.ansibleId = i.ansibleId := by cases hr <;> rfl
        rw [item_eq_of_ansibleId_eq hj hitem (hid.trans hbid)]
        exact htype
      simp only
      cases hcreate : g.createAll setting t creates with
      | error e => exact .refl _ _
      | ok g' =>
          have hsent := keepsOthers_sendBulkUpdate env (w := { w with gateway := g' }) hhits
          simp only
          split
          · exact .refl _ _
          · split
            · next w' e hsend =>
                rw [hsend] at hsent
                exact hsent
            · next w' n hsend =>
                rw [hsend] at hsent
                exact hsent

/-- A round of the migration of the type. -/
theorem keepsOthers_round (env : Environment) (w : World) :
    KeepsOthers t w.upstream (migrateRound setting t env w).1.upstream := by
  unfold migrateRound
  split_ifs with hfails
  · exact .refl _ _
  · simp only
    split_ifs with hempty
    · exact .refl _ _
    · have hpage := keepsOthers_page setting env
        (w := { w with requests := w.requests + 1 }) fun i
          (hi : i ∈ (getFilteredResources setting t w.upstream).1) =>
            (of_mem_getFilteredResources hi).1
      split
      · next w' e hresult =>
          rw [hresult] at hpage
          exact hpage
      · next w' n hresult =>
          rw [hresult] at hpage
          exact hpage

/-- A run for a type keeps the resources of the other types, however it ends. -/
theorem others_of_perform (setting : Setting) (run : TypeRun) (w : World) :
    KeepsOthers run.type w.upstream (run.perform setting w).1.upstream := by
  refine Drain.drain_inv (fun w' : World => KeepsOthers run.type w.upstream w'.upstream) ?_
    run.fuel 0 (.refl _ _)
  intro w' hw'
  exact hw'.trans (keepsOthers_round run.env w')

/-- A run for a type of which nothing is on the page changes no resource. -/
theorem upstream_perform_of_nil {run : TypeRun} {w : World}
    (h : (getFilteredResources setting run.type w.upstream).1 = []) :
    (run.perform setting w).1.upstream = w.upstream := by
  refine Drain.drain_inv (fun w' : World => w'.upstream = w.upstream) ?_ run.fuel 0 rfl
  intro w' hw'
  unfold migrateRound
  split_ifs with hfails
  · exact hw'
  · simp only
    rw [hw', if_pos h]

/-- A run that returns has found nothing on the page. -/
theorem results_nil_of_returned {run : TypeRun} {w : World}
    (h : (run.perform setting w).2 = .returned) :
    (getFilteredResources setting run.type (run.perform setting w).1.upstream).1 = [] := by
  obtain ⟨w₀, -, hround⟩ := Drain.exists_finished_of_returned (fun _ => True)
    (fun _ _ => trivial) trivial h
  unfold TypeRun.perform
  rw [migrateResource, ← congrArg Prod.fst hround]
  have hfinished := congrArg Prod.snd hround
  -- A round ends the loop only where the list of results is empty.
  unfold migrateRound at hfinished ⊢
  split_ifs at hfinished ⊢ with hfails
  simp only at hfinished ⊢
  split_ifs at hfinished ⊢ with hempty
  · exact hempty
  · split at hfinished <;> cases hfinished

end Runs

/-! ## Agreement -/

section Agreement

variable {setting : Setting} {t : SharedType} {u u' : Upstream}

/-- All that is left of the type is the system user. -/
def OnlySystemUserLeft (setting : Setting) (t : SharedType) (u : Upstream) : Prop :=
  ∀ i ∈ u.remaining t, setting.isSystemUser i = true

/-- Where only the system user is left, the loop of `migrate_resource` sees nothing. -/
theorem results_nil_of_onlySystemUserLeft (h : OnlySystemUserLeft setting t u) :
    (getFilteredResources setting t u).1 = [] := by
  rw [List.eq_nil_iff_forall_not_mem]
  intro i hi
  obtain ⟨hleft, hmigratable⟩ := of_mem_getFilteredResources hi
  have hsystem := h i hleft
  unfold Setting.isSystemUser at hsystem
  rw [Bool.and_eq_true, decide_eq_true_iff, decide_eq_true_iff] at hsystem
  exact hmigratable ((mem_items_of_mem_remaining hleft).2.symm.trans hsystem.1) hsystem.2

/-- Where the loop of `migrate_resource` sees nothing, only the system user is left: a page holds
more than one resource, so a page of system users is not full. -/
theorem onlySystemUserLeft_of_results_nil (hsize : 2 ≤ u.pageSize)
    (honce : (u.items.filter setting.isSystemUser).length ≤ 1)
    (h : (getFilteredResources setting t u).1 = []) : OnlySystemUserLeft setting t u := by
  intro i hi
  refine forall_remaining_of_results_nil ?_ (honce.trans_lt hsize) h hi
  intro i' htype huser hname
  simp [Setting.isSystemUser, htype, huser, hname]

/-- Who is the system user does not change. -/
theorem length_filter_isSystemUser (h : u'.items.map Item.label = u.items.map Item.label) :
    (u'.items.filter setting.isSystemUser).length =
      (u.items.filter setting.isSystemUser).length :=
  length_filter_label (fun l => l.2.1 = .user && some l.2.2 = setting.systemUsername) h

/-- The registry as far as no run changes it. -/
structure SameRegistry (u u' : Upstream) : Prop where
  pageSize : u'.pageSize = u.pageSize
  labels : u'.items.map Item.label = u.items.map Item.label

/-- Runs keep the registry. -/
theorem sameRegistry_worldAfter (setting : Setting) (runs : List TypeRun) (w : World) :
    SameRegistry w.upstream (worldAfter setting runs w).upstream := by
  induction runs generalizing w with
  | nil => exact ⟨rfl, rfl⟩
  | cons run runs ih =>
      have hstep := others_of_perform setting run w
      have hrest := ih (run.perform setting w).1
      exact ⟨hrest.pageSize.trans hstep.pageSize, hrest.labels.trans hstep.labels⟩

/-- What a run has left of a type, no later run brings back. -/
theorem onlySystemUserLeft_perform {run : TypeRun} {w : World}
    (h : OnlySystemUserLeft setting t w.upstream) :
    OnlySystemUserLeft setting t (run.perform setting w).1.upstream := by
  by_cases htype : run.type = t
  · -- The run sees nothing of its type.
    subst htype
    rw [upstream_perform_of_nil (results_nil_of_onlySystemUserLeft h)]
    exact h
  · intro i hi
    exact h i ((others_of_perform setting run w).remaining_subset (Ne.symm htype) hi)

/-- The same for any number of later runs. -/
theorem onlySystemUserLeft_worldAfter (runs : List TypeRun) {w : World}
    (h : OnlySystemUserLeft setting t w.upstream) :
    OnlySystemUserLeft setting t (worldAfter setting runs w).upstream := by
  induction runs generalizing w with
  | nil => exact h
  | cons run runs ih => exact ih (onlySystemUserLeft_perform h)

/-- Once a run for a type has returned, only the system user is left of it. -/
theorem onlySystemUserLeft_of_returnedFor {runs : List TypeRun} {w : World}
    (hsize : 2 ≤ w.upstream.pageSize)
    (honce : (w.upstream.items.filter setting.isSystemUser).length ≤ 1)
    (h : ReturnedFor setting t runs w) :
    OnlySystemUserLeft setting t (worldAfter setting runs w).upstream := by
  obtain ⟨earlier, run, later, rfl, rfl, hreturned⟩ := h
  have hsame := sameRegistry_worldAfter setting (earlier ++ [run]) w
  have hsplit : worldAfter setting (earlier ++ [run]) w =
      (run.perform setting (worldAfter setting earlier w)).1 := List.foldl_append ..
  rw [hsplit] at hsame
  have honly : OnlySystemUserLeft setting run.type
      (run.perform setting (worldAfter setting earlier w)).1.upstream := by
    refine onlySystemUserLeft_of_results_nil ?_ ?_ (results_nil_of_returned hreturned)
    · rw [hsame.pageSize]
      exact hsize
    · rw [length_filter_isSystemUser hsame.labels]
      exact honce
  have hlater := onlySystemUserLeft_worldAfter later honly
  rw [← hsplit] at hlater
  rwa [show worldAfter setting (earlier ++ run :: later) w =
    worldAfter setting later (worldAfter setting (earlier ++ [run]) w) by
      simp [worldAfter, List.foldl_append]]

/-- The check agrees with the migration: it passes once a run has returned for every type, and only
if all that is left is the system user's. -/
theorem alreadySynced_of_returned (setting : Setting) (otherResources : ℕ) {w : World}
    (hname : setting.systemUsername.getD "" ≠ "") (hsize : 2 ≤ w.upstream.pageSize)
    (honce : (w.upstream.items.filter setting.isSystemUser).length ≤ 1)
    (hregistry : w.upstream.items.length + otherResources ≠ 0) :
    (∀ runs : List TypeRun, (∀ t, ReturnedFor setting t runs w) →
        isServiceAlreadySynced setting (worldAfter setting runs w).upstream otherResources =
          true) ∧
      ∀ u n, isServiceAlreadySynced setting u n = true →
        ∀ i ∈ u.unmigrated, setting.isSystemUser i = true := by
  refine ⟨fun runs hreturned => ?_, fun u n h i hi => isSystemUser_of_alreadySynced h hi⟩
  have hsame := sameRegistry_worldAfter setting runs w
  refine alreadySynced_of_isSystemUser hname ?_ ?_ ?_ fun i hi => ?_
  · rw [hsame.pageSize]
    omega
  · rw [length_filter_isSystemUser hsame.labels]
    exact honce
  · have hlength := congrArg List.length hsame.labels
    rw [List.length_map, List.length_map] at hlength
    rw [hlength]
    exact hregistry
  · -- What is left is left of its type.
    refine onlySystemUserLeft_of_returnedFor hsize honce (hreturned i.resourceType) i ?_
    obtain ⟨hitem, hleft⟩ := List.mem_filter.mp hi
    refine List.mem_filter.mpr ⟨hitem, ?_⟩
    rw [Upstream.selects, decide_eq_true rfl, Bool.true_and]
    exact hleft

end Agreement

/-- A controller with the default organization and the system user. -/
def twoResources : Upstream where
  serviceType := "controller"
  serviceId := "ctl"
  pageSize := 50
  items :=
    [⟨1, .organization, "Default", "a-1", "ctl", false, some defaultOrganization⟩,
      ⟨2, .user, "_system", "a-2", "ctl", false, none⟩]
  nodup_pk := by simp
  nodup_ansibleId := by simp

/-- A run for a type on a healthy service. -/
def healthyRun (t : SharedType) : TypeRun :=
  ⟨t, gatewayOwnedBy "gw", healthy, 2⟩

/-- Runs for all types in their order. -/
def allTypes : List TypeRun :=
  [.organization, .team, .user, .roleDefinition, .aapFlag].map healthyRun

/-- The first run hands the organization over. After runs for all types the check passes, with the
system user left. -/
theorem alreadySynced_twoResources :
    isServiceAlreadySynced gatewaySetting twoResources 0 = false ∧
      isServiceAlreadySynced gatewaySetting (worldAfter gatewaySetting allTypes
        (.start (gatewayOwnedBy "gw") twoResources)).upstream 0 = true ∧
      ∀ i ∈ (worldAfter gatewaySetting allTypes
        (.start (gatewayOwnedBy "gw") twoResources)).upstream.unmigrated,
        gatewaySetting.isSystemUser i = true := by
  have hagree := alreadySynced_of_returned gatewaySetting 0
    (w := .start (gatewayOwnedBy "gw") twoResources) (by decide) (by decide) (by decide)
    (by decide)
  have hsynced := hagree.1 allTypes fun t => by
    cases t with
    | organization => exact ⟨[], _, _, rfl, rfl, rfl⟩
    | team => exact ⟨[.organization].map healthyRun, _, _, rfl, rfl, rfl⟩
    | user => exact ⟨[.organization, .team].map healthyRun, _, _, rfl, rfl, rfl⟩
    | roleDefinition => exact ⟨[.organization, .team, .user].map healthyRun, _, _, rfl, rfl, rfl⟩
    | aapFlag =>
        exact ⟨[.organization, .team, .user, .roleDefinition].map healthyRun, _, _, rfl, rfl, rfl⟩
  exact ⟨by decide, hsynced, hagree.2 _ 0 hsynced⟩

end AapGateway.Migration.Resources
