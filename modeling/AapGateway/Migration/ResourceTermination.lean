import Mathlib
import AapGateway.Migration.ResourcePages

/-!
# The end of the migration of resources

`migrate_resource` asks for the resources that the upstream service still owns until there are
none. It ends because every acknowledged item is handed over to the gateway. The exception is an
item that the gateway has under the same ansible id: it is handed to the service that the gateway's
resource names, which may be the upstream service itself.

## Main definitions

* `Upstream.remaining`: the resources that are still to be migrated;
* `NoStaleServiceId`: the condition on the gateway and the upstream service;
* `EndsHandingOver`: the migration ends, and hands all it sends over to the gateway.

## Main results

* `remaining_apply`: an update that hands over takes its item out of the remaining ones;
* `round_spec`: what a round does under the condition;
* `endsHandingOver_of_noStaleServiceId`: the migration ends.
-/

namespace AapGateway.Migration.Resources

section Remaining

variable {t : SharedType} {u u' : Upstream} {b : BulkItem}

/-- The resources that are still to be migrated. -/
def Upstream.remaining (u : Upstream) (t : SharedType) : List Item :=
  u.items.filter (u.selects t)

/-- Updates that fail the filter take the updated elements out of it. -/
theorem filter_map_ite {α : Type} (p q : α → Bool) (f : α → α) (l : List α)
    (h : ∀ a ∈ l, q a = true → p (f a) = false) :
    (l.map fun a => if q a then f a else a).filter p = (l.filter p).filter fun a => !q a := by
  induction l with
  | nil => rfl
  | cons a l ih =>
      have htail := ih fun a' ha' => h a' (List.mem_cons_of_mem a ha')
      cases hq : q a with
      | true =>
          have hp := h a List.mem_cons_self hq
          cases hpa : p a <;> simp [hq, hp, hpa, htail]
      | false => cases hpa : p a <;> simp [hq, hpa, htail]

/-- An update that hands over takes its item out of the remaining ones. -/
theorem remaining_apply (h : u.apply b = some u') {serviceId : String}
    (hid : b.newServiceId = some serviceId) (hne : u.serviceId ≠ serviceId) :
    u'.remaining t = (u.remaining t).filter fun i => !decide (i.ansibleId = b.ansibleId) := by
  obtain ⟨hitems, hservice, -⟩ := apply_eq_some h
  have hselects : u'.selects t = u.selects t := by
    funext i
    rw [Upstream.selects, Upstream.selects, hservice]
  rw [Upstream.remaining, hselects, hitems, Upstream.updated, Upstream.remaining]
  have hfilter := filter_map_ite (u.selects t) (fun i => decide (i.ansibleId = b.ansibleId))
    b.applyTo u.items fun i _ _ => by
      simp [Upstream.selects, BulkItem.applyTo, hid, Ne.symm hne]
  simpa using hfilter

/-- The upstream service has no more left than before. -/
structure Shrinks (t : SharedType) (u u' : Upstream) : Prop where
  serviceId : u'.serviceId = u.serviceId
  sublist : (u'.remaining t).Sublist (u.remaining t)

/-- What an accepted chunk does to the remaining resources. If an item has been acknowledged, it is
not among them. -/
theorem shrinks_applyAll (u : Upstream) (accepts : BulkItem → Bool) {chunk : List BulkItem}
    {serviceId : String} (hids : ∀ b ∈ chunk, b.newServiceId = some serviceId)
    (hne : u.serviceId ≠ serviceId) :
    Shrinks t u (u.applyAll accepts chunk).1 ∧
      (0 < (u.applyAll accepts chunk).2 → ∃ b ∈ chunk,
        ∀ i ∈ (u.applyAll accepts chunk).1.remaining t, i.ansibleId ≠ b.ansibleId) := by
  refine applyAll_inv (fun u' n => Shrinks t u u' ∧ (0 < n → ∃ b ∈ chunk,
    ∀ i ∈ u'.remaining t, i.ansibleId ≠ b.ansibleId)) ?_ ⟨⟨rfl, List.Sublist.refl _⟩, by simp⟩
  -- The last item that was acknowledged is the witness.
  rintro u₁ n b u₂ hb ⟨hshrinks, -⟩ happly
  have hremaining : u₂.remaining t = _ :=
    remaining_apply happly (hids b hb) (by rwa [hshrinks.serviceId])
  refine ⟨⟨(apply_eq_some happly).2.1.trans hshrinks.serviceId, ?_⟩, fun _ => ⟨b, hb, ?_⟩⟩
  · rw [hremaining]
    exact List.filter_sublist.trans hshrinks.sublist
  · intro i hi
    rw [hremaining] at hi
    simpa using (List.mem_filter.mp hi).2

end Remaining

section Condition

variable {setting : Setting} {t : SharedType}

/-- The item is not the excluded system user. -/
def Migratable (setting : Setting) (t : SharedType) (i : Item) : Prop :=
  t = .user → some i.name ≠ setting.systemUsername

/-- The upstream service is not the gateway itself, and where the gateway has an item that is still
to be migrated, with its unique fields and its ansible id, it has it as its own. -/
structure NoStaleServiceId (setting : Setting) (t : SharedType) (g : Gateway) (u : Upstream) :
    Prop where
  ne : u.serviceId ≠ setting.serviceId
  fresh : ∀ i ∈ u.remaining t, Migratable setting t i → ∀ data, i.resourceData = some data →
    ∀ o ∈ g.objects, o.managed = false → o.key = uniqueValues setting t data →
      o.ansibleId = i.ansibleId → o.serviceId = setting.serviceId

/-- The world before the first request. -/
def World.start (g : Gateway) (u : Upstream) : World :=
  ⟨g, u, 0, []⟩

/-- The migration ends, whatever the upstream service answers, and hands all it sends over to the
gateway. -/
def EndsHandingOver (setting : Setting) (t : SharedType) (g : Gateway) (u : Upstream) : Prop :=
  ∀ env : Environment, (∃ fuel, (migrateResource setting t env fuel (.start g u)).2 ≠ .running) ∧
    ∀ fuel, ∀ b ∈ (migrateResource setting t env fuel (.start g u)).1.sent,
      b.newServiceId = some setting.serviceId

/-- The items of a page are among the remaining ones. -/
theorem of_mem_getFilteredResources {u : Upstream} {i : Item}
    (hi : i ∈ (getFilteredResources setting t u).1) :
    i ∈ u.remaining t ∧ Migratable setting t i := by
  unfold getFilteredResources Upstream.listResources at hi
  simp only at hi
  split_ifs at hi with huser
  · rw [List.mem_filter] at hi
    exact ⟨List.mem_of_mem_take hi.1, fun _ => by simpa using hi.2⟩
  · exact ⟨List.mem_of_mem_take hi, fun h => absurd h huser⟩

/-- The condition depends on the profiles of the objects only. -/
theorem NoStaleServiceId.of_profiles {g g' : Gateway} {u : Upstream}
    (h : NoStaleServiceId setting t g u) (hg : g'.profiles = g.profiles) :
    NoStaleServiceId setting t g' u := by
  refine ⟨h.ne, fun i hi hmigratable data hdata o ho hmanaged hkey hid => ?_⟩
  have hmem : o.profile ∈ g.profiles := by
    rw [← hg]
    exact List.mem_map_of_mem ho
  obtain ⟨o', ho', hprofile⟩ := List.mem_map.mp hmem
  simp only [LocalObject.profile, Prod.mk.injEq] at hprofile
  rw [← hprofile.2.2.2]
  exact h.fresh i hi hmigratable data hdata o' ho' (hprofile.2.1.trans hmanaged)
    (hprofile.1.trans hkey) (hprofile.2.2.1.trans hid)

/-- The objects that a page makes are the gateway's own. -/
theorem NoStaleServiceId.of_extends {g g' : Gateway} {u : Upstream} {ops : List CreateOperation}
    (h : NoStaleServiceId setting t g u) (hext : Extends setting t ops g g') :
    NoStaleServiceId setting t g' u := by
  refine ⟨h.ne, fun i hi hmigratable data hdata o ho hmanaged hkey hid => ?_⟩
  rcases hext.made o ho with hbefore | ⟨op, -, hmade⟩
  · exact h.fresh i hi hmigratable data hdata o hbefore hmanaged hkey hid
  · -- A new object has the service id of the gateway.
    exact hmade.serviceId

/-- The condition is about the remaining resources only. -/
theorem NoStaleServiceId.of_shrinks {g : Gateway} {u u' : Upstream}
    (h : NoStaleServiceId setting t g u) (hu : Shrinks t u u') :
    NoStaleServiceId setting t g u' :=
  ⟨by rw [hu.serviceId]; exact h.ne, fun i hi => h.fresh i (hu.sublist.subset hi)⟩

/-- Under the condition every item of the page is handed over. -/
theorem NoStaleServiceId.newServiceId {g : Gateway} {u : Upstream}
    (h : NoStaleServiceId setting t g u) {i : Item} (hi : i ∈ u.remaining t)
    (hmigratable : Migratable setting t i) {create : Option CreateOperation} {b : BulkItem}
    (hb : Reconciled setting t g i create b) :
    b.newServiceId = some setting.serviceId ∧ b.ansibleId = i.ansibleId := by
  cases hb with
  | create data op hdata hkey hid hnew => exact ⟨rfl, rfl⟩
  | merge data o o₀ hdata ho hprofile hmanaged hkey hreads =>
      refine ⟨congrArg some ?_, rfl⟩
      -- With the ansible id of the item the object's own service id is sent, else the gateway's.
      split_ifs with hid
      · simp only [LocalObject.profile, Prod.mk.injEq] at hprofile
        rw [hprofile.2.2.2]
        exact h.fresh i hi hmigratable data hdata o₀ ho (hprofile.2.1.symm.trans hmanaged)
          (hprofile.1.symm.trans hkey) (hprofile.2.2.1.symm.trans hid)
      · rfl

/-- What the worlds of a migration have in common. -/
structure Inv (setting : Setting) (t : SharedType) (w : World) : Prop where
  noStale : NoStaleServiceId setting t w.gateway w.upstream
  sent : ∀ b ∈ w.sent, b.newServiceId = some setting.serviceId

/-- The number of the remaining resources. -/
def World.measure (t : SharedType) (w : World) : ℕ :=
  (w.upstream.remaining t).length

/-- A request keeps the invariant and leaves no more than before. If it acknowledges items, one of
them is not among the remaining ones. -/
theorem post_spec (env : Environment) {w : World} (hw : Inv setting t w) {chunk : List BulkItem}
    (hids : ∀ b ∈ chunk, b.newServiceId = some setting.serviceId) :
    Inv setting t (post env w chunk).1 ∧ Shrinks t w.upstream (post env w chunk).1.upstream ∧
      ∀ n, (post env w chunk).2 = .reply 200 (.dict (n + 1)) → ∃ b ∈ chunk,
        ∀ i ∈ (post env w chunk).1.upstream.remaining t, i.ansibleId ≠ b.ansibleId := by
  obtain ⟨hshrinks, hack⟩ := shrinks_applyAll (t := t) w.upstream
    (env.answer w.requests).accepts hids hw.noStale.ne
  refine ⟨⟨hw.noStale.of_shrinks hshrinks, fun b hb => ?_⟩, hshrinks, fun n hn => ?_⟩
  · rcases List.mem_append.mp hb with hb | hb
    · exact hw.sent b hb
    · exact hids b hb
  · simp only [post] at hn
    -- Only the answer of the service itself acknowledges items.
    cases hfailure : (env.answer w.requests).failure with
    | none =>
        simp only [hfailure, Option.getD_none, Response.reply.injEq, Body.dict.injEq,
          true_and] at hn
        exact hack (by omega)
    | some response =>
        simp only [hfailure, Option.getD_some] at hn
        exact absurd (hfailure.trans (congrArg some hn)) ((env.answer w.requests).failure_ne _)

/-- A bulk update of items of the remaining resources that are handed over. -/
theorem sendBulkUpdate_spec (env : Environment) {w : World}
    (hw : Inv setting t w) {bulks : List BulkItem}
    (hids : ∀ b ∈ bulks, b.newServiceId = some setting.serviceId)
    (hitems : ∀ b ∈ bulks, ∃ i ∈ w.upstream.remaining t, b.ansibleId = i.ansibleId) :
    Inv setting t (sendBulkUpdate (post env) bulks w).1 ∧
      (sendBulkUpdate (post env) bulks w).1.measure t ≤ w.measure t ∧
      ∀ n, (sendBulkUpdate (post env) bulks w).2 = .ok (n + 1) →
        (sendBulkUpdate (post env) bulks w).1.measure t < w.measure t := by
  -- What has been acknowledged is not among the remaining resources, and does not come back.
  let P : World → Prop := fun w' => Inv setting t w' ∧ Shrinks t w.upstream w'.upstream
  let Q : World → Prop := fun w' => ∃ i ∈ w.upstream.remaining t, i ∉ w'.upstream.remaining t
  have hpost : ∀ w' chunk, (∀ b ∈ chunk, b ∈ bulks) → P w' → P (post env w' chunk).1 := by
    rintro w' chunk hchunk ⟨hinv, hshrinks⟩
    obtain ⟨hinv', hshrinks', -⟩ := post_spec env hinv fun b hb => hids b (hchunk b hb)
    exact ⟨hinv', hshrinks'.serviceId.trans hshrinks.serviceId,
      hshrinks'.sublist.trans hshrinks.sublist⟩
  have hkeep : ∀ w' chunk, (∀ b ∈ chunk, b ∈ bulks) → P w' → Q w' → Q (post env w' chunk).1 := by
    rintro w' chunk hchunk ⟨hinv, -⟩ ⟨i, hi, hgone⟩
    obtain ⟨-, hshrinks', -⟩ := post_spec env hinv fun b hb => hids b (hchunk b hb)
    exact ⟨i, hi, fun hback => hgone (hshrinks'.sublist.subset hback)⟩
  have hack : ∀ w' chunk n, (∀ b ∈ chunk, b ∈ bulks) → P w' →
      (post env w' chunk).2 = .reply 200 (.dict (n + 1)) → Q (post env w' chunk).1 := by
    rintro w' chunk n hchunk ⟨hinv, -⟩ hn
    obtain ⟨-, -, hacked⟩ := post_spec env hinv fun b hb => hids b (hchunk b hb)
    obtain ⟨b, hb, hgone⟩ := hacked n hn
    obtain ⟨i, hi, hid⟩ := hitems b (hchunk b hb)
    exact ⟨i, hi, fun hback => hgone i hback hid.symm⟩
  have hstart : P w := ⟨hw, rfl, List.Sublist.refl _⟩
  obtain ⟨hinv, hshrinks⟩ := sendBulkUpdate_inv P hpost hstart
  refine ⟨hinv, hshrinks.sublist.length_le, fun n hn => ?_⟩
  obtain ⟨i, hi, hgone⟩ := sendBulkUpdate_progress P Q hpost hkeep hack hstart hn
  -- A sublist of the same length would still have the item.
  refine lt_of_le_of_ne hshrinks.sublist.length_le fun hlength => hgone ?_
  rwa [hshrinks.sublist.eq_of_length hlength]

/-- What a page does under the condition. -/
theorem processResourcePageBatch_spec (env : Environment) {w : World}
    (hw : Inv setting t w) {results : List Item}
    (hresults : ∀ i ∈ results, i ∈ w.upstream.remaining t ∧ Migratable setting t i) :
    Inv setting t (processResourcePageBatch setting t env w results).1 ∧
      (processResourcePageBatch setting t env w results).1.measure t ≤ w.measure t ∧
      ∀ n, (processResourcePageBatch setting t env w results).2 = .ok (n + 1) →
        (processResourcePageBatch setting t env w results).1.measure t < w.measure t := by
  unfold processResourcePageBatch
  rcases hitems : processItems setting t w.upstream.serviceType w.gateway results with ⟨g, r⟩
  obtain ⟨hg, hreconciled⟩ := reconciled_of_processItems hitems
  have hinv : Inv setting t { w with gateway := g } := ⟨hw.noStale.of_profiles hg, hw.sent⟩
  cases r with
  | error e => exact ⟨hinv, le_refl _, fun n hn => by cases hn⟩
  | ok payloads =>
      obtain ⟨creates, bulks⟩ := payloads
      obtain ⟨hbulks, hcreates⟩ := hreconciled creates bulks rfl
      have hlacks : ∀ op ∈ creates, g.Lacks (uniqueValues setting t op.resourceData) := by
        intro op hop
        obtain ⟨i, -, b, hb⟩ := hcreates op hop
        exact (hb.congr hg.symm).lacks
      simp only
      -- The creations come first, and the updates are about the world that they leave.
      cases hcreate : g.createAll setting t creates with
      | error e => exact ⟨hinv, le_refl _, fun n hn => by cases hn⟩
      | ok g' =>
          have hext := (extends_of_createAll hlacks hcreate).1
          have hinv' : Inv setting t { w with gateway := g' } :=
            ⟨hinv.noStale.of_extends hext, hw.sent⟩
          have hids : ∀ b ∈ bulks, b.newServiceId = some setting.serviceId := by
            intro b hb
            obtain ⟨i, hi, create, hr, -⟩ := hbulks b hb
            exact (hw.noStale.newServiceId (hresults i hi).1 (hresults i hi).2 hr).1
          have hfrom : ∀ b ∈ bulks, ∃ i ∈ w.upstream.remaining t, b.ansibleId = i.ansibleId := by
            intro b hb
            obtain ⟨i, hi, create, hr, -⟩ := hbulks b hb
            exact ⟨i, (hresults i hi).1,
              (hw.noStale.newServiceId (hresults i hi).1 (hresults i hi).2 hr).2⟩
          obtain ⟨hinv'', hle, hlt⟩ :=
            sendBulkUpdate_spec env (w := { w with gateway := g' }) hinv' hids hfrom
          simp only
          split
          · exact ⟨hinv', le_refl _, fun n hn => by cases hn⟩
          · split
            · next w' e hsend =>
                rw [hsend] at hinv'' hle
                exact ⟨hinv'', hle, fun n hn => by cases hn⟩
            · next w' n hsend =>
                rw [hsend] at hinv'' hle hlt
                exact ⟨hinv'', hle, fun m hm => hlt m (congrArg Except.ok (Except.ok.inj hm))⟩

/-- What a round does under the condition. -/
theorem round_spec (env : Environment) {w : World} (hw : Inv setting t w) :
    Inv setting t (migrateRound setting t env w).1 ∧
      (migrateRound setting t env w).1.measure t ≤ w.measure t ∧
      ∀ n, (migrateRound setting t env w).2 = .achieved (n + 1) →
        (migrateRound setting t env w).1.measure t < w.measure t := by
  have hw' : Inv setting t { w with requests := w.requests + 1 } := ⟨hw.noStale, hw.sent⟩
  unfold migrateRound
  split_ifs with hfails
  · exact ⟨hw', le_refl _, fun n hn => by cases hn⟩
  · simp only
    split_ifs with hempty
    · exact ⟨hw', le_refl _, fun n hn => by cases hn⟩
    · obtain ⟨hinv, hle, hlt⟩ := processResourcePageBatch_spec env hw' fun i
        (hi : i ∈ (getFilteredResources setting t w.upstream).1) => of_mem_getFilteredResources hi
      split
      · next w' e hpage =>
          rw [hpage] at hinv hle
          exact ⟨hinv, hle, fun n hn => by cases hn⟩
      · next w' n hpage =>
          rw [hpage] at hinv hle hlt
          refine ⟨hinv, hle, fun m hm => hlt m ?_⟩
          rw [Drain.Round.achieved.inj hm]

/-- The migration ends, and hands all it sends over to the gateway, if no item that is still to be
migrated is one of the gateway's under a stale service id. -/
theorem endsHandingOver_of_noStaleServiceId {g : Gateway} {u : Upstream}
    (h : NoStaleServiceId setting t g u) : EndsHandingOver setting t g u := by
  intro env
  have hstart : Inv setting t (.start g u) := ⟨h, fun b hb => by cases hb⟩
  have hinv : ∀ w, Inv setting t w → Inv setting t (migrateRound setting t env w).1 :=
    fun w hw => (round_spec env hw).1
  constructor
  · -- Each round that counts progress makes the measure smaller, and few others are allowed.
    refine ⟨3 * World.measure t (.start g u) + 3, ?_⟩
    exact Drain.drain_ends (Inv setting t) (World.measure t) hinv
      (fun w hw _ => (round_spec env hw).2.1) (fun w n hw hn => (round_spec env hw).2.2 n hn) hstart
      (by decide) (le_refl _)
  · intro fuel
    exact (Drain.drain_inv (Inv setting t) hinv fuel 0 hstart).sent

end Condition

section Controller

/-- A serializer that takes every value as it is. -/
def plainSerializer : Serializer where
  fields := ["name", "username", "organization", "condition", "is_superuser", "email"]
  clean _ v := .ok v
  crossValid _ := true
  update _ validated := validated
  clean_clean _ := rfl
  clean_blank_email := rfl

/-- The gateway `"gw"`. -/
def gatewaySetting : Setting :=
  ⟨"gw", some "_system", fun _ => plainSerializer⟩

/-- The data of the default organization. -/
def defaultOrganization : ResourceData := fun f =>
  if f = "name" then some (.text "Default") else none

/-- The gateway has the default organization under the ansible id `"a-1"`, owned by the service. -/
def gatewayOwnedBy (serviceId : String) : Gateway where
  objects := [⟨.organization, defaultOrganization, false, "a-1", serviceId⟩]
  nodup_key := by simp
  nodup_ansibleId := by simp

/-- A controller that owns the default organization under the ansible id `"a-1"`. -/
def controllerUpstream : Upstream where
  serviceType := "controller"
  serviceId := "ctl"
  pageSize := 50
  items := [⟨1, .organization, "Default", "a-1", "ctl", false, some defaultOrganization⟩]
  nodup_pk := by simp
  nodup_ansibleId := by simp

/-- A service that applies and acknowledges everything. -/
def healthy : Environment where
  answer _ := ⟨fun _ => true, none, fun n h => by cases h⟩
  listFails _ := false

/-- The migration ends where the gateway has the organization as its own. -/
theorem endsHandingOver_defaultOrganization :
    EndsHandingOver gatewaySetting .organization (gatewayOwnedBy "gw") controllerUpstream := by
  refine endsHandingOver_of_noStaleServiceId ⟨by decide, ?_⟩
  intro i hi _ data _ o ho _ _ _
  rw [List.mem_singleton.mp ho]
  rfl

/-- The update of the organization that the gateway has under a stale service id. -/
def staleUpdate : BulkItem :=
  ⟨"a-1", some "ctl", none, some "a-1", some defaultOrganization⟩

/-- The update of a stale organization is acknowledged and changes nothing. -/
theorem post_stale (g : Gateway) (requests : ℕ) (sent : List BulkItem) :
    post healthy ⟨g, controllerUpstream, requests, sent⟩ [staleUpdate] =
      (⟨g, controllerUpstream, requests + 1, sent ++ [staleUpdate]⟩, .reply 200 (.dict 1)) := by
  have happly : controllerUpstream.apply staleUpdate = some controllerUpstream := by
    simp [Upstream.apply, Upstream.updated, controllerUpstream, BulkItem.applyTo, staleUpdate]
  simp [post, healthy, Upstream.applyAll, happly]

/-- With a stale service id a round leaves everything as it is and counts it as progress. -/
theorem migrateRound_stale (requests : ℕ) (sent : List BulkItem) :
    migrateRound gatewaySetting .organization healthy
        ⟨gatewayOwnedBy "ctl", controllerUpstream, requests, sent⟩ =
      (⟨gatewayOwnedBy "ctl", controllerUpstream, requests + 2, sent ++ [staleUpdate]⟩,
        .achieved 1) := by
  have hresults : (getFilteredResources gatewaySetting .organization controllerUpstream).1 =
      controllerUpstream.items := rfl
  have hitems : processItems gatewaySetting .organization controllerUpstream.serviceType
      (gatewayOwnedBy "ctl") controllerUpstream.items =
        (gatewayOwnedBy "ctl", .ok ([], [staleUpdate])) := rfl
  have hsend : sendBulkUpdate (post healthy) [staleUpdate]
      ⟨gatewayOwnedBy "ctl", controllerUpstream, requests + 1, sent⟩ =
        (⟨gatewayOwnedBy "ctl", controllerUpstream, requests + 2, sent ++ [staleUpdate]⟩,
          .ok 1) := by
    have hchunks : chunksOf [staleUpdate] = [(0, [staleUpdate])] := rfl
    have hattempt : tryBulkUpdateOnce (.reply 200 (.dict 1)) 0 = .data (.dict 1) := rfl
    simp [sendBulkUpdate, hchunks, sendChunks, sendBulkUpdateChunk, maxTransientRetries, attempts,
      post_stale, hattempt, processBulkResponse]
  have hpage : processResourcePageBatch gatewaySetting .organization healthy
      ⟨gatewayOwnedBy "ctl", controllerUpstream, requests + 1, sent⟩ controllerUpstream.items =
        (⟨gatewayOwnedBy "ctl", controllerUpstream, requests + 2, sent ++ [staleUpdate]⟩,
          .ok 1) := by
    have hcreate : (gatewayOwnedBy "ctl").createAll gatewaySetting .organization [] =
        .ok (gatewayOwnedBy "ctl") := rfl
    simp only [processResourcePageBatch, hitems, hcreate, hsend]
  have hne : controllerUpstream.items ≠ [] := by simp [controllerUpstream]
  unfold migrateRound
  simp only [hresults, hpage, hne, if_false]
  rfl

/-- The migration of an organization that the gateway has under the service id of the controller
does not end, and what it sends does not carry the gateway's service id. -/
theorem not_endsHandingOver_stale :
    ¬ EndsHandingOver gatewaySetting .organization (gatewayOwnedBy "ctl") controllerUpstream ∧
      (∀ fuel, (migrateResource gatewaySetting .organization healthy fuel
        (.start (gatewayOwnedBy "ctl") controllerUpstream)).2 = .running) ∧
      ∃ b ∈ (migrateResource gatewaySetting .organization healthy 1
        (.start (gatewayOwnedBy "ctl") controllerUpstream)).1.sent,
          b.newServiceId ≠ some gatewaySetting.serviceId := by
  have hrunning : ∀ fuel, (migrateResource gatewaySetting .organization healthy fuel
      (.start (gatewayOwnedBy "ctl") controllerUpstream)).2 = .running := by
    intro fuel
    refine Drain.drain_running (fun w => ∃ requests sent, w =
      ⟨gatewayOwnedBy "ctl", controllerUpstream, requests, sent⟩) ?_ fuel 0 ⟨0, [], rfl⟩
    rintro w ⟨requests, sent, rfl⟩
    rw [migrateRound_stale]
    exact ⟨⟨_, _, rfl⟩, 0, rfl⟩
  refine ⟨fun h => ?_, hrunning, staleUpdate, ?_, by decide⟩
  · obtain ⟨fuel, hends⟩ := (h healthy).1
    exact hends (hrunning fuel)
  · rw [migrateResource, Drain.drain, World.start, migrateRound_stale]
    exact List.mem_singleton_self _

end Controller

end AapGateway.Migration.Resources
