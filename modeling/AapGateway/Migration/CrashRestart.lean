import Mathlib
import AapGateway.Migration.ResourceTermination

/-!
# Restarts of the migration of resources

The creations of a page and the update of the upstream service are two commits, and the process may
end between them. A run that comes later finds the objects that an earlier one has created by their
unique fields, and does not create them again.

Each upstream item is as it was at the start, or it has been settled: it has the ansible id of the
one gateway object with its unique values. An update cannot hit another item than the one it was
made for: if the ansible id has passed to another item in the meantime, the first one has been
settled, and the update would make the new ansible id a duplicate.

## Main definitions

* `Settles`: an item against the item from the start;
* `afterRuns`: the world after any number of runs, each of which may be cut short;
* `Corresponds`: an item has exactly one gateway object.

## Main results

* `settles_apply`: what one update does to the items;
* `history_round`: what a round does to the items;
* `corresponds_of_returned`: when a run returns, the selected items correspond to gateway objects.
-/

namespace AapGateway.Migration.Resources

section Settles

variable {setting : Setting} {t : SharedType} {u₀ u u' : Upstream} {g g' : Gateway}

/-- The gateway has a visible object with the unique values and the ansible id. -/
def Gateway.HasAt (g : Gateway) (key : SharedType × List (Option Value)) (ansibleId : String) :
    Prop :=
  ∃ o ∈ g.objects, o.managed = false ∧ o.key = key ∧ o.ansibleId = ansibleId

/-- An item against the item from the start: it is the same, or its unique values are the same and
it has the ansible id of the gateway object with these values. -/
def Settles (setting : Setting) (t : SharedType) (g : Gateway) (i₀ i : Item) : Prop :=
  i = i₀ ∨ i.pk = i₀.pk ∧ i.resourceType = i₀.resourceType ∧ i.name = i₀.name ∧
    i₀.resourceType = t ∧ ∃ data₀ data, i₀.resourceData = some data₀ ∧
      i.resourceData = some data ∧ uniqueValues setting t data = uniqueValues setting t data₀ ∧
      g.HasAt (uniqueValues setting t data₀) i.ansibleId

/-- The items against those from the start. -/
structure History (setting : Setting) (t : SharedType) (u₀ : Upstream) (g : Gateway)
    (u : Upstream) : Prop where
  serviceId : u.serviceId = u₀.serviceId
  pageSize : u.pageSize = u₀.pageSize
  labels : u.items.map Item.label = u₀.items.map Item.label
  settles : ∀ i ∈ u.items, ∃ i₀ ∈ u₀.items, Settles setting t g i₀ i

/-- A settled item keeps its primary key. -/
theorem Settles.pk_eq {i₀ i : Item} (h : Settles setting t g i₀ i) : i.pk = i₀.pk := by
  rcases h with rfl | h
  · rfl
  · exact h.1

/-- The unique values of an item are those from the start. -/
theorem Settles.values {i₀ i : Item} (h : Settles setting t g i₀ i) {data : ResourceData}
    (hdata : i.resourceData = some data) : ∃ data₀, i₀.resourceData = some data₀ ∧
      uniqueValues setting t data = uniqueValues setting t data₀ := by
  rcases h with rfl | ⟨-, -, -, -, data₀, data', hdata₀, hdata', hvalues, -⟩
  · exact ⟨data, hdata, rfl⟩
  · cases hdata.symm.trans hdata'
    exact ⟨data₀, hdata₀, hvalues⟩

/-- The type of an item is the one from the start. -/
theorem Settles.type_eq {i₀ i : Item} (h : Settles setting t g i₀ i) :
    i.resourceType = i₀.resourceType := by
  rcases h with rfl | h
  · rfl
  · exact h.2.1

/-- Nothing has happened at the start. -/
theorem History.refl (g : Gateway) (u : Upstream) : History setting t u g u :=
  ⟨rfl, rfl, rfl, fun i hi => ⟨i, hi, Or.inl rfl⟩⟩

/-- Every visible object of one gateway is in the other, up to a promotion. -/
def Gateway.Keeps (g g' : Gateway) : Prop :=
  ∀ key ansibleId, g.HasAt key ansibleId → g'.HasAt key ansibleId

/-- The objects of a gateway with the same profiles. -/
theorem keeps_of_profiles (h : g'.profiles = g.profiles) : g.Keeps g' := by
  rintro key ansibleId ⟨o, ho, hmanaged, hkey, hid⟩
  have hmem : o.profile ∈ g'.profiles := by
    rw [h]
    exact List.mem_map_of_mem ho
  obtain ⟨o', ho', hprofile⟩ := List.mem_map.mp hmem
  simp only [LocalObject.profile, Prod.mk.injEq] at hprofile
  exact ⟨o', ho', hprofile.2.1.trans hmanaged, hprofile.1.trans hkey, hprofile.2.2.1.trans hid⟩

/-- The creations keep the objects. -/
theorem Extends.gatewayKeeps {ops : List CreateOperation} (h : Extends setting t ops g g') :
    g.Keeps g' := by
  rintro key ansibleId ⟨o, ho, hrest⟩
  exact ⟨o, h.keeps o ho, hrest⟩

/-- What has been settled stays settled. -/
theorem Settles.mono (hg : g.Keeps g') {i₀ i : Item} (h : Settles setting t g i₀ i) :
    Settles setting t g' i₀ i := by
  rcases h with rfl | ⟨hpk, htype, hname, ht, data₀, data, hdata₀, hdata, hvalues, hhas⟩
  · exact Or.inl rfl
  · exact Or.inr ⟨hpk, htype, hname, ht, data₀, data, hdata₀, hdata, hvalues, hg _ _ hhas⟩

/-- A history goes on. -/
theorem Settles.trans {i₀ i i' : Item} (h : Settles setting t g i₀ i)
    (h' : Settles setting t g i i') : Settles setting t g i₀ i' := by
  rcases h' with rfl | ⟨hpk, htype, hname, ht, data, data', hdata, hdata', hvalues, hhas⟩
  · exact h
  · obtain ⟨data₀, hdata₀, hvalues₀⟩ := h.values hdata
    have hname₀ : i.name = i₀.name := by
      rcases h with rfl | h
      · rfl
      · exact h.2.2.1
    rw [hvalues₀] at hvalues hhas
    exact Or.inr ⟨hpk.trans h.pk_eq, htype.trans h.type_eq, hname.trans hname₀,
      h.type_eq.symm.trans ht, data₀, data', hdata₀, hdata', hvalues, hhas⟩

/-- A history goes on. -/
theorem History.trans (hg : g.Keeps g') (h : History setting t u₀ g u)
    (h' : History setting t u g' u') : History setting t u₀ g' u' := by
  refine ⟨h'.serviceId.trans h.serviceId, h'.pageSize.trans h.pageSize, h'.labels.trans h.labels,
    fun i' hi' => ?_⟩
  obtain ⟨i, hi, hsettles'⟩ := h'.settles i' hi'
  obtain ⟨i₀, hi₀, hsettles⟩ := h.settles i hi
  exact ⟨i₀, hi₀, (hsettles.mono hg).trans hsettles'⟩

/-- Objects with the same unique values are the same. -/
theorem eq_of_key_eq {o o' : LocalObject} (ho : o ∈ g.objects) (ho' : o' ∈ g.objects)
    (h : o.key = o'.key) : o = o' :=
  List.inj_on_of_nodup_map g.nodup_key ho ho' h

/-- Items with the same primary key are the same. -/
theorem eq_of_pk_eq {i i' : Item} (hi : i ∈ u.items) (hi' : i' ∈ u.items) (h : i.pk = i'.pk) :
    i = i' :=
  List.inj_on_of_nodup_map u.nodup_pk hi hi' h

/-- Items with the same ansible id are the same. -/
theorem item_eq_of_ansibleId_eq {i i' : Item} (hi : i ∈ u.items) (hi' : i' ∈ u.items)
    (h : i.ansibleId = i'.ansibleId) : i = i' :=
  List.inj_on_of_nodup_map u.nodup_ansibleId hi hi' h

end Settles

section Updates

variable {setting : Setting} {t : SharedType} {u₀ u u' : Upstream} {g : Gateway}

/-- An update that was made for an item of the start: it gives the item the ansible id of the
gateway object with its unique values, and leaves these values as they are. -/
structure MadeFor (setting : Setting) (t : SharedType) (g : Gateway) (i : Item) (b : BulkItem) :
    Prop where
  type : i.resourceType = t
  ansibleId : b.ansibleId = i.ansibleId
  settles : ∃ data, i.resourceData = some data ∧
    g.HasAt (uniqueValues setting t data) (b.newAnsibleId.getD i.ansibleId) ∧
    ∀ data', b.resourceData = some data' →
      uniqueValues setting t data' = uniqueValues setting t data

/-- The update of the item that it was made for settles the item. -/
theorem settles_applyTo {i j : Item} {b : BulkItem} (hb : MadeFor setting t g i b)
    (hj : Settles setting t g i j) (hid : j.ansibleId = b.ansibleId) :
    Settles setting t g i (b.applyTo j) := by
  obtain ⟨data, hdata, hhas, hvalues⟩ := hb.settles
  have hname : j.name = i.name := by
    rcases hj with rfl | h
    · rfl
    · exact h.2.2.1
  have hnew : (b.applyTo j).ansibleId = b.newAnsibleId.getD i.ansibleId := by
    rw [← hb.ansibleId, ← hid]
    rfl
  have hdata' : ∃ data', (b.applyTo j).resourceData = some data' ∧
      uniqueValues setting t data' = uniqueValues setting t data := by
    cases hresource : b.resourceData with
    | some data' => exact ⟨data', by simp [BulkItem.applyTo, hresource], hvalues data' hresource⟩
    | none =>
        have hkeep : (b.applyTo j).resourceData = j.resourceData := by
          simp [BulkItem.applyTo, hresource]
        rw [hkeep]
        rcases hj with rfl | ⟨-, -, -, -, data₀, data', hdata₀, hdata', hsame, -⟩
        · exact ⟨data, hdata, rfl⟩
        · cases hdata.symm.trans hdata₀
          exact ⟨data', hdata', hsame⟩
  obtain ⟨data', hdata', hsame⟩ := hdata'
  refine Or.inr ⟨hj.pk_eq, hj.type_eq, hname, hb.type, data, data', hdata, hdata', hsame, ?_⟩
  rwa [hnew]

/-- An update settles the item that it was made for, and hits no other. -/
theorem settles_apply {i : Item} (hi : i ∈ u₀.items) {b : BulkItem}
    (hb : MadeFor setting t g i b) (h : History setting t u₀ g u) (happly : u.apply b = some u') :
    History setting t u₀ g u' := by
  obtain ⟨hitems, hservice, -, hsize, -⟩ := apply_eq_some happly
  refine ⟨hservice.trans h.serviceId, hsize.trans h.pageSize, ?_, fun j' hj' => ?_⟩
  · rw [hitems, map_label_updated]
    exact h.labels
  rw [hitems] at hj'
  obtain ⟨j, hj, rfl⟩ := List.mem_map.mp hj'
  obtain ⟨j₀, hj₀, hsettles⟩ := h.settles j hj
  split_ifs with hid
  · by_cases hsame : j₀ = i
    · subst hsame
      exact ⟨j₀, hj₀, settles_applyTo hb hsettles hid⟩
    · exfalso
      -- The item that the update was made for is there under another ansible id.
      have hpk : i.pk ∈ u.items.map Item.pk := by
        rw [map_pk_of_map_label h.labels]
        exact List.mem_map_of_mem hi
      obtain ⟨c, hc, hcpk⟩ := List.mem_map.mp hpk
      have hcj : c.pk ≠ j.pk := fun hpks =>
        hsame (eq_of_pk_eq hj₀ hi (by rw [← hsettles.pk_eq, ← hpks, hcpk]))
      have hcid : c.ansibleId ≠ b.ansibleId := fun hc' =>
        hcj (congrArg Item.pk (item_eq_of_ansibleId_eq hc hj (hc'.trans hid.symm)))
      obtain ⟨c₀, hc₀, hcsettles⟩ := h.settles c hc
      obtain rfl : c₀ = i := eq_of_pk_eq hc₀ hi (by rw [← hcsettles.pk_eq, hcpk])
      -- So it has been settled, and has the ansible id that the update would give.
      obtain ⟨data, hdata, ⟨o, ho, -, hokey, hoid⟩, -⟩ := hb.settles
      rcases hcsettles with rfl | ⟨-, -, -, -, data₀, -, hdata₀, -, -, o', ho', -, hokey', hoid'⟩
      · exact hcid hb.ansibleId.symm
      · cases hdata.symm.trans hdata₀
        have hoo' : o = o' := eq_of_key_eq ho ho' (hokey.trans hokey'.symm)
        have hcu' : c ∈ u'.items := by
          rw [hitems, Upstream.updated, List.mem_map]
          exact ⟨c, hc, if_neg hcid⟩
        have hju' : b.applyTo j ∈ u'.items := by
          rw [hitems, Upstream.updated, List.mem_map]
          exact ⟨j, hj, if_pos hid⟩
        have hclash : c.ansibleId = (b.applyTo j).ansibleId := by
          have hnew : (b.applyTo j).ansibleId = b.newAnsibleId.getD c₀.ansibleId := by
            rw [← hb.ansibleId, ← hid]
            rfl
          rw [hnew, ← hoid, ← hoid', hoo']
        have hpks : c.pk = (b.applyTo j).pk :=
          congrArg Item.pk (item_eq_of_ansibleId_eq hcu' hju' hclash)
        exact hcj hpks
  · exact ⟨j₀, hj₀, hsettles⟩

/-- A request leaves a history. -/
theorem history_post (env : Environment) {w : World} {chunk : List BulkItem}
    (hchunk : ∀ b ∈ chunk, ∃ i ∈ u₀.items, MadeFor setting t w.gateway i b)
    (h : History setting t u₀ w.gateway w.upstream) :
    (post env w chunk).1.gateway = w.gateway ∧
      History setting t u₀ w.gateway (post env w chunk).1.upstream := by
  refine ⟨rfl, ?_⟩
  refine applyAll_inv (fun u _ => History setting t u₀ w.gateway u) ?_ h
  intro u n b u' hb hu happly
  obtain ⟨i, hi, hmade⟩ := hchunk b hb
  exact settles_apply hi hmade hu happly

/-- A bulk update leaves a history. -/
theorem history_sendBulkUpdate (env : Environment) {w : World} {bulks : List BulkItem}
    (hbulks : ∀ b ∈ bulks, ∃ i ∈ w.upstream.items, MadeFor setting t w.gateway i b) :
    (sendBulkUpdate (post env) bulks w).1.gateway = w.gateway ∧
      History setting t w.upstream w.gateway (sendBulkUpdate (post env) bulks w).1.upstream := by
  refine sendBulkUpdate_inv (fun w' : World => w'.gateway = w.gateway ∧
    History setting t w.upstream w.gateway w'.upstream) ?_ ⟨rfl, History.refl _ _⟩
  rintro w' chunk hchunk ⟨hgateway, hhistory⟩
  rw [← hgateway] at hhistory hbulks ⊢
  exact history_post env (fun b hb => hbulks b (hchunk b hb)) hhistory

end Updates

section Pages

variable {setting : Setting} {t : SharedType} {u₀ u : Upstream} {g g' : Gateway}

/-- The items of the type have distinct unique values. -/
def Upstream.Distinct (setting : Setting) (t : SharedType) (u : Upstream) : Prop :=
  ∀ i ∈ u.items, ∀ i' ∈ u.items, i.resourceType = t → i'.resourceType = t →
    ∀ data data', i.resourceData = some data → i'.resourceData = some data' →
      uniqueValues setting t data = uniqueValues setting t data' → i = i'

/-- The items stay distinct. -/
theorem History.distinct (h : History setting t u₀ g u) (hdistinct : u₀.Distinct setting t) :
    u.Distinct setting t := by
  intro i hi i' hi' htype htype' data data' hdata hdata' hvalues
  obtain ⟨i₀, hi₀, hsettles⟩ := h.settles i hi
  obtain ⟨i₀', hi₀', hsettles'⟩ := h.settles i' hi'
  obtain ⟨data₀, hdata₀, hvalues₀⟩ := hsettles.values hdata
  obtain ⟨data₀', hdata₀', hvalues₀'⟩ := hsettles'.values hdata'
  have hsame : i₀ = i₀' := hdistinct i₀ hi₀ i₀' hi₀' (hsettles.type_eq.symm.trans htype)
    (hsettles'.type_eq.symm.trans htype') data₀ data₀' hdata₀ hdata₀'
    (by rw [← hvalues₀, ← hvalues₀', hvalues])
  exact eq_of_pk_eq hi hi' (by rw [hsettles.pk_eq, hsettles'.pk_eq, hsame])

/-- The updates of a page are made for its items. -/
theorem madeFor_of_reconciled (hdistinct : u.Distinct setting t) {results : List Item}
    (hresults : ∀ i ∈ results, i ∈ u.items ∧ i.resourceType = t) {creates : List CreateOperation}
    (hcreates : ∀ op ∈ creates, ∃ i ∈ results, ∃ b, Reconciled setting t g i (some op) b)
    (hext : Extends setting t creates g g')
    (hhas : ∀ op ∈ creates, g'.Has (uniqueValues setting t op.resourceData)) {i : Item}
    (hi : i ∈ results) {create : Option CreateOperation} {b : BulkItem}
    (hb : Reconciled setting t g i create b) (hcreate : ∀ op ∈ create, op ∈ creates) :
    MadeFor setting t g' i b := by
  obtain ⟨hitem, htype⟩ := hresults i hi
  cases hb with
  | create data op hdata hkey hid hnew =>
      refine ⟨htype, rfl, data, hdata, ?_, fun data' h => by cases h⟩
      obtain ⟨o, ho, hmanaged, hokey⟩ := hhas op (hcreate op rfl)
      rw [hkey] at hokey
      refine ⟨o, ho, hmanaged, hokey, ?_⟩
      -- The object was made for an item with the same unique values, which is this one.
      rcases hext.made o ho with hbefore | ⟨op', hop', hmade⟩
      · exact absurd hokey (hnew o hbefore hmanaged)
      · obtain ⟨i', hi', b', hb'⟩ := hcreates op' hop'
        obtain ⟨hitem', htype'⟩ := hresults i' hi'
        cases hb' with
        | create data' op' hdata' hkey' hid' hnew' =>
            have hsame : i = i' := hdistinct i hitem i' hitem' htype htype' data data' hdata hdata'
              (by rw [← hokey, hmade.key, hkey'])
            rw [hmade.ansibleId, hid', hsame]
            rfl
  | merge data o o₀ hdata ho hprofile hmanaged hkey hreads =>
      refine ⟨htype, rfl, data, hdata, ?_, fun data' h => ?_⟩
      · simp only [LocalObject.profile, Prod.mk.injEq] at hprofile
        exact ⟨o₀, hext.keeps o₀ ho, hprofile.2.1.symm.trans hmanaged,
          hprofile.1.symm.trans hkey, hprofile.2.2.1.symm⟩
      · cases h
        have hotype : o.resourceType = t := congrArg Prod.fst hkey
        rw [LocalObject.ReadsBack, hotype] at hreads
        rw [hreads, hkey]

/-- The items of the page. -/
theorem mem_items_of_mem_remaining {i : Item} (hi : i ∈ u.remaining t) :
    i ∈ u.items ∧ i.resourceType = t := by
  have hselected := List.mem_filter.mp hi
  simp only [Upstream.selects, Bool.and_eq_true, decide_eq_true_eq] at hselected
  exact ⟨hselected.1, hselected.2.1.1⟩

/-- A page leaves a history. -/
theorem history_page (env : Environment) {w : World} (hdistinct : w.upstream.Distinct setting t)
    {results : List Item} (hresults : ∀ i ∈ results, i ∈ w.upstream.remaining t) :
    w.gateway.Keeps (processResourcePageBatch setting t env w results).1.gateway ∧
      History setting t w.upstream (processResourcePageBatch setting t env w results).1.gateway
        (processResourcePageBatch setting t env w results).1.upstream := by
  unfold processResourcePageBatch
  rcases hitems : processItems setting t w.upstream.serviceType w.gateway results with ⟨g, r⟩
  obtain ⟨hg, hreconciled⟩ := reconciled_of_processItems hitems
  have hkeeps := keeps_of_profiles hg
  cases r with
  -- An item that cannot be read stops the page before anything is created or sent.
  | error e => exact ⟨hkeeps, History.refl _ _⟩
  | ok payloads =>
      obtain ⟨creates, bulks⟩ := payloads
      obtain ⟨hbulks, hcreates⟩ := hreconciled creates bulks rfl
      have hcreates' : ∀ op ∈ creates, ∃ i ∈ results, ∃ b,
          Reconciled setting t g i (some op) b := by
        intro op hop
        obtain ⟨i, hi, b, hb⟩ := hcreates op hop
        exact ⟨i, hi, b, hb.congr hg.symm⟩
      -- The processing has looked for the unique values, so that no creation finds them taken.
      have hlacks : ∀ op ∈ creates, g.Lacks (uniqueValues setting t op.resourceData) := by
        intro op hop
        obtain ⟨i, -, b, hb⟩ := hcreates' op hop
        exact hb.lacks
      simp only
      cases hcreate : g.createAll setting t creates with
      -- A creation that fails is rolled back, and nothing is sent.
      | error e => exact ⟨hkeeps, History.refl _ _⟩
      | ok g' =>
          obtain ⟨hext, hhas⟩ := extends_of_createAll hlacks hcreate
          -- What is created changes no key that the gateway had, so that the answers to the service
          -- hold.
          have hkeeps' : w.gateway.Keeps g' := fun key ansibleId h =>
            hext.gatewayKeeps key ansibleId (hkeeps key ansibleId h)
          have hmade : ∀ b ∈ bulks, ∃ i ∈ w.upstream.items, MadeFor setting t g' i b := by
            intro b hb
            obtain ⟨i, hi, create, hr, hop⟩ := hbulks b hb
            exact ⟨i, (mem_items_of_mem_remaining (hresults i hi)).1,
              madeFor_of_reconciled hdistinct
                (fun i hi => mem_items_of_mem_remaining (hresults i hi)) hcreates' hext hhas hi
                (hr.congr hg.symm) hop⟩
          obtain ⟨hsame, hhistory⟩ :=
            history_sendBulkUpdate env (w := { w with gateway := g' }) hmade
          simp only
          split
          · exact ⟨hkeeps', History.refl _ _⟩
          · split
            · next w' e hsend =>
                rw [hsend] at hsame hhistory
                rw [hsame]
                exact ⟨hkeeps', hhistory⟩
            · next w' n hsend =>
                rw [hsend] at hsame hhistory
                rw [hsame]
                exact ⟨hkeeps', hhistory⟩

/-- A round leaves a history. -/
theorem history_round (env : Environment) {w : World} (hdistinct : u₀.Distinct setting t)
    (h : History setting t u₀ w.gateway w.upstream) :
    History setting t u₀ (migrateRound setting t env w).1.gateway
      (migrateRound setting t env w).1.upstream := by
  unfold migrateRound
  split_ifs with hfails
  · exact h
  · simp only
    split_ifs with hempty
    · exact h
    · obtain ⟨hkeeps, hpage⟩ := history_page env
        (w := { w with requests := w.requests + 1 }) (h.distinct hdistinct) fun i
          (hi : i ∈ (getFilteredResources setting t w.upstream).1) =>
            (of_mem_getFilteredResources hi).1
      split
      · next w' e hresult =>
          rw [hresult] at hkeeps hpage
          exact h.trans hkeeps hpage
      · next w' n hresult =>
          rw [hresult] at hkeeps hpage
          exact h.trans hkeeps hpage

end Pages

section Runs

variable {setting : Setting} {t : SharedType} {u₀ u : Upstream} {g : Gateway}

/-- The world after any number of runs. A run is cut short by an environment that interrupts it, or
by its fuel. -/
def afterRuns (setting : Setting) (t : SharedType) (w : World) (runs : List (Environment × ℕ)) :
    World :=
  runs.foldl (fun w run => (migrateResource setting t run.1 run.2 w).1) w

/-- There is exactly one gateway object with the unique values of the item, and it has the item's
ansible id. -/
def Corresponds (setting : Setting) (t : SharedType) (g : Gateway) (i : Item) : Prop :=
  ∃ data, i.resourceData = some data ∧ ∃ o ∈ g.objects,
    o.key = uniqueValues setting t data ∧ o.ansibleId = i.ansibleId ∧
      ∀ o' ∈ g.objects, o'.key = uniqueValues setting t data → o' = o

/-- The item is the excluded system user. -/
def isSystemUser (setting : Setting) (t : SharedType) (i : Item) : Bool :=
  t = .user && some i.name = setting.systemUsername

/-- A settled item corresponds to its object. -/
theorem corresponds_of_hasAt {i : Item} {data : ResourceData} (hdata : i.resourceData = some data)
    (h : g.HasAt (uniqueValues setting t data) i.ansibleId) : Corresponds setting t g i := by
  obtain ⟨o, ho, -, hkey, hid⟩ := h
  exact ⟨data, hdata, o, ho, hkey, hid, fun o' ho' hkey' =>
    eq_of_key_eq ho' ho (hkey'.trans hkey.symm)⟩

/-- Runs leave a history. -/
theorem history_afterRuns (hdistinct : u₀.Distinct setting t) (runs : List (Environment × ℕ))
    {w : World} (h : History setting t u₀ w.gateway w.upstream) :
    History setting t u₀ (afterRuns setting t w runs).gateway
      (afterRuns setting t w runs).upstream := by
  induction runs generalizing w with
  | nil => exact h
  | cons run runs ih =>
      refine ih ?_
      exact Drain.drain_inv (fun w : World => History setting t u₀ w.gateway w.upstream)
        (fun w hw => history_round run.1 hdistinct hw) run.2 0 h

/-- No update changes how many items there are with some labels. -/
theorem length_filter_label (p : ℕ × SharedType × String → Bool)
    (h : u.items.map Item.label = u₀.items.map Item.label) :
    (u.items.filter fun i => p i.label).length = (u₀.items.filter fun i => p i.label).length := by
  have hlabel : ∀ items : List Item, (items.filter fun i => p i.label).length =
      ((items.map Item.label).filter p).length := by
    intro items
    rw [List.filter_map, List.length_map]
    rfl
  rw [hlabel, hlabel, h]

/-- Where a page is longer than the list of the items that include the hidden ones, an empty list of
results means that only such items are left. -/
theorem forall_remaining_of_results_nil {p : Item → Bool}
    (hhidden : ∀ i, i.resourceType = t → t = .user → some i.name = setting.systemUsername →
      p i = true)
    (hsize : (u.items.filter p).length < u.pageSize)
    (h : (getFilteredResources setting t u).1 = []) {i : Item} (hi : i ∈ u.remaining t) :
    p i = true := by
  have hpage : ∀ i ∈ (u.remaining t).take u.pageSize, p i = true := by
    intro i hi
    unfold getFilteredResources Upstream.listResources at h
    simp only at h
    split_ifs at h with huser
    · have htype := (mem_items_of_mem_remaining (List.mem_of_mem_take hi)).2
      have hname := List.filter_eq_nil_iff.mp h i hi
      exact hhidden i htype huser (by simpa using hname)
    · rw [Upstream.remaining, h] at hi
      cases hi
  by_cases hlength : (u.remaining t).length ≤ u.pageSize
  · rw [List.take_of_length_le hlength] at hpage
    exact hpage i hi
  · -- A full page of such items is longer than their list.
    exfalso
    have hsub : ((u.remaining t).take u.pageSize).Sublist u.items :=
      (List.take_sublist _ _).trans List.filter_sublist
    have hle := (hsub.filter p).length_le
    rw [List.filter_eq_self.mpr hpage, List.length_take] at hle
    omega

/-- Restarts of the migration are safe: when a run returns, after any number of runs that may have
been cut short, each item that the migration selects at the start, other than the system user,
corresponds to exactly one gateway object. -/
theorem corresponds_of_returned (hdistinct : u₀.Distinct setting t)
    (hsize : (u₀.items.filter (isSystemUser setting t)).length < u₀.pageSize)
    {runs : List (Environment × ℕ)} {env : Environment} {fuel : ℕ} {w : World}
    (hrun : migrateResource setting t env fuel (afterRuns setting t (.start g u₀) runs) =
      (w, .returned)) :
    ∀ i ∈ w.upstream.items, ∀ i₀ ∈ u₀.items, i₀.pk = i.pk → u₀.selects t i₀ = true →
      Migratable setting t i → Corresponds setting t w.gateway i := by
  intro i hi i₀ hi₀ hpk hselected hmigratable
  have hstart := history_afterRuns hdistinct runs (w := .start g u₀) (History.refl g u₀)
  -- The last round has found nothing, in a world that is the one at the end.
  obtain ⟨w', hw', hround⟩ := Drain.exists_finished_of_returned
    (fun w : World => History setting t u₀ w.gateway w.upstream)
    (fun w hw => history_round env hdistinct hw) hstart (congrArg Prod.snd hrun)
  rw [← migrateResource, hrun] at hround
  unfold migrateRound at hround
  split_ifs at hround with hfails
  · cases hround
  simp only at hround
  split_ifs at hround with hempty
  · cases hround
    obtain ⟨i₁, hi₁, hsettles⟩ := hw'.settles i hi
    obtain rfl : i₁ = i₀ := eq_of_pk_eq hi₁ hi₀ (by rw [← hsettles.pk_eq, hpk])
    rcases hsettles with rfl | ⟨-, -, -, -, data₀, data, -, hdata, hvalues, hhas⟩
    · -- An item from the start would still be selected.
      exfalso
      have hremaining : i ∈ w'.upstream.remaining t := by
        refine List.mem_filter.mpr ⟨hi, ?_⟩
        rw [Upstream.selects, hw'.serviceId]
        exact hselected
      have hsame := length_filter_label
        (fun l => t = .user && some l.2.2 = setting.systemUsername) hw'.labels
      have hsystem : isSystemUser setting t i = true := by
        refine forall_remaining_of_results_nil (p := isSystemUser setting t) ?_ ?_ hempty hremaining
        · intro i' _ huser hname
          simp [isSystemUser, huser, hname]
        · rw [hw'.pageSize]
          exact hsame.trans_lt hsize
      simp only [isSystemUser, Bool.and_eq_true, decide_eq_true_eq] at hsystem
      exact hmigratable hsystem.1 hsystem.2
    · rw [← hvalues] at hhas
      exact corresponds_of_hasAt hdata hhas
  · split at hround <;> cases hround

end Runs

section Controller

/-- A gateway without objects. -/
def emptyGateway : Gateway :=
  ⟨[], List.nodup_nil, List.nodup_nil⟩

/-- The process ends before the answer to the first update. -/
def interrupting : Environment where
  answer _ := ⟨fun _ => false, some .interrupted, fun n h => by cases h⟩
  listFails _ := false

/-- The world after a run that is interrupted once the organization has been created, and one that
goes through. -/
def restarted : World × Drain.Outcome MigrationError :=
  migrateResource gatewaySetting .organization healthy 2
    (afterRuns gatewaySetting .organization (.start emptyGateway controllerUpstream)
      [(interrupting, 1)])

/-- After an interrupted run and one that goes through, the organization is there once. -/
theorem corresponds_restarted :
    restarted.1.upstream.items.map Item.pk = [1] ∧ ∀ i ∈ restarted.1.upstream.items,
      Corresponds gatewaySetting .organization restarted.1.gateway i := by
  have hreturned : restarted.2 = .returned := by decide +kernel
  have hpks : restarted.1.upstream.items.map Item.pk = [1] := by decide +kernel
  have hdistinct : controllerUpstream.Distinct gatewaySetting .organization := by
    intro i hi i' hi' _ _ _ _ _ _ _
    rw [List.mem_singleton.mp hi, List.mem_singleton.mp hi']
  refine ⟨hpks, fun i hi => ?_⟩
  have hpk : i.pk ∈ restarted.1.upstream.items.map Item.pk := List.mem_map_of_mem hi
  rw [hpks, List.mem_singleton] at hpk
  exact corresponds_of_returned hdistinct (by decide) (Prod.ext rfl hreturned) i hi _
    List.mem_cons_self hpk.symm (by decide) fun h => by cases h

/-- The data of a user. -/
def userNamed (username : String) : ResourceData := fun f =>
  if f = "username" then some (.text username) else none

/-- A user of the hub that has been migrated partially. -/
def partiallyMigrated : Upstream where
  serviceType := "hub"
  serviceId := "hub"
  pageSize := 50
  items := [⟨1, .user, "galaxy_bob", "u-1", "hub", true, some (userNamed "galaxy_bob")⟩]
  nodup_pk := by simp
  nodup_ansibleId := by simp

/-- A hub with pages of one resource, the first of which is the system user. -/
def onePerPage : Upstream where
  serviceType := "hub"
  serviceId := "hub"
  pageSize := 1
  items := [⟨1, .user, "_system", "u-1", "hub", false, some (userNamed "_system")⟩,
    ⟨2, .user, "bob", "u-2", "hub", false, some (userNamed "bob")⟩]
  nodup_pk := by simp
  nodup_ansibleId := by simp

/-- The world after one run for the users of a service. -/
def usersAfter (u : Upstream) : World × Drain.Outcome MigrationError :=
  migrateResource gatewaySetting .user healthy 1
    (afterRuns gatewaySetting .user (.start emptyGateway u) [])

/-- Two runs that return and leave users without a gateway object: a user that has been migrated
partially is not selected, and one behind a page of system users is not reached. -/
theorem not_corresponds_unselected :
    (partiallyMigrated.Distinct gatewaySetting .user ∧
      (usersAfter partiallyMigrated).2 = .returned ∧
      ∃ i ∈ (usersAfter partiallyMigrated).1.upstream.items, i.resourceType = .user ∧
        Migratable gatewaySetting .user i ∧
        ¬ Corresponds gatewaySetting .user (usersAfter partiallyMigrated).1.gateway i) ∧
    (onePerPage.Distinct gatewaySetting .user ∧ (usersAfter onePerPage).2 = .returned ∧
      ∃ i ∈ (usersAfter onePerPage).1.upstream.items, i.resourceType = .user ∧
        Migratable gatewaySetting .user i ∧
        ¬ Corresponds gatewaySetting .user (usersAfter onePerPage).1.gateway i) := by
  have hworld : ∀ u, (getFilteredResources gatewaySetting .user u).1 = [] →
      usersAfter u = (⟨emptyGateway, u, 1, []⟩, .returned) := by
    intro u hempty
    simp [usersAfter, afterRuns, migrateResource, Drain.drain, migrateRound, World.start, healthy,
      hempty]
  have hnone : ∀ i, ¬ Corresponds gatewaySetting .user emptyGateway i := by
    rintro i ⟨data, -, o, ho, -⟩
    cases ho
  rw [hworld partiallyMigrated rfl, hworld onePerPage rfl]
  refine ⟨⟨?_, rfl, _, List.mem_cons_self, rfl, fun _ => by decide, hnone _⟩,
    ⟨?_, rfl, _, List.mem_cons_of_mem _ List.mem_cons_self, rfl, fun _ => by decide, hnone _⟩⟩
  · intro i hi i' hi' _ _ _ _ _ _ _
    rw [List.mem_singleton.mp hi, List.mem_singleton.mp hi']
  · intro i hi i' hi' _ _ data data' hdata hdata' hvalues
    have hne : uniqueValues gatewaySetting .user (userNamed "_system") ≠
        uniqueValues gatewaySetting .user (userNamed "bob") := by decide
    simp only [onePerPage, List.mem_cons, List.not_mem_nil, or_false] at hi hi'
    rcases hi with rfl | rfl <;> rcases hi' with rfl | rfl
    · rfl
    · cases hdata
      cases hdata'
      exact absurd hvalues hne
    · cases hdata
      cases hdata'
      exact absurd hvalues.symm hne
    · rfl

end Controller

end AapGateway.Migration.Resources
