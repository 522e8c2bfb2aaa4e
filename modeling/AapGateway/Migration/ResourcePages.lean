import Mathlib
import AapGateway.Migration.ResourceMigration

/-!
# What a page of resources does

A page is handled in three steps. Each item is reconciled with the gateway's objects, the missing
objects are created, and the upstream service is updated. This module says what each of the steps
can do, for every page, every gateway and every answer of the upstream service.

## Main definitions

* `uniqueValues`: the values of the unique fields, as the serializer reads them;
* `Reconciled`: what becomes of an item;
* `Extends`: the gateway after the creations.

## Main results

* `reconciled_of_processItems`: the items of a page are reconciled with the gateway at its start;
* `extends_of_createAll`: the creations leave the objects alone that were there before;
* `apply_eq_some`: what an acknowledged update does to the upstream service.
-/

namespace AapGateway.Migration.Resources

section Serializer

variable {ser : Serializer} {data validated : ResourceData} {errors : List String} {f : String}

/-- Valid data are cleaned, field by field. -/
theorem validate_eq_ok (h : ser.validate data = .ok validated) :
    validated = ser.cleaned data ∧ ∀ f ∈ ser.fields, ∃ v, ser.clean f (data f) = .ok v := by
  unfold Serializer.validate at h
  simp only [ne_eq, ite_not] at h
  split_ifs at h with herrors hcross
  refine ⟨(Except.ok.inj h).symm, fun f hf => ?_⟩
  rw [List.filter_eq_nil_iff] at herrors
  have hclean := herrors f hf
  cases hv : ser.clean f (data f) with
  | error e => simp [hv, Except.toOption] at hclean
  | ok v => exact ⟨v, rfl⟩

/-- The errors of a field are those of its cleaning. -/
theorem clean_of_mem_errors (h : ser.validate data = .error errors) (hf : f ∈ errors)
    (hne : f ≠ "non_field_errors") :
    f ∈ ser.fields ∧ ∀ v, ser.clean f (data f) ≠ .ok v := by
  unfold Serializer.validate at h
  simp only [ne_eq, ite_not] at h
  split_ifs at h with herrors hcross
  · rw [← Except.error.inj h] at hf
    simp only [List.mem_singleton] at hf
    exact absurd hf hne
  · rw [← Except.error.inj h, List.mem_filter] at hf
    refine ⟨hf.1, fun v hv => ?_⟩
    simp [hv, Except.toOption] at hf

/-- A cleaned field depends on its own value only. -/
theorem cleaned_congr {data' : ResourceData} (h : data' f = data f) :
    ser.cleaned data' f = ser.cleaned data f := by
  simp only [Serializer.cleaned, h]

end Serializer

section Unique

variable {setting : Setting} {t : SharedType} {data validated : ResourceData} {g : Gateway}
  {kwargs : List (String × Value)}

/-- The values of the unique fields, as the serializer reads them. -/
def uniqueValues (setting : Setting) (t : SharedType) (data : ResourceData) :
    SharedType × List (Option Value) :=
  (t, t.uniqueFields.map ((setting.serializer t).cleaned data))

/-- The unique fields of the keyword arguments. -/
theorem all_uniqueFilterKwargs (h : uniqueFilterKwargs t.uniqueFields validated = .ok kwargs)
    (data : ResourceData) :
    (kwargs.all fun (f, v) => data f = some v) = true ↔
      t.uniqueFields.map data = t.uniqueFields.map validated := by
  -- The keyword arguments are built field by field.
  generalize t.uniqueFields = fields at h
  induction fields generalizing kwargs with
  | nil =>
      cases h
      simp
  | cons f fields ih =>
      rw [uniqueFilterKwargs, List.mapM_cons] at h
      cases hf : validated f with
      | none => simp [hf, bind, Except.bind] at h
      | some v =>
          cases hrest : uniqueFilterKwargs fields validated with
          | error e =>
              rw [uniqueFilterKwargs] at hrest
              simp [hf, hrest, bind, Except.bind] at h
          | ok rest =>
              have htail := ih hrest
              rw [uniqueFilterKwargs] at hrest
              simp only [hf, hrest, bind, Except.bind, pure, Except.pure, Except.ok.injEq] at h
              subst h
              simp [htail, hf]

/-- The object that is found has the unique fields. -/
theorem get_eq_some (h : uniqueFilterKwargs t.uniqueFields validated = .ok kwargs)
    {o : LocalObject} (ho : g.get t kwargs = some o) :
    o ∈ g.objects ∧ o.managed = false ∧ o.key = (t, t.uniqueFields.map validated) := by
  have hfound := List.find?_some ho
  simp only [Bool.and_eq_true, Bool.not_eq_true', decide_eq_true_eq] at hfound
  obtain ⟨⟨hmanaged, htype⟩, hkwargs⟩ := hfound
  refine ⟨List.mem_of_find?_eq_some ho, hmanaged, ?_⟩
  rw [LocalObject.key, htype, (all_uniqueFilterKwargs h o.data).mp hkwargs]

/-- If none is found, none has the unique fields. -/
theorem key_ne_of_get_eq_none (h : uniqueFilterKwargs t.uniqueFields validated = .ok kwargs)
    (hnone : g.get t kwargs = none) {o : LocalObject} (ho : o ∈ g.objects)
    (hmanaged : o.managed = false) : o.key ≠ (t, t.uniqueFields.map validated) := by
  intro hkey
  have hno := List.find?_eq_none.mp hnone o ho
  have htype : o.resourceType = t := congrArg Prod.fst hkey
  have hvalues : t.uniqueFields.map o.data = t.uniqueFields.map validated := by
    rw [LocalObject.key, htype] at hkey
    exact congrArg Prod.snd hkey
  simp only [hmanaged, htype, (all_uniqueFilterKwargs h o.data).mpr hvalues, Bool.not_false,
    decide_true, Bool.and_self, not_true_eq_false] at hno

end Unique

section Reconcile

variable {setting : Setting} {t : SharedType} {serviceType : String}

/-- What a promotion leaves alone. -/
def LocalObject.profile (o : LocalObject) :
    (SharedType × List (Option Value)) × Bool × String × String :=
  (o.key, o.managed, o.ansibleId, o.serviceId)

/-- The profiles of the objects. -/
def Gateway.profiles (g : Gateway) :
    List ((SharedType × List (Option Value)) × Bool × String × String) :=
  g.objects.map LocalObject.profile

/-- A promotion keeps the profiles. -/
theorem profiles_promote (g : Gateway) (username : Value) :
    (g.promote username).profiles = g.profiles := by
  rw [Gateway.profiles, Gateway.promote, Gateway.profiles, List.map_map]
  refine List.map_congr_left fun o _ => ?_
  simp only [Function.comp_apply]
  split
  · next h =>
      rw [LocalObject.profile, key_promoted h.1]
      rfl
  · rfl

/-- The synchronisation of the superuser flag changes no profile, and only the flag of the data. -/
theorem of_syncUserSuperuserFlag {g g' : Gateway} {data data' validated : ResourceData}
    (h : syncUserSuperuserFlag serviceType g data validated = .ok (g', data')) :
    g'.profiles = g.profiles ∧ ∀ f ≠ "is_superuser", data' f = data f := by
  unfold syncUserSuperuserFlag at h
  split at h
  · cases h
  · simp only at h
    split_ifs at h <;> cases h
    · exact ⟨profiles_promote g _, fun f hf => Function.update_of_ne hf _ _⟩
    · exact ⟨rfl, fun f hf => Function.update_of_ne hf _ _⟩
    · exact ⟨rfl, fun f _ => rfl⟩
    · exact ⟨rfl, fun f hf => Function.update_of_ne hf _ _⟩
    · exact ⟨rfl, fun f _ => rfl⟩

/-- The data are valid, or they are a user's whose e-mail address is not. -/
theorem of_deserialize {ansibleId : String} {data data' validated : ResourceData}
    (h : deserializeAndValidateResourceData setting t ansibleId data = .ok (validated, data')) :
    ((setting.serializer t).validate data = .ok validated ∧ data' = data) ∨
      (t = .user ∧ data' = Function.update data "email" (some (.text "")) ∧
        "email" ∈ (setting.serializer t).fields ∧
        ∀ v, (setting.serializer t).clean "email" (data "email") ≠ .ok v) := by
  unfold deserializeAndValidateResourceData at h
  split at h
  · next validated' hvalid =>
      cases h
      exact Or.inl ⟨hvalid, rfl⟩
  · next errors hinvalid =>
      split at h
      · cases h
      · next updated hupdated =>
          unfold updateResourceData at hupdated
          split_ifs at hupdated with hfixable
          cases h
          exact Or.inr ⟨hfixable.1, (Option.some.inj hupdated).symm,
            clean_of_mem_errors hinvalid hfixable.2.1 (by decide)⟩

/-- Where the e-mail address is clean, the data are valid. -/
theorem validate_of_deserialize {ansibleId : String} {data data' validated : ResourceData}
    (h : deserializeAndValidateResourceData setting t ansibleId data = .ok (validated, data'))
    (hemail : t = .user → "email" ∈ (setting.serializer t).fields →
      ∃ v, (setting.serializer t).clean "email" (data "email") = .ok v) :
    (setting.serializer t).validate data = .ok validated ∧ data' = data := by
  rcases of_deserialize h with ⟨hvalid, rfl⟩ | ⟨huser, -, hfield, hno⟩
  · exact ⟨hvalid, rfl⟩
  · obtain ⟨v, hv⟩ := hemail huser hfield
    exact absurd hv (hno v)

/-- The serializer reads the unique fields of an object as they are. -/
def LocalObject.ReadsBack (setting : Setting) (o : LocalObject) : Prop :=
  uniqueValues setting o.resourceType o.data = o.key

/-- What has been cleaned is clean. -/
theorem uniqueValues_cleaned {data validated : ResourceData}
    (h : (setting.serializer t).validate data = .ok validated) :
    uniqueValues setting t validated = (t, t.uniqueFields.map validated) := by
  obtain ⟨rfl, hclean⟩ := validate_eq_ok h
  rw [uniqueValues]
  refine congrArg (Prod.mk t) (List.map_congr_left fun f _ => ?_)
  by_cases hf : f ∈ (setting.serializer t).fields
  · obtain ⟨v, hv⟩ := hclean f hf
    have hcleaned : (setting.serializer t).cleaned data f = v := by
      simp [Serializer.cleaned, hf, hv]
    rw [hcleaned, Serializer.cleaned, if_pos hf, hcleaned, (setting.serializer t).clean_clean hv]
  · simp [Serializer.cleaned, hf]

/-- The unique values depend on the unique fields only. -/
theorem uniqueValues_congr {data data' : ResourceData}
    (h : ∀ f ∈ t.uniqueFields, data' f = data f) :
    uniqueValues setting t data' = uniqueValues setting t data := by
  rw [uniqueValues, uniqueValues, List.map_congr_left fun f hf => cleaned_congr (h f hf)]

/-- What becomes of an item: it is created, or it is merged with an object of the gateway. The
object of a merge has the profile of one that was there at the start. -/
inductive Reconciled (setting : Setting) (t : SharedType) (g : Gateway) (i : Item) :
    Option CreateOperation → BulkItem → Prop where
  | create (data : ResourceData) (op : CreateOperation) (hdata : i.resourceData = some data)
      (hkey : uniqueValues setting t op.resourceData = uniqueValues setting t data)
      (hid : op.ansibleId = i.ansibleId)
      (hnew : ∀ o ∈ g.objects, o.managed = false → o.key ≠ uniqueValues setting t data) :
      Reconciled setting t g i (some op) ⟨i.ansibleId, some setting.serviceId, none, none, none⟩
  | merge (data : ResourceData) (o o₀ : LocalObject) (hdata : i.resourceData = some data)
      (ho : o₀ ∈ g.objects) (hprofile : o.profile = o₀.profile) (hmanaged : o.managed = false)
      (hkey : o.key = uniqueValues setting t data) (hreads : o.ReadsBack setting) :
      Reconciled setting t g i none
        ⟨i.ansibleId, some (if o.ansibleId = i.ansibleId then o.serviceId else setting.serviceId),
          none, some o.ansibleId, some o.data⟩

/-- Only the profiles of the gateway matter for the reconciliation. -/
theorem Reconciled.congr {g g' : Gateway} (hg : g'.profiles = g.profiles) {i : Item}
    {create : Option CreateOperation} {bulk : BulkItem}
    (h : Reconciled setting t g' i create bulk) : Reconciled setting t g i create bulk := by
  -- Each object of one has a counterpart in the other.
  have hmem : ∀ {g₁ g₂ : Gateway}, g₁.profiles = g₂.profiles → ∀ o ∈ g₁.objects,
      ∃ o' ∈ g₂.objects, o'.profile = o.profile := by
    intro g₁ g₂ hsame o ho
    have hprofile : o.profile ∈ g₁.profiles := List.mem_map_of_mem ho
    rw [hsame] at hprofile
    exact List.mem_map.mp hprofile
  cases h with
  | create data op hdata hkey hid hnew =>
      refine .create data op hdata hkey hid fun o ho hmanaged hvalues => ?_
      obtain ⟨o', ho', hprofile⟩ := hmem hg.symm o ho
      simp only [LocalObject.profile, Prod.mk.injEq] at hprofile
      exact hnew o' ho' (hprofile.2.1.trans hmanaged) (hprofile.1.trans hvalues)
  | merge data o o₀ hdata ho hprofile hmanaged hkey hreads =>
      obtain ⟨o', ho', hprofile'⟩ := hmem hg o₀ ho
      exact .merge data o o' hdata ho' (hprofile.trans hprofile'.symm) hmanaged hkey hreads

/-- The reconciliation with the unique fields of the item's data. -/
theorem reconciled_of_reconcile {g : Gateway} {i : Item} {data data' validated : ResourceData}
    {kwargs : List (String × Value)} (hdata : i.resourceData = some data)
    (hkwargs : uniqueFilterKwargs t.uniqueFields validated = .ok kwargs)
    (hvalid : (setting.serializer t).validate data' = .ok validated)
    (hkey : uniqueValues setting t data' = uniqueValues setting t data) :
    let r := reconcileExistingResource t g i.ansibleId kwargs
      (initializeResourceSyncPayloads setting)
    Reconciled setting t g i (if r.1 then some ⟨data', i.ansibleId⟩ else none)
      (buildBulkUpdateItem i.ansibleId r.2) := by
  intro r
  have hvalidated : (t, t.uniqueFields.map validated) = uniqueValues setting t data := by
    rw [← hkey, uniqueValues, (validate_eq_ok hvalid).1]
  simp only [r, reconcileExistingResource]
  cases hget : g.get t kwargs with
  | none =>
      -- The lookup is by the unique fields, so no object has them.
      refine .create data _ hdata hkey rfl fun o ho hmanaged => ?_
      rw [← hvalidated]
      exact key_ne_of_get_eq_none hkwargs hget ho hmanaged
  | some o =>
      obtain ⟨ho, hmanaged, hokey⟩ := get_eq_some hkwargs hget
      have hreads : o.ReadsBack setting := by
        have htype : o.resourceType = t := congrArg Prod.fst hokey
        have hvalues : t.uniqueFields.map o.data = t.uniqueFields.map validated := by
          rw [LocalObject.key, htype] at hokey
          exact congrArg Prod.snd hokey
        rw [LocalObject.ReadsBack, htype, hokey, ← uniqueValues_cleaned hvalid]
        exact uniqueValues_congr fun f hf => List.map_inj_left.mp hvalues f hf
      -- The ids differ or not; either way the object is merged.
      have hmerge : Reconciled setting t g i none _ :=
        .merge data o o hdata ho rfl hmanaged (hokey.trans hvalidated) hreads
      by_cases hid : o.ansibleId = i.ansibleId
      · simpa [hid, buildBulkUpdateItem, initializeResourceSyncPayloads] using hmerge
      · simpa [hid, buildBulkUpdateItem, initializeResourceSyncPayloads] using hmerge

/-- A user that is read twice has its unique fields from the item. After the first pass the e-mail
address is clean, so the second pass validates. -/
theorem uniqueValues_of_user {g g' : Gateway} {ansibleId : String}
    {data data₁ data₂ data₃ validated validated₂ : ResourceData}
    (hfirst : deserializeAndValidateResourceData setting .user ansibleId data =
      .ok (validated, data₁))
    (hsync : syncUserSuperuserFlag serviceType g data₁ validated = .ok (g', data₂))
    (hsecond : deserializeAndValidateResourceData setting .user ansibleId data₂ =
      .ok (validated₂, data₃)) :
    (setting.serializer .user).validate data₃ = .ok validated₂ ∧
      uniqueValues setting .user data₃ = uniqueValues setting .user data := by
  have hdata₂ := (of_syncUserSuperuserFlag hsync).2
  have hdata₁ : data₁ "username" = data "username" := by
    rcases of_deserialize hfirst with ⟨-, rfl⟩ | ⟨-, rfl, -⟩
    · rfl
    · exact Function.update_of_ne (by decide) _ _
  have hemail : "email" ∈ (setting.serializer .user).fields →
      ∃ v, (setting.serializer .user).clean "email" (data₂ "email") = .ok v := by
    intro hfield
    rw [hdata₂ "email" (by decide)]
    rcases of_deserialize hfirst with ⟨hvalid, rfl⟩ | ⟨-, rfl, -⟩
    · exact (validate_eq_ok hvalid).2 "email" hfield
    · -- An invalid address has been replaced by the empty one.
      exact ⟨_, by simpa using (setting.serializer .user).clean_blank_email⟩
  obtain ⟨hvalid₂, rfl⟩ := validate_of_deserialize hsecond fun _ => hemail
  refine ⟨hvalid₂, uniqueValues_congr fun f hf => ?_⟩
  have hf' : f = "username" := by simpa [SharedType.uniqueFields] using hf
  rw [hf', hdata₂ "username" (by decide), hdata₁]

/-- The reading of an item changes no profile, and the unique fields are those of the item. -/
theorem of_readItem {g g' : Gateway} {i : Item}
    {r : Except MigrationError (ResourceData × ResourceData)}
    (h : readItem setting t serviceType g i = (g', r)) :
    g'.profiles = g.profiles ∧ ∀ validated data', r = .ok (validated, data') →
      ∃ data, i.resourceData = some data ∧
        (setting.serializer t).validate data' = .ok validated ∧
        uniqueValues setting t data' = uniqueValues setting t data := by
  unfold readItem at h
  split at h
  · cases h
    exact ⟨rfl, fun _ _ hr => by cases hr⟩
  · next data hdata =>
      split at h
      · cases h
        exact ⟨rfl, fun _ _ hr => by cases hr⟩
      · next validated data₁ hfirst =>
          split_ifs at h with huser
          · subst huser
            split at h
            · cases h
              exact ⟨rfl, fun _ _ hr => by cases hr⟩
            · next g₂ data₂ hsync =>
                cases h
                refine ⟨(of_syncUserSuperuserFlag hsync).1, fun validated₂ data₃ hsecond => ?_⟩
                exact ⟨data, hdata, uniqueValues_of_user hfirst hsync hsecond⟩
          · cases h
            refine ⟨rfl, fun validated' data' hr => ?_⟩
            cases hr
            obtain ⟨hvalid, rfl⟩ := validate_of_deserialize hfirst fun h => absurd h huser
            exact ⟨_, hdata, hvalid, rfl⟩

/-- What a page does with an item: nothing that a profile shows, and the item is reconciled. -/
theorem of_processItem {g g' : Gateway} {i : Item}
    {r : Except MigrationError (Option CreateOperation × BulkItem)}
    (h : processItem setting t serviceType g i = (g', r)) :
    g'.profiles = g.profiles ∧
      ∀ create bulk, r = .ok (create, bulk) → Reconciled setting t g i create bulk := by
  unfold processItem at h
  split at h
  · next g₁ e hread =>
      cases h
      exact ⟨(of_readItem hread).1, fun _ _ hr => by cases hr⟩
  · next g₁ validated data' hread =>
      obtain ⟨hg₁, hvalues⟩ := of_readItem hread
      obtain ⟨data, hdata, hvalid, hkey⟩ := hvalues validated data' rfl
      split at h
      · cases h
        exact ⟨hg₁, fun _ _ hr => by cases hr⟩
      · next kwargs hkwargs =>
          cases h
          refine ⟨hg₁, fun create bulk hr => ?_⟩
          cases hr
          exact (reconciled_of_reconcile hdata hkwargs hvalid hkey).congr hg₁

/-- The items of a page are reconciled with the gateway at its start. -/
theorem reconciled_of_processItems {g g' : Gateway} {items : List Item}
    {r : Except MigrationError (List CreateOperation × List BulkItem)}
    (h : processItems setting t serviceType g items = (g', r)) :
    g'.profiles = g.profiles ∧ ∀ creates bulks, r = .ok (creates, bulks) →
      (∀ b ∈ bulks, ∃ i ∈ items, ∃ create : Option CreateOperation,
        Reconciled setting t g i create b ∧ ∀ op ∈ create, op ∈ creates) ∧
      ∀ op ∈ creates, ∃ i ∈ items, ∃ b, Reconciled setting t g i (some op) b := by
  induction items generalizing g g' r with
  | nil =>
      cases h
      refine ⟨rfl, fun creates bulks hr => ?_⟩
      cases hr
      exact ⟨by simp, by simp⟩
  | cons i items ih =>
      rw [processItems] at h
      split at h
      · next g₁ e hitem =>
          cases h
          exact ⟨(of_processItem hitem).1, fun _ _ hr => by cases hr⟩
      · next g₁ create bulk hitem =>
          obtain ⟨hg₁, hreconciled⟩ := of_processItem hitem
          split at h
          · next g₂ e hrest =>
              cases h
              exact ⟨(ih hrest).1.trans hg₁, fun _ _ hr => by cases hr⟩
          · next g₂ creates bulks hrest =>
              obtain ⟨hg₂, hall⟩ := ih hrest
              obtain ⟨hbulks, hcreates⟩ := hall creates bulks rfl
              have hfirst := hreconciled create bulk rfl
              cases h
              refine ⟨hg₂.trans hg₁, fun creates' bulks' hr => ?_⟩
              cases hr
              constructor
              · intro b hb
                rcases List.mem_cons.mp hb with rfl | hb
                · exact ⟨i, List.mem_cons_self, create, hfirst, fun op hop =>
                    List.mem_append_left _ (Option.mem_toList.mpr hop)⟩
                · obtain ⟨i', hi', create', hr', hop'⟩ := hbulks b hb
                  exact ⟨i', List.mem_cons_of_mem i hi', create', hr'.congr hg₁, fun op hop =>
                    List.mem_append_right _ (hop' op hop)⟩
              · intro op hop
                rcases List.mem_append.mp hop with hop | hop
                · rw [Option.mem_toList.mp hop] at hfirst
                  exact ⟨i, List.mem_cons_self, bulk, hfirst⟩
                · obtain ⟨i', hi', b', hr'⟩ := hcreates op hop
                  exact ⟨i', List.mem_cons_of_mem i hi', b', hr'.congr hg₁⟩

end Reconcile

section Create

variable {setting : Setting} {t : SharedType} {ops : List CreateOperation} {g₀ g g' : Gateway}
  {op : CreateOperation}

/-- An object that a creation has made. -/
structure Made (setting : Setting) (t : SharedType) (op : CreateOperation) (o : LocalObject) :
    Prop where
  key : o.key = uniqueValues setting t op.resourceData
  ansibleId : o.ansibleId = op.ansibleId
  serviceId : o.serviceId = setting.serviceId
  managed : o.managed = false
  readsBack : o.ReadsBack setting

/-- The gateway after some of the creations: the objects from before are there, and all others have
been made. -/
structure Extends (setting : Setting) (t : SharedType) (ops : List CreateOperation)
    (g₀ g : Gateway) : Prop where
  keeps : ∀ o ∈ g₀.objects, o ∈ g.objects
  made : ∀ o ∈ g.objects, o ∈ g₀.objects ∨ ∃ op ∈ ops, Made setting t op o

/-- No object that is visible has the unique values. -/
def Gateway.Lacks (g : Gateway) (key : SharedType × List (Option Value)) : Prop :=
  ∀ o ∈ g.objects, o.managed = false → o.key ≠ key

/-- The gateway has no unmanaged object with the unique values of one that is created. -/
theorem Reconciled.lacks {g : Gateway} {i : Item} {op : CreateOperation} {bulk : BulkItem}
    (h : Reconciled setting t g i (some op) bulk) :
    g.Lacks (uniqueValues setting t op.resourceData) := by
  cases h with
  | create data op hdata hkey hid hnew =>
      rw [hkey]
      exact hnew

/-- Objects with the same ansible id are the same. -/
theorem eq_of_ansibleId_eq {o o' : LocalObject} (ho : o ∈ g.objects) (ho' : o' ∈ g.objects)
    (h : o.ansibleId = o'.ansibleId) : o = o' :=
  List.inj_on_of_nodup_map g.nodup_ansibleId ho ho' h

/-- A visible object with the unique values. -/
def Gateway.Has (g : Gateway) (key : SharedType × List (Option Value)) : Prop :=
  ∃ o ∈ g.objects, o.managed = false ∧ o.key = key

/-- A replacement of the data that keeps the unique fields keeps the unique values. -/
theorem key_replace (o : LocalObject) (data : ResourceData) (ansibleId : String) :
    LocalObject.key { o with
      data := fun f => if f ∈ o.resourceType.uniqueFields then o.data f else data f
      ansibleId } = o.key :=
  congrArg (Prod.mk _) (List.map_congr_left fun _ hf => if_pos hf)

/-- An update of an object that has been made. -/
theorem extends_replaced (hext : Extends setting t ops g₀ g) (hop : op ∈ ops)
    {existing : LocalObject} (hmem : existing ∈ g.objects) (hmanaged : existing.managed = false)
    (hkey : existing.key = uniqueValues setting t op.resourceData)
    (hfresh : g₀.Lacks (uniqueValues setting t op.resourceData)) (data : ResourceData)
    (h : g'.objects = g.replaced existing data op.ansibleId) :
    Extends setting t ops g₀ g' ∧ ∀ key, g.Has key → g'.Has key := by
  -- The object has been made, since none was there at the start.
  have hnot : existing ∉ g₀.objects := fun hbefore => hfresh existing hbefore hmanaged hkey
  obtain ⟨op', -, hmade⟩ := (hext.made existing hmem).resolve_left hnot
  have hreplaced : ∀ o ∈ g.objects, o.ansibleId ≠ existing.ansibleId → o ∈ g'.objects := by
    intro o ho hne
    rw [h, Gateway.replaced, List.mem_map]
    exact ⟨o, ho, if_neg hne⟩
  refine ⟨⟨fun o ho => hreplaced o (hext.keeps o ho) fun hid => hnot ?_, fun o ho => ?_⟩, ?_⟩
  · rwa [← eq_of_ansibleId_eq (hext.keeps o ho) hmem hid]
  · rw [h, Gateway.replaced, List.mem_map] at ho
    obtain ⟨o', ho', rfl⟩ := ho
    split_ifs with hid
    · obtain rfl := eq_of_ansibleId_eq ho' hmem hid
      have hkey' := key_replace o' data op.ansibleId
      refine Or.inr ⟨op, hop, hkey'.trans hkey, rfl, hmade.serviceId, hmanaged, ?_⟩
      rw [LocalObject.ReadsBack, hkey', ← hmade.readsBack]
      exact uniqueValues_congr fun _ hf => if_pos hf
    · exact hext.made o' ho'
  · rintro key ⟨o, ho, homanaged, rfl⟩
    by_cases hid : o.ansibleId = existing.ansibleId
    · have himage : { o with
          data := fun f => if f ∈ o.resourceType.uniqueFields then o.data f else data f
          ansibleId := op.ansibleId } ∈ g'.objects := by
        rw [h, Gateway.replaced, List.mem_map]
        exact ⟨o, ho, if_pos hid⟩
      exact ⟨_, himage, homanaged, key_replace o data op.ansibleId⟩
    · exact ⟨o, hreplaced o ho hid, homanaged, rfl⟩

/-- A creation makes an object, or updates one that has been made. -/
theorem extends_of_createResource (hext : Extends setting t ops g₀ g) (hop : op ∈ ops)
    (hfresh : g₀.Lacks (uniqueValues setting t op.resourceData))
    (h : g.createResource setting t op = .ok g') :
    Extends setting t ops g₀ g' ∧ g'.Has (uniqueValues setting t op.resourceData) ∧
      ∀ key, g.Has key → g'.Has key := by
  unfold Gateway.createResource at h
  split at h
  · cases h
  · next validated hvalid =>
      have hvalues : (t, t.uniqueFields.map validated) =
          uniqueValues setting t op.resourceData := by
        rw [(validate_eq_ok hvalid).1]
        rfl
      split at h
      · cases h
      · next kwargs hkwargs =>
          split at h
          · next existing hget =>
              simp only at h
              split_ifs at h with hnodup
              obtain ⟨hmem, hmanaged, hkey⟩ := get_eq_some hkwargs hget
              rw [hvalues] at hkey
              obtain ⟨hext', hhas⟩ := extends_replaced hext hop hmem hmanaged hkey hfresh _
                (congrArg Gateway.objects (Except.ok.inj h).symm)
              exact ⟨hext', hhas _ ⟨existing, hmem, hmanaged, hkey⟩, hhas⟩
          · next hget =>
              simp only at h
              split_ifs at h with hnodup
              cases h
              have hmade :
                  Made setting t op ⟨t, validated, false, op.ansibleId, setting.serviceId⟩ :=
                ⟨hvalues, rfl, rfl, rfl, uniqueValues_cleaned hvalid⟩
              refine ⟨⟨fun o ho => List.mem_append_left _ (hext.keeps o ho), fun o ho => ?_⟩,
                ⟨_, List.mem_append_right _ (List.mem_singleton_self _), rfl, hvalues⟩, ?_⟩
              · rcases List.mem_append.mp ho with ho | ho
                · exact hext.made o ho
                · rw [List.mem_singleton.mp ho]
                  exact Or.inr ⟨op, hop, hmade⟩
              · rintro key ⟨o, ho, hokey⟩
                exact ⟨o, List.mem_append_left _ ho, hokey⟩

/-- The creations of a page leave the objects alone that were there before, and make an object for
each of their unique values. -/
theorem extends_of_createAll
    (hfresh : ∀ op ∈ ops, g₀.Lacks (uniqueValues setting t op.resourceData))
    (h : g₀.createAll setting t ops = .ok g') :
    Extends setting t ops g₀ g' ∧
      ∀ op ∈ ops, g'.Has (uniqueValues setting t op.resourceData) := by
  -- The induction is on the creations that remain, those before have made what they are to make.
  have hrest : ∀ (rest : List CreateOperation) (g : Gateway), (∀ op ∈ rest, op ∈ ops) →
      Extends setting t ops g₀ g → g.createAll setting t rest = .ok g' →
      Extends setting t ops g₀ g' ∧
        (∀ op ∈ rest, g'.Has (uniqueValues setting t op.resourceData)) ∧
        ∀ key, g.Has key → g'.Has key := by
    intro rest
    induction rest with
    | nil =>
        intro g _ hext h
        cases h
        exact ⟨hext, by simp, fun _ hkey => hkey⟩
    | cons op rest ih =>
        intro g hsub hext h
        rw [Gateway.createAll, List.foldlM_cons] at h
        cases hstep : g.createResource setting t op with
        | error e => simp [hstep, bind, Except.bind] at h
        | ok g₁ =>
            simp only [hstep, bind, Except.bind] at h
            have hop := hsub op List.mem_cons_self
            obtain ⟨hext₁, hhas₁, hkeep₁⟩ :=
              extends_of_createResource hext hop (hfresh op hop) hstep
            obtain ⟨hext', hhas', hkeep'⟩ :=
              ih g₁ (fun op' hop' => hsub op' (List.mem_cons_of_mem op hop')) hext₁ h
            refine ⟨hext', fun op' hop' => ?_, fun key hkey => hkeep' key (hkeep₁ key hkey)⟩
            rcases List.mem_cons.mp hop' with rfl | hop'
            · exact hkeep' _ hhas₁
            · exact hhas' op' hop'
  obtain ⟨hext, hhas, -⟩ := hrest ops g₀ (fun _ hop => hop)
    ⟨fun _ ho => ho, fun _ ho => Or.inl ho⟩ h
  exact ⟨hext, hhas⟩

end Create

section Apply

variable {u u' : Upstream} {b : BulkItem}

/-- What an acknowledged update does to the upstream service. -/
theorem apply_eq_some (h : u.apply b = some u') :
    u'.items = u.updated b ∧ u'.serviceId = u.serviceId ∧ u'.serviceType = u.serviceType ∧
      u'.pageSize = u.pageSize ∧ ∃ i ∈ u.items, i.ansibleId = b.ansibleId := by
  unfold Upstream.apply at h
  split_ifs at h with hok
  cases h
  obtain ⟨i, hi, hid⟩ := List.mem_map.mp hok.1
  exact ⟨rfl, rfl, rfl, rfl, i, hi, hid⟩

/-- The items that the service acknowledges are applied one after the other. -/
theorem applyAll_inv (P : Upstream → ℕ → Prop) {accepts : BulkItem → Bool} {chunk : List BulkItem}
    (hstep : ∀ u n b u', b ∈ chunk → P u n → u.apply b = some u' → P u' (n + 1))
    (h : P u 0) : P (u.applyAll accepts chunk).1 (u.applyAll accepts chunk).2 := by
  unfold Upstream.applyAll
  refine List.foldlRecOn (motive := fun a : Upstream × ℕ => P a.1 a.2) chunk _ h
    fun a ha b hb => ?_
  split
  · exact ha
  · next u' hu' =>
      split_ifs at hu' with haccepts
      exact hstep a.1 a.2 b u' hb ha hu'

end Apply

end AapGateway.Migration.Resources
