import AapGateway.ServiceKeys.Keys

/-!
# What a failed key generation leaves behind

`generate_key` makes the previous keys of the cluster inactive before it creates the new one, and
nothing ties these statements together. The deactivations always go through. A creation that is
refused afterwards leaves the cluster without an active key.

## Main definitions

* `deactivatedIn`: the row of a key after the deactivations;
* `Accepted`: the arguments with which the new key is created;
* `AllOrNothing`: a new active key is returned, or the active keys are as before.

## Main results

* `deactivateAll_eq`: the deactivations never raise, and change nothing else;
* `create_cases`: when the new key is created;
* `allOrNothing_iff`: when the generation of a key is all or nothing.
-/

namespace AapGateway.ServiceKeys

section Deactivation

variable {maxActive : ℕ} {t : KeyTable} {key : ServiceKey ℕ}

/-- The row of a key after some keys were made inactive. -/
def deactivatedIn (keys : List (ServiceKey ℕ)) (k : ServiceKey ℕ) : ServiceKey ℕ :=
  if k.pk ∈ keys.map ServiceKey.pk then { k with isActive := false } else k

@[simp]
theorem pk_deactivatedIn (keys : List (ServiceKey ℕ)) (k : ServiceKey ℕ) :
    (deactivatedIn keys k).pk = k.pk := by
  unfold deactivatedIn
  split <;> rfl

@[simp]
theorem name_deactivatedIn (keys : List (ServiceKey ℕ)) (k : ServiceKey ℕ) :
    (deactivatedIn keys k).name = k.name := by
  unfold deactivatedIn
  split <;> rfl

@[simp]
theorem serviceCluster_deactivatedIn (keys : List (ServiceKey ℕ)) (k : ServiceKey ℕ) :
    (deactivatedIn keys k).serviceCluster = k.serviceCluster := by
  unfold deactivatedIn
  split <;> rfl

/-- Nothing is changed for no key. -/
theorem deactivatedIn_nil : deactivatedIn [] = id := by
  funext k
  simp [deactivatedIn]

/-- The keys are made inactive one after the other. -/
theorem deactivatedIn_cons (keys : List (ServiceKey ℕ)) (k : ServiceKey ℕ) :
    deactivatedIn keys (deactivatedIn [key] k) = deactivatedIn (key :: keys) k := by
  unfold deactivatedIn
  by_cases hkey : k.pk = key.pk <;> by_cases hkeys : k.pk ∈ keys.map ServiceKey.pk <;>
    simp_all

/-- A key that is made inactive passes the checks. -/
theorem validationErrors_inactive (hkey : key ∈ t.rows) :
    validationErrors maxActive t { key with pk := some key.pk, isActive := false } = [] := by
  have hold : ∀ old, t.old? { key with pk := some key.pk, isActive := false } = some old →
      old = key := by
    intro old hold
    obtain ⟨pk, hpk, hfind⟩ := Option.bind_eq_some_iff.mp hold
    obtain ⟨hpk, -⟩ := Option.filter_eq_some_iff.mp hpk
    cases hpk
    rw [Table.find?_of_mem t.constraints.1 hkey] at hfind
    exact (Option.some.inj hfind).symm
  unfold validationErrors
  cases h : t.old? { key with pk := some key.pk, isActive := false } with
  | none => simp
  | some old =>
      -- The object was read from the row it is compared with.
      obtain rfl := hold old h
      simp [changedFields]

/-- A key is made inactive in its row. -/
theorem save_inactive (maxActive : ℕ) (hkey : key ∈ t.rows) :
    ∃ t' row, save maxActive t { key with pk := some key.pk, isActive := false } = .ok (t', row) ∧
      t'.rows = t.rows.map (deactivatedIn [key]) := by
  obtain ⟨hpks, hnames, hfits⟩ := t.constraints
  obtain ⟨hname, hsome, halgorithm⟩ := hfits key hkey
  obtain ⟨algorithm, hstored⟩ := Option.isSome_iff_exists.mp hsome
  have hrow : storedRow t { key with pk := some key.pk, isActive := false } =
      some { key with isActive := false } := by
    have hcolumn : key.algorithm = some algorithm := halgorithm ▸ hstored
    unfold storedRow
    rw [show ServiceKey.storedName { key with pk := some key.pk, isActive := false } =
      some key.name from hname, show ServiceKey.storedAlgorithm
      { key with pk := some key.pk, isActive := false } = some algorithm from hstored]
    simp [← hcolumn]
  have hstorable : Storable t { key with pk := some key.pk, isActive := false } := by
    refine ⟨_, hrow, fun other hother hne name hkeyName => ?_⟩
    exact (Table.nodup_filterMap_iff hpks).mp hnames key hkey other hother (Ne.symm hne) name
      hkeyName
  obtain ⟨⟨t', row⟩, hwrite⟩ := exists_write_iff.mpr hstorable
  refine ⟨t', row, ?_, ?_⟩
  · rw [save, validationErrors_inactive hkey]
    exact hwrite
  · obtain ⟨hrow', hrows⟩ := write_eq_ok hwrite
    obtain rfl := Option.some.inj (hrow.symm.trans hrow')
    have hany : (t.rows.any fun b => decide (b.pk = key.pk)) = true :=
      List.any_eq_true.mpr ⟨key, hkey, decide_eq_true rfl⟩
    rw [hrows, Table.upsert, if_pos hany]
    refine List.map_congr_left fun k hk => ?_
    by_cases hpk : k.pk = key.pk
    · obtain rfl := List.inj_on_of_nodup_map hpks hk hkey hpk
      simp [deactivatedIn]
    · simp [deactivatedIn, hpk]

/-- The deactivations never raise, and change nothing but the keys they are about. -/
theorem deactivateAll_eq (maxActive : ℕ) {keys : List (ServiceKey ℕ)}
    (hkeys : ∀ key ∈ keys, key ∈ t.rows) (hnodup : (keys.map ServiceKey.pk).Nodup) :
    ∃ t', deactivateAll maxActive keys t = (t', .ok ()) ∧
      t'.rows = t.rows.map (deactivatedIn keys) := by
  induction keys generalizing t with
  | nil => exact ⟨t, rfl, by rw [deactivatedIn_nil, List.map_id]⟩
  | cons key keys ih =>
      obtain ⟨hkey, hrest⟩ := List.nodup_cons.mp hnodup
      obtain ⟨t₁, row, hsave, hrows⟩ := save_inactive maxActive (hkeys key List.mem_cons_self)
      have hkeys₁ : ∀ k ∈ keys, k ∈ t₁.rows := by
        intro k hk
        have hne : k.pk ≠ key.pk := fun h => hkey (h ▸ List.mem_map_of_mem hk)
        rw [hrows]
        exact List.mem_map.mpr ⟨k, hkeys k (List.mem_cons_of_mem _ hk), by
          simp [deactivatedIn, hne]⟩
      obtain ⟨t', hall, hrows'⟩ := ih hkeys₁ hrest
      refine ⟨t', ?_, ?_⟩
      · rw [deactivateAll, hsave]
        exact hall
      · rw [hrows', hrows, List.map_map]
        exact List.map_congr_left fun k _ => deactivatedIn_cons keys k

/-- The cluster has no active key after its active keys were made inactive. -/
theorem activeKeys_deactivated {cluster : ℕ} {t' : KeyTable}
    (h : t'.rows = t.rows.map (deactivatedIn (t.activeKeys cluster))) :
    t'.activeKeys cluster = [] := by
  rw [KeyTable.activeKeys, h, List.filter_eq_nil_iff]
  intro row hrow
  obtain ⟨k, hk, rfl⟩ := List.mem_map.mp hrow
  rw [serviceCluster_deactivatedIn, decide_eq_true_iff]
  rintro ⟨hcluster, hactive⟩
  have hmem : k.pk ∈ (t.activeKeys cluster).map ServiceKey.pk → False := by
    intro hpk
    rw [deactivatedIn, if_pos hpk] at hactive
    cases hactive
  rw [deactivatedIn, if_neg hmem] at hactive
  exact hmem (List.mem_map_of_mem (List.mem_filter.mpr ⟨hk, decide_eq_true ⟨hcluster, hactive⟩⟩))

/-- The deactivations do not bear on what the database stores for another key. -/
theorem storable_deactivated {keys : List (ServiceKey ℕ)} {t' : KeyTable}
    {k : ServiceKey (Option ℕ)} (h : t'.rows = t.rows.map (deactivatedIn keys)) :
    Storable t' k ↔ Storable t k := by
  have hpks : t'.rows.map ServiceKey.pk = t.rows.map ServiceKey.pk := by
    rw [h, List.map_map]
    exact List.map_congr_left fun k _ => pk_deactivatedIn keys k
  have hrow : storedRow t' k = storedRow t k := by
    unfold storedRow KeyTable.nextPk
    rw [hpks]
  unfold Storable
  rw [hrow, h]
  simp

end Deactivation

section Creation

variable (maxActive : ℕ) (tokenUrlsafe : Option ℤ → Option String) (now : String)
  (cluster : ServiceCluster ℕ) (args : GenerateKeyArgs) (t : KeyTable)

/-- The token is generated, the database stores the new key, and the setting leaves room for it
beside a number of active keys. -/
structure Accepted (active : ℕ) : Prop where
  stored : ∃ secret, tokenUrlsafe args.secretLength = some secret ∧
    Storable t (newKey cluster now args secret)
  room : active < maxActive

/-- A key that was not there before, and is active. -/
structure IsNewKey (t t' : KeyTable) (key : ServiceKey ℕ) : Prop where
  mem : key ∈ t'.rows
  active : key.isActive = true
  ofCluster : key.serviceCluster = cluster.pk
  new : key.pk ∉ t.rows.map ServiceKey.pk

/-- `generate_key` has returned a new active key of the cluster, or has raised and left the active
keys of the cluster as they were. -/
def AllOrNothing (result : KeyTable × Except KeyError (ServiceKey ℕ)) : Prop :=
  match result with
  | (t', .ok key) => IsNewKey cluster t t' key
  | (t', .error _) => ∀ k, k ∈ t'.activeKeys cluster.pk ↔ k ∈ t.activeKeys cluster.pk

/-- The only check of a new key is the one of the limit. -/
theorem validationErrors_newKey (secret : String) :
    validationErrors maxActive t (newKey cluster now args secret) = [] ↔
      (t.activeKeys cluster.pk).length < maxActive := by
  have hothers : t.othersActive (newKey cluster now args secret) = t.activeKeys cluster.pk := by
    refine List.filter_eq_self.mpr fun other _ => ?_
    exact decide_eq_true (Option.some_ne_none other.pk)
  have hold : t.old? (newKey cluster now args secret) = none := rfl
  unfold validationErrors
  rw [hold, hothers]
  simp [newKey]

/-- The new key is created exactly when it is accepted. A refused creation changes nothing. -/
theorem create_cases :
    (∃ e, create maxActive tokenUrlsafe args.secretLength (newKey cluster now args) t =
        (t, .error e) ∧
      ¬ Accepted maxActive tokenUrlsafe now cluster args t (t.activeKeys cluster.pk).length) ∨
    (∃ t' key, create maxActive tokenUrlsafe args.secretLength (newKey cluster now args) t =
        (t', .ok key) ∧
      Accepted maxActive tokenUrlsafe now cluster args t (t.activeKeys cluster.pk).length ∧
      IsNewKey cluster t t' key) := by
  unfold create
  cases htoken : tokenUrlsafe args.secretLength with
  | none =>
      refine Or.inl ⟨_, rfl, fun h => ?_⟩
      obtain ⟨secret, hsecret, -⟩ := h.stored
      rw [htoken] at hsecret
      cases hsecret
  | some secret =>
      dsimp only
      cases hsave : save maxActive t (newKey cluster now args secret) with
      | error e =>
          refine Or.inl ⟨e, rfl, fun h => ?_⟩
          obtain ⟨secret', hsecret, hstorable⟩ := h.stored
          obtain rfl := Option.some.inj (htoken.symm.trans hsecret)
          obtain ⟨result, hwrite⟩ := exists_write_iff.mpr hstorable
          rw [save, (validationErrors_newKey maxActive now cluster args t secret).mpr h.room]
            at hsave
          exact absurd (hwrite.symm.trans hsave) (by simp)
      | ok result =>
          obtain ⟨t', key⟩ := result
          refine Or.inr ⟨t', key, rfl, ?_⟩
          unfold save at hsave
          split at hsave
          · rename_i herrors
            obtain ⟨hrow, hrows⟩ := write_eq_ok hsave
            refine ⟨⟨⟨secret, htoken, exists_write_iff.mp ⟨_, hsave⟩⟩,
              (validationErrors_newKey maxActive now cluster args t secret).mp herrors⟩, ?_⟩
            obtain ⟨name, algorithm, -, -, rfl⟩ := storedRow_eq_some hrow
            exact ⟨hrows ▸ Table.mem_upsert.mpr (Or.inl rfl), rfl, rfl, t.nextPk_notMem⟩
          · cases hsave

variable {maxActive tokenUrlsafe now cluster args t}

/-- Without previous keys to deactivate, a key is created or nothing is changed. -/
theorem allOrNothing_create :
    AllOrNothing cluster t
      (create maxActive tokenUrlsafe args.secretLength (newKey cluster now args) t) := by
  rcases create_cases maxActive tokenUrlsafe now cluster args t with
    ⟨e, h, -⟩ | ⟨t', key, h, -, hnew⟩
  · rw [h]
    exact fun k => Iff.rfl
  · rw [h]
    exact hnew

/-- A creation in a table that differs in the active keys of the cluster is all or nothing exactly
when it goes through. -/
theorem allOrNothing_create_iff {t' : KeyTable} {keys : List (ServiceKey ℕ)}
    (hrows : t'.rows = t.rows.map (deactivatedIn keys)) (hnone : t'.activeKeys cluster.pk = [])
    (hsome : t.activeKeys cluster.pk ≠ []) :
    AllOrNothing cluster t
        (create maxActive tokenUrlsafe args.secretLength (newKey cluster now args) t') ↔
      Accepted maxActive tokenUrlsafe now cluster args t 0 := by
  have haccepted : Accepted maxActive tokenUrlsafe now cluster args t'
      (t'.activeKeys cluster.pk).length ↔ Accepted maxActive tokenUrlsafe now cluster args t 0 := by
    rw [hnone]
    constructor
    · rintro ⟨⟨secret, htoken, hstorable⟩, hroom⟩
      exact ⟨⟨secret, htoken, (storable_deactivated hrows).mp hstorable⟩, hroom⟩
    · rintro ⟨⟨secret, htoken, hstorable⟩, hroom⟩
      exact ⟨⟨secret, htoken, (storable_deactivated hrows).mpr hstorable⟩, hroom⟩
  rcases create_cases maxActive tokenUrlsafe now cluster args t' with
    ⟨e, h, hnot⟩ | ⟨t₁, key, h, hok, hnew⟩
  · rw [h]
    refine ⟨fun hsame => ?_, fun hok => absurd (haccepted.mpr hok) hnot⟩
    -- The keys that were active before are lost.
    obtain ⟨k, hk⟩ := List.exists_mem_of_ne_nil _ hsome
    have hlost := (hsame k).mpr hk
    rw [hnone] at hlost
    exact absurd hlost List.not_mem_nil
  · rw [h]
    refine ⟨fun _ => haccepted.mp hok, fun _ => ⟨hnew.mem, hnew.active, hnew.ofCluster, ?_⟩⟩
    have hpks : t'.rows.map ServiceKey.pk = t.rows.map ServiceKey.pk := by
      rw [hrows, List.map_map]
      exact List.map_congr_left fun k _ => pk_deactivatedIn keys k
    exact hpks ▸ hnew.new

/-- The generation of a key is all or nothing exactly when no previous key has to be deactivated, or
the new key is accepted in the end. -/
theorem allOrNothing_iff (maxActive : ℕ) (tokenUrlsafe : Option ℤ → Option String) (now : String)
    (cluster : ServiceCluster ℕ) (args : GenerateKeyArgs) (t : KeyTable) :
    AllOrNothing cluster t (generateKey maxActive tokenUrlsafe now cluster args t) ↔
      args.markPreviousInactive = false ∨ t.activeKeys cluster.pk = [] ∨
        Accepted maxActive tokenUrlsafe now cluster args t 0 := by
  have hprevious : ∀ {keys : List (ServiceKey ℕ)} {t' : KeyTable},
      (if args.markPreviousInactive then t.activeKeys cluster.pk else []) = keys →
      deactivateAll maxActive keys t = (t', .ok ()) →
      generateKey maxActive tokenUrlsafe now cluster args t =
        create maxActive tokenUrlsafe args.secretLength (newKey cluster now args) t' := by
    intro keys t' hkeys hall
    unfold generateKey
    simp only [hkeys, hall]
  by_cases hnone : (if args.markPreviousInactive then t.activeKeys cluster.pk else []) = []
  · rw [hprevious hnone rfl]
    refine iff_of_true allOrNothing_create ?_
    cases hmark : args.markPreviousInactive with
    | false => exact Or.inl rfl
    | true =>
        rw [hmark, if_pos rfl] at hnone
        exact Or.inr (Or.inl hnone)
  · cases hmark : args.markPreviousInactive with
    | false =>
        rw [hmark] at hnone
        exact absurd rfl hnone
    | true =>
        rw [hmark, if_pos rfl] at hnone
        obtain ⟨t', hall, hrows⟩ := deactivateAll_eq maxActive
          (fun key (hkey : key ∈ t.activeKeys cluster.pk) => (List.mem_filter.mp hkey).1)
          (t.constraints.1.sublist (List.filter_sublist.map _))
        rw [hprevious (by rw [hmark, if_pos rfl]) hall,
          allOrNothing_create_iff hrows (activeKeys_deactivated hrows) hnone]
        simp [hnone]

/-- A second key under the name of the first is refused, after the first was deactivated. -/
theorem not_allOrNothing_sameName :
    ¬ ∀ (maxActive : ℕ) (tokenUrlsafe : Option ℤ → Option String) (now : String)
      (cluster : ServiceCluster ℕ) (args : GenerateKeyArgs) (t : KeyTable),
      AllOrNothing cluster t (generateKey maxActive tokenUrlsafe now cluster args t) := by
  intro h
  have hresult := h 2 (fun _ => some "5ec2e7") "2026-01-01 00:00:00"
    { pk := 1, name := "controller", serviceType := 1, serviceId := none }
    { name := some "controller key" } controllerKeys
  have hlost := (hresult (controllerKeys.rows.head (by decide))).mpr (by decide +kernel)
  revert hlost
  decide +kernel

end Creation

end AapGateway.ServiceKeys
