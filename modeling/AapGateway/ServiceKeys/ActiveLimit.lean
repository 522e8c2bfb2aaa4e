import AapGateway.ServiceKeys.Keys

/-!
# The limit of active keys under concurrent saves

A save that makes a key active counts the other active keys of the cluster, and writes the key in a
later statement. Nothing locks the table in between, so a count can be out of date when its key is
written: it does not see the keys that were made active since.

## Main definitions

* `step`: the count or the write of one save, while others wait between theirs;
* `activatedSince`: the keys of the cluster that are active, and were not when a save counted;
* `HasRoom`: a save has counted few enough active keys to allow for those.

## Main results

* `sees_run`: what a waiting save has counted stays active;
* `withinLimit_iff`: a schedule stays within the limit exactly when every save that is stored has
  room;
* `withinLimit_of_not_overtaken`: so it does if no save is stored between the count and the write of
  another.
-/

namespace AapGateway.ServiceKeys

/-- A key that is saved to be active: a creation has no primary key, an activation has one. -/
structure Activation (cluster : ℕ) where
  key : ServiceKey (Option ℕ)
  ofCluster : key.serviceCluster = cluster
  active : key.isActive = true

/-- A save between its count and its write, with the table that it has counted. -/
structure Waiting (cluster : ℕ) extends Activation cluster where
  counted : KeyTable

/-- The table, and the saves between their count and their write. -/
structure Saves (cluster : ℕ) where
  table : KeyTable
  waiting : List (Waiting cluster) := []

/-- What one of the saves does next. -/
inductive Event (cluster : ℕ) where
  /-- A save begins, and makes the checks of `ServiceKey.save`. -/
  | count (activation : Activation cluster)
  /-- A save that has passed its checks writes its key. -/
  | write (i : ℕ)

/-- One statement of a save. -/
def step (maxActive : ℕ) {cluster : ℕ} (s : Saves cluster) : Event cluster → Saves cluster
  | .count activation =>
    match validationErrors maxActive s.table activation.key with
    | [] => { s with waiting := s.waiting ++ [⟨activation, s.table⟩] }
    | _ => s
  | .write i =>
    match s.waiting[i]? with
    | none => s
    | some w =>
      match write s.table w.key with
      | .ok (table, _) => { table, waiting := s.waiting.eraseIdx i }
      | .error _ => { s with waiting := s.waiting.eraseIdx i }

/-- Any number of saves, interleaved in any way. -/
def run (maxActive : ℕ) {cluster : ℕ} (t : KeyTable) (schedule : List (Event cluster)) :
    Saves cluster :=
  schedule.foldl (step maxActive) { table := t }

/-- The cluster has no more active keys than the setting allows. -/
def WithinLimit (maxActive cluster : ℕ) (t : KeyTable) : Prop :=
  (t.activeKeys cluster).length ≤ maxActive

instance (maxActive cluster : ℕ) (t : KeyTable) : Decidable (WithinLimit maxActive cluster t) :=
  inferInstanceAs (Decidable (_ ≤ _))

section Room

variable {cluster : ℕ}

/-- The other keys that are active now, and were not when a save counted them. -/
def activatedSince (w : Waiting cluster) (t : KeyTable) : List (ServiceKey ℕ) :=
  (t.othersActive w.key).filter fun k => k.pk ∉ (w.counted.othersActive w.key).map ServiceKey.pk

/-- The keys that were made active since a save has counted are fewer than it has found room
for. -/
def HasRoom (maxActive : ℕ) (w : Waiting cluster) (t : KeyTable) : Prop :=
  (w.counted.othersActive w.key).length + (activatedSince w t).length < maxActive

/-- The keys that a save has counted are still active. -/
def Sees (w : Waiting cluster) (t : KeyTable) : Prop :=
  (w.counted.othersActive w.key).map ServiceKey.pk ⊆ (t.othersActive w.key).map ServiceKey.pk

variable {maxActive : ℕ} {s : Saves cluster} {t t' : KeyTable} {w : Waiting cluster}
  {k : ServiceKey (Option ℕ)} {row : ServiceKey ℕ}

/-- The primary keys of the other active keys are distinct. -/
theorem nodup_othersActive (t : KeyTable) (k : ServiceKey (Option ℕ)) :
    ((t.othersActive k).map ServiceKey.pk).Nodup :=
  t.constraints.1.sublist ((List.filter_sublist.trans List.filter_sublist).map _)

/-- The other keys of the stored row are those of its object. -/
theorem othersActive_eq (h : storedRow t k = some row) :
    t.othersActive k = (t.activeKeys k.serviceCluster).filter fun other => other.pk ≠ row.pk := by
  obtain ⟨name, algorithm, -, -, rfl⟩ := storedRow_eq_some h
  refine List.filter_congr fun other hother => ?_
  cases hpk : k.pk with
  | none =>
      -- The primary key of a new row is not in the table.
      have hne : other.pk ≠ t.nextPk := fun heq =>
        t.nextPk_notMem (heq ▸ List.mem_map_of_mem (List.mem_filter.mp hother).1)
      simp [hne]
  | some pk => simp

/-- The active keys after a write are the other ones and the key itself. -/
theorem activeKeys_upsert_perm (hrow : storedRow t k = some row) (hactive : k.isActive = true)
    (hrows : t'.rows = Table.upsert ServiceKey.pk row t.rows) :
    (t'.activeKeys k.serviceCluster).Perm (row :: t.othersActive k) := by
  have hothers := othersActive_eq hrow
  have hnew : row.serviceCluster = k.serviceCluster ∧ row.isActive = true := by
    obtain ⟨name, algorithm, -, -, rfl⟩ := storedRow_eq_some hrow
    exact ⟨rfl, hactive⟩
  have hnodup : (row :: t.othersActive k).Nodup := by
    refine List.nodup_cons.mpr ⟨fun hmem => ?_, (nodup_othersActive t k).of_map _⟩
    rw [hothers] at hmem
    exact of_decide_eq_true (List.mem_filter.mp hmem).2 rfl
  refine (List.perm_ext_iff_of_nodup ((t'.constraints.1.of_map _).filter _) hnodup).mpr
    fun other => ?_
  rw [List.mem_cons, hothers]
  simp only [KeyTable.activeKeys, List.mem_filter, hrows, Table.mem_upsert, decide_eq_true_eq]
  constructor
  · rintro ⟨rfl | ⟨hother, hne⟩, hcluster⟩
    · exact Or.inl rfl
    · exact Or.inr ⟨⟨hother, hcluster⟩, hne⟩
  · rintro (rfl | ⟨⟨hother, hcluster⟩, hne⟩)
    · exact ⟨Or.inl rfl, hnew⟩
    · exact ⟨Or.inr ⟨hother, hne⟩, hcluster⟩

/-- A write keeps the other keys of any object active. -/
theorem othersActive_subset_of_write {j : ServiceKey (Option ℕ)}
    (hcluster : j.serviceCluster = k.serviceCluster) (hactive : k.isActive = true)
    (hwrite : write t k = .ok (t', row)) :
    (t.othersActive j).map ServiceKey.pk ⊆ (t'.othersActive j).map ServiceKey.pk := by
  obtain ⟨hrow, hrows⟩ := write_eq_ok hwrite
  have hperm := activeKeys_upsert_perm hrow hactive hrows
  intro pk hpk
  obtain ⟨other, hother, rfl⟩ := List.mem_map.mp hpk
  obtain ⟨hother, hne⟩ := List.mem_filter.mp hother
  rw [hcluster] at hother
  by_cases hsame : other.pk = row.pk
  · -- The row itself was active before, and is so after the write.
    refine List.mem_map.mpr ⟨row, List.mem_filter.mpr ⟨?_, hsame ▸ hne⟩, hsame.symm⟩
    rw [hcluster]
    exact hperm.mem_iff.mpr List.mem_cons_self
  · refine List.mem_map.mpr ⟨other, List.mem_filter.mpr ⟨?_, hne⟩, rfl⟩
    rw [hcluster]
    refine hperm.mem_iff.mpr (List.mem_cons_of_mem _ ?_)
    rw [othersActive_eq hrow]
    exact List.mem_filter.mpr ⟨hother, decide_eq_true hsame⟩

/-- The other active keys are the ones that were counted and the ones made active since. -/
theorem length_othersActive (h : Sees w t) :
    (t.othersActive w.key).length =
      (w.counted.othersActive w.key).length + (activatedSince w t).length := by
  have hcounted : ((t.othersActive w.key).filter fun k =>
      k.pk ∈ (w.counted.othersActive w.key).map ServiceKey.pk).length =
      (w.counted.othersActive w.key).length := by
    have hpks : (((t.othersActive w.key).filter fun k =>
        k.pk ∈ (w.counted.othersActive w.key).map ServiceKey.pk).map ServiceKey.pk).Perm
        ((w.counted.othersActive w.key).map ServiceKey.pk) := by
      refine (List.perm_ext_iff_of_nodup
        ((nodup_othersActive t w.key).sublist (List.filter_sublist.map _))
        (nodup_othersActive w.counted w.key)).mpr fun pk => ⟨fun hpk => ?_, fun hpk => ?_⟩
      · obtain ⟨k, hk, rfl⟩ := List.mem_map.mp hpk
        exact of_decide_eq_true (List.mem_filter.mp hk).2
      · obtain ⟨k, hk, rfl⟩ := List.mem_map.mp (h hpk)
        exact List.mem_map_of_mem (List.mem_filter.mpr ⟨hk, decide_eq_true hpk⟩)
    simpa using hpks.length_eq
  rw [activatedSince, ← hcounted]
  simp only [decide_not]
  exact (t.othersActive w.key).length_eq_length_filter_add fun k =>
    decide (k.pk ∈ (w.counted.othersActive w.key).map ServiceKey.pk)

end Room

section Runs

variable {cluster maxActive : ℕ} {s : Saves cluster} {t : KeyTable} {w : Waiting cluster}

/-- What one statement of a save does: nothing, or it joins the waiting saves, or it leaves them,
and only then the table can change. -/
theorem step_cases (maxActive : ℕ) (s : Saves cluster) (e : Event cluster) :
    step maxActive s e = s ∨
    (∃ activation : Activation cluster, validationErrors maxActive s.table activation.key = [] ∧
      step maxActive s e = { s with waiting := s.waiting ++ [⟨activation, s.table⟩] }) ∨
    ∃ i w table, e = .write i ∧ s.waiting[i]? = some w ∧
      step maxActive s e = { table, waiting := s.waiting.eraseIdx i } ∧
      (table = s.table ∧ ¬ Storable s.table w.key ∨
        ∃ row, write s.table w.key = .ok (table, row)) := by
  cases e with
  | count activation =>
      rw [step.eq_def]
      dsimp only
      split
      · rename_i hvalid
        exact Or.inr (Or.inl ⟨activation, hvalid, rfl⟩)
      · exact Or.inl rfl
  | write i =>
      cases hw : s.waiting[i]? with
      | none => exact Or.inl (by simp only [step, hw])
      | some w =>
          refine Or.inr (Or.inr ?_)
          cases hwrite : write s.table w.key with
          | error e =>
              refine ⟨i, w, s.table, rfl, hw, by simp only [step, hw, hwrite],
                Or.inl ⟨rfl, fun hstorable => ?_⟩⟩
              obtain ⟨result, hok⟩ := exists_write_iff.mpr hstorable
              rw [hwrite] at hok
              cases hok
          | ok result =>
              exact ⟨i, w, result.1, rfl, hw, by simp only [step, hw, hwrite],
                Or.inr ⟨result.2, hwrite⟩⟩

/-- Every waiting save still sees the keys that it has counted. -/
theorem sees_step (h : ∀ w ∈ s.waiting, Sees w s.table) (e : Event cluster) :
    ∀ w ∈ (step maxActive s e).waiting, Sees w (step maxActive s e).table := by
  rcases step_cases maxActive s e with hstep | ⟨activation, -, hstep⟩ |
    ⟨i, w, table, -, hw, hstep, htable⟩ <;> rw [hstep]
  · exact h
  · intro w hw
    rcases List.mem_append.mp hw with hold | hnew
    · exact h w hold
    · obtain rfl := List.mem_singleton.mp hnew
      exact List.Subset.refl _
  · intro v hv
    have hsees := h v (List.mem_of_mem_eraseIdx hv)
    rcases htable with ⟨rfl, -⟩ | ⟨row, hwrite⟩
    · exact hsees
    · have hcluster : v.key.serviceCluster = w.key.serviceCluster :=
        v.ofCluster.trans w.ofCluster.symm
      exact List.Subset.trans hsees (othersActive_subset_of_write hcluster w.active hwrite)

/-- The last event of a schedule is a step from the state before it. -/
theorem run_append_singleton (maxActive : ℕ) (t : KeyTable) (before : List (Event cluster))
    (e : Event cluster) :
    run maxActive t (before ++ [e]) = step maxActive (run maxActive t before) e := by
  rw [run, List.foldl_append]
  rfl

/-- What the waiting saves have counted stays active over a whole schedule. -/
theorem sees_run (maxActive : ℕ) (t : KeyTable) (schedule : List (Event cluster)) :
    ∀ w ∈ (run maxActive t schedule).waiting, Sees w (run maxActive t schedule).table := by
  induction schedule using List.reverseRecOn with
  | nil => exact fun w hw => absurd hw List.not_mem_nil
  | append_singleton schedule e ih =>
      rw [run_append_singleton]
      exact sees_step ih e

/-- A waiting save has passed the checks with what it has counted. -/
theorem validationErrors_counted (maxActive : ℕ) (t : KeyTable) (schedule : List (Event cluster)) :
    ∀ w ∈ (run maxActive t schedule).waiting, validationErrors maxActive w.counted w.key = [] := by
  induction schedule using List.reverseRecOn with
  | nil => exact fun w hw => absurd hw List.not_mem_nil
  | append_singleton schedule e ih =>
      rw [run_append_singleton]
      rcases step_cases maxActive (run maxActive t schedule) e with hstep |
        ⟨activation, hvalid, hstep⟩ | ⟨i, w, table, -, -, hstep, -⟩ <;> rw [hstep]
      · exact ih
      · intro w hw
        rcases List.mem_append.mp hw with hold | hnew
        · exact ih w hold
        · obtain rfl := List.mem_singleton.mp hnew
          exact hvalid
      · exact fun v hv => ih v (List.mem_of_mem_eraseIdx hv)

/-- The active keys after a save that is stored. -/
theorem length_activeKeys_write {i : ℕ} (hsees : Sees w s.table) (hw : s.waiting[i]? = some w)
    (hstorable : Storable s.table w.key) :
    ((step maxActive s (.write i)).table.activeKeys cluster).length =
      (w.counted.othersActive w.key).length + (activatedSince w s.table).length + 1 := by
  obtain ⟨⟨table, row⟩, hwrite⟩ := exists_write_iff.mpr hstorable
  obtain ⟨hrow, hrows⟩ := write_eq_ok hwrite
  have hperm := activeKeys_upsert_perm hrow w.active hrows
  have htable : (step maxActive s (.write i)).table = table := by
    simp only [step, hw, hwrite]
  rw [w.ofCluster] at hperm
  rw [htable, hperm.length_eq, List.length_cons, length_othersActive hsees]

/-- A save that has room, or is not stored, keeps the limit. -/
theorem withinLimit_step (h : WithinLimit maxActive cluster s.table) (e : Event cluster)
    (hsees : ∀ w ∈ s.waiting, Sees w s.table)
    (hroom : ∀ i w, e = .write i → s.waiting[i]? = some w → Storable s.table w.key →
      HasRoom maxActive w s.table) :
    WithinLimit maxActive cluster (step maxActive s e).table := by
  rcases step_cases maxActive s e with hstep | ⟨activation, -, hstep⟩ |
    ⟨i, w, table, rfl, hw, hstep, ⟨rfl, -⟩ | ⟨row, hwrite⟩⟩
  · rw [hstep]
    exact h
  · rw [hstep]
    exact h
  · rw [hstep]
    exact h
  · have hstorable := exists_write_iff.mp ⟨_, hwrite⟩
    rw [WithinLimit, length_activeKeys_write (hsees w (List.mem_of_getElem? hw)) hw hstorable]
    exact hroom i w rfl hw hstorable

/-- A schedule whose stored saves all have room stays within the limit. -/
theorem withinLimit_run_of_hasRoom (hlimit : WithinLimit maxActive cluster t)
    {schedule : List (Event cluster)}
    (h : ∀ before i, before ++ [.write i] <+: schedule →
      ∀ w, (run maxActive t before).waiting[i]? = some w →
        Storable (run maxActive t before).table w.key →
          HasRoom maxActive w (run maxActive t before).table) :
    ∀ before, before <+: schedule →
      WithinLimit maxActive cluster (run maxActive t before).table := by
  intro before
  induction before using List.reverseRecOn with
  | nil => exact fun _ => hlimit
  | append_singleton before e ih =>
      intro hbefore
      rw [run_append_singleton]
      refine withinLimit_step (ih ((List.prefix_append _ _).trans hbefore)) e
        (sees_run maxActive t before) fun i w he hw hstorable => ?_
      subst he
      exact h before i hbefore w hw hstorable

/-- A schedule that starts within the limit stays within it exactly when every save that is stored
has room: fewer keys were made active since it has counted them than it has found room for. -/
theorem withinLimit_iff (maxActive cluster : ℕ) (t : KeyTable)
    (hlimit : WithinLimit maxActive cluster t) (schedule : List (Event cluster)) :
    (∀ before, before <+: schedule → WithinLimit maxActive cluster (run maxActive t before).table) ↔
      ∀ before i, before ++ [.write i] <+: schedule →
        ∀ w, (run maxActive t before).waiting[i]? = some w →
          Storable (run maxActive t before).table w.key →
            HasRoom maxActive w (run maxActive t before).table := by
  constructor
  · intro h before i hbefore w hw hstorable
    have hafter := h _ hbefore
    have hsees := sees_run maxActive t before w (List.mem_of_getElem? hw)
    rw [run_append_singleton, WithinLimit, length_activeKeys_write hsees hw hstorable] at hafter
    exact hafter
  · exact withinLimit_run_of_hasRoom hlimit

/-- A save that writes to the table that it has counted has room. -/
theorem hasRoom_of_counted (hvalid : validationErrors maxActive w.counted w.key = []) :
    HasRoom maxActive w w.counted := by
  have hnone : activatedSince w w.counted = [] := by
    refine List.filter_eq_nil_iff.mpr fun k hk => ?_
    simpa using ⟨k, hk, rfl⟩
  have hfew : ¬ maxActive ≤ (w.counted.othersActive w.key).length := by
    intro hmany
    have herror := (List.append_eq_nil_iff.mp hvalid).2
    rw [if_pos ⟨w.active, hmany⟩] at herror
    cases herror
  rw [HasRoom, hnone, List.length_nil]
  omega

/-- A schedule stays within the limit if no other save is stored between the count and the write of
a save that is stored. -/
theorem withinLimit_of_not_overtaken (maxActive cluster : ℕ) (t : KeyTable)
    (hlimit : WithinLimit maxActive cluster t) (schedule : List (Event cluster))
    (h : ∀ before i, before ++ [.write i] <+: schedule →
      ∀ w, (run maxActive t before).waiting[i]? = some w →
        Storable (run maxActive t before).table w.key →
          (run maxActive t before).table = w.counted) :
    ∀ before, before <+: schedule →
      WithinLimit maxActive cluster (run maxActive t before).table := by
  refine withinLimit_run_of_hasRoom hlimit fun before i hbefore w hw hstorable => ?_
  rw [h before i hbefore w hw hstorable]
  exact hasRoom_of_counted
    (validationErrors_counted maxActive t before w (List.mem_of_getElem? hw))

/-- Two new keys of the controller, counted before either is written. -/
def twoCreations : List (Event 1) :=
  let creation (secret : String) : Activation 1 :=
    ⟨⟨none, none, some "HS256", secret, 1, true⟩, rfl, rfl⟩
  [.count (creation "5ec2e7"), .count (creation "0ddba11"), .write 0, .write 0]

/-- With one key active and two allowed, both find room, and three are active. -/
theorem not_withinLimit_twoCreations :
    ¬ ∀ (maxActive cluster : ℕ) (t : KeyTable), WithinLimit maxActive cluster t →
      ∀ schedule : List (Event cluster), WithinLimit maxActive cluster
        (run maxActive t schedule).table := by
  intro h
  have hthree := h 2 1 controllerKeys (by decide +kernel) twoCreations
  revert hthree
  decide +kernel

/-- The second of them is stored without room. -/
theorem not_hasRoom_twoCreations :
    ¬ ∀ before i, before ++ [.write i] <+: twoCreations →
      ∀ w, (run 2 controllerKeys before).waiting[i]? = some w →
        Storable (run 2 controllerKeys before).table w.key →
          HasRoom 2 w (run 2 controllerKeys before).table := by
  intro h
  have hlimit := (withinLimit_iff 2 1 controllerKeys (by decide +kernel) twoCreations).mpr h
    twoCreations (List.prefix_refl _)
  revert hlimit
  decide +kernel

end Runs

end AapGateway.ServiceKeys
