import AapGateway.Sessions.ConcurrentLogins

/-!
# What concurrent logins leave

Two logins that take their snapshots before the other commits do not see each other's row. Each
keeps the newest `limit + 1` of the rows it sees, so the user ends with one session more than the
limit allows, whenever the sessions that were there already use it up.

## Main results

* `noMoreThanSerial_iff`: every interleaving leaves at most what the serial orders leave exactly
  when the sessions that exist leave room for one more, or one of the new sessions does not count;
* `not_noMoreThanSerial_firstLogins`: two first logins of a user who may hold one session keep two.
-/

namespace AapGateway.Sessions.TwoLogins

variable {c : TwoLogins} {i : Login}

/-- The rows of the two logins and those that exist have distinct primary keys, in either order. -/
theorem pk_nodup_other (c : TwoLogins) (i : Login) :
    ((c.existing ++ [c.row i, c.row i.other]).map (·.pk)).Nodup := by
  cases i with
  | first => exact c.pk_nodup
  | second =>
      refine (List.Perm.nodup_iff ?_).mp c.pk_nodup
      exact (List.Perm.append_left _ (List.Perm.swap _ _ _)).map _

/-- No row is there twice. -/
theorem rows_nodup (c : TwoLogins) (i : Login) :
    (c.existing ++ [c.row i, c.row i.other]).Nodup := (c.pk_nodup_other i).of_map _

/-- The row of a login is a new one. -/
theorem row_not_mem (c : TwoLogins) (i : Login) : c.row i ∉ c.existing := by
  intro h
  exact (List.nodup_append.mp (c.rows_nodup i)).2.2 _ h _ List.mem_cons_self rfl

/-- The two logins insert different rows. -/
theorem row_ne (c : TwoLogins) (i : Login) : c.row i ≠ c.row i.other := by
  have h := (List.nodup_append.mp (c.rows_nodup i)).2.1
  intro heq
  exact (List.nodup_cons.mp h).1 (heq ▸ List.mem_cons_self)

/-- The rows a login sees from the beginning are distinct. -/
theorem existing_nodup (c : TwoLogins) (i : Login) : (c.existing ++ [c.row i]).Nodup := by
  refine (c.rows_nodup i).sublist ?_
  exact (List.Sublist.refl _).append (List.singleton_sublist.mpr List.mem_cons_self)

/-- The rows the other login may see next are distinct. -/
theorem after_nodup (c : TwoLogins) (i : Login) : (c.after i ++ [c.row i.other]).Nodup := by
  have hsplit : c.existing ++ [c.row i, c.row i.other] =
      (c.existing ++ [c.row i]) ++ [c.row i.other] := by simp
  refine (hsplit ▸ c.rows_nodup i).sublist ?_
  exact List.filter_sublist.append (List.Sublist.refl _)

/-! ## Counting -/

/-- Deleting rows deletes them from the active ones. -/
theorem active_filter (c : TwoLogins) (rows gone : List Row) :
    c.active (rows.filter fun r => r ∉ gone) = (c.active rows).filter fun r => r ∉ gone :=
  List.filter_comm ..

/-- A read that sees every row leaves the newest `limit + 1` active. -/
theorem length_active_retained {rows : List Row} (hnodup : rows.Nodup) :
    (c.active (rows.filter fun r => r ∉ c.overLimit (c.active rows))).length =
      min (c.limit + 1) (c.active rows).length := by
  rw [active_filter]
  exact Retention.length_retained (hnodup.filter _)

/-- One for a session that counts, zero for one that does not. -/
def weight (c : TwoLogins) (i : Login) : ℕ := if c.now < (c.row i).expireDate then 1 else 0

/-- A login adds its row to the active ones if its session counts. -/
theorem length_active_append (c : TwoLogins) (rows : List Row) (i : Login) :
    (c.active (rows ++ [c.row i])).length = (c.active rows).length + c.weight i := by
  rw [active_append, List.length_append, weight]
  congr 1
  by_cases h : c.now < (c.row i).expireDate
  · simp [active, c.row_user, h]
  · simp [active, h]

/-- The active sessions when a login is the first to commit. -/
theorem length_active_after (c : TwoLogins) (i : Login) :
    (c.active (c.after i)).length =
      min (c.limit + 1) ((c.active c.existing).length + c.weight i) := by
  rw [after, view, length_active_retained (c.existing_nodup i), length_active_append]

/-- The active sessions that a serial order leaves. -/
theorem length_active_serial (c : TwoLogins) (i : Login) :
    (c.active (c.final i (c.serialView i))).length =
      min (c.limit + 1) ((c.active c.existing).length + c.weight i + c.weight i.other) := by
  rw [final, serialView, length_active_retained (c.after_nodup i), length_active_append,
    length_active_after]
  omega

/-- An overlap hides from the other login exactly the row of the login that commits first. -/
theorem overlapView_perm (c : TwoLogins) (i : Login) :
    (c.overlapView i).Perm ((c.serialView i).filter fun r => r ≠ c.row i) := by
  have hview : (c.view i.other).Nodup := (c.existing_nodup i.other).filter _
  have hserial : (c.serialView i).Nodup := (c.after_nodup i).filter _
  refine (List.perm_ext_iff_of_nodup (hview.filter _) (hserial.filter _)).mpr fun r => ?_
  simp only [view, serialView, active, List.mem_filter, decide_eq_true_eq]
  constructor
  · rintro ⟨⟨hseen, hactive⟩, hafter⟩
    refine ⟨⟨hafter, hactive⟩, ?_⟩
    rintro rfl
    rcases List.mem_append.mp hseen with hold | hnew
    · exact c.row_not_mem i hold
    · exact c.row_ne i (List.mem_singleton.mp hnew)
  · rintro ⟨⟨hafter, hactive⟩, hne⟩
    refine ⟨⟨?_, hactive⟩, hafter⟩
    rcases List.mem_append.mp hafter with hold | hnew
    · have hmem := (List.mem_filter.mp hold).1
      refine List.mem_append_left _ ((List.mem_append.mp hmem).resolve_right fun h => ?_)
      exact hne (List.mem_singleton.mp h)
    · exact List.mem_append_right _ hnew

/-- The active sessions that an overlap leaves: a row that the first login keeps is not seen by the
other, and stays beside those the other keeps. -/
theorem length_active_overlap (c : TwoLogins) (i : Login) :
    (c.active (c.final i (c.overlapView i))).length =
      if c.row i ∈ c.serialView i then min (c.limit + 1) ((c.serialView i).length - 1) + 1
      else min (c.limit + 1) (c.serialView i).length := by
  rw [final, active_filter]
  exact Retention.length_filter_hidden ((c.after_nodup i).filter _) (c.overlapView_perm i)

/-- The active sessions the other login would see in a serial order. -/
theorem length_serialView (c : TwoLogins) (i : Login) :
    (c.serialView i).length =
      min (c.limit + 1) ((c.active c.existing).length + c.weight i) + c.weight i.other := by
  rw [serialView, length_active_append, length_active_after]

/-- The age of a row is its own. -/
theorem age_nodup (c : TwoLogins) (i : Login) : ((c.view i).map Row.age).Nodup := by
  have hpks : ((c.view i).map (·.pk)).Nodup := by
    refine (c.pk_nodup_other i).sublist (List.Sublist.map _ ?_)
    refine List.filter_sublist.trans ((List.Sublist.refl _).append ?_)
    exact List.singleton_sublist.mpr List.mem_cons_self
  refine List.Nodup.of_map (fun age : ℤ ×ₗ ℕ => (ofLex age).2) ?_
  rw [List.map_map]
  exact hpks

/-- A login that commits first keeps its own row when its session counts and not too many of the
sessions that exist are newer. -/
theorem row_mem_serialView_iff (c : TwoLogins) (i : Login) :
    c.row i ∈ c.serialView i ↔ c.Counts i ∧ (c.newer i).length ≤ c.limit := by
  have hview : c.row i ∈ c.view i ↔ c.Counts i := by
    simp [view, active, Counts, c.row_user]
  have hnewer : ((c.view i).filter fun r => (c.row i).age < r.age) = c.newer i := by
    rw [view, active_append, List.filter_append, newer, List.append_right_eq_self,
      List.filter_eq_nil_iff]
    intro r hr
    rw [List.mem_singleton.mp (List.mem_filter.mp hr).1]
    simp
  have hserial : c.row i ∈ c.serialView i ↔
      c.row i ∈ c.view i ∧ c.row i ∉ c.overLimit (c.view i) := by
    rw [serialView, active_append, List.mem_append, after, active_filter, List.mem_filter,
      decide_eq_true_eq]
    constructor
    · rintro (h | h)
      · exact h
      · exact absurd (List.mem_singleton.mp (List.mem_filter.mp h).1) (c.row_ne i)
    · exact Or.inl
  rw [hserial]
  constructor
  · rintro ⟨hmem, hnot⟩
    rw [overLimit, Retention.mem_overLimit_iff (c.age_nodup i) hmem, hnewer] at hnot
    exact ⟨hview.mp hmem, by omega⟩
  · rintro ⟨hcounts, hle⟩
    have hmem := hview.mpr hcounts
    refine ⟨hmem, ?_⟩
    rw [overLimit, Retention.mem_overLimit_iff (c.age_nodup i) hmem, hnewer]
    omega

/-- The weight of a session that counts. -/
theorem weight_of_counts (h : c.Counts i) : c.weight i = 1 := if_pos h

/-- The weight of a session that does not count. -/
theorem weight_of_not_counts (h : ¬c.Counts i) : c.weight i = 0 := if_neg h

/-! ## The limit and the lock -/

/-- Where the lock suffices, an overlap leaves no more than a serial order. -/
theorem overlap_le_serial (h : c.LockSuffices) (i : Login) :
    (c.active (c.final i (c.overlapView i))).length ≤
      min (c.limit + 1) ((c.active c.existing).length + c.weight i + c.weight i.other) := by
  have hlength := c.length_serialView i
  rw [length_active_overlap]
  split
  · rename_i hown
    obtain ⟨hcounts, hnewest⟩ := (c.row_mem_serialView_iff i).mp hown
    have hweight := weight_of_counts hcounts
    rcases h with hroom | ⟨k, hk⟩ | houtranked
    · have hle : c.weight i.other ≤ 1 := by
        unfold weight
        split <;> omega
      omega
    · -- the session that does not count is the other one
      have hother : k = i.other := (i.eq_or_eq_other k).resolve_left fun hki => hk (hki ▸ hcounts)
      have hzero := weight_of_not_counts (hother ▸ hk)
      omega
    · exact absurd (houtranked i) (by omega)
  · omega

/-- Both orders of the logins leave equally many sessions. -/
theorem weight_add_comm (c : TwoLogins) (i k : Login) :
    c.weight i + c.weight i.other = c.weight k + c.weight k.other := by
  rcases i.eq_or_eq_other k with rfl | rfl
  · rfl
  · rw [Login.other_other, Nat.add_comm]

/-- An overlap leaves one session more than the limit allows, once the sessions that exist use it up
and both new sessions count. -/
theorem overlap_eq (hfull : c.limit ≤ (c.active c.existing).length) (hcounts : ∀ i, c.Counts i)
    (hnewest : (c.newer i).length ≤ c.limit) :
    (c.active (c.final i (c.overlapView i))).length = c.limit + 2 := by
  have hlength := c.length_serialView i
  rw [weight_of_counts (hcounts i), weight_of_counts (hcounts i.other)] at hlength
  rw [length_active_overlap, if_pos ((c.row_mem_serialView_iff i).mpr ⟨hcounts i, hnewest⟩)]
  omega

end AapGateway.Sessions.TwoLogins

namespace AapGateway.Sessions

open TwoLogins

/-- Every interleaving of two logins leaves at most the active sessions a serial order leaves
exactly when the sessions that exist leave room for one beside a login's own, or one of the new
sessions has expired, or both are outranked by sessions that exist. -/
theorem noMoreThanSerial_iff (c : TwoLogins) : c.NoMoreThanSerial ↔ c.LockSuffices := by
  constructor
  · intro hserial
    by_contra hnot
    rw [LockSuffices, not_or, not_or, not_lt, not_exists, not_forall] at hnot
    obtain ⟨hfull, hcounts, i, hnewest⟩ := hnot
    -- the logins overlap, and the serial order of the same logins leaves less
    obtain ⟨s, hrun, hdone, hrows⟩ := c.run_overlap i
    obtain ⟨t, ht, -, hle⟩ := hserial _ s hrun hdone i
    obtain ⟨t', ht', -, hrows'⟩ := c.run_serial i
    obtain rfl : t = t' := Option.some.inj (ht.symm.trans ht')
    rw [count, count, hrows, hrows', length_active_serial,
      overlap_eq hfull (fun k => not_not.mp (hcounts k)) (not_lt.mp hnewest)] at hle
    omega
  · intro hlock schedule s hrun hdone k
    obtain ⟨t, ht, htdone, htrows⟩ := c.run_serial k
    refine ⟨t, ht, htdone, ?_⟩
    obtain ⟨i, hrows⟩ := rows_of_done hrun hdone
    have hsum := c.weight_add_comm i k
    rw [count, count, htrows, length_active_serial]
    rcases hrows with hrows | hrows
    · rw [hrows, length_active_serial]
      omega
    · rw [hrows]
      have hle := overlap_le_serial hlock i
      omega

/-- Two first logins of a user who may hold one session. -/
def firstLogins : TwoLogins where
  user := 1
  now := 10
  limit := 0
  existing := []
  row
    | .first => ⟨⟨1, 1, "k3u8w1z5q0m7n2b4v6c9x8l1j2h5g0f3", 10⟩, 100⟩
    | .second => ⟨⟨2, 1, "a9s8d7f6g5h4j3k2l1z0x9c8v7b6n5m4", 10⟩, 100⟩
  row_user i := by cases i <;> rfl
  pk_nodup := by decide

/-- When their reads overlap the user keeps two sessions, and a serial order leaves one. -/
theorem not_noMoreThanSerial_firstLogins :
    (∃ s, firstLogins.run firstLogins.init (overlap .first) = some s ∧ Done s ∧
      firstLogins.count s = 2) ∧
    (∃ s, firstLogins.run firstLogins.init (serial .first) = some s ∧ Done s ∧
      firstLogins.count s = 1) ∧
    ¬firstLogins.NoMoreThanSerial := by
  have hoverlap : ∃ s, firstLogins.run firstLogins.init (overlap .first) = some s ∧ Done s ∧
      firstLogins.count s = 2 := ⟨_, rfl, fun i => by cases i <;> rfl, by decide +kernel⟩
  have hserial : ∃ s, firstLogins.run firstLogins.init (serial .first) = some s ∧ Done s ∧
      firstLogins.count s = 1 := ⟨_, rfl, fun i => by cases i <;> rfl, by decide +kernel⟩
  refine ⟨hoverlap, hserial, fun h => ?_⟩
  obtain ⟨s, hrun, hdone, hcount⟩ := hoverlap
  obtain ⟨t, ht, -, hcount'⟩ := hserial
  obtain ⟨t', ht', -, hle⟩ := h _ s hrun hdone .first
  obtain rfl : t = t' := Option.some.inj (ht.symm.trans ht')
  omega

end AapGateway.Sessions
