import AapGateway.Foundations.JsonDict
import AapGateway.ServiceToken.PopulateServiceId

/-!
# The cooldown of unknown issuers

An issuer that no cluster has is looked for at most once a minute. The attempts are kept in a table
of at most a thousand issuers. Only when it is full are expired entries taken out of it, and where
that makes no room an issuer is refused without being noted.

## Main definitions

* `attempts`: a sequence of calls, with their results and the table after them;
* `SteadyClock`: what is assumed of the monotonic clock;
* `Tracked`: the invariant, which ties the table to the admissions so far.

## Main results

* `tracked_attempts`: the table tracks the admissions of every sequence of calls;
* `cooldown_attempts`: the bound on the table, the spacing of the admissions, and the reasons for
  which an issuer is refused.
-/

namespace AapGateway.ServiceToken

/-- A call of `_check_and_set_cooldown`, at a time of the monotonic clock. -/
structure Call where
  now : ℚ
  issuer : String

/-- A call with its result. -/
structure Attempt extends Call where
  refused : Bool

/-- One more call. -/
def attempt (state : List Attempt × Dict ℚ) (call : Call) : List Attempt × Dict ℚ :=
  let (refused, cooldown) := checkAndSetCooldown call.now state.2 call.issuer
  (state.1 ++ [{ call with refused }], cooldown)

/-- The calls with their results, and the table after them. -/
def attempts (calls : List Call) : List Attempt × Dict ℚ :=
  calls.foldl attempt ([], Dict.empty)

/-- The clock never goes back, and was started a minute before the first call. -/
structure SteadyClock (calls : List Call) : Prop where
  nondecreasing : calls.Pairwise (·.now ≤ ·.now)
  started : ∀ call ∈ calls, populateCooldownSeconds ≤ call.now

/-- Some attempt has admitted an issuer at a time. -/
def Admitted (log : List Attempt) (issuer : String) (t : ℚ) : Prop :=
  ∃ a ∈ log, a.refused = false ∧ a.issuer = issuer ∧ a.now = t

/-- The table tracks the admissions. It is bounded, its entries are admissions, and an admission
that has no entry as late as itself is more than the cooldown before a later call. -/
structure Tracked (log : List Attempt) (cooldown : Dict ℚ) : Prop where
  bounded : cooldown.items.length ≤ populateMaxCooldownEntries
  recorded : ∀ item ∈ cooldown.items, Admitted log item.1 item.2
  covered : ∀ issuer t, Admitted log issuer t → (∃ t', (issuer, t') ∈ cooldown.items ∧ t ≤ t') ∨
    ∃ a ∈ log, t < a.now - populateCooldownSeconds

section Step

variable {now : ℚ} {cooldown : Dict ℚ} {issuer : String}

/-- The table after the expired entries are taken out of it, which happens only when it is full. -/
def prune (now : ℚ) (cooldown : Dict ℚ) : Dict ℚ :=
  if populateMaxCooldownEntries ≤ cooldown.items.length then
    let cutoff := now - populateCooldownSeconds
    cooldown.without ((cooldown.items.filter (·.2 < cutoff)).map Prod.fst)
  else cooldown

/-- What is left of a full table is not expired. -/
theorem mem_prune_of_full (hfull : populateMaxCooldownEntries ≤ cooldown.items.length)
    {item : String × ℚ} :
    item ∈ (prune now cooldown).items ↔
      item ∈ cooldown.items ∧ now - populateCooldownSeconds ≤ item.2 := by
  rw [prune, if_pos hfull]
  show item ∈ cooldown.items.filter _ ↔ _
  rw [List.mem_filter, decide_eq_true_iff, List.mem_map, not_exists]
  refine and_congr_right fun hitem => ⟨fun h => ?_, fun h other ⟨hother, hkey⟩ => ?_⟩
  · by_contra hexpired
    exact h item ⟨List.mem_filter.mpr ⟨hitem, decide_eq_true (not_le.mp hexpired)⟩, rfl⟩
  · -- An expired entry with the same key is the entry itself.
    obtain ⟨hmem, hexpired⟩ := List.mem_filter.mp hother
    have hsame : other = item := List.inj_on_of_nodup_map cooldown.nodup hmem hitem hkey
    exact absurd (hsame ▸ of_decide_eq_true hexpired) (not_lt.mpr h)

/-- Pruning takes entries out. -/
theorem sublist_prune : (prune now cooldown).items.Sublist cooldown.items := by
  unfold prune
  split
  · exact List.filter_sublist
  · exact List.Sublist.refl _

/-- An entry that is taken out is expired. -/
theorem expired_of_notMem_prune {item : String × ℚ} (hitem : item ∈ cooldown.items)
    (hout : item ∉ (prune now cooldown).items) : item.2 < now - populateCooldownSeconds := by
  by_cases hfull : populateMaxCooldownEntries ≤ cooldown.items.length
  · rw [mem_prune_of_full hfull, not_and, not_le] at hout
    exact hout hitem
  · rw [prune, if_neg hfull] at hout
    exact absurd hitem hout

/-- What a call does: the table is full of entries that are not expired, or the issuer has such an
entry, or the issuer is admitted and noted. -/
theorem checkAndSetCooldown_cases (hnow : populateCooldownSeconds ≤ now) :
    (checkAndSetCooldown now cooldown issuer = (true, prune now cooldown) ∧
      populateMaxCooldownEntries ≤ (prune now cooldown).items.length ∧
      ∀ item ∈ (prune now cooldown).items, now - populateCooldownSeconds ≤ item.2) ∨
    (checkAndSetCooldown now cooldown issuer = (true, prune now cooldown) ∧
      ∃ t, (issuer, t) ∈ (prune now cooldown).items ∧ now - t < populateCooldownSeconds) ∨
    (checkAndSetCooldown now cooldown issuer = (false, (prune now cooldown).set issuer now) ∧
      (prune now cooldown).items.length < populateMaxCooldownEntries ∧
      ∀ t, (issuer, t) ∈ (prune now cooldown).items → populateCooldownSeconds ≤ now - t) := by
  have hcheck : checkAndSetCooldown now cooldown issuer =
      if populateMaxCooldownEntries ≤ (prune now cooldown).items.length then
        (true, prune now cooldown)
      else if now - ((prune now cooldown).get? issuer).getD 0 < populateCooldownSeconds then
        (true, prune now cooldown)
      else (false, (prune now cooldown).set issuer now) := rfl
  rw [hcheck]
  split
  · rename_i hfull
    refine Or.inl ⟨rfl, hfull, fun item hitem => ?_⟩
    exact ((mem_prune_of_full (hfull.trans sublist_prune.length_le)).mp hitem).2
  · rename_i hroom
    split
    · rename_i hrecent
      refine Or.inr (Or.inl ⟨rfl, ?_⟩)
      cases hentry : (prune now cooldown).get? issuer with
      | none =>
          -- An issuer without an entry counts as tried when the clock was started.
          rw [hentry, Option.getD_none, sub_zero] at hrecent
          exact absurd hnow (not_le.mpr hrecent)
      | some t =>
          rw [hentry] at hrecent
          exact ⟨t, ((prune now cooldown).get?_eq_some).mp hentry, hrecent⟩
    · rename_i hwaited
      refine Or.inr (Or.inr ⟨rfl, not_le.mp hroom, fun t ht => ?_⟩)
      rw [((prune now cooldown).get?_eq_some).mpr ht] at hwaited
      exact not_lt.mp hwaited

end Step

section Runs

variable {calls : List Call} {call : Call} {log : List Attempt} {cooldown : Dict ℚ}
  {issuer : String} {t : ℚ}

/-- The attempts with one more call. -/
theorem attempts_append_singleton (calls : List Call) (call : Call) :
    attempts (calls ++ [call]) = attempt (attempts calls) call := by
  rw [attempts, List.foldl_append]
  rfl

/-- The attempts are the calls. -/
theorem map_toCall_attempts (calls : List Call) :
    (attempts calls).1.map Attempt.toCall = calls := by
  induction calls using List.reverseRecOn with
  | nil => rfl
  | append_singleton calls call ih =>
      rw [attempts_append_singleton]
      show ((attempts calls).1 ++ [_]).map _ = _
      rw [List.map_append, ih]
      rfl

/-- A clock that is steady over some calls is so over the ones before the last. -/
theorem SteadyClock.of_append (h : SteadyClock (calls ++ [call])) :
    SteadyClock calls ∧ populateCooldownSeconds ≤ call.now ∧
      ∀ a ∈ (attempts calls).1, a.now ≤ call.now := by
  obtain ⟨hbefore, -, hlast⟩ := List.pairwise_append.mp h.nondecreasing
  refine ⟨⟨hbefore, fun c hc => h.started c (List.mem_append_left _ hc)⟩,
    h.started call (by simp), fun a ha => ?_⟩
  refine hlast a.toCall ?_ call (List.mem_singleton_self _)
  rw [← map_toCall_attempts calls]
  exact List.mem_map_of_mem ha

/-- An admission in a longer log. -/
theorem Admitted.append (h : Admitted log issuer t) (a : Attempt) :
    Admitted (log ++ [a]) issuer t := by
  obtain ⟨b, hb, hadmitted⟩ := h
  exact ⟨b, List.mem_append_left _ hb, hadmitted⟩

/-- An admission in a log with one more attempt is that attempt, or was there before. -/
theorem admitted_append_iff {a : Attempt} :
    Admitted (log ++ [a]) issuer t ↔
      Admitted log issuer t ∨ a.refused = false ∧ a.issuer = issuer ∧ a.now = t := by
  unfold Admitted
  constructor
  · rintro ⟨b, hb, hadmitted⟩
    rcases List.mem_append.mp hb with hold | hnew
    · exact Or.inl ⟨b, hold, hadmitted⟩
    · rw [List.mem_singleton.mp hnew] at hadmitted
      exact Or.inr hadmitted
  · rintro (⟨b, hb, hadmitted⟩ | hadmitted)
    · exact ⟨b, List.mem_append_left _ hb, hadmitted⟩
    · exact ⟨a, List.mem_append_right _ (List.mem_singleton_self _), hadmitted⟩

/-- The pruned table tracks the admissions once the call is in the log. -/
theorem Tracked.prune (h : Tracked log cooldown) (a : Attempt) (ha : a.refused = true) :
    Tracked (log ++ [a]) (prune a.now cooldown) := by
  refine ⟨sublist_prune.length_le.trans h.bounded,
    fun item hitem => (h.recorded item (sublist_prune.subset hitem)).append a,
    fun issuer t hadmitted => ?_⟩
  rcases admitted_append_iff.mp hadmitted with hold | ⟨hnot, -⟩
  · rcases h.covered issuer t hold with ⟨t', hitem, hle⟩ | ⟨b, hb, hlt⟩
    · by_cases hkept : (issuer, t') ∈ (ServiceToken.prune a.now cooldown).items
      · exact Or.inl ⟨t', hkept, hle⟩
      · exact Or.inr ⟨a, List.mem_append_right _ (List.mem_singleton_self _),
          hle.trans_lt (expired_of_notMem_prune hitem hkept)⟩
    · exact Or.inr ⟨b, List.mem_append_left _ hb, hlt⟩
  · rw [ha] at hnot
    cases hnot

/-- An admitted issuer is noted with the time of the call. -/
theorem Tracked.set (h : Tracked log cooldown) (a : Attempt) (ha : a.refused = false)
    (hlog : ∀ b ∈ log, b.now ≤ a.now)
    (hroom : (ServiceToken.prune a.now cooldown).items.length < populateMaxCooldownEntries) :
    Tracked (log ++ [a]) ((ServiceToken.prune a.now cooldown).set a.issuer a.now) := by
  refine ⟨?_, fun item hitem => ?_, fun issuer t hadmitted => ?_⟩
  · exact (Dict.length_items_set_le _ _ _).trans hroom
  · rcases Table.mem_upsert.mp hitem with rfl | ⟨hold, -⟩
    · exact admitted_append_iff.mpr (Or.inr ⟨ha, rfl, rfl⟩)
    · exact (h.recorded item (sublist_prune.subset hold)).append a
  · have hnew : (a.issuer, a.now) ∈
        ((ServiceToken.prune a.now cooldown).set a.issuer a.now).items :=
      Table.mem_upsert.mpr (Or.inl rfl)
    rcases admitted_append_iff.mp hadmitted with hold | ⟨-, rfl, rfl⟩
    · by_cases hissuer : issuer = a.issuer
      · -- The new entry is as late as any admission before.
        obtain ⟨b, hb, -, -, rfl⟩ := hold
        exact Or.inl ⟨a.now, hissuer ▸ hnew, hlog b hb⟩
      · rcases h.covered issuer t hold with ⟨t', hitem, hle⟩ | ⟨b, hb, hlt⟩
        · by_cases hkept : (issuer, t') ∈ (ServiceToken.prune a.now cooldown).items
          · exact Or.inl ⟨t', Table.mem_upsert.mpr (Or.inr ⟨hkept, hissuer⟩), hle⟩
          · exact Or.inr ⟨a, List.mem_append_right _ (List.mem_singleton_self _),
              hle.trans_lt (expired_of_notMem_prune hitem hkept)⟩
        · exact Or.inr ⟨b, List.mem_append_left _ hb, hlt⟩
    · exact Or.inl ⟨a.now, hnew, le_rfl⟩

/-- The table tracks the admissions of every sequence of calls. -/
theorem tracked_attempts (h : SteadyClock calls) :
    Tracked (attempts calls).1 (attempts calls).2 := by
  induction calls using List.reverseRecOn with
  | nil =>
      refine ⟨Nat.zero_le _, fun item hitem => absurd hitem List.not_mem_nil, ?_⟩
      rintro issuer t ⟨a, ha, -⟩
      exact absurd ha List.not_mem_nil
  | append_singleton calls call ih =>
      obtain ⟨hbefore, hstarted, hlog⟩ := h.of_append
      have htracked := ih hbefore
      rw [attempts_append_singleton, attempt]
      rcases checkAndSetCooldown_cases hstarted with
        ⟨hcheck, -, -⟩ | ⟨hcheck, -⟩ | ⟨hcheck, hroom, -⟩ <;> rw [hcheck]
      · exact htracked.prune { call with refused := true } rfl
      · exact htracked.prune { call with refused := true } rfl
      · exact htracked.set { call with refused := false } rfl hlog hroom

/-- Why an attempt is refused: the issuer was itself admitted less than the cooldown before, or as
many issuers as the table can hold were admitted within the cooldown. -/
def Justified (log : List Attempt) (a : Attempt) : Prop :=
  (∃ t, Admitted log a.issuer t ∧ a.now - t < populateCooldownSeconds) ∨
    ∃ issuers : List String, issuers.Nodup ∧ populateMaxCooldownEntries ≤ issuers.length ∧
      ∀ issuer ∈ issuers, ∃ t, Admitted log issuer t ∧ a.now - t ≤ populateCooldownSeconds

/-- A refusal is justified by the attempts before it. -/
theorem justified_of_refused (h : SteadyClock (calls ++ [call]))
    (hrefused : (checkAndSetCooldown call.now (attempts calls).2 call.issuer).1 = true) :
    Justified (attempts calls).1 { call with refused := true } := by
  obtain ⟨hbefore, hstarted, -⟩ := h.of_append
  have htracked := tracked_attempts hbefore
  rcases checkAndSetCooldown_cases hstarted with
    ⟨-, hfull, hfresh⟩ | ⟨-, t, hentry, hrecent⟩ | ⟨hcheck, -⟩
  · -- Every entry of the full table is an admission of its own issuer.
    refine Or.inr ⟨(prune call.now (attempts calls).2).items.map Prod.fst,
      (prune call.now (attempts calls).2).nodup, by rwa [List.length_map], fun issuer hissuer => ?_⟩
    obtain ⟨item, hitem, rfl⟩ := List.mem_map.mp hissuer
    exact ⟨item.2, htracked.recorded item (sublist_prune.subset hitem),
      sub_le_comm.mp (hfresh item hitem)⟩
  · exact Or.inl ⟨t, htracked.recorded _ (sublist_prune.subset hentry), hrecent⟩
  · rw [hcheck] at hrefused
    cases hrefused

/-- An issuer is admitted again only after the cooldown. -/
theorem spaced_of_admitted (h : SteadyClock (calls ++ [call]))
    (hadmitted : (checkAndSetCooldown call.now (attempts calls).2 call.issuer).1 = false)
    (ht : Admitted (attempts calls).1 call.issuer t) : populateCooldownSeconds ≤ call.now - t := by
  obtain ⟨hbefore, hstarted, hlog⟩ := h.of_append
  rcases checkAndSetCooldown_cases hstarted with
    ⟨hcheck, -⟩ | ⟨hcheck, -⟩ | ⟨hcheck, -, hwaited⟩
  · rw [hcheck] at hadmitted
    cases hadmitted
  · rw [hcheck] at hadmitted
    cases hadmitted
  · rcases (tracked_attempts hbefore).covered _ _ ht with ⟨t', hitem, hle⟩ | ⟨b, hb, hlt⟩
    · by_cases hkept : (call.issuer, t') ∈ (prune call.now (attempts calls).2).items
      · linarith [hwaited t' hkept]
      · linarith [expired_of_notMem_prune hitem hkept]
    · linarith [hlog b hb]

/-- For every sequence of calls: the table is bounded after each of them, two admissions of an
issuer are a cooldown apart, and every refusal is justified by the attempts before it. -/
theorem cooldown_attempts (calls : List Call) (h : SteadyClock calls) :
    (∀ before, before <+: calls →
      (attempts before).2.items.length ≤ populateMaxCooldownEntries) ∧
    (attempts calls).1.Pairwise (fun a b => a.refused = false → b.refused = false →
      a.issuer = b.issuer → populateCooldownSeconds ≤ b.now - a.now) ∧
    ∀ before a after, (attempts calls).1 = before ++ a :: after → a.refused = true →
      Justified before a := by
  induction calls using List.reverseRecOn with
  | nil =>
      refine ⟨fun before hbefore => ?_, List.Pairwise.nil, fun before a after hsplit => ?_⟩
      · rw [List.prefix_nil.mp hbefore]
        exact Nat.zero_le _
      · exact absurd hsplit (by simp [attempts])
  | append_singleton calls call ih =>
      obtain ⟨hbounded, hspaced, hjustified⟩ := ih h.of_append.1
      have hlog : (attempts (calls ++ [call])).1 = (attempts calls).1 ++ [{ call with
          refused := (checkAndSetCooldown call.now (attempts calls).2 call.issuer).1 }] := by
        rw [attempts_append_singleton]
        rfl
      refine ⟨fun before hbefore => ?_, ?_, fun before a after hsplit hrefused => ?_⟩
      · rcases List.prefix_concat_iff.mp hbefore with rfl | hbefore
        · exact (tracked_attempts h).bounded
        · exact hbounded before hbefore
      · rw [hlog]
        refine List.pairwise_append.mpr ⟨hspaced, List.pairwise_singleton _ _, ?_⟩
        rintro a ha b hb hadmitted hadmitted' hissuer
        obtain rfl := List.mem_singleton.mp hb
        exact spaced_of_admitted h hadmitted' ⟨a, ha, hadmitted, hissuer, rfl⟩
      · rw [hlog] at hsplit
        rcases List.eq_nil_or_concat after with rfl | ⟨after, b, rfl⟩
        · obtain ⟨rfl, hlast⟩ := List.append_inj' hsplit rfl
          obtain rfl := (List.cons.inj hlast).1
          have hjust := justified_of_refused h hrefused
          exact hjust
        · rw [List.concat_eq_append, ← List.cons_append, ← List.append_assoc] at hsplit
          exact hjustified before a after (List.append_inj' hsplit rfl).1 hrefused

/-- One issuer that is looked for three times within two minutes. -/
def threeCalls : List Call :=
  [⟨60, "4a1c"⟩, ⟨90, "4a1c"⟩, ⟨120, "4a1c"⟩]

/-- It is refused in between, and that is justified. -/
theorem cooldown_threeCalls :
    (attempts threeCalls).1.map (·.refused) = [false, true, false] ∧
      ∀ before a after, (attempts threeCalls).1 = before ++ a :: after → a.refused = true →
        Justified before a := by
  have hclock : SteadyClock threeCalls := by
    refine ⟨by simp only [threeCalls]; norm_num, fun call hcall => ?_⟩
    simp only [threeCalls, List.mem_cons, List.not_mem_nil, or_false] at hcall
    rcases hcall with rfl | rfl | rfl <;> norm_num [populateCooldownSeconds]
  exact ⟨by decide +kernel, (cooldown_attempts threeCalls hclock).2.2⟩

end Runs

end AapGateway.ServiceToken
