import AapGateway.Foundations.LastWrite

/-!
# Role assignments after a login

At each login the authenticator maps of a user are reconciled: roles are given and removed in the
gateway, and the changes are collected. When the reconciliation is done, the grants and the
removals are published to every service, each as one batch that the service applies in one
transaction. Publishing is fire-and-forget: a batch is queued to a pool of ten workers and the
login goes on, so nothing orders the batches of one login before those of the next.

A grant is collected only if the assignment is new; a removal is collected always. The local
assignments and the services belong to other packages and are parameters with their documented
behaviour.

## Main definitions

* `RoleStore` and `Receiver`: the local assignments, and the assignments of a service;
* `ReconcileUser.applyPermissions`: one login, and the batches it publishes;
* `InOrder`: batches that conflict arrive in the order of the logins.

## Main results

* `writesTo_flushPendingSync`: the batch of a login that mentions a role/object pair;
* `converged_iff`: after two logins the service agrees with the gateway exactly when the batches
  that conflict arrive in the order of the logins.
-/

namespace AapGateway.Users

open LastWrite

/-- The role assignments of one user in the gateway, by pairs of role definition and object. -/
structure RoleStore (Store Pair Assignment : Type) where
  holds : Store → Pair → Bool
  /-- `_give_permission` of the base class: the assignment if it is new. -/
  givePermission : Store → Pair → Store × Option Assignment
  /-- `_remove_permission` of the base class. -/
  removePermission : Store → Pair → Store
  /-- The role definition and the object of an assignment. -/
  pairOf : Assignment → Pair

/-- The assignments of a service, and its two bulk actions. -/
structure Receiver (Db Pair : Type) where
  holds : Db → Pair → Bool
  bulkAssign : Db → List Pair → Db
  bulkUnassign : Db → List Pair → Db

section Documented

variable {Store Pair Assignment Db : Type} [DecidableEq Pair]

/-- What the base class documents: a permission is given or removed, and an assignment is returned
exactly when it is new. -/
structure RoleStore.Documented (d : RoleStore Store Pair Assignment) : Prop where
  holds_give : ∀ s p q, d.holds (d.givePermission s p).1 q = if q = p then true else d.holds s q
  give_new : ∀ s p, d.holds s p = false → ∃ a, (d.givePermission s p).2 = some a ∧ d.pairOf a = p
  give_existing : ∀ s p, d.holds s p = true → (d.givePermission s p).2 = none
  holds_remove : ∀ s p q, d.holds (d.removePermission s p) q = if q = p then false else d.holds s q

/-- What the services document: a bulk action applies to every pair of its list. -/
structure Receiver.Documented (r : Receiver Db Pair) : Prop where
  holds_assign : ∀ db ps q, r.holds (r.bulkAssign db ps) q =
    if q ∈ ps then true else r.holds db q
  holds_unassign : ∀ db ps q, r.holds (r.bulkUnassign db ps) q =
    if q ∈ ps then false else r.holds db q

end Documented

/-- A permission the base class gives or removes during `apply_permissions`. -/
inductive PermissionCall (Pair : Type) where
  | give (p : Pair)
  | remove (p : Pair)
  deriving DecidableEq, Repr

/-- The two bulk operations. -/
inductive Operation where
  | assignment
  | unassignment
  deriving DecidableEq, Repr

/-- A batch in the pool: the login that queued it, its operation and its pairs. -/
structure Batch (Pair : Type) where
  login : ℕ
  operation : Operation
  pairs : List Pair
  deriving DecidableEq, Repr

/-- Whether a pair is assigned after the batch. -/
def Batch.value {Pair : Type} (b : Batch Pair) : Bool :=
  match b.operation with
  | .assignment => true
  | .unassignment => false

/-- What a service does with a batch. -/
def Receiver.deliver {Db Pair : Type} (r : Receiver Db Pair) (db : Db) (b : Batch Pair) : Db :=
  match b.operation with
  | .assignment => r.bulkAssign db b.pairs
  | .unassignment => r.bulkUnassign db b.pairs

/-- `ReconcileUser`, with the assignments it works on. -/
structure ReconcileUser (Store Pair Assignment : Type) where
  store : Store
  pendingGrants : List Assignment
  pendingRemovals : List Pair

namespace ReconcileUser

variable {Store Pair Assignment : Type} (d : RoleStore Store Pair Assignment)

/-- `ReconcileUser._give_permission`. -/
def givePermission (u : ReconcileUser Store Pair Assignment) (p : Pair) :
    ReconcileUser Store Pair Assignment :=
  let (store, assignment) := d.givePermission u.store p
  { u with store, pendingGrants := u.pendingGrants ++ assignment.toList }

/-- `ReconcileUser._remove_permission`. -/
def removePermission (u : ReconcileUser Store Pair Assignment) (p : Pair) :
    ReconcileUser Store Pair Assignment :=
  { u with
    store := d.removePermission u.store p
    pendingRemovals := u.pendingRemovals ++ [p] }

/-- One call of the base class. -/
def call (u : ReconcileUser Store Pair Assignment) :
    PermissionCall Pair → ReconcileUser Store Pair Assignment
  | .give p => u.givePermission d p
  | .remove p => u.removePermission d p

/-- `ReconcileUser._flush_pending_sync`: the batches it queues for each service. -/
def flushPendingSync (login : ℕ) (u : ReconcileUser Store Pair Assignment) :
    List (Batch Pair) :=
  (if u.pendingGrants = [] then []
    else [⟨login, .assignment, u.pendingGrants.map d.pairOf⟩]) ++
    if u.pendingRemovals = [] then [] else [⟨login, .unassignment, u.pendingRemovals⟩]

/-- The calls of the base class, which start without pending changes. -/
def reconcile (store : Store) (calls : List (PermissionCall Pair)) :
    ReconcileUser Store Pair Assignment :=
  calls.foldl (call d) ⟨store, [], []⟩

/-- `ReconcileUser.apply_permissions`: the assignments afterwards, and the batches it queues. -/
def applyPermissions (login : ℕ) (store : Store) (calls : List (PermissionCall Pair)) :
    Store × List (Batch Pair) :=
  let u := reconcile d store calls
  (u.store, flushPendingSync d login u)

end ReconcileUser

/-- Within a login no pair is both given and removed. -/
def Separate {Pair : Type} (calls : List (PermissionCall Pair)) : Prop :=
  ∀ p, PermissionCall.give p ∈ calls → PermissionCall.remove p ∉ calls

section OneLogin

variable {Store Pair Assignment : Type} [DecidableEq Pair]
  {d : RoleStore Store Pair Assignment} {store : Store} {calls : List (PermissionCall Pair)}

open ReconcileUser

omit [DecidableEq Pair] in
/-- The calls after the first one of a login are separate too. -/
theorem Separate.tail {c : PermissionCall Pair} (h : Separate (c :: calls)) : Separate calls :=
  fun p hgive hremove => h p (List.mem_cons_of_mem _ hgive) (List.mem_cons_of_mem _ hremove)

/-- What one login does to a pair: it is assigned if it was given, not assigned if it was removed,
and otherwise as before. -/
theorem holds_foldl_call (hd : d.Documented) (hseparate : Separate calls)
    (u : ReconcileUser Store Pair Assignment) (p : Pair) :
    d.holds (calls.foldl (call d) u).store p =
      if .give p ∈ calls then true else if .remove p ∈ calls then false
      else d.holds u.store p := by
  induction calls generalizing u with
  | nil => simp
  | cons c calls ih =>
      rw [List.foldl_cons, ih hseparate.tail]
      cases c with
      | give q =>
          show (if _ then _ else if _ then _ else d.holds (d.givePermission u.store q).1 p) = _
          rw [hd.holds_give]
          by_cases hpq : p = q
          · -- The pair is given here, so no later call removes it.
            have hkept : PermissionCall.remove p ∉ calls := by
              intro hremove
              exact hseparate p (hpq ▸ List.mem_cons_self) (List.mem_cons_of_mem _ hremove)
            simp [hpq, hpq ▸ hkept]
          · simp [hpq]
      | remove q =>
          show (if _ then _ else if _ then _ else d.holds (d.removePermission u.store q) p) = _
          rw [hd.holds_remove]
          by_cases hpq : p = q
          · have hkept : PermissionCall.give p ∉ calls := by
              intro hgive
              exact hseparate p (List.mem_cons_of_mem _ hgive) (hpq ▸ List.mem_cons_self)
            simp [hpq, hpq ▸ hkept]
          · simp [hpq]

/-- A pair is among the pending grants exactly when it was given and was not assigned before. -/
theorem mem_pendingGrants (hd : d.Documented) (hseparate : Separate calls)
    (u : ReconcileUser Store Pair Assignment) (p : Pair) :
    p ∈ (calls.foldl (call d) u).pendingGrants.map d.pairOf ↔
      p ∈ u.pendingGrants.map d.pairOf ∨
        PermissionCall.give p ∈ calls ∧ d.holds u.store p = false := by
  induction calls generalizing u with
  | nil => simp
  | cons c calls ih =>
      rw [List.foldl_cons, ih hseparate.tail]
      cases c with
      | give q =>
          show p ∈ (u.pendingGrants ++ (d.givePermission u.store q).2.toList).map d.pairOf ∨
            _ ∧ d.holds (d.givePermission u.store q).1 p = false ↔ _
          rw [hd.holds_give, List.map_append, List.mem_append]
          cases hholds : d.holds u.store q with
          | true =>
              rw [hd.give_existing _ _ hholds]
              by_cases hpq : p = q
              · simp [hpq, hholds]
              · simp [hpq]
          | false =>
              obtain ⟨a, ha, hpair⟩ := hd.give_new _ _ hholds
              rw [ha]
              by_cases hpq : p = q
              · simp [hpq, hpair, hholds]
              · simp [hpq, hpair]
      | remove q =>
          show p ∈ u.pendingGrants.map d.pairOf ∨
            _ ∧ d.holds (d.removePermission u.store q) p = false ↔ _
          rw [hd.holds_remove]
          by_cases hpq : p = q
          · have hkept : PermissionCall.give p ∉ calls := by
              intro hgive
              exact hseparate p (List.mem_cons_of_mem _ hgive) (hpq ▸ List.mem_cons_self)
            simp [hpq, hpq ▸ hkept]
          · simp [hpq]

omit [DecidableEq Pair] in
/-- A pair is among the pending removals exactly when it was removed. -/
theorem mem_pendingRemovals (u : ReconcileUser Store Pair Assignment) (p : Pair) :
    p ∈ (calls.foldl (call d) u).pendingRemovals ↔
      p ∈ u.pendingRemovals ∨ PermissionCall.remove p ∈ calls := by
  induction calls generalizing u with
  | nil => simp
  | cons c calls ih =>
      rw [List.foldl_cons, ih]
      cases c with
      | give q =>
          show p ∈ u.pendingRemovals ∨ _ ↔ _
          simp
      | remove q =>
          show p ∈ u.pendingRemovals ++ [q] ∨ _ ↔ _
          rw [List.mem_append, List.mem_singleton]
          simp [or_assoc]

/-- The batch of a login that mentions a pair: the grants if it was newly given, the removals if
it was removed. -/
theorem writesTo_flushPendingSync (hd : d.Documented) (hseparate : Separate calls) (login : ℕ)
    (store : Store) (p : Pair) :
    (PermissionCall.give p ∈ calls ∧ d.holds store p = false ∧
        ∃ ps, writesTo Batch.pairs p (applyPermissions d login store calls).2 =
          [⟨login, .assignment, ps⟩]) ∨
      (PermissionCall.remove p ∈ calls ∧
        ∃ ps, writesTo Batch.pairs p (applyPermissions d login store calls).2 =
          [⟨login, .unassignment, ps⟩]) ∨
      ((PermissionCall.give p ∈ calls → d.holds store p = true) ∧
        PermissionCall.remove p ∉ calls ∧
        writesTo Batch.pairs p (applyPermissions d login store calls).2 = []) := by
  have hgrants : p ∈ (reconcile d store calls).pendingGrants.map d.pairOf ↔
      PermissionCall.give p ∈ calls ∧ d.holds store p = false :=
    (mem_pendingGrants hd hseparate ⟨store, [], []⟩ p).trans
      (or_iff_right List.not_mem_nil)
  have hremovals : p ∈ (reconcile d store calls).pendingRemovals ↔
      PermissionCall.remove p ∈ calls :=
    (mem_pendingRemovals ⟨store, [], []⟩ p).trans (or_iff_right List.not_mem_nil)
  -- The batch of an empty list is not queued, and mentions no pair either way.
  have hflush : writesTo Batch.pairs p (applyPermissions d login store calls).2 =
      (if PermissionCall.give p ∈ calls ∧ d.holds store p = false then
          [⟨login, .assignment, (reconcile d store calls).pendingGrants.map d.pairOf⟩] else []) ++
        if PermissionCall.remove p ∈ calls then
          [⟨login, .unassignment, (reconcile d store calls).pendingRemovals⟩] else [] := by
    show writesTo Batch.pairs p (flushPendingSync d login (reconcile d store calls)) = _
    unfold flushPendingSync
    rw [writesTo_append]
    congr 1
    · rw [← if_congr hgrants rfl rfl]
      by_cases hempty : (reconcile d store calls).pendingGrants = []
      · simp [hempty, writesTo]
      · rw [if_neg hempty]
        unfold writesTo
        rw [List.filter_singleton]
        simp only [Bool.cond_decide]
    · rw [← if_congr hremovals rfl rfl]
      by_cases hempty : (reconcile d store calls).pendingRemovals = []
      · simp [hempty, writesTo]
      · rw [if_neg hempty]
        unfold writesTo
        rw [List.filter_singleton]
        simp only [Bool.cond_decide]
  rw [hflush]
  by_cases hgive : PermissionCall.give p ∈ calls
  · have hremove : PermissionCall.remove p ∉ calls := hseparate p hgive
    cases hholds : d.holds store p with
    | true => simp [hgive, hremove]
    | false => simp [hgive, hremove]
  · by_cases hremove : PermissionCall.remove p ∈ calls
    · simp [hgive, hremove]
    · simp [hgive, hremove]

end OneLogin

/-! ## Two logins -/

section TwoLogins

variable {Store Pair Assignment Db : Type} (d : RoleStore Store Pair Assignment)

open ReconcileUser

/-- The assignments in the gateway after two logins, and the batches they queue. -/
def twoLogins (store : Store) (calls₁ calls₂ : List (PermissionCall Pair)) :
    Store × List (Batch Pair) :=
  let (store₁, batches₁) := applyPermissions d 1 store calls₁
  let (store₂, batches₂) := applyPermissions d 2 store₁ calls₂
  (store₂, batches₁ ++ batches₂)

/-- A pair is affected by the logins: one of their batches mentions it. -/
def Affected (batches : List (Batch Pair)) (p : Pair) : Prop :=
  ∃ b ∈ batches, p ∈ b.pairs

/-- Batches that conflict arrive in the order of the logins: a batch of the earlier login precedes
every batch of the later one with the other operation and a common pair. -/
def InOrder (delivered : List (Batch Pair)) : Prop :=
  ∀ a ∈ delivered, ∀ b ∈ delivered, a.login < b.login → a.operation ≠ b.operation →
    (∃ p ∈ a.pairs, p ∈ b.pairs) → [a, b].Sublist delivered

variable [DecidableEq Pair] {d} {r : Receiver Db Pair}
  {calls₁ calls₂ : List (PermissionCall Pair)}

/-- A batch writes its pairs in the service. -/
theorem writes_deliver (hr : r.Documented) :
    Writes r.holds r.deliver Batch.pairs Batch.value := by
  intro db b p
  unfold Receiver.deliver Batch.value
  cases b.operation with
  | assignment => exact hr.holds_assign db b.pairs p
  | unassignment => exact hr.holds_unassign db b.pairs p

/-- The batch of the last login that mentions a pair agrees with the gateway: it is one of at most
two batches, one of each login. -/
theorem writesTo_twoLogins (hd : d.Documented) (store : Store) (h₁ : Separate calls₁)
    (h₂ : Separate calls₂) (p : Pair) :
    let result := twoLogins d store calls₁ calls₂
    writesTo Batch.pairs p result.2 = [] ∨
      (∃ b, writesTo Batch.pairs p result.2 = [b] ∧ d.holds result.1 p = b.value) ∨
      ∃ a b, writesTo Batch.pairs p result.2 = [a, b] ∧ a.login < b.login ∧
        d.holds result.1 p = b.value := by
  have hstore : ∀ (login : ℕ) (calls : List (PermissionCall Pair)) (s : Store), Separate calls →
      d.holds (applyPermissions d login s calls).1 p =
        if .give p ∈ calls then true else if .remove p ∈ calls then false else d.holds s p :=
    fun login calls s hseparate => holds_foldl_call hd hseparate ⟨s, [], []⟩ p
  dsimp only [twoLogins]
  rw [writesTo_append, hstore 2 calls₂ _ h₂]
  -- The pair is mentioned by at most one batch of each login.
  rcases writesTo_flushPendingSync hd h₁ 1 store p with
    ⟨hgive₁, -, ps₁, hbatch₁⟩ | ⟨hremove₁, ps₁, hbatch₁⟩ | ⟨hgive₁, hremove₁, hbatch₁⟩ <;>
  rcases writesTo_flushPendingSync hd h₂ 2 (applyPermissions d 1 store calls₁).1 p with
    ⟨hgive₂, -, ps₂, hbatch₂⟩ | ⟨hremove₂, ps₂, hbatch₂⟩ | ⟨hgive₂, hremove₂, hbatch₂⟩ <;>
  rw [hbatch₁, hbatch₂]
  · exact Or.inr (Or.inr ⟨_, _, rfl, Nat.one_lt_two, if_pos hgive₂⟩)
  · refine Or.inr (Or.inr ⟨_, _, rfl, Nat.one_lt_two, ?_⟩)
    rw [if_neg (fun hgive => h₂ p hgive hremove₂), if_pos hremove₂]
    rfl
  · refine Or.inr (Or.inl ⟨_, rfl, ?_⟩)
    rw [if_neg hremove₂, hstore 1 calls₁ store h₁, if_pos hgive₁]
    exact ite_self _
  · exact Or.inr (Or.inr ⟨_, _, rfl, Nat.one_lt_two, if_pos hgive₂⟩)
  · refine Or.inr (Or.inr ⟨_, _, rfl, Nat.one_lt_two, ?_⟩)
    rw [if_neg (fun hgive => h₂ p hgive hremove₂), if_pos hremove₂]
    rfl
  · -- Removed at the first login, and not given again: it would be new.
    have hgone : d.holds (applyPermissions d 1 store calls₁).1 p = false := by
      rw [hstore 1 calls₁ store h₁, if_neg (fun hgive => h₁ p hgive hremove₁), if_pos hremove₁]
    have hnot : PermissionCall.give p ∉ calls₂ := by
      intro hgive
      rw [hgive₂ hgive] at hgone
      cases hgone
    refine Or.inr (Or.inl ⟨_, rfl, ?_⟩)
    rw [if_neg hnot, if_neg hremove₂, hgone]
    rfl
  · exact Or.inr (Or.inl ⟨_, rfl, if_pos hgive₂⟩)
  · refine Or.inr (Or.inl ⟨_, rfl, ?_⟩)
    rw [if_neg (fun hgive => h₂ p hgive hremove₂), if_pos hremove₂]
    rfl
  · exact Or.inl rfl

/-- After two logins and the delivery of all their batches to a service, in any order, the service
agrees with the gateway on every affected pair exactly when the batches that conflict arrived in
the order of the logins. -/
theorem converged_iff (hd : d.Documented) (hr : r.Documented) (store : Store) (db : Db)
    (h₁ : Separate calls₁) (h₂ : Separate calls₂) {delivered : List (Batch Pair)}
    (hperm : delivered.Perm (twoLogins d store calls₁ calls₂).2) :
    (∀ p, Affected (twoLogins d store calls₁ calls₂).2 p →
        r.holds (delivered.foldl r.deliver db) p =
          d.holds (twoLogins d store calls₁ calls₂).1 p) ↔
      InOrder delivered := by
  have hwrites := writes_deliver hr
  constructor
  -- Two batches about a pair are the two logins, whose values differ with the operation.
  · rintro hconverged a ha b hb hlogin hoperation ⟨p, hpa, hpb⟩
    have hmem : ∀ c ∈ delivered, p ∈ c.pairs →
        c ∈ writesTo Batch.pairs p (twoLogins d store calls₁ calls₂).2 := by
      intro c hc hpc
      exact List.mem_filter.mpr ⟨hperm.mem_iff.mp hc, decide_eq_true hpc⟩
    have hma := hmem a ha hpa
    have hmb := hmem b hb hpb
    have hp := hconverged p ⟨a, hperm.mem_iff.mp ha, hpa⟩
    rcases writesTo_twoLogins hd store h₁ h₂ p with
      hnone | ⟨c, hone, -⟩ | ⟨a', b', htwo, hlt, hlocal⟩
    · rw [hnone] at hma
      exact absurd hma List.not_mem_nil
    · rw [hone] at hma hmb
      rw [List.mem_singleton.mp hma, List.mem_singleton.mp hmb] at hlogin
      exact absurd hlogin (lt_irrefl _)
    · -- The two batches are the only ones that mention the pair.
      have hpair : a = a' ∧ b = b' := by
        rw [htwo] at hma hmb
        simp only [List.mem_cons, List.not_mem_nil, or_false] at hma hmb
        rcases hma with rfl | rfl <;> rcases hmb with rfl | rfl
        · exact absurd hlogin (lt_irrefl _)
        · exact ⟨rfl, rfl⟩
        · exact absurd (hlogin.trans hlt) (lt_irrefl _)
        · exact absurd hlogin (lt_irrefl _)
      obtain ⟨rfl, rfl⟩ := hpair
      have hne : a ≠ b := fun heq => hoperation (congrArg Batch.operation heq)
      rw [hlocal] at hp
      rcases (read_foldl_perm_pair hwrites hne hperm htwo).mp hp with hvalue | hbefore
      · unfold Batch.value at hvalue
        cases hopa : a.operation <;> cases hopb : b.operation <;> simp_all
      · exact hbefore
  -- One batch is delivered once, and of two the later one is delivered last.
  · rintro hordered p ⟨c, hc, hpc⟩
    rcases writesTo_twoLogins hd store h₁ h₂ p with
      hnone | ⟨a, hone, hlocal⟩ | ⟨a, b, htwo, hlt, hlocal⟩
    · have hmc : c ∈ writesTo Batch.pairs p (twoLogins d store calls₁ calls₂).2 :=
        List.mem_filter.mpr ⟨hc, decide_eq_true hpc⟩
      rw [hnone] at hmc
      exact absurd hmc List.not_mem_nil
    · rw [hlocal]
      exact read_foldl_perm_single hwrites hperm hone
    · have hne : a ≠ b := fun heq => (lt_irrefl _) (heq ▸ hlt)
      rw [hlocal, read_foldl_perm_pair hwrites hne hperm htwo]
      by_cases hoperation : a.operation = b.operation
      · left
        unfold Batch.value
        rw [hoperation]
      · right
        have hmem : ∀ c ∈ [a, b], c ∈ delivered ∧ p ∈ c.pairs := by
          intro c hc
          rw [← htwo] at hc
          obtain ⟨hsent, hpc⟩ := List.mem_filter.mp hc
          exact ⟨hperm.mem_iff.mpr hsent, of_decide_eq_true hpc⟩
        obtain ⟨ha, hpa⟩ := hmem a (by simp)
        obtain ⟨hb, hpb⟩ := hmem b (by simp)
        exact hordered a ha b hb hlt hoperation ⟨p, hpa, hpb⟩

end TwoLogins

/-- Local assignments as a list of pairs. -/
def listStore : RoleStore (List ℕ) ℕ ℕ where
  holds s p := s.contains p
  givePermission s p := if s.contains p then (s, none) else (p :: s, some p)
  removePermission s p := s.filter (· ≠ p)
  pairOf p := p

/-- The assignments of a service as a list of pairs. -/
def listReceiver : Receiver (List ℕ) ℕ where
  holds db p := db.contains p
  bulkAssign db ps := ps ++ db
  bulkUnassign db ps := db.filter (· ∉ ps)

/-- Lists behave as the base class documents. -/
theorem documented_listStore : listStore.Documented where
  holds_give := by
    intro s p q
    by_cases hp : p ∈ s <;> by_cases hq : q = p <;> simp [listStore, hp, hq]
  give_new := by
    intro s p hp
    have hnot : p ∉ s := by simpa [listStore] using hp
    exact ⟨p, by simp [listStore, hnot], rfl⟩
  give_existing := by
    intro s p hp
    have hin : p ∈ s := by simpa [listStore] using hp
    simp [listStore, hin]
  holds_remove := by
    intro s p q
    by_cases hq : q = p <;> simp [listStore, hq]

/-- Lists behave as the services document. -/
theorem documented_listReceiver : listReceiver.Documented where
  holds_assign := by
    intro db ps q
    by_cases hq : q ∈ ps <;> simp [listReceiver, hq]
  holds_unassign := by
    intro db ps q
    by_cases hq : q ∈ ps <;> simp [listReceiver, hq]

/-- The first login gives the role 7, and the second removes it; the batches in the order they were
queued, or the other way round. -/
def roleBatches (swapped : Bool) : List (Batch ℕ) :=
  let grants : Batch ℕ := ⟨1, .assignment, [7]⟩
  let removals : Batch ℕ := ⟨2, .unassignment, [7]⟩
  if swapped then [removals, grants] else [grants, removals]

/-- The batches of the two logins. -/
theorem perm_roleBatches (swapped : Bool) :
    (roleBatches swapped).Perm (twoLogins listStore [] [.give 7] [.remove 7]).2 := by
  cases swapped <;> decide

/-- Delivered in the order of the logins, the batches leave the service as the gateway is. -/
theorem converged_roleBatches :
    Affected (twoLogins listStore [] [.give 7] [.remove 7]).2 7 ∧
      listReceiver.holds ((roleBatches false).foldl listReceiver.deliver []) 7 =
        listStore.holds (twoLogins listStore [] [.give 7] [.remove 7]).1 7 := by
  have haffected : Affected (twoLogins listStore [] [.give 7] [.remove 7]).2 7 :=
    ⟨⟨1, .assignment, [7]⟩, by decide, by decide⟩
  have hordered : InOrder (roleBatches false) := by
    unfold InOrder roleBatches
    decide
  refine ⟨haffected, ?_⟩
  exact (converged_iff documented_listStore documented_listReceiver [] []
    (by unfold Separate; simp) (by unfold Separate; simp) (perm_roleBatches false)).mpr hordered 7
      haffected

/-- When the batch of the second login overtakes that of the first, the removed role stays granted
in the service. -/
theorem not_converged_roleBatches :
    (roleBatches true).Perm (twoLogins listStore [] [.give 7] [.remove 7]).2 ∧
      Affected (twoLogins listStore [] [.give 7] [.remove 7]).2 7 ∧
      listStore.holds (twoLogins listStore [] [.give 7] [.remove 7]).1 7 = false ∧
      listReceiver.holds ((roleBatches true).foldl listReceiver.deliver []) 7 = true := by
  refine ⟨perm_roleBatches true, ⟨⟨1, .assignment, [7]⟩, by decide, by decide⟩, by decide,
    by decide⟩

end AapGateway.Users
