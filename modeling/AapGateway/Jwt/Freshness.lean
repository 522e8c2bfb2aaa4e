import AapGateway.Foundations.CacheAside
import AapGateway.Foundations.Shuffle

/-!
# The cached token of a user

The authorization server caches the token it signs for a user. `User.save` drops the cached token
when a field that the token carries has changed, and does so before it writes the row. This
module interleaves one such save with one authorization request for the user.

The request reads the row first, then looks the token up and signs one on a miss. So a request
that read the row before it was written, and fills the cache after the save has dropped the
token, leaves a token with the old values behind.

## Main definitions

* `User.savePlan` and `requestPlan`: the steps of the two programs;
* `finalWorld`: the row and the cache after an interleaving;
* `FreshOrder`: the interleavings that leave no stale token.

## Main results

* `fresh_iff_freshOrder`: the cached token carries the stored values exactly in those.
-/

namespace AapGateway.Jwt

/-- The fields of a user that a token carries: `username`, `first_name`, `last_name`, `email` and
`is_superuser`. -/
structure UserData where
  username : String
  firstName : String
  lastName : String
  email : String
  isSuperuser : Bool
  deriving DecidableEq, Repr

/-- The payload of a token, without its expiry, identifiers and claims hash. -/
structure Payload where
  version : String := "1"
  iss : String := "ansible-issuer"
  aud : String := "ansible-services"
  userData : UserData
  deriving DecidableEq, Repr

/-- `create_signed_jwt`: the payload is built from the row that was read. -/
def createSignedJwt (row : UserData) : Payload where
  userData := row

/-- A user instance on which `save` is called. -/
structure User where
  managed : Bool
  /-- `_original_fields`, as the instance was loaded. -/
  original : UserData
  /-- The values the instance carries now. -/
  fields : UserData
  deriving DecidableEq, Repr

/-- `fields_changed` of `User.save`. -/
def User.fieldsChanged (u : User) : Bool :=
  u.original.username ≠ u.fields.username || u.original.firstName ≠ u.fields.firstName ||
    u.original.lastName ≠ u.fields.lastName || u.original.email ≠ u.fields.email ||
    u.original.isSuperuser ≠ u.fields.isSuperuser

/-- The steps of a save and of a request. -/
inductive Step where
  /-- `invalidate_cached_jwt`. -/
  | invalidate
  /-- The row is written. -/
  | write
  /-- The user of the request is loaded. -/
  | read
  /-- `JWTSessionCache.get`; a hit ends the request. -/
  | get
  /-- Sign a token from the row that was read, and `JWTSessionCache.set`. -/
  | set
  deriving DecidableEq, Repr

/-- The steps of `User.save` on an existing user. -/
def User.savePlan (u : User) : List Step :=
  if !u.managed && u.fieldsChanged then [.invalidate, .write] else [.write]

/-- The steps of a request for the user. -/
def requestPlan : List Step := [.read, .get, .set]

/-- The step belongs to the request. -/
def Step.ofRequest : Step → Bool
  | .read => true
  | .get => true
  | .set => true
  | .invalidate => false
  | .write => false

/-- The two programs. -/
inductive Process where
  | request
  | save
  deriving DecidableEq, Repr

/-- The token of a user as a value built from the row. There is one cache entry for a user. -/
def jwtSystem : CacheAside.System UserData Unit Payload where
  build _ row := createSignedJwt row
  cacheable _ := true

/-- A step as an instruction on the row and the cache. -/
def Step.toInstr (u : User) : Step → Process × CacheAside.Instr UserData Unit
  | .invalidate => (.save, .invalidate)
  | .write => (.save, .commit fun _ => some (u.fields, []))
  | .read => (.request, .read)
  | .get => (.request, .get ())
  | .set => (.request, .set ())

/-- The stored row is the one the instance was loaded from, and the entry of the user is empty or
holds the token of that row. -/
def startWorld (u : User) (isCached : Bool) :
    CacheAside.World Process UserData Unit Payload where
  store := u.original
  cache _ := if isCached then some (createSignedJwt u.original) else none
  memory
    | .request => {}
    | .save => { pending := [()] }

/-- The row and the cache after an interleaving. -/
def finalWorld (u : User) (isCached : Bool) (steps : List Step) :
    CacheAside.World Process UserData Unit Payload :=
  CacheAside.run jwtSystem (startWorld u isCached) (steps.map (Step.toInstr u))

/-- The steps interleave one save with one request. -/
def Interleaves (u : User) (steps : List Step) : Prop :=
  steps.filter Step.ofRequest = requestPlan ∧
    (steps.filter fun s => !s.ofRequest) = u.savePlan

/-- The cached token, if there is one, carries the stored values. -/
def Fresh (w : CacheAside.World Process UserData Unit Payload) : Prop :=
  ∀ jwt, w.cache () = some jwt → jwt.userData = w.store

/-- The step `a` comes before the step `b`. -/
def Before (steps : List Step) (a b : Step) : Prop :=
  [a, b].Sublist steps

instance (steps : List Step) (a b : Step) : Decidable (Before steps a b) :=
  inferInstanceAs (Decidable ([a, b].Sublist steps))

/-- The orders that leave no stale token. For a managed user nothing is dropped, so nothing may
be cached and the request has to read the new row. For any other user, the request may not miss,
fill the entry after it was dropped, and have read the old row. -/
def FreshOrder (isManaged isCached : Bool) (steps : List Step) : Prop :=
  if isManaged then isCached = false ∧ Before steps .write .read
  else ¬ (Before steps .read .write ∧ Before steps .invalidate .set ∧
    (isCached = false ∨ Before steps .invalidate .get))

instance (isManaged isCached : Bool) (steps : List Step) :
    Decidable (FreshOrder isManaged isCached steps) :=
  inferInstanceAs (Decidable (if isManaged then _ else _))

/-- A save that changes a field changes the data. -/
theorem User.original_ne_fields {u : User} (h : u.fieldsChanged = true) :
    u.original ≠ u.fields := by
  intro heq
  rw [User.fieldsChanged, heq] at h
  simp at h

/-- An interleaving of the two programs is one of finitely many orders of their steps. -/
theorem Interleaves.mem_shuffles {u : User} {steps : List Step} (h : Interleaves u steps) :
    steps ∈ Shuffle.shuffles requestPlan u.savePlan := by
  have hmem := Shuffle.mem_shuffles Step.ofRequest steps
  rw [h.1, h.2] at hmem
  exact hmem

section Outcomes

variable {w : CacheAside.World Process UserData Unit Payload} {row : UserData}

/-- Nothing cached is fresh. -/
theorem fresh_of_none (h : w.cache () = none) : Fresh w := by
  intro jwt hjwt
  rw [h] at hjwt
  cases hjwt

/-- A token of the stored row is fresh. -/
theorem fresh_of_store (h : w.cache () = some (createSignedJwt w.store)) : Fresh w := by
  intro jwt hjwt
  rw [h] at hjwt
  rw [← Option.some.inj hjwt]
  rfl

/-- A token of another row is not. -/
theorem not_fresh_of_ne (h : w.cache () = some (createSignedJwt row)) (hne : row ≠ w.store) :
    ¬ Fresh w := by
  intro hfresh
  exact hne (hfresh _ h)

end Outcomes

/-- After a save that changes a field that tokens carry and a request for the user, in any order
of their steps, the cached token carries the stored values exactly in the orders of
`FreshOrder`. -/
theorem fresh_iff_freshOrder (u : User) (isCached : Bool) (steps : List Step)
    (hchanged : u.fieldsChanged = true) (h : Interleaves u steps) :
    Fresh (finalWorld u isCached steps) ↔ FreshOrder u.managed isCached steps := by
  have hne := User.original_ne_fields hchanged
  have hmem := h.mem_shuffles
  rw [User.savePlan, hchanged] at hmem
  -- In each order the cache ends up empty, or with the token of the old or of the new row.
  cases hmanaged : u.managed with
  | false =>
      simp only [hmanaged, Bool.not_false, Bool.and_self, if_true, requestPlan, Shuffle.shuffles,
        List.map_cons, List.map_nil, List.cons_append, List.nil_append, List.mem_cons,
        List.not_mem_nil, or_false] at hmem
      rcases hmem with rfl | rfl | rfl | rfl | rfl | rfl | rfl | rfl | rfl | rfl <;>
        cases isCached <;>
        first
          | exact iff_of_true (fresh_of_none rfl) (by decide)
          | exact iff_of_true (fresh_of_store rfl) (by decide)
          | exact iff_of_false (not_fresh_of_ne rfl hne) (by decide)
  | true =>
      simp only [hmanaged, Bool.not_true, Bool.false_and, Bool.false_eq_true, if_false,
        requestPlan, Shuffle.shuffles, List.map_cons, List.map_nil, List.cons_append,
        List.nil_append, List.mem_cons, List.not_mem_nil, or_false] at hmem
      rcases hmem with rfl | rfl | rfl | rfl <;>
        cases isCached <;>
        first
          | exact iff_of_true (fresh_of_none rfl) (by decide)
          | exact iff_of_true (fresh_of_store rfl) (by decide)
          | exact iff_of_false (not_fresh_of_ne rfl hne) (by decide)

/-- A save that takes the superuser flag from a user. -/
def demotion : User where
  managed := false
  original := ⟨"admin", "First", "Last", "admin@example.com", true⟩
  fields := ⟨"admin", "First", "Last", "admin@example.com", false⟩

/-- A request that comes after the save leaves a fresh token behind. -/
theorem fresh_demotion_read_last :
    Fresh (finalWorld demotion true [.invalidate, .write, .read, .get, .set]) ∧
      ((finalWorld demotion true [.invalidate, .write, .read, .get, .set]).cache ()).isSome =
        true := by
  refine ⟨?_, by decide⟩
  exact (fresh_iff_freshOrder demotion true _ (by decide) ⟨rfl, rfl⟩).mpr (by decide)

/-- The request reads the row, the save drops the cached token and writes the row, and the
request signs what it read: the token of a superuser stays cached for a user who is none. -/
theorem not_fresh_demotion_read_first :
    demotion.fieldsChanged = true ∧
      Interleaves demotion [.read, .invalidate, .write, .get, .set] ∧
      ¬ Fresh (finalWorld demotion true [.read, .invalidate, .write, .get, .set]) := by
  refine ⟨by decide, ⟨rfl, rfl⟩, ?_⟩
  exact not_fresh_of_ne rfl (by decide : demotion.original ≠ demotion.fields)

end AapGateway.Jwt
