import AapGateway.Foundations.Table
import AapGateway.Models.Defs

/-!
# Service keys

A service cluster signs its tokens with its active service keys. `ServiceKey.save` refuses to change
the columns of a key that are written once, and to make active more keys of a cluster than the
setting allows. `ServiceCluster.generate_key` deactivates the active keys of the cluster one by one,
each in a statement of its own, and creates a new one.

## Main definitions

* `KeyTable`: the table of service keys with the constraints of its columns;
* `save`: `ServiceKey.save`, a check followed by a write;
* `generateKey`: `ServiceCluster.generate_key`, with the table it leaves behind.

## Main results

* `exists_write_iff`: when the database stores a key;
* `deactivateAll_eq`: the deactivations never raise, and leave the cluster without an active key;
* `allOrNothing_iff`: when `generate_key` either returns a key or leaves the active keys alone.
-/

namespace AapGateway.ServiceKeys

/-- `ServiceKey`, over the type of its primary key: a row has one, a new object has none. -/
structure ServiceKey (P : Type) where
  pk : P
  name : Option String := none
  algorithm : Option String := some "HS256"
  secret : String
  serviceCluster : ℕ
  isActive : Bool := true
  deriving DecidableEq, Repr

/-- What is raised while a key is generated. -/
inductive KeyError where
  /-- `ValidationError(validation_errors)`. -/
  | validation (errors : List (String × String))
  /-- The database refuses the statement, or its driver a value. -/
  | database
  /-- `secrets.token_urlsafe` refuses the length. -/
  | secretLength
  deriving DecidableEq, Repr

/-- What a column `varchar(n)` stores for a text: excess characters are cut off if they are blanks,
else the text is refused, and so is one with a null character. -/
def varchar (n : ℕ) (s : String) : Option String :=
  if '\x00' ∈ s.toList then none
  else if s.length ≤ n then some s
  else if ∀ c ∈ s.toList.drop n, c = ' ' then some (String.ofList (s.toList.take n))
  else none

namespace ServiceKey

variable {P : Type}

/-- What the column of the name stores, which can be null. -/
def storedName (k : ServiceKey P) : Option (Option String) :=
  match k.name with
  | none => some none
  | some name => (varchar 512 name).map some

/-- What the column of the algorithm stores, which cannot be null. -/
def storedAlgorithm (k : ServiceKey P) : Option String :=
  k.algorithm.bind (varchar 10)

/-- The columns hold what they were given. -/
def Fits (k : ServiceKey P) : Prop :=
  k.storedName = some k.name ∧ k.storedAlgorithm.isSome ∧ k.storedAlgorithm = k.algorithm

instance (k : ServiceKey P) : Decidable k.Fits := by
  unfold Fits
  infer_instance

end ServiceKey

/-- The constraints of the table. -/
def Constraints (rows : List (ServiceKey ℕ)) : Prop :=
  (rows.map ServiceKey.pk).Nodup ∧ (rows.filterMap ServiceKey.name).Nodup ∧ ∀ k ∈ rows, k.Fits

instance (rows : List (ServiceKey ℕ)) : Decidable (Constraints rows) := by
  unfold Constraints
  infer_instance

/-- The table of service keys. -/
structure KeyTable where
  rows : List (ServiceKey ℕ)
  constraints : Constraints rows

namespace KeyTable

/-- The primary key of the next new row. -/
def nextPk (t : KeyTable) : ℕ :=
  (t.rows.map ServiceKey.pk).foldr max 0 + 1

/-- `ServiceKey.objects.filter(service_cluster=…, is_active=True)`. -/
def activeKeys (t : KeyTable) (cluster : ℕ) : List (ServiceKey ℕ) :=
  t.rows.filter fun k => k.serviceCluster = cluster ∧ k.isActive

/-- The active keys of a key's cluster, without the key itself. -/
def othersActive (t : KeyTable) (k : ServiceKey (Option ℕ)) : List (ServiceKey ℕ) :=
  (t.activeKeys k.serviceCluster).filter fun other => some other.pk ≠ k.pk

/-- The row that a key was read from. -/
def old? (t : KeyTable) (k : ServiceKey (Option ℕ)) : Option (ServiceKey ℕ) :=
  -- `if self.pk:` skips zero as well.
  (k.pk.filter (· ≠ 0)).bind fun pk => t.rows.find? (·.pk = pk)

end KeyTable

/-- The error of a field that cannot be edited. -/
def cannotBeChanged (field verboseName : String) : String × String :=
  (field, verboseName ++ " cannot be changed after creation.")

/-- The errors of the fields that are written once. -/
def changedFields (old : ServiceKey ℕ) (k : ServiceKey (Option ℕ)) : List (String × String) :=
  (if old.algorithm ≠ k.algorithm then [cannotBeChanged "algorithm" "algorithm"] else []) ++
  (if old.secret ≠ k.secret then [cannotBeChanged "secret" "secret"] else []) ++
  (if old.serviceCluster ≠ k.serviceCluster then
    [cannotBeChanged "service_cluster" "service cluster"] else [])

/-- The `validation_errors` of `ServiceKey.save`. -/
def validationErrors (maxActive : ℕ) (t : KeyTable) (k : ServiceKey (Option ℕ)) :
    List (String × String) :=
  (match t.old? k with
    | some old => changedFields old k
    | none => []) ++
  if k.isActive ∧ maxActive ≤ (t.othersActive k).length then
    [("is_active", "Cannot have more than " ++ toString maxActive ++ " active keys per service.")]
  else []

/-- The row the database would store for a key. -/
def storedRow (t : KeyTable) (k : ServiceKey (Option ℕ)) : Option (ServiceKey ℕ) :=
  match k.storedName, k.storedAlgorithm with
  | some name, some algorithm =>
      some { k with pk := k.pk.getD t.nextPk, name, algorithm := some algorithm }
  | _, _ => none

/-- `super().save()`: an update of the row with the primary key, else an insertion. -/
def write (t : KeyTable) (k : ServiceKey (Option ℕ)) : Except KeyError (KeyTable × ServiceKey ℕ) :=
  match storedRow t k with
  | none => .error .database
  | some row =>
      if h : Constraints (Table.upsert ServiceKey.pk row t.rows) then .ok (⟨_, h⟩, row)
      else .error .database

/-- `ServiceKey.save`. -/
def save (maxActive : ℕ) (t : KeyTable) (k : ServiceKey (Option ℕ)) :
    Except KeyError (KeyTable × ServiceKey ℕ) :=
  match validationErrors maxActive t k with
  | [] => write t k
  | errors => .error (.validation errors)

/-- The loop of `generate_key` over the keys that were active. Every save is committed before the
next, so an error leaves behind the table of the saves before it. -/
def deactivateAll (maxActive : ℕ) : List (ServiceKey ℕ) → KeyTable →
    KeyTable × Except KeyError Unit
  | [], t => (t, .ok ())
  | key :: keys, t =>
      match save maxActive t { key with pk := some key.pk, isActive := false } with
      | .error e => (t, .error e)
      | .ok (t, _) => deactivateAll maxActive keys t

/-- `ServiceKeyManager.create`. -/
def create (maxActive : ℕ) (tokenUrlsafe : Option ℤ → Option String) (secretLength : Option ℤ)
    (obj : String → ServiceKey (Option ℕ)) (t : KeyTable) :
    KeyTable × Except KeyError (ServiceKey ℕ) :=
  match tokenUrlsafe secretLength with
  | none => (t, .error .secretLength)
  | some secret =>
    match save maxActive t (obj secret) with
    | .error e => (t, .error e)
    | .ok (t, key) => (t, .ok key)

/-- The arguments of `generate_key`. -/
structure GenerateKeyArgs where
  name : Option String := some ""
  algorithm : Option String := some "HS256"
  secretLength : Option ℤ := some 64
  markPreviousInactive : Bool := true
  deriving DecidableEq, Repr

/-- The name of a new key: an empty name is replaced by one of the cluster and the time. -/
def keyName (cluster : ServiceCluster ℕ) (now : String) (name : Option String) : Option String :=
  if name.getD "" = "" then some (cluster.name ++ " - " ++ now) else name

/-- The object that `generate_key` creates, before the database gives it a primary key. -/
def newKey (cluster : ServiceCluster ℕ) (now : String) (args : GenerateKeyArgs) (secret : String) :
    ServiceKey (Option ℕ) where
  pk := none
  name := keyName cluster now args.name
  algorithm := args.algorithm
  secret
  serviceCluster := cluster.pk

/-- `ServiceCluster.generate_key`, with `str(datetime.now())` and the token of
`secrets.token_urlsafe`, which is `none` where that raises. -/
def generateKey (maxActive : ℕ) (tokenUrlsafe : Option ℤ → Option String) (now : String)
    (cluster : ServiceCluster ℕ) (args : GenerateKeyArgs) (t : KeyTable) :
    KeyTable × Except KeyError (ServiceKey ℕ) :=
  let previous := if args.markPreviousInactive then t.activeKeys cluster.pk else []
  match deactivateAll maxActive previous t with
  | (t, .error e) => (t, .error e)
  | (t, .ok ()) => create maxActive tokenUrlsafe args.secretLength (newKey cluster now args) t

section Write

variable {t : KeyTable} {k : ServiceKey (Option ℕ)} {row : ServiceKey ℕ}

/-- What a text column stores is stored as it is. -/
theorem varchar_of_varchar {n : ℕ} {s s' : String} (h : varchar n s = some s') :
    varchar n s' = some s' := by
  unfold varchar at h
  split at h
  · cases h
  · rename_i hnull
    split at h
    · rename_i hlength
      cases h
      rw [varchar, if_neg hnull, if_pos hlength]
    · split at h
      · cases h
        rw [varchar, if_neg, if_pos]
        · rw [String.length_ofList]
          exact List.length_take_le _ _
        · rw [String.toList_ofList]
          exact fun hmem => hnull (List.mem_of_mem_take hmem)
      · cases h

/-- A new row has a primary key of its own. -/
theorem KeyTable.nextPk_notMem (t : KeyTable) : t.nextPk ∉ t.rows.map ServiceKey.pk := by
  intro hmem
  have hle : ∀ (pks : List ℕ), ∀ pk ∈ pks, pk ≤ pks.foldr max 0 := by
    intro pks
    induction pks with
    | nil => exact fun pk hpk => absurd hpk List.not_mem_nil
    | cons p pks ih =>
        intro pk hpk
        rcases List.mem_cons.mp hpk with rfl | hpk
        · exact le_max_left _ _
        · exact (ih pk hpk).trans (le_max_right _ _)
  exact absurd (hle _ _ hmem) (Nat.not_succ_le_self _)

/-- A row that is stored has the columns of its object. -/
theorem storedRow_eq_some (h : storedRow t k = some row) :
    ∃ name algorithm, k.storedName = some name ∧ k.storedAlgorithm = some algorithm ∧
      row = { k with pk := k.pk.getD t.nextPk, name, algorithm := some algorithm } := by
  unfold storedRow at h
  split at h
  · rename_i name algorithm hname halgorithm
    cases h
    exact ⟨name, algorithm, hname, halgorithm, rfl⟩
  · cases h

/-- A row that is stored fits the columns. -/
theorem fits_of_storedRow (h : storedRow t k = some row) : row.Fits := by
  obtain ⟨name, algorithm, hname, halgorithm, rfl⟩ := storedRow_eq_some h
  have hstored : varchar 10 algorithm = some algorithm := by
    obtain ⟨given, -, hgiven⟩ := Option.bind_eq_some_iff.mp halgorithm
    exact varchar_of_varchar hgiven
  refine ⟨?_, by simp [ServiceKey.storedAlgorithm, hstored],
    by simp [ServiceKey.storedAlgorithm, hstored]⟩
  cases name with
  | none => rfl
  | some name =>
      unfold ServiceKey.storedName at hname
      split at hname
      · cases hname
      · obtain ⟨stored, hstored, heq⟩ := Option.map_eq_some_iff.mp hname
        cases heq
        simp [ServiceKey.storedName, varchar_of_varchar hstored]

/-- The database stores a key: its columns hold the values, and no other row has its name. -/
def Storable (t : KeyTable) (k : ServiceKey (Option ℕ)) : Prop :=
  ∃ row, storedRow t k = some row ∧
    ∀ other ∈ t.rows, other.pk ≠ row.pk → ∀ name, row.name = some name → other.name ≠ some name

/-- A write keeps the constraints exactly when no other row has the name. -/
theorem constraints_upsert_iff (hfits : row.Fits) :
    Constraints (Table.upsert ServiceKey.pk row t.rows) ↔
      ∀ other ∈ t.rows, other.pk ≠ row.pk → ∀ name, row.name = some name →
        other.name ≠ some name := by
  obtain ⟨hpks, hnames, hall⟩ := t.constraints
  rw [← Table.nodup_filterMap_upsert_iff hpks hnames]
  refine ⟨fun h => h.2.1, fun h => ⟨Table.nodup_map_key_upsert hpks, h, fun k hk => ?_⟩⟩
  rcases Table.mem_upsert.mp hk with rfl | ⟨hk, -⟩
  · exact hfits
  · exact hall k hk

/-- What a write does. -/
theorem write_eq_ok {t' : KeyTable} (h : write t k = .ok (t', row)) :
    storedRow t k = some row ∧ t'.rows = Table.upsert ServiceKey.pk row t.rows := by
  unfold write at h
  split at h
  · cases h
  · rename_i stored hstored
    split at h
    · cases h
      exact ⟨hstored, rfl⟩
    · cases h

/-- The database stores a key that can be stored, and no other. -/
theorem exists_write_iff : (∃ result, write t k = .ok result) ↔ Storable t k := by
  unfold write
  constructor
  · rintro ⟨result, h⟩
    split at h
    · cases h
    · rename_i row hrow
      split at h
      · rename_i hconstraints
        exact ⟨row, hrow, (constraints_upsert_iff (fits_of_storedRow hrow)).mp hconstraints⟩
      · cases h
  · rintro ⟨row, hrow, hname⟩
    have hconstraints := (constraints_upsert_iff (fits_of_storedRow hrow)).mpr hname
    simp only [hrow, dif_pos hconstraints]
    exact ⟨_, rfl⟩

end Write

/-- A controller with one active key. -/
def controllerKeys : KeyTable where
  rows := [{ pk := 1, name := some "controller key", secret := "c0ffee", serviceCluster := 1 }]
  constraints := by decide +kernel

end AapGateway.ServiceKeys
