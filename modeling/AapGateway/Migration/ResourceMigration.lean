import Mathlib
import AapGateway.Foundations.Drain
import AapGateway.Migration.BulkUpdate

/-!
# The migration of resources

`migrate_resource` moves the resources of a type from an upstream service to the gateway. It asks
for the resources that the upstream service still owns, creates those that the gateway does not
have, and tells the upstream service to hand them over: the gateway's service id, and for a
resource that the gateway has already, the ansible id and the data of the gateway's object. It
goes on until there is nothing left.

The local creations of a page are committed before the bulk update is sent. The upstream service
is an environment that answers each request: it may apply an update and fail to say so, or the
process may end before the answer.

## Main definitions

* `Serializer`: the serializer of a type, field by field;
* `Gateway`: the gateway's objects with their resources;
* `Upstream`: the upstream service's resources, and `Upstream.apply`, a bulk update of one of them;
* `Environment`: how the upstream service answers;
* `reconcileExistingResource`, `processResourcePageBatch` and `migrateResource`.
-/

namespace AapGateway.Migration.Resources

/-- The value of a field. `other` has the JSON text of a value of another kind. -/
inductive Value where
  | null
  | bool (b : Bool)
  | text (s : String)
  | other (json : String)
  deriving DecidableEq, Repr

/-- `resource_data`: values by field name. -/
abbrev ResourceData := String → Option Value

/-- The types of resources that are migrated. -/
inductive SharedType where
  | organization
  | team
  | user
  | roleDefinition
  | aapFlag
  deriving DecidableEq, Repr

/-- The `unique_fields` of a type. -/
def SharedType.uniqueFields : SharedType → List String
  | .organization => ["name"]
  | .team => ["name", "organization"]
  | .user => ["username"]
  | .roleDefinition => ["name"]
  | .aapFlag => ["name", "condition"]

/-- A serializer class. Each field is cleaned on its own, and the cleaned values together are
checked last. What has been cleaned is clean, and a user may have the empty e-mail address. -/
structure Serializer where
  fields : List String
  clean : String → Option Value → Except Unit (Option Value)
  crossValid : ResourceData → Bool
  /-- The validation of a resource that the gateway has already: the values that are set. -/
  update : ResourceData → ResourceData → ResourceData
  clean_clean : ∀ {f v v'}, clean f v = .ok v' → clean f v' = .ok v'
  clean_blank_email : clean "email" (some (.text "")) = .ok (some (.text ""))

/-- The value of a field after cleaning. -/
def Serializer.cleaned (ser : Serializer) (data : ResourceData) : ResourceData := fun f =>
  if f ∈ ser.fields then
    match ser.clean f (data f) with
    | .ok v => v
    | .error _ => none
  else none

/-- `is_valid`, with `validated_data` or the names in `errors`. -/
def Serializer.validate (ser : Serializer) (data : ResourceData) :
    Except (List String) ResourceData :=
  let errors := ser.fields.filter fun f => (ser.clean f (data f)).toOption.isNone
  if errors ≠ [] then .error errors
  else if ser.crossValid (ser.cleaned data) then .ok (ser.cleaned data)
  else .error ["non_field_errors"]

/-- An object of the gateway with its resource. -/
structure LocalObject where
  resourceType : SharedType
  /-- What the serializer of the type shows of the object. -/
  data : ResourceData
  /-- Managed objects are hidden from `objects`. -/
  managed : Bool
  ansibleId : String
  serviceId : String

/-- The type of an object and the values of its unique fields. -/
def LocalObject.key (o : LocalObject) : SharedType × List (Option Value) :=
  (o.resourceType, o.resourceType.uniqueFields.map o.data)

/-- The objects of the gateway. The unique fields and the ansible ids are unique. -/
structure Gateway where
  objects : List LocalObject
  nodup_key : (objects.map LocalObject.key).Nodup
  nodup_ansibleId : (objects.map LocalObject.ansibleId).Nodup

/-- A resource of the upstream service. -/
structure Item where
  pk : ℕ
  resourceType : SharedType
  name : String
  ansibleId : String
  serviceId : String
  isPartiallyMigrated : Bool
  resourceData : Option ResourceData

/-- The upstream service. -/
structure Upstream where
  serviceType : String
  serviceId : String
  pageSize : ℕ
  items : List Item
  nodup_pk : (items.map Item.pk).Nodup
  nodup_ansibleId : (items.map Item.ansibleId).Nodup

/-- An item of a bulk update. -/
structure BulkItem where
  ansibleId : String
  newServiceId : Option String
  isPartiallyMigrated : Option Bool
  newAnsibleId : Option String
  resourceData : Option ResourceData

section Upstream

/-- A resource after an update. -/
def BulkItem.applyTo (b : BulkItem) (i : Item) : Item :=
  { i with
    ansibleId := b.newAnsibleId.getD i.ansibleId
    serviceId := b.newServiceId.getD i.serviceId
    isPartiallyMigrated := b.isPartiallyMigrated.getD i.isPartiallyMigrated
    resourceData := b.resourceData.orElse fun _ => i.resourceData }

/-- The resources after an update of one of them. -/
def Upstream.updated (u : Upstream) (b : BulkItem) : List Item :=
  u.items.map fun i => if i.ansibleId = b.ansibleId then b.applyTo i else i

/-- What no update changes. -/
def Item.label (i : Item) : ℕ × SharedType × String :=
  (i.pk, i.resourceType, i.name)

/-- An update keeps the labels. -/
theorem map_label_updated (u : Upstream) (b : BulkItem) :
    (u.updated b).map Item.label = u.items.map Item.label := by
  rw [Upstream.updated, List.map_map]
  refine List.map_congr_left fun i _ => ?_
  simp only [Function.comp_apply]
  split <;> rfl

/-- Items with the same labels have the same primary keys. -/
theorem map_pk_of_map_label {items items' : List Item}
    (h : items'.map Item.label = items.map Item.label) :
    items'.map Item.pk = items.map Item.pk := by
  have hpks := congrArg (List.map Prod.fst) h
  rwa [List.map_map, List.map_map] at hpks

/-- Update one resource. It is acknowledged if the resource is there and its new ansible id is not
the one of another resource. -/
def Upstream.apply (u : Upstream) (b : BulkItem) : Option Upstream :=
  if h : b.ansibleId ∈ u.items.map Item.ansibleId ∧ ((u.updated b).map Item.ansibleId).Nodup then
    some
      { u with
        items := u.updated b
        nodup_pk := by rw [map_pk_of_map_label (map_label_updated u b)]; exact u.nodup_pk
        nodup_ansibleId := h.2 }
  else none

/-- Update the resources that the service accepts, and count them. -/
def Upstream.applyAll (accepts : BulkItem → Bool) (u : Upstream) (chunk : List BulkItem) :
    Upstream × ℕ :=
  chunk.foldl (fun a b =>
    match if accepts b then a.1.apply b else none with
    | none => a
    | some u' => (u', a.2 + 1)) (u, 0)

/-- The filters of `migrate_resource`. -/
def Upstream.selects (u : Upstream) (t : SharedType) (i : Item) : Bool :=
  i.resourceType = t && i.serviceId = u.serviceId && !i.isPartiallyMigrated

/-- The first page of `list_resources`, and the count. -/
def Upstream.listResources (u : Upstream) (t : SharedType) : List Item × ℕ :=
  let remaining := u.items.filter (u.selects t)
  (remaining.take u.pageSize, remaining.length)

/-- How the service answers a bulk update: the items that it accepts, and what comes back instead
of the count. -/
structure Answer where
  accepts : BulkItem → Bool
  failure : Option Response
  failure_ne : ∀ n, failure ≠ some (.reply 200 (.dict n))

/-- How the service answers the requests, by their number. -/
structure Environment where
  answer : ℕ → Answer
  listFails : ℕ → Bool

end Upstream

/-- The gateway and the upstream service during a migration. -/
structure World where
  gateway : Gateway
  upstream : Upstream
  requests : ℕ
  /-- The items that have been sent. -/
  sent : List BulkItem

/-- A bulk update request. -/
def post (env : Environment) (w : World) (chunk : List BulkItem) : World × Response :=
  let answer := env.answer w.requests
  let applied := w.upstream.applyAll answer.accepts chunk
  ({ w with
      upstream := applied.1
      requests := w.requests + 1
      sent := w.sent ++ chunk },
    answer.failure.getD (.reply 200 (.dict applied.2)))

/-- What the migration runs in. -/
structure Setting where
  /-- The gateway's own `service_id()`. -/
  serviceId : String
  systemUsername : Option String
  serializer : SharedType → Serializer

/-- Why a migration raises. -/
inductive MigrationError where
  | requestFailed
  | missingResourceData (ansibleId : String)
  | invalidResource (ansibleId : String) (errors : List String)
  | keyError (field : String)
  | validationError (errors : List String)
  | integrityError
  | bulk (e : BulkError)
  | stalled
  deriving DecidableEq, Repr

section Page

variable (setting : Setting) (t : SharedType)

/-- `update_resource_data`. -/
def updateResourceData (t : SharedType) (errors : List String) (data : ResourceData) :
    Option ResourceData :=
  if t = .user ∧ "email" ∈ errors ∧ errors.length = 1 then
    some (Function.update data "email" (some (.text "")))
  else none

/-- `_deserialize_and_validate_resource_data`: the validated data, and the data of the resource
afterwards. -/
def deserializeAndValidateResourceData (ansibleId : String) (data : ResourceData) :
    Except MigrationError (ResourceData × ResourceData) :=
  match (setting.serializer t).validate data with
  | .ok validated => .ok (validated, data)
  | .error errors =>
    match updateResourceData t errors data with
    | none => .error (.invalidResource ansibleId errors)
    | some updated => .ok (updated, updated)

/-- `validated_resource_data[field_name]` for the unique fields. -/
def uniqueFilterKwargs (fields : List String) (validated : ResourceData) :
    Except MigrationError (List (String × Value)) :=
  fields.mapM fun f =>
    match validated f with
    | none => .error (.keyError f)
    | some v => .ok (f, v)

/-- `LocalResourceModel.objects.get(**kwargs)`. -/
def Gateway.get (g : Gateway) (t : SharedType) (kwargs : List (String × Value)) :
    Option LocalObject :=
  g.objects.find? fun o =>
    !o.managed && o.resourceType = t && kwargs.all fun (f, v) => o.data f = some v

/-- The field of a superuser. -/
def LocalObject.isSuperuser (o : LocalObject) : Bool :=
  o.data "is_superuser" = some (.bool true)

/-- The object of a user as a superuser. -/
def LocalObject.promoted (o : LocalObject) : LocalObject :=
  { o with data := Function.update o.data "is_superuser" (some (.bool true)) }

/-- A promotion of users changes no unique field. -/
theorem key_promoted {o : LocalObject} (h : o.resourceType = .user) : o.promoted.key = o.key := by
  simp [LocalObject.key, LocalObject.promoted, h, SharedType.uniqueFields]

/-- Make the user a superuser. -/
def Gateway.promote (g : Gateway) (username : Value) : Gateway where
  objects := g.objects.map fun o =>
    if o.resourceType = .user ∧ o.data "username" = some username then o.promoted else o
  nodup_key := by
    rw [List.map_map]
    convert g.nodup_key using 2
    funext o
    simp only [Function.comp_apply]
    split
    · next h => exact key_promoted h.1
    · rfl
  nodup_ansibleId := by
    rw [List.map_map]
    convert g.nodup_ansibleId using 2
    funext o
    simp only [Function.comp_apply]
    split <;> rfl

/-- `_sync_user_superuser_flag`: the gateway and the data of the resource afterwards. -/
def syncUserSuperuserFlag (serviceType : String) (g : Gateway) (data validated : ResourceData) :
    Except MigrationError (Gateway × ResourceData) :=
  match validated "username" with
  | none => .error (.keyError "username")
  | some username =>
    let upstreamIsSuperuser := validated "is_superuser" = some (.bool true)
    let gatewayUser := g.get .user [("username", username)]
    let isSuperuser := gatewayUser.elim false LocalObject.isSuperuser
    if serviceType = "controller" then
      if upstreamIsSuperuser then
        -- A user that the gateway does not have yet is created as a superuser.
        .ok (if gatewayUser.isSome && !isSuperuser then g.promote username else g,
          Function.update data "is_superuser" (some (.bool true)))
      else .ok (g, data)
    else if serviceType = "hub" ∨ serviceType = "eda" then
      .ok (g, Function.update data "is_superuser" (some (.bool isSuperuser)))
    else .ok (g, data)

/-- `updated_service_resource`. -/
structure UpdatedServiceResource where
  newServiceId : Option String
  isPartiallyMigrated : Option Bool
  ansibleId : Option String
  resourceData : Option ResourceData

/-- `_initialize_resource_sync_payloads`, the update of the service. -/
def initializeResourceSyncPayloads : UpdatedServiceResource :=
  ⟨some setting.serviceId, none, none, none⟩

/-- `_reconcile_existing_resource`: whether to create the resource, and the update of the
service. -/
def reconcileExistingResource (g : Gateway) (ansibleId : String) (kwargs : List (String × Value))
    (updated : UpdatedServiceResource) : Bool × UpdatedServiceResource :=
  match g.get t kwargs with
  | none => (true, updated)
  | some existing =>
    -- The resource that the gateway has under the same ansible id keeps its service id.
    let updated :=
      if existing.ansibleId = ansibleId then
        { updated with newServiceId := some existing.serviceId }
      else updated
    (false,
      { updated with ansibleId := some existing.ansibleId, resourceData := some existing.data })

/-- `_build_bulk_update_item`. -/
def buildBulkUpdateItem (ansibleId : String) (updated : UpdatedServiceResource) : BulkItem :=
  ⟨ansibleId, updated.newServiceId, updated.isPartiallyMigrated, updated.ansibleId,
    updated.resourceData⟩

/-- A local creation: the data of the resource and its ansible id. -/
structure CreateOperation where
  resourceData : ResourceData
  ansibleId : String

/-- An item of a page is read: it is validated, and a user once more after the superuser flag has
been synchronised. The result is the gateway, and unless it raises the validated data and the data
of the resource. -/
def readItem (serviceType : String) (g : Gateway) (item : Item) :
    Gateway × Except MigrationError (ResourceData × ResourceData) :=
  match item.resourceData with
  | none => (g, .error (.missingResourceData item.ansibleId))
  | some data =>
    match deserializeAndValidateResourceData setting t item.ansibleId data with
    | .error e => (g, .error e)
    | .ok (validated, data) =>
      if t = .user then
        match syncUserSuperuserFlag serviceType g data validated with
        | .error e => (g, .error e)
        -- The promotion is saved, whatever becomes of the page.
        | .ok (g, data) => (g, deserializeAndValidateResourceData setting t item.ansibleId data)
      else (g, .ok (validated, data))

/-- What becomes of an item of a page: the gateway, and unless it raises the creation and the
update of the service. -/
def processItem (serviceType : String) (g : Gateway) (item : Item) :
    Gateway × Except MigrationError (Option CreateOperation × BulkItem) :=
  match readItem setting t serviceType g item with
  | (g, .error e) => (g, .error e)
  | (g, .ok (validated, data)) =>
    match uniqueFilterKwargs t.uniqueFields validated with
    | .error e => (g, .error e)
    | .ok kwargs =>
      let reconciled := reconcileExistingResource t g item.ansibleId kwargs
        (initializeResourceSyncPayloads setting)
      (g, .ok
        (if reconciled.1 then some ⟨data, item.ansibleId⟩ else none,
          buildBulkUpdateItem item.ansibleId reconciled.2))

/-- The loop over the items of a page. -/
def processItems (serviceType : String) :
    Gateway → List Item → Gateway × Except MigrationError (List CreateOperation × List BulkItem)
  | g, [] => (g, .ok ([], []))
  | g, item :: items =>
    match processItem setting t serviceType g item with
    | (g, .error e) => (g, .error e)
    | (g, .ok (create, bulk)) =>
      match processItems serviceType g items with
      | (g, .error e) => (g, .error e)
      | (g, .ok (creates, bulks)) => (g, .ok (create.toList ++ creates, bulk :: bulks))

/-- The objects with the one at the place replaced. -/
def Gateway.replaced (g : Gateway) (existing : LocalObject) (data : ResourceData)
    (ansibleId : String) : List LocalObject :=
  g.objects.map fun o =>
    if o.ansibleId = existing.ansibleId then
      { o with
        data := fun f => if f ∈ o.resourceType.uniqueFields then o.data f else data f
        ansibleId }
    else o

/-- A replacement keeps the unique fields. -/
theorem map_key_replaced (g : Gateway) (existing : LocalObject) (data : ResourceData)
    (ansibleId : String) :
    (g.replaced existing data ansibleId).map LocalObject.key = g.objects.map LocalObject.key := by
  rw [Gateway.replaced, List.map_map]
  refine List.map_congr_left fun o _ => ?_
  simp only [Function.comp_apply]
  split
  · simp only [LocalObject.key, Prod.mk.injEq, true_and]
    refine List.map_congr_left fun f hf => ?_
    simp [hf]
  · rfl

/-- `Resource.create_resource` with `GetOrCreateProcessor`: an object with the unique fields is
updated, and otherwise one is created. -/
def Gateway.createResource (g : Gateway) (op : CreateOperation) :
    Except MigrationError Gateway :=
  match (setting.serializer t).validate op.resourceData with
  | .error errors => .error (.validationError errors)
  | .ok validated =>
    match uniqueFilterKwargs t.uniqueFields validated with
    | .error e => .error e
    | .ok kwargs =>
      match g.get t kwargs with
      | some existing =>
        let data := (setting.serializer t).update existing.data validated
        if h : ((g.replaced existing data op.ansibleId).map LocalObject.ansibleId).Nodup then
          .ok
            { objects := g.replaced existing data op.ansibleId
              nodup_key := by rw [map_key_replaced]; exact g.nodup_key
              nodup_ansibleId := h }
        else .error .integrityError
      | none =>
        let o : LocalObject := ⟨t, validated, false, op.ansibleId, setting.serviceId⟩
        if h : ((g.objects ++ [o]).map LocalObject.key).Nodup ∧
            ((g.objects ++ [o]).map LocalObject.ansibleId).Nodup then
          .ok ⟨g.objects ++ [o], h.1, h.2⟩
        else .error .integrityError

/-- The local creations of a page, in one transaction. -/
def Gateway.createAll (g : Gateway) (ops : List CreateOperation) : Except MigrationError Gateway :=
  ops.foldlM (fun g op => g.createResource setting t op) g

/-- `_get_filtered_resources`. -/
def getFilteredResources (u : Upstream) : List Item × ℕ :=
  let data := u.listResources t
  (if t = .user then data.1.filter fun i => some i.name ≠ setting.systemUsername else data.1,
    data.2)

/-- `_process_resource_page_batch`. -/
def processResourcePageBatch (env : Environment) (w : World) (results : List Item) :
    World × Except MigrationError ℕ :=
  match processItems setting t w.upstream.serviceType w.gateway results with
  | (g, .error e) => ({ w with gateway := g }, .error e)
  | (g, .ok (creates, bulks)) =>
    match g.createAll setting t creates with
    | .error e => ({ w with gateway := g }, .error e)
    | .ok g =>
      -- The creations are committed before anything is sent.
      match bulks with
      | [] => ({ w with gateway := g }, .ok 0)
      | bulks =>
        match sendBulkUpdate (post env) bulks { w with gateway := g } with
        | (w, .error e) => (w, .error (.bulk e))
        | (w, .ok n) => (w, .ok n)

/-- A round of the loop of `migrate_resource`. -/
def migrateRound (env : Environment) (w : World) : World × Drain.Round MigrationError :=
  if env.listFails w.requests then ({ w with requests := w.requests + 1 }, .failed .requestFailed)
  else
    let results := (getFilteredResources setting t w.upstream).1
    let w := { w with requests := w.requests + 1 }
    if results = [] then (w, .finished)
    else
      match processResourcePageBatch setting t env w results with
      | (w, .error e) => (w, .failed e)
      | (w, .ok n) => (w, .achieved n)

/-- `max_zero_progress_pages`. -/
def maxZeroProgressPages : ℕ := 3

/-- `migrate_resource`. -/
def migrateResource (env : Environment) (fuel : ℕ) (w : World) :
    World × Drain.Outcome MigrationError :=
  Drain.drain maxZeroProgressPages .stalled (migrateRound setting t env) fuel 0 w

end Page

end AapGateway.Migration.Resources
