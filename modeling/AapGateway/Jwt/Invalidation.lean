import AapGateway.Jwt.Freshness
import Mathlib.Logic.Function.Basic
import Mathlib.Data.Finset.Basic

/-!
# The cached token over the life of an instance

A loaded `User` keeps a snapshot of the fields it was loaded with (`_original_fields`). `save`
compares the attributes with the snapshot, not with the row, and never takes a new one. So a save
that brings the attributes back to the values at loading, after an earlier save has stored other
ones, changes the row and keeps the cached token.

## Main definitions

* `Row`, `Instance` and `State`: the rows, the loaded instance, and the two with the cached tokens;
* `State.save` and `State.step`: `User.save`, and a save or an assignment;
* `DropsToken`: a save that changes a watched column drops the cached token, whichever it is;
* `NoReturn`: no save with the attributes as loaded comes after one that stored another value.

## Main results

* `dropsToken_run_iff`: over a run, every save drops the token exactly if every save that passes
  the token over finds its values in the row;
* `dropsToken_run_iff_noReturn`: on an instance that stays unmanaged, exactly if the values of the
  attributes make no return.
-/

namespace AapGateway.Jwt

/-- The columns of a user that `User.save` reads. -/
inductive Column where
  | username
  | firstName
  | lastName
  | email
  | isSuperuser
  | managed
  deriving DecidableEq, Repr

/-- The type of a column. -/
abbrev Column.Value : Column → Type
  | .isSuperuser | .managed => Bool
  | _ => String

instance (c : Column) : DecidableEq c.Value :=
  match c with
  | .username | .firstName | .lastName | .email => inferInstanceAs (DecidableEq String)
  | .isSuperuser | .managed => inferInstanceAs (DecidableEq Bool)

/-- A row of a user, or the attributes of an instance. -/
abbrev Row := (c : Column) → c.Value

/-- The fields of which a change has to drop the cached token. -/
def watched : List Column := [.username, .firstName, .lastName, .email, .isSuperuser]

/-- A loaded instance. -/
structure Instance where
  /-- The primary key; an instance without one has no row. -/
  pk : Option ℕ
  /-- The attributes. -/
  fields : Row
  /-- `_original_fields`, as the instance was constructed. -/
  originalFields : Row

/-- The instance, the rows of the users, and the cached tokens by primary key. -/
structure State where
  user : Instance
  rows : ℕ → Option Row
  cached : ℕ → Option Payload

/-- What a save is called with, and what the database does. -/
structure SaveArgs where
  /-- `update_fields`. -/
  updateFields : Option (Finset Column)
  /-- The key that the database gives to a new row. -/
  newKey : ℕ
  /-- The database refuses the write. -/
  refused : Bool

/-- `is_new_user`: `not self.pk`. -/
def Instance.isNew (u : Instance) : Bool := u.pk.getD 0 == 0

/-- `fields_changed`. -/
def Instance.fieldsChanged (u : Instance) : Bool :=
  watched.any fun field => u.originalFields field ≠ u.fields field

/-- The save drops the cached token. -/
def Instance.invalidates (u : Instance) : Bool :=
  !u.isNew && !u.fields .managed && u.fieldsChanged

/-- The save writes a column. -/
def SaveArgs.Writes (args : SaveArgs) (c : Column) : Prop :=
  ∀ fields ∈ args.updateFields, c ∈ fields

instance (args : SaveArgs) (c : Column) : Decidable (args.Writes c) :=
  inferInstanceAs (Decidable (∀ fields ∈ args.updateFields, c ∈ fields))

/-- The stored row after a save has written its columns. -/
def SaveArgs.merge (args : SaveArgs) (fields row : Row) : Row := fun c =>
  if args.Writes c then fields c else row c

namespace State

/-- `JWTSessionCache.remove`. -/
def remove (s : State) (pk : ℕ) : State := { s with cached := Function.update s.cached pk none }

/-- The save of the base class. A row that is there is updated, and one that is not is inserted,
unless the columns are named. -/
def write (s : State) (args : SaveArgs) : State :=
  match s.user.pk with
  | some pk =>
    match s.rows pk with
    | some row =>
      { s with rows := Function.update s.rows pk (some (args.merge s.user.fields row)) }
    | none =>
      if args.updateFields.isNone then
        { s with rows := Function.update s.rows pk (some s.user.fields) }
      else s
  | none =>
    if args.updateFields.isNone && (s.rows args.newKey).isNone then
      { s with
        user := { s.user with pk := some args.newKey }
        rows := Function.update s.rows args.newKey (some s.user.fields) }
    else s

/-- `User.save`. The token is dropped before the row is written. -/
def save (s : State) (args : SaveArgs) : State :=
  let s' := if s.user.invalidates then s.remove (s.user.pk.getD 0) else s
  if args.refused then s' else s'.write args

end State

/-- What is done with the instance. -/
inductive Op where
  | assign (c : Column) (value : c.Value)
  | assignKey (pk : Option ℕ)
  | save (args : SaveArgs)

namespace State

/-- An assignment or a save. -/
def step (s : State) : Op → State
  | .assign c value =>
    { s with user := { s.user with fields := Function.update s.user.fields c value } }
  | .assignKey pk => { s with user := { s.user with pk } }
  | .save args => s.save args

/-- A run of them. -/
def run (s : State) (ops : List Op) : State := ops.foldl step s

/-- The instance of a row, just loaded. -/
def load (rows : ℕ → Option Row) (cached : ℕ → Option Payload) (pk : ℕ) (row : Row) : State where
  user := { pk := some pk, fields := row, originalFields := row }
  rows := Function.update rows pk (some row)
  cached := cached

/-- The state with this token cached for a user. -/
def withToken (s : State) (pk : ℕ) (jwt : Payload) : State :=
  { s with cached := Function.update s.cached pk (some jwt) }

end State

/-- If the save changes a watched column of the row of the instance, then afterwards no token is
cached for the user, whichever was before. -/
def DropsToken (s : State) (args : SaveArgs) : Prop :=
  ∀ pk row row', s.user.pk = some pk → s.rows pk = some row →
    (s.save args).rows pk = some row' → (∃ c ∈ watched, row' c ≠ row c) →
      ∀ jwt, ((s.withToken pk jwt).save args).cached pk = none

/-- A save passes the cached token over: the instance counts as new or as managed, or the watched
attributes are all as they were at loading. -/
def PassesOver (loaded : Row) (s : State) : Prop :=
  s.user.isNew = true ∨ s.user.fields .managed = true ∨
    ∀ c ∈ watched, s.user.fields c = loaded c

/-- If a save passes the token over, the watched columns that it writes have the values of the
attributes already. -/
def Settled (loaded : Row) (s : State) (args : SaveArgs) : Prop :=
  PassesOver loaded s → args.refused = false →
    ∀ pk row, s.user.pk = some pk → s.rows pk = some row →
      ∀ c ∈ watched, args.Writes c → row c = s.user.fields c

/-- What holds of every save of a run, at the state it is called in. -/
def EverySave (holds : State → SaveArgs → Prop) (s : State) (ops : List Op) : Prop :=
  ∀ before args, before ++ [.save args] <+: ops → holds (s.run before) args

/-! ### One save -/

section Save

variable {s : State} {args : SaveArgs} {pk : ℕ} {row : Row}

/-- A save passes the token over exactly if it does not drop it. -/
theorem invalidates_eq_false_iff :
    s.user.invalidates = false ↔ PassesOver s.user.originalFields s := by
  have hunchanged : s.user.fieldsChanged = false ↔
      ∀ c ∈ watched, s.user.fields c = s.user.originalFields c := by
    rw [Instance.fieldsChanged, List.any_eq_false]
    exact forall₂_congr fun c _ => by rw [decide_eq_true_iff, not_not, eq_comm]
  rw [Instance.invalidates, PassesOver, ← hunchanged]
  cases s.user.isNew <;> cases s.user.fields .managed <;> cases s.user.fieldsChanged <;> simp

/-- Writing the row does not touch the cache. -/
@[simp]
theorem State.cached_write (s : State) (args : SaveArgs) : (s.write args).cached = s.cached := by
  unfold State.write
  split
  · split
    · rfl
    · split <;> rfl
  · split <;> rfl

/-- A row that is there is updated. -/
theorem State.rows_write (hpk : s.user.pk = some pk) (hrow : s.rows pk = some row) :
    (s.write args).rows pk = some (args.merge s.user.fields row) := by
  unfold State.write
  rw [hpk]
  simp only [hrow, Function.update_self]

/-- The cache after a save. -/
theorem State.cached_save (s : State) (args : SaveArgs) :
    (s.save args).cached =
      if s.user.invalidates then Function.update s.cached (s.user.pk.getD 0) none
      else s.cached := by
  unfold State.save
  cases s.user.invalidates <;> cases args.refused <;> simp [State.remove]

/-- The stored row after a save. -/
theorem State.rows_save (hpk : s.user.pk = some pk) (hrow : s.rows pk = some row) :
    (s.save args).rows pk =
      some (if args.refused then row else args.merge s.user.fields row) := by
  unfold State.save
  -- Dropping the token does not touch the instance or the rows.
  have hremove : ((s.remove (s.user.pk.getD 0)).write args).rows pk =
      some (args.merge s.user.fields row) := State.rows_write hpk hrow
  cases args.refused with
  | true => cases s.user.invalidates <;> simpa [State.remove] using hrow
  | false =>
      cases s.user.invalidates with
      | true => exact hremove
      | false => exact State.rows_write hpk hrow

/-- A column of the merged row differs from the stored one exactly if the save writes it and the
attribute does. -/
theorem merge_ne_iff {fields : Row} (c : Column) :
    args.merge fields row c ≠ row c ↔ args.Writes c ∧ row c ≠ fields c := by
  unfold SaveArgs.merge
  by_cases hwrites : args.Writes c
  · rw [if_pos hwrites]
    exact ⟨fun h => ⟨hwrites, Ne.symm h⟩, fun h => Ne.symm h.2⟩
  · rw [if_neg hwrites]
    exact ⟨fun h => absurd rfl h, fun h => absurd h.1 hwrites⟩

/-- A save drops the token that it has to drop exactly if it is settled. -/
theorem dropsToken_iff : DropsToken s args ↔ Settled s.user.originalFields s args := by
  constructor
  · intro hdrops hpasses hrefused pk row hpk hrow c hc hwrites
    have hkept := invalidates_eq_false_iff.mpr hpasses
    by_contra hne
    -- The row changes, so a token is dropped, which the save does not do.
    have hsaved : (s.save args).rows pk = _ := State.rows_save hpk hrow
    rw [hrefused, if_neg Bool.false_ne_true] at hsaved
    have hnone := hdrops pk row _ hpk hrow hsaved ⟨c, hc, (merge_ne_iff c).mpr ⟨hwrites, hne⟩⟩
      (createSignedJwt ⟨"", "", "", "", false⟩)
    rw [State.cached_save] at hnone
    have hkept' : (s.withToken pk (createSignedJwt ⟨"", "", "", "", false⟩)).user.invalidates
        = false := hkept
    rw [hkept', if_neg Bool.false_ne_true, State.withToken] at hnone
    simp at hnone
  · intro hsettled pk row row' hpk hrow hrow' ⟨c, hc, hne⟩ jwt
    rw [State.rows_save hpk hrow] at hrow'
    cases hinvalidates : s.user.invalidates with
    | true =>
        rw [State.cached_save]
        show (if s.user.invalidates then _ else _ : ℕ → Option Payload) pk = none
        rw [if_pos hinvalidates]
        show (Function.update _ (s.user.pk.getD 0) none : ℕ → Option Payload) pk = none
        rw [hpk]
        exact Function.update_self ..
    | false =>
        -- The token is passed over, and so the row does not change.
        exfalso
        have hpasses := invalidates_eq_false_iff.mp hinvalidates
        cases hrefused : args.refused with
        | true =>
            rw [hrefused, if_pos rfl] at hrow'
            exact hne (by rw [Option.some.inj hrow'])
        | false =>
            rw [hrefused, if_neg Bool.false_ne_true] at hrow'
            rw [← Option.some.inj hrow'] at hne
            obtain ⟨hwrites, hne⟩ := (merge_ne_iff c).mp hne
            exact hne (hsettled hpasses hrefused pk row hpk hrow c hc hwrites)

end Save

/-! ### Runs -/

/-- The snapshot is never renewed. -/
theorem State.originalFields_step (s : State) (op : Op) :
    (s.step op).user.originalFields = s.user.originalFields := by
  have hwrite : ∀ (t : State) args, (t.write args).user.originalFields = t.user.originalFields := by
    intro t args
    unfold State.write
    split
    · split
      · rfl
      · split <;> rfl
    · split <;> rfl
  cases op with
  | assign c value => rfl
  | assignKey pk => rfl
  | save args =>
      show (s.save args).user.originalFields = _
      unfold State.save
      dsimp only
      split <;> split <;> first | rfl | exact hwrite _ args

/-- Nor over a run. -/
theorem State.originalFields_run (s : State) (ops : List Op) :
    (s.run ops).user.originalFields = s.user.originalFields := by
  induction ops generalizing s with
  | nil => rfl
  | cons op ops ih => exact (ih (s.step op)).trans (s.originalFields_step op)

/-- Over a run on a loaded instance, every save that changes a watched column drops the cached
token exactly if every save is settled. -/
theorem dropsToken_run_iff (rows : ℕ → Option Row) (cached : ℕ → Option Payload) (pk : ℕ)
    (loaded : Row) (ops : List Op) :
    EverySave DropsToken (State.load rows cached pk loaded) ops ↔
      EverySave (Settled loaded) (State.load rows cached pk loaded) ops := by
  refine forall₃_congr fun before args _ => ?_
  rw [dropsToken_iff, State.originalFields_run]
  rfl

/-! ### The values of the attributes -/

/-- An operation that leaves the instance the one that was loaded, and unmanaged. -/
def Op.KeepsInstance : Op → Prop
  | .assign c _ => c ≠ .managed
  | .assignKey _ => False
  | .save _ => True

/-- The attributes of the instance after some operations, of which only the assignments matter. -/
def attributes (loaded : Row) (ops : List Op) : Row :=
  ops.foldl (fun fields op =>
    match op with
    | .assign c value => Function.update fields c value
    | _ => fields) loaded

/-- The attributes are as they were at loading. -/
def AsLoaded (loaded : Row) (ops : List Op) : Prop :=
  ∀ c ∈ watched, attributes loaded ops c = loaded c

/-- The operation is a save that the database accepts, and writes the column. -/
def Op.Stores (c : Column) : Op → Prop
  | .save args => args.refused = false ∧ args.Writes c
  | _ => False

/-- No save at which the attributes are as they were at loading writes a column after the last save
that wrote the column had another value for it. -/
def NoReturn (loaded : Row) (ops : List Op) : Prop :=
  ∀ c ∈ watched, ∀ before first mid last, before ++ first :: mid ++ [last] <+: ops →
    first.Stores c → (∀ op ∈ mid, ¬op.Stores c) → last.Stores c →
      AsLoaded loaded (before ++ first :: mid) → attributes loaded before c = loaded c

section NoReturn

variable {rows : ℕ → Option Row} {cached : ℕ → Option Payload} {pk : ℕ} {loaded : Row}

/-- A step at the end of a run. -/
theorem State.run_concat (s : State) (ops : List Op) (op : Op) :
    s.run (ops ++ [op]) = (s.run ops).step op :=
  List.foldl_concat _ _ _ _

/-- The attributes after an operation more. -/
theorem attributes_concat (ops : List Op) (op : Op) :
    attributes loaded (ops ++ [op]) =
      match op with
      | .assign c value => Function.update (attributes loaded ops) c value
      | _ => attributes loaded ops :=
  List.foldl_concat _ _ _ _

/-- What the operations keep: the instance has its key and is not managed, its attributes are those
that were assigned, and it has a row. -/
structure Attached (pk : ℕ) (fields : Row) (s : State) : Prop where
  pk_eq : s.user.pk = some pk
  fields_eq : s.user.fields = fields
  unmanaged : fields .managed = false
  exists_row : ∃ row, s.rows pk = some row

/-- A save leaves the instance as it is, if it has a row. -/
theorem user_save {s : State} {fields : Row} (h : Attached pk fields s) (args : SaveArgs) :
    (s.save args).user = s.user := by
  obtain ⟨row, hrow⟩ := h.exists_row
  unfold State.save State.write
  cases args.refused with
  | true => cases s.user.invalidates <;> simp [State.remove]
  | false => cases s.user.invalidates <;> simp [State.remove, h.pk_eq, hrow]

/-- After a run the instance has the attributes that were assigned, and a row. -/
theorem attached_run {ops : List Op} (hmanaged : loaded .managed = false)
    (hops : ∀ op ∈ ops, op.KeepsInstance) :
    Attached pk (attributes loaded ops) ((State.load rows cached pk loaded).run ops) := by
  induction ops using List.reverseRecOn with
  | nil => exact ⟨rfl, rfl, hmanaged, loaded, Function.update_self ..⟩
  | append_singleton ops op ih =>
      have h := ih fun o ho => hops o (List.mem_append_left _ ho)
      have hop : op.KeepsInstance := hops op List.mem_concat_self
      rw [State.run_concat, attributes_concat]
      cases op with
      | assign c value =>
          refine ⟨h.pk_eq, ?_, ?_, h.exists_row⟩
          · rw [← h.fields_eq]
            rfl
          · exact (Function.update_of_ne (Ne.symm hop) value _).trans h.unmanaged
      | assignKey pk => exact absurd hop id
      | save args =>
          obtain ⟨row, hrow⟩ := h.exists_row
          have huser := user_save h args
          exact ⟨huser ▸ h.pk_eq, huser ▸ h.fields_eq, h.unmanaged, _,
            State.rows_save h.pk_eq hrow⟩

/-- An operation that does not store a column leaves its stored value. -/
theorem stored_step_of_not_stores {s : State} {fields : Row} {op : Op} {c : Column}
    (h : Attached pk fields s) (hop : op.KeepsInstance) (hno : ¬op.Stores c) {row : Row}
    (hrow : s.rows pk = some row) :
    ∃ row', (s.step op).rows pk = some row' ∧ row' c = row c := by
  cases op with
  | assign c' value => exact ⟨row, hrow, rfl⟩
  | assignKey pk => exact absurd hop id
  | save args =>
      refine ⟨_, State.rows_save h.pk_eq hrow, ?_⟩
      split_ifs with hrefused
      · rfl
      · exact if_neg fun hwrites => hno ⟨Bool.not_eq_true _ ▸ hrefused, hwrites⟩

/-- After operations that do not store a column it has its stored value from before. -/
theorem stored_run_append {before mid : List Op} {c : Column} {row : Row}
    (hmanaged : loaded .managed = false) (hops : ∀ op ∈ before ++ mid, op.KeepsInstance)
    (hno : ∀ op ∈ mid, ¬op.Stores c)
    (hrow : ((State.load rows cached pk loaded).run before).rows pk = some row) :
    ∃ row', ((State.load rows cached pk loaded).run (before ++ mid)).rows pk = some row' ∧
      row' c = row c := by
  induction mid using List.reverseRecOn with
  | nil => exact ⟨row, by rwa [List.append_nil], rfl⟩
  | append_singleton mid op ih =>
      rw [← List.append_assoc] at hops ⊢
      obtain ⟨row', hrow', hsame⟩ := ih (fun o ho => hops o (List.mem_append_left _ ho))
        fun o ho => hno o (List.mem_append_left _ ho)
      have hattached := @attached_run rows cached pk loaded _ hmanaged
        fun o ho => hops o (List.mem_append_left _ ho)
      rw [State.run_concat]
      obtain ⟨row'', hrow'', hsame'⟩ := stored_step_of_not_stores hattached
        (hops op List.mem_concat_self) (hno op List.mem_concat_self) hrow'
      exact ⟨row'', hrow'', hsame'.trans hsame⟩

/-- A column that no save has stored has its loaded value. -/
theorem stored_of_forall_not_stores {ops : List Op} {c : Column} {row : Row}
    (hmanaged : loaded .managed = false) (hops : ∀ op ∈ ops, op.KeepsInstance)
    (hno : ∀ op ∈ ops, ¬op.Stores c)
    (hrow : ((State.load rows cached pk loaded).run ops).rows pk = some row) :
    row c = loaded c := by
  have hstart : ((State.load rows cached pk loaded).run []).rows pk = some loaded :=
    Function.update_self ..
  obtain ⟨row', hrow', hsame⟩ := @stored_run_append rows cached pk loaded [] ops c loaded hmanaged
    hops hno hstart
  cases hrow.symm.trans hrow'
  exact hsame

/-- A column has the value that the last save to store it had for it. -/
theorem stored_of_last {before mid : List Op} {first : Op} {c : Column} {row : Row}
    (hmanaged : loaded .managed = false)
    (hops : ∀ op ∈ before ++ first :: mid, op.KeepsInstance) (hfirst : first.Stores c)
    (hno : ∀ op ∈ mid, ¬op.Stores c)
    (hrow : ((State.load rows cached pk loaded).run (before ++ first :: mid)).rows pk = some row) :
    row c = attributes loaded before c := by
  have hsplit : before ++ first :: mid = (before ++ [first]) ++ mid := by simp
  rw [hsplit] at hops hrow
  have hfirstOps : ∀ op ∈ before ++ [first], op.KeepsInstance :=
    fun o ho => hops o (List.mem_append_left _ ho)
  have hattached := @attached_run rows cached pk loaded _ hmanaged
    fun o ho => hfirstOps o (List.mem_append_left _ ho)
  cases first with
  | assign c' value => exact absurd hfirst id
  | assignKey pk => exact absurd hfirst id
  | save args =>
      -- The save stores the attribute, and the operations after it leave it.
      obtain ⟨row₀, hrow₀⟩ := hattached.exists_row
      have hsaved := @State.rows_save _ args _ _ hattached.pk_eq hrow₀
      rw [hfirst.1, if_neg Bool.false_ne_true, hattached.fields_eq] at hsaved
      have hstored : ((State.load rows cached pk loaded).run (before ++ [.save args])).rows pk =
          some (args.merge (attributes loaded before) row₀) := by
        rw [State.run_concat]
        exact hsaved
      obtain ⟨row', hrow', hsame⟩ := stored_run_append hmanaged hops hno hstored
      cases hrow.symm.trans hrow'
      exact hsame.trans (if_pos hfirst.2)

/-- Among some operations none stores a column, or there is a last one that does. -/
theorem exists_last_stores (c : Column) (ops : List Op) :
    (∀ op ∈ ops, ¬op.Stores c) ∨ ∃ before first mid, ops = before ++ first :: mid ∧
      first.Stores c ∧ ∀ op ∈ mid, ¬op.Stores c := by
  induction ops using List.reverseRecOn with
  | nil => exact Or.inl fun _ hop => absurd hop List.not_mem_nil
  | append_singleton ops op ih =>
      by_cases hop : op.Stores c
      · exact Or.inr ⟨ops, op, [], rfl, hop, fun _ ho => absurd ho List.not_mem_nil⟩
      · have hlast : ∀ {mid : List Op}, (∀ o ∈ mid, ¬o.Stores c) →
            ∀ o ∈ mid ++ [op], ¬o.Stores c := by
          intro mid hmid o ho
          rcases List.mem_append.mp ho with ho | ho
          · exact hmid o ho
          · exact List.mem_singleton.mp ho ▸ hop
        rcases ih with hnone | ⟨before, first, mid, rfl, hfirst, hmid⟩
        · exact Or.inl (hlast hnone)
        · exact Or.inr ⟨before, first, mid ++ [op], by simp, hfirst, hlast hmid⟩

/-- A save is settled exactly if, whenever the attributes are as they were at loading, the columns
that it stores have their loaded values in the row. -/
theorem settled_iff {ops : List Op} {args : SaveArgs} (hpk : pk ≠ 0)
    (h : Attached pk (attributes loaded ops) ((State.load rows cached pk loaded).run ops)) :
    Settled loaded ((State.load rows cached pk loaded).run ops) args ↔
      (AsLoaded loaded ops →
        ∀ row, ((State.load rows cached pk loaded).run ops).rows pk = some row →
          ∀ c ∈ watched, (Op.save args).Stores c → row c = loaded c) := by
  have hisNew : ((State.load rows cached pk loaded).run ops).user.isNew = false := by
    rw [Instance.isNew, h.pk_eq]
    exact beq_eq_false_iff_ne.mpr hpk
  have hpasses : PassesOver loaded ((State.load rows cached pk loaded).run ops) ↔
      AsLoaded loaded ops := by
    simp [PassesOver, AsLoaded, hisNew, h.fields_eq, h.unmanaged]
  unfold Settled
  rw [hpasses, h.pk_eq, h.fields_eq]
  constructor
  · intro hsettled has row hrow c hc hstores
    exact (hsettled has hstores.1 pk row rfl hrow c hc hstores.2).trans (has c hc)
  · intro hstored has hrefused pk' row hpk' hrow c hc hwrites
    rw [← Option.some.inj hpk'] at hrow
    exact (hstored has row hrow c hc ⟨hrefused, hwrites⟩).trans (has c hc).symm

/-- Over every run of assignments and saves on a loaded, unmanaged instance that stays one: every
save that changes a watched column drops the cached token exactly if no save at which the attributes
are as they were at loading writes a column after the last save that wrote the column had another
value for it. -/
theorem dropsToken_run_iff_noReturn (rows : ℕ → Option Row) (cached : ℕ → Option Payload)
    {pk : ℕ} {loaded : Row} {ops : List Op} (hpk : pk ≠ 0) (hmanaged : loaded .managed = false)
    (hops : ∀ op ∈ ops, op.KeepsInstance) :
    EverySave DropsToken (State.load rows cached pk loaded) ops ↔ NoReturn loaded ops := by
  have hattached : ∀ before, before <+: ops → Attached pk (attributes loaded before)
      ((State.load rows cached pk loaded).run before) :=
    fun before hbefore => attached_run hmanaged fun op hop => hops op (hbefore.subset hop)
  rw [dropsToken_run_iff]
  constructor
  · intro hsettled c hc before first mid last hinitial hfirst hno hlast has
    cases last with
    | assign c' value => exact absurd hlast id
    | assignKey pk => exact absurd hlast id
    | save args =>
        have hinit := (List.prefix_append _ [Op.save args]).trans hinitial
        have h := hattached _ hinit
        obtain ⟨row, hrow⟩ := h.exists_row
        have hloaded := (settled_iff hpk h).mp (hsettled _ args hinitial) has row hrow c hc hlast
        have hstored := stored_of_last hmanaged (fun op hop => hops op (hinit.subset hop)) hfirst
          hno hrow
        exact hstored.symm.trans hloaded
  · intro hreturn before args hinitial
    have hinit := (List.prefix_append _ [Op.save args]).trans hinitial
    refine (settled_iff hpk (hattached _ hinit)).mpr fun has row hrow c hc hstores => ?_
    have hkeeps : ∀ op ∈ before, op.KeepsInstance := fun op hop => hops op (hinit.subset hop)
    -- The stored value is the loaded one, or that of the last save to store the column.
    rcases exists_last_stores c before with hnone | ⟨earlier, first, mid, rfl, hfirst, hno⟩
    · exact stored_of_forall_not_stores hmanaged hkeeps hnone hrow
    · exact (stored_of_last hmanaged hkeeps hfirst hno hrow).trans
        (hreturn c hc earlier first mid (.save args) hinitial hfirst hno hstores has)

end NoReturn

/-- The user Bob. -/
def bob : Row
  | .username => "bob"
  | .firstName => "Bob"
  | .lastName => "Smith"
  | .email => "bob@example.com"
  | .isSuperuser => false
  | .managed => false

/-- A plain call of `save` that the database accepts. -/
def plainSave : SaveArgs where
  updateFields := none
  newKey := 0
  refused := false

/-- The first name is changed and saved, and then changed and saved again. -/
def changeTwice : List Op :=
  [.assign .firstName "Rob", .save plainSave, .assign .firstName "Robert", .save plainSave]

/-- From the first operation on, the first name is never again the loaded one. -/
theorem dropsToken_changeTwice :
    EverySave DropsToken (State.load (fun _ => none) (fun _ => none) 1 bob) changeTwice := by
  refine (dropsToken_run_iff_noReturn _ _ (by decide) rfl ?_).mpr ?_
  · simp [changeTwice, Op.KeepsInstance]
  · intro c _ before first mid last hinitial _ _ _ has
    have hinit := (List.prefix_append _ [last]).trans hinitial
    have hnew : ∀ k ∈ [1, 2, 3, 4], attributes bob (changeTwice.take k) .firstName ≠ "Bob" := by
      decide
    refine absurd (has .firstName (by decide)) ?_
    rw [List.prefix_iff_eq_take.mp hinit]
    refine hnew _ ?_
    have hlength : (before ++ first :: mid).length ≤ 4 := hinit.length_le
    simp only [List.length_append, List.length_cons] at hlength ⊢
    simp only [List.mem_cons, List.not_mem_nil, or_false]
    omega

/-- The first name is changed and saved, and then changed back and saved. -/
def changeAndBack : List Op :=
  [.assign .firstName "Rob", .save plainSave, .assign .firstName "Bob", .save plainSave]

/-- The second save changes the stored first name from `Rob` to `Bob` and keeps the token. -/
theorem not_dropsToken_changeAndBack :
    ¬EverySave DropsToken (State.load (fun _ => none) (fun _ => none) 1 bob) changeAndBack := by
  intro hdrops
  have hlast := hdrops [.assign .firstName "Rob", .save plainSave, .assign .firstName "Bob"]
    plainSave (List.prefix_refl changeAndBack)
  have hnone := hlast 1 _ _ rfl rfl rfl ⟨.firstName, by decide, by decide⟩
    (createSignedJwt ⟨"bob", "Rob", "Smith", "bob@example.com", false⟩)
  revert hnone
  decide

end AapGateway.Jwt
