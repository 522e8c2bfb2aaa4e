import Mathlib

/-!
# Copies that are kept up by messages

A source holds a value for every key. When a value changes, a message with the new value is sent to
some of the places that keep a copy. The messages are independent of each other: each of them is
applied at some time, or lost, in whatever order. What counts of a value is seen through `view`, and
a change that does not show there needs no message.

The messages of one change carry a common stamp, which grows from change to change. `latest` and
`applied` are the stamps of the last change of a key, and of the last message about it that a place
has applied. The other definitions do not depend on them.

## Main definitions

* `World` and `Step`: the source, the copies and the messages that are under way;
* `Run`: the worlds that admitted steps lead to;
* `OneAtATime`: a key is only changed while no message about it is under way, and no message to a
  given place is lost.

## Main results

* `view_copy_of_applied`: a place that has applied the last message about a key agrees with the
  source, in every run;
* `view_copy_of_settled`: with one change at a time, a place agrees with the source whenever no
  message is on its way to it.
-/

namespace Replica

variable {σ κ ν η : Type}

/-- A message to a place about a key. -/
structure Message (σ κ ν : Type) where
  place : σ
  key : κ
  body : ν
  stamp : ℕ

/-- The source, the copies and the messages under way. -/
structure World (σ κ ν : Type) where
  source : κ → ν
  copies : σ → κ → ν
  flight : List (Message σ κ ν)
  /-- The number of changes so far. -/
  clock : ℕ
  latest : κ → ℕ
  applied : σ → κ → ℕ

/-- The copies agree with the source, and no message is under way. -/
structure World.InSync (view : ν → η) (w : World σ κ ν) : Prop where
  view_copy : ∀ s k, view (w.copies s k) = view (w.source k)
  flight : w.flight = []
  applied : ∀ s k, w.applied s k = w.latest k
  latest_le : ∀ k, w.latest k ≤ w.clock

section Step

variable [DecidableEq σ] [DecidableEq κ]

/-- The source has a new value for a key. -/
def World.setSource (w : World σ κ ν) (k : κ) (v : ν) : World σ κ ν :=
  { w with source := Function.update w.source k v }

/-- A message about the value of a key is sent to some places. -/
def World.send (w : World σ κ ν) (k : κ) (v : ν) (targets : List σ) : World σ κ ν :=
  { w with
    flight := w.flight ++ targets.map fun s => ⟨s, k, v, w.clock + 1⟩
    clock := w.clock + 1
    latest := Function.update w.latest k (w.clock + 1) }

/-- A place takes the value of a message. -/
def World.take (w : World σ κ ν) (m : Message σ κ ν) : World σ κ ν :=
  { w with
    copies := Function.update w.copies m.place (Function.update (w.copies m.place) m.key m.body)
    applied :=
      Function.update w.applied m.place (Function.update (w.applied m.place) m.key m.stamp) }

/-- What happens next. -/
inductive Event (σ κ ν : Type) where
  /-- A value changes, and the places get a message. -/
  | publish (k : κ) (v : ν) (targets : List σ)
  /-- A value changes in a way that does not show. -/
  | revise (k : κ) (v : ν)
  /-- A message is applied. -/
  | apply (m : Message σ κ ν)
  /-- A message is lost. -/
  | lose (m : Message σ κ ν)

/-- One step. -/
inductive Step (view : ν → η) : World σ κ ν → Event σ κ ν → World σ κ ν → Prop
  | publish (w : World σ κ ν) (k : κ) (v : ν) (targets : List σ) :
      Step view w (.publish k v targets) ((w.setSource k v).send k v targets)
  | revise (w : World σ κ ν) (k : κ) (v : ν) (hview : view v = view (w.source k)) :
      Step view w (.revise k v) (w.setSource k v)
  | apply (w : World σ κ ν) (before after : List (Message σ κ ν)) (m : Message σ κ ν)
      (hflight : w.flight = before ++ m :: after) :
      Step view w (.apply m) { w.take m with flight := before ++ after }
  | lose (w : World σ κ ν) (before after : List (Message σ κ ν)) (m : Message σ κ ν)
      (hflight : w.flight = before ++ m :: after) :
      Step view w (.lose m) { w with flight := before ++ after }

/-- The worlds that admitted steps lead to. -/
inductive Run (view : ν → η) (admitted : World σ κ ν → Event σ κ ν → Prop)
    (init : World σ κ ν) : World σ κ ν → Prop
  | start : Run view admitted init init
  | step {w w' : World σ κ ν} {e : Event σ κ ν} (h : Run view admitted init w)
      (hadmitted : admitted w e) (hstep : Step view w e w') : Run view admitted init w'

/-- A key is only changed while no message about it is under way, and the place `s` gets a message
then. No message to this place is lost. -/
def OneAtATime (s : σ) (w : World σ κ ν) : Event σ κ ν → Prop
  | .publish k _ targets => s ∈ targets ∧ ∀ m ∈ w.flight, m.key ≠ k
  | .revise _ _ => True
  | .apply _ => True
  | .lose m => m.place ≠ s

end Step

section Applied

variable [DecidableEq σ] [DecidableEq κ] {view : ν → η}
  {admitted : World σ κ ν → Event σ κ ν → Prop} {init w w' : World σ κ ν} {e : Event σ κ ν}

/-- What has the last stamp of a key agrees with the source. -/
structure World.Stamped (view : ν → η) (w : World σ κ ν) : Prop where
  copies : ∀ s k, w.applied s k = w.latest k → view (w.copies s k) = view (w.source k)
  flight : ∀ m ∈ w.flight, m.stamp = w.latest m.key → view m.body = view (w.source m.key)
  latest_le : ∀ k, w.latest k ≤ w.clock
  applied_le : ∀ s k, w.applied s k ≤ w.clock
  stamp_le : ∀ m ∈ w.flight, m.stamp ≤ w.clock

omit [DecidableEq σ] in
/-- A change of the source that does not show. -/
theorem World.Stamped.revise (h : w.Stamped view) {k : κ} {v : ν}
    (hview : view v = view (w.source k)) : (w.setSource k v).Stamped view := by
  have hsource : ∀ k', view ((w.setSource k v).source k') = view (w.source k') := by
    intro k'
    rw [World.setSource]
    by_cases hk : k' = k
    · subst hk
      simp [hview]
    · simp [Function.update_of_ne hk]
  constructor
  · intro s k' hlatest
    rw [hsource]
    exact h.copies s k' hlatest
  · intro m hm hstamp
    rw [hsource]
    exact h.flight m hm hstamp
  · exact h.latest_le
  · exact h.applied_le
  · exact h.stamp_le

omit [DecidableEq σ] in
/-- After a change only its own messages have the last stamp of the key. -/
theorem World.Stamped.publish (h : w.Stamped view) (k : κ) (v : ν) (targets : List σ) :
    ((w.setSource k v).send k v targets).Stamped view := by
  have hlatest : ∀ k', k' ≠ k →
      ((w.setSource k v).send k v targets).latest k' = w.latest k' ∧
        ((w.setSource k v).send k v targets).source k' = w.source k' := by
    intro k' hk
    exact ⟨Function.update_of_ne hk _ _, Function.update_of_ne hk _ _⟩
  have hself : ((w.setSource k v).send k v targets).latest k = w.clock + 1 ∧
      ((w.setSource k v).send k v targets).source k = v :=
    ⟨Function.update_self .., Function.update_self ..⟩
  constructor
  · intro s k' happlied
    by_cases hk : k' = k
    · -- Nobody has applied a message of this change yet.
      rw [hk, hself.1] at happlied
      have hle : w.applied s k ≤ w.clock := h.applied_le s k
      have heq : w.applied s k = w.clock + 1 := happlied
      omega
    · rw [(hlatest k' hk).1] at happlied
      rw [(hlatest k' hk).2]
      exact h.copies s k' happlied
  · intro m hm hstamp
    rcases List.mem_append.mp hm with hold | hnew
    · by_cases hk : m.key = k
      · rw [hk, hself.1] at hstamp
        have hle := h.stamp_le m hold
        omega
      · rw [(hlatest m.key hk).1] at hstamp
        rw [(hlatest m.key hk).2]
        exact h.flight m hold hstamp
    · obtain ⟨s, -, rfl⟩ := List.mem_map.mp hnew
      exact congrArg view hself.2.symm
  · intro k'
    by_cases hk : k' = k
    · rw [hk, hself.1]
      exact le_refl _
    · rw [(hlatest k' hk).1]
      exact (h.latest_le k').trans (Nat.le_succ _)
  · intro s k'
    exact (h.applied_le s k').trans (Nat.le_succ _)
  · intro m hm
    rcases List.mem_append.mp hm with hold | hnew
    · exact (h.stamp_le m hold).trans (Nat.le_succ _)
    · obtain ⟨s, -, rfl⟩ := List.mem_map.mp hnew
      exact le_refl _

omit [DecidableEq σ] [DecidableEq κ] in
/-- Messages may leave. -/
theorem World.Stamped.subset (h : w.Stamped view) {flight : List (Message σ κ ν)}
    (hsub : flight ⊆ w.flight) : World.Stamped view { w with flight := flight } :=
  ⟨h.copies, fun m hm => h.flight m (hsub hm), h.latest_le, h.applied_le,
    fun m hm => h.stamp_le m (hsub hm)⟩

/-- The entry of a table of two keys that has been set. -/
theorem update_update_apply {β : Type} (f : σ → κ → β) (s s' : σ) (k k' : κ) (b : β) :
    Function.update f s (Function.update (f s) k b) s' k' =
      if s' = s ∧ k' = k then b else f s' k' := by
  by_cases hs : s' = s
  · subst hs
    rw [Function.update_self, Function.update_apply]
    simp
  · rw [Function.update_of_ne hs, if_neg (fun h => hs h.1)]

/-- A place that takes a message has its stamp. -/
theorem World.Stamped.take (h : w.Stamped view) {m : Message σ κ ν} (hm : m ∈ w.flight) :
    (w.take m).Stamped view := by
  constructor
  · intro s k happlied
    rw [World.take] at happlied ⊢
    dsimp only at happlied ⊢
    rw [update_update_apply] at happlied ⊢
    split_ifs at happlied ⊢ with hsame
    · rw [hsame.2] at happlied ⊢
      exact h.flight m hm happlied
    · exact h.copies s k happlied
  · exact h.flight
  · exact h.latest_le
  · intro s k
    rw [World.take]
    dsimp only
    rw [update_update_apply]
    split_ifs with hsame
    · exact h.stamp_le m hm
    · exact h.applied_le s k
  · exact h.stamp_le

omit [DecidableEq σ] [DecidableEq κ] in
/-- Without one of its messages a list has no others than before. -/
theorem subset_of_removed {flight before after : List (Message σ κ ν)} {m : Message σ κ ν}
    (h : flight = before ++ m :: after) : before ++ after ⊆ flight := by
  rw [h]
  exact ((List.sublist_cons_self m after).append_left before).subset

/-- Every step keeps this. -/
theorem World.Stamped.step (h : w.Stamped view) (hstep : Step view w e w') : w'.Stamped view := by
  rcases hstep with ⟨k, v, targets⟩ | ⟨k, v, hview⟩ | ⟨before, after, m, hflight⟩ |
    ⟨before, after, m, hflight⟩
  · exact h.publish k v targets
  · exact h.revise hview
  · have hm : m ∈ w.flight := by simp [hflight]
    apply (h.take hm).subset
    exact subset_of_removed hflight
  · exact h.subset (subset_of_removed hflight)

omit [DecidableEq σ] [DecidableEq κ] in
/-- It holds where the copies agree and no message is under way. -/
theorem World.InSync.stamped (h : w.InSync view) : w.Stamped view := by
  constructor
  · intro s k _
    exact h.view_copy s k
  · intro m hm
    rw [h.flight] at hm
    cases hm
  · exact h.latest_le
  · intro s k
    rw [h.applied]
    exact h.latest_le k
  · intro m hm
    rw [h.flight] at hm
    cases hm

/-- So it holds after every run. -/
theorem stamped_run (hsync : init.InSync view) (h : Run view admitted init w) :
    w.Stamped view := by
  induction h with
  | start => exact hsync.stamped
  | step _ _ hstep ih => exact ih.step hstep

/-- A place that has applied the last message about a key agrees with the source. -/
theorem view_copy_of_applied {s : σ} {k : κ} (hsync : init.InSync view)
    (h : Run view admitted init w) (happlied : w.applied s k = w.latest k) :
    view (w.copies s k) = view (w.source k) :=
  (stamped_run hsync h).copies s k happlied

end Applied

section Settled

variable [DecidableEq σ] [DecidableEq κ] {view : ν → η} {init w w' : World σ κ ν}
  {e : Event σ κ ν} {s : σ}

/-- The place has applied the last message about each key, or it is on its way. -/
structure World.Settling (s : σ) (w : World σ κ ν) : Prop where
  stamp : ∀ m ∈ w.flight, m.place = s → m.stamp = w.latest m.key
  applied : ∀ k, (∀ m ∈ w.flight, m.place = s → m.key ≠ k) → w.applied s k = w.latest k

omit [DecidableEq σ] in
/-- A change sends a message to the place, and no older one about the key is under way. -/
theorem World.Settling.publish (h : w.Settling s) {k : κ} {v : ν} {targets : List σ}
    (hs : s ∈ targets) (hidle : ∀ m ∈ w.flight, m.key ≠ k) :
    ((w.setSource k v).send k v targets).Settling s := by
  have hmessage : ⟨s, k, v, w.clock + 1⟩ ∈ ((w.setSource k v).send k v targets).flight :=
    List.mem_append_right _ (List.mem_map.mpr ⟨s, hs, rfl⟩)
  have hlatest : ∀ k', k' ≠ k →
      ((w.setSource k v).send k v targets).latest k' = w.latest k' :=
    fun k' hk => Function.update_of_ne hk _ _
  constructor
  · intro m hm hplace
    rcases List.mem_append.mp hm with hold | hnew
    · rw [hlatest m.key (hidle m hold)]
      exact h.stamp m hold hplace
    · obtain ⟨s', -, rfl⟩ := List.mem_map.mp hnew
      exact (Function.update_self k (w.clock + 1) w.latest).symm
  · intro k' hnone
    have hk : k' ≠ k := fun hk => hnone _ hmessage rfl hk.symm
    rw [hlatest k' hk]
    exact h.applied k' fun m hm => hnone m (List.mem_append_left _ hm)

/-- A message that the place applies is the last one about its key. -/
theorem World.Settling.take {before after : List (Message σ κ ν)} {m : Message σ κ ν}
    (h : w.Settling s) (hflight : w.flight = before ++ m :: after) :
    World.Settling s { w.take m with flight := before ++ after } := by
  have hsub := subset_of_removed hflight
  have hm : m ∈ w.flight := by simp [hflight]
  constructor
  · intro m' hm' hplace
    exact h.stamp m' (hsub hm') hplace
  · intro k hnone
    show Function.update w.applied m.place
      (Function.update (w.applied m.place) m.key m.stamp) s k = w.latest k
    rw [update_update_apply]
    split_ifs with hsame
    · rw [hsame.2]
      exact h.stamp m hm hsame.1.symm
    · apply h.applied
      intro m' hm' hplace hkey
      rw [hflight] at hm'
      rcases List.mem_append.mp hm' with hbefore | hcons
      · exact hnone m' (List.mem_append_left _ hbefore) hplace hkey
      · rcases List.mem_cons.mp hcons with rfl | hafter
        · exact hsame ⟨hplace.symm, hkey.symm⟩
        · exact hnone m' (List.mem_append_right _ hafter) hplace hkey

/-- Every admitted step keeps this. -/
theorem World.Settling.step (h : w.Settling s) (hadmitted : OneAtATime s w e)
    (hstep : Step view w e w') : w'.Settling s := by
  rcases hstep with ⟨k, v, targets⟩ | ⟨k, v, hview⟩ | ⟨before, after, m, hflight⟩ |
    ⟨before, after, m, hflight⟩
  · exact h.publish hadmitted.1 hadmitted.2
  · exact ⟨h.stamp, h.applied⟩
  · exact h.take hflight
  · have hplace : m.place ≠ s := hadmitted
    constructor
    · intro m' hm' hs
      exact h.stamp m' (subset_of_removed hflight hm') hs
    · intro k hnone
      apply h.applied
      intro m' hm' hs
      rw [hflight] at hm'
      rcases List.mem_append.mp hm' with hbefore | hcons
      · exact hnone m' (List.mem_append_left _ hbefore) hs
      · rcases List.mem_cons.mp hcons with rfl | hafter
        · exact absurd hs hplace
        · exact hnone m' (List.mem_append_right _ hafter) hs

/-- With one change at a time, a place agrees with the source about a key whenever no message about
it is on its way to the place. -/
theorem view_copy_of_settled {k : κ} (hsync : init.InSync view)
    (h : Run view (OneAtATime s) init w) (hnone : ∀ m ∈ w.flight, m.place = s → m.key ≠ k) :
    view (w.copies s k) = view (w.source k) := by
  have hsettling : w.Settling s := by
    clear hnone
    induction h with
    | start =>
        constructor
        · intro m hm
          rw [hsync.flight] at hm
          cases hm
        · intro k' _
          exact hsync.applied s k'
    | step _ hadmitted hstep ih => exact ih.step hadmitted hstep
  exact view_copy_of_applied hsync h (hsettling.applied k hnone)

end Settled

end Replica
