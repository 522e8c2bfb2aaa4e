import Mathlib

/-!
# The last write to a key

A store is read by key, and a write sets some keys to one value. After any sequence of writes a key
has the value of the last write to it. Writes that arrive in another order than they were sent
therefore matter for a key exactly when the last write to it has become another one.

## Main definitions

* `Writes`: the step sets the keys of a write to its value and nothing else;
* `writesTo`: the writes to one key.

## Main results

* `read_foldl`: the value of a key after a sequence of writes;
* `read_foldl_perm_single`: a key that is written once does not depend on the order;
* `read_foldl_perm_pair`: a key that is written twice depends on the order of the two writes,
  unless their values are equal.
-/

namespace LastWrite

variable {σ β κ ν : Type} [DecidableEq κ] {read : σ → κ → ν} {step : σ → β → σ}
  {keys : β → List κ} {value : β → ν}

/-- A step of the store sets the keys of the write to its value and leaves the other keys. -/
def Writes (read : σ → κ → ν) (step : σ → β → σ) (keys : β → List κ) (value : β → ν) : Prop :=
  ∀ s b k, read (step s b) k = if k ∈ keys b then value b else read s k

/-- The writes to one key, in order. -/
def writesTo (keys : β → List κ) (k : κ) (bs : List β) : List β :=
  bs.filter fun b => k ∈ keys b

/-- The writes of two sequences that follow each other. -/
theorem writesTo_append (k : κ) (bs cs : List β) :
    writesTo keys k (bs ++ cs) = writesTo keys k bs ++ writesTo keys k cs :=
  List.filter_append ..

/-- After a sequence of writes a key has the value of the last write to it, or the value from
before if there was none. -/
theorem read_foldl (h : Writes read step keys value) (bs : List β) (s : σ) (k : κ) :
    read (bs.foldl step s) k = ((writesTo keys k bs).getLast?.map value).getD (read s k) := by
  induction bs using List.reverseRecOn with
  | nil => rfl
  | append_singleton bs b ih =>
      rw [List.foldl_append, writesTo_append]
      show read (step (bs.foldl step s) b) k = _
      rw [h, ih]
      -- The last write decides if it is a write to the key.
      by_cases hk : k ∈ keys b
      · rw [if_pos hk]
        simp [writesTo, hk]
      · rw [if_neg hk]
        simp [writesTo, hk]

section Reordered

variable {sent delivered : List β} {s : σ} {k : κ} {a b : β}

/-- A key that is written once gets the value of that write, whatever the order of delivery. -/
theorem read_foldl_perm_single (h : Writes read step keys value) (hperm : delivered.Perm sent)
    (hsent : writesTo keys k sent = [a]) : read (delivered.foldl step s) k = value a := by
  have hdelivered : (writesTo keys k delivered).Perm (writesTo keys k sent) := hperm.filter _
  rw [hsent, List.perm_singleton] at hdelivered
  rw [read_foldl h, hdelivered]
  rfl

/-- Two writes to a key are delivered in the order they were sent, or the other way round. -/
theorem writesTo_perm_pair (hperm : delivered.Perm sent) (hsent : writesTo keys k sent = [a, b]) :
    writesTo keys k delivered = [a, b] ∨ writesTo keys k delivered = [b, a] := by
  have hdelivered : (writesTo keys k delivered).Perm (writesTo keys k sent) := hperm.filter _
  rw [hsent] at hdelivered
  match hwrites : writesTo keys k delivered, hdelivered.length_eq with
  | [c, d], _ =>
      rw [hwrites] at hdelivered
      rcases List.mem_cons.mp (hdelivered.mem_iff.mp List.mem_cons_self) with rfl | hc
      · left
        rw [List.perm_cons, List.perm_singleton] at hdelivered
        rw [hdelivered]
      · right
        obtain rfl := List.mem_singleton.mp hc
        have hswap := hdelivered.trans (List.Perm.swap c a [])
        rw [List.perm_cons, List.perm_singleton] at hswap
        rw [hswap]

/-- Two different writes to a key are delivered in order exactly when the first of them precedes
the second among all writes. -/
theorem writesTo_eq_pair_iff (hne : a ≠ b) (hperm : delivered.Perm sent)
    (hsent : writesTo keys k sent = [a, b]) :
    writesTo keys k delivered = [a, b] ↔ [a, b].Sublist delivered := by
  constructor
  · intro hdelivered
    rw [← hdelivered]
    exact List.filter_sublist
  · intro hbefore
    rcases writesTo_perm_pair hperm hsent with hdelivered | hdelivered
    · exact hdelivered
    · -- Both are writes to the key, so they stand in the same order among those.
      have hkeys : writesTo keys k [a, b] = [a, b] := by
        rw [← hsent]
        unfold writesTo
        rw [List.filter_filter]
        simp only [Bool.and_self]
      have hsub : [a, b].Sublist [b, a] := by
        rw [← hdelivered, ← hkeys]
        exact hbefore.filter _
      have heq := hsub.eq_of_length rfl
      exact absurd (List.cons.inj heq).1 hne

/-- A key that is written twice gets the value of the second write exactly when the values are
equal or the writes are delivered in order. -/
theorem read_foldl_perm_pair (h : Writes read step keys value) (hne : a ≠ b)
    (hperm : delivered.Perm sent) (hsent : writesTo keys k sent = [a, b]) :
    read (delivered.foldl step s) k = value b ↔
      value a = value b ∨ [a, b].Sublist delivered := by
  rw [read_foldl h, ← writesTo_eq_pair_iff hne hperm hsent]
  rcases writesTo_perm_pair hperm hsent with hdelivered | hdelivered
  · rw [hdelivered]
    exact iff_of_true rfl (Or.inr rfl)
  · rw [hdelivered]
    constructor
    · intro hvalue
      exact Or.inl hvalue
    · rintro (hvalue | hswap)
      · exact hvalue
      · exact absurd (List.cons.inj hswap).1.symm hne

end Reordered

end LastWrite
