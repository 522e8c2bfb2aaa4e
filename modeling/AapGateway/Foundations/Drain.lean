import Mathlib

/-!
# Draining loops

A loop that asks again and again for what is left to do, works on it, and stops when nothing is
left. A round that achieves nothing is a stall, and the loop gives up after so many stalls in a
row. It ends because every round that achieves something makes a measure smaller, and every stall
leaves the measure where it is.

## Main definitions

* `Round`: how a round ends;
* `drain`: the loop.

## Main results

* `drain_ends`: the loop ends within `limit * μ s + limit` rounds;
* `drain_inv`: an invariant of the rounds is one of the loop;
* `drain_running`: a loop whose rounds go on achieving something does not end.
-/

namespace Drain

variable {σ ε : Type}

/-- How a round ends: nothing was left, an error, or some number of items were dealt with. -/
inductive Round (ε : Type) where
  | finished
  | failed (e : ε)
  | achieved (n : ℕ)

/-- How the loop ends, or that it is still running. -/
inductive Outcome (ε : Type) where
  | returned
  | raised (e : ε)
  | running
  deriving DecidableEq, Repr

/-- The loop. It raises `stalled` after `limit` stalls in a row, of which there have been `stalls`
so far. -/
def drain (limit : ℕ) (stalled : ε) (round : σ → σ × Round ε) : ℕ → ℕ → σ → σ × Outcome ε
  | 0, _, s => (s, .running)
  | fuel + 1, stalls, s =>
    match round s with
    | (s', .finished) => (s', .returned)
    | (s', .failed e) => (s', .raised e)
    | (s', .achieved 0) =>
      if limit ≤ stalls + 1 then (s', .raised stalled)
      else drain limit stalled round fuel (stalls + 1) s'
    | (s', .achieved (_ + 1)) => drain limit stalled round fuel 0 s'

variable {limit : ℕ} {stalled : ε} {round : σ → σ × Round ε}

/-- An invariant of the rounds is one of the loop. -/
theorem drain_inv (P : σ → Prop) (hround : ∀ s, P s → P (round s).1) (fuel stalls : ℕ) {s : σ}
    (hs : P s) : P (drain limit stalled round fuel stalls s).1 := by
  induction fuel generalizing stalls s with
  | zero => exact hs
  | succ fuel ih =>
      have hnext := hround s hs
      rw [drain]
      rcases hr : round s with ⟨s', _ | e | _ | n⟩
      · simpa [hr] using hnext
      · simpa [hr] using hnext
      · rw [hr] at hnext
        simp only
        split_ifs with hlimit
        · exact hnext
        · exact ih (stalls + 1) hnext
      · rw [hr] at hnext
        exact ih 0 hnext

/-- A loop that returns has found that nothing is left, in a state with the invariant. -/
theorem exists_finished_of_returned (P : σ → Prop) (hround : ∀ s, P s → P (round s).1)
    {fuel stalls : ℕ} {s : σ} (hs : P s)
    (h : (drain limit stalled round fuel stalls s).2 = .returned) :
    ∃ s₀, P s₀ ∧ round s₀ = ((drain limit stalled round fuel stalls s).1, .finished) := by
  induction fuel generalizing stalls s with
  | zero => cases h
  | succ fuel ih =>
      have hnext := hround s hs
      rw [drain] at h ⊢
      rcases hr : round s with ⟨s', _ | e | _ | n⟩
      · exact ⟨s, hs, hr⟩
      · rw [hr] at h
        cases h
      · rw [hr] at h hnext
        simp only at h ⊢
        split_ifs at h ⊢ with hlimit
        exact ih hnext h
      · rw [hr] at h hnext
        exact ih hnext h

/-- The loop ends if every round that achieves something makes the measure smaller, and no stall
makes it larger. -/
theorem drain_ends (P : σ → Prop) (μ : σ → ℕ) (hround : ∀ s, P s → P (round s).1)
    (hstall : ∀ s, P s → (round s).2 = .achieved 0 → μ (round s).1 ≤ μ s)
    (hprogress : ∀ s n, P s → (round s).2 = .achieved (n + 1) → μ (round s).1 < μ s)
    {fuel stalls : ℕ} {s : σ} (hs : P s) (hstalls : stalls < limit)
    (hfuel : limit * μ s + limit ≤ fuel + stalls) :
    (drain limit stalled round fuel stalls s).2 ≠ .running := by
  induction fuel generalizing stalls s with
  | zero =>
      have : limit ≤ limit * μ s + limit := Nat.le_add_left _ _
      omega
  | succ fuel ih =>
      have hnext := hround s hs
      have hle := hstall s hs
      have hlt := hprogress s
      rw [drain]
      rcases hr : round s with ⟨s', _ | e | _ | n⟩
      · simp
      · simp
      · rw [hr] at hnext hle
        simp only
        split_ifs with hlimit
        · simp
        · have hmul : limit * μ s' ≤ limit * μ s := Nat.mul_le_mul_left limit (hle rfl)
          exact ih hnext (by omega) (by omega)
      · rw [hr] at hnext hlt
        -- The rounds that a stall may cost are paid for by the measure.
        have hmul : limit * (μ s' + 1) ≤ limit * μ s := Nat.mul_le_mul_left limit (hlt n hs rfl)
        rw [Nat.mul_add, Nat.mul_one] at hmul
        exact ih hnext (by omega) (by omega)

/-- A loop whose rounds go on achieving something does not end. -/
theorem drain_running (P : σ → Prop)
    (hround : ∀ s, P s → P (round s).1 ∧ ∃ n, (round s).2 = .achieved (n + 1)) (fuel stalls : ℕ)
    {s : σ} (hs : P s) : (drain limit stalled round fuel stalls s).2 = .running := by
  induction fuel generalizing stalls s with
  | zero => rfl
  | succ fuel ih =>
      obtain ⟨hnext, n, hn⟩ := hround s hs
      rw [drain]
      rcases hr : round s with ⟨s', r⟩
      rw [hr] at hnext hn
      rw [show r = .achieved (n + 1) from hn]
      exact ih 0 hnext

end Drain
