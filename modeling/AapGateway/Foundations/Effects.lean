import Mathlib

/-!
# Programs that act on an environment

A program asks its environment to do something and gets an answer, or an exception. It may catch
exceptions, and it has a state of its own. What has been asked so far is kept as a trace, and the
answers may depend on it, so an environment stands for any course of events.

What a program is allowed to ask, and when, is described by an abstract machine whose steps are
labelled with the operations. A step may look at what has been asked before it, and so at the
answers. A program follows the machine if its trace is the one of a path.

## Main definitions

* `Program` and `ask`: the programs;
* `Path`: the paths of an abstract machine.

## Main results

* `ask_spec` and `update_spec`: the rules for the two primitive programs, for any invariant;
* `ask_answer_spec`: the rule for an operation whose answer matters.
-/

namespace Effects

open Std.Do

set_option mvcgen.warning false

variable {ω ε σ π α : Type} {ρ : ω → Type}

/-- What has been asked, and the state of the program. -/
structure World (ω σ : Type) where
  trace : List ω
  state : σ

/-- A program with exceptions. -/
abbrev Program (ω ε σ α : Type) : Type :=
  ExceptT ε (StateM (World ω σ)) α

/-- The answers of an environment, by what has been asked before. -/
abbrev Host (ρ : ω → Type) (ε : Type) : Type :=
  List ω → (op : ω) → Except ε (ρ op)

/-- An operation is asked for. -/
def World.record (w : World ω σ) (op : ω) : World ω σ :=
  { w with trace := w.trace ++ [op] }

/-- Ask for an operation. -/
def ask (host : Host ρ ε) (op : ω) : Program ω ε σ (ρ op) := do
  let w ← get
  set (w.record op)
  match host w.trace op with
  | .ok answer => pure answer
  | .error e => throw e

/-- Read the state. -/
def getState : Program ω ε σ σ := do
  return (← get).state

/-- Change the state. -/
def update (f : σ → σ) : Program ω ε σ Unit :=
  modify fun w => { w with state := f w.state }

/-- Run a program. -/
def exec (x : Program ω ε σ α) (w : World ω σ) : Except ε α × World ω σ := x w

/-- A program keeps an invariant, whether it returns or raises. -/
abbrev Keeps (I : World ω σ → Prop) (x : Program ω ε σ α) : Prop :=
  ⦃fun w => ⌜I w⌝⦄ x ⦃post⟨fun _ w => ⌜I w⌝, fun _ w => ⌜I w⌝⟩⦄

section Rules

variable {I J : World ω σ → Prop}

/-- What an answer leads to holds after it was given, and what an exception leads to after it was
raised. -/
theorem ask_answer_spec (host : Host ρ ε) {op : ω} {K : ρ op → World ω σ → Prop}
    (hanswer : ∀ w a, host w.trace op = .ok a → I w → K a (w.record op))
    (herror : ∀ w, I w → J (w.record op)) :
    ⦃fun w => ⌜I w⌝⦄ (ask host op : Program ω ε σ (ρ op))
    ⦃post⟨fun a w => ⌜K a w⌝, fun _ w => ⌜J w⌝⟩⦄ := by
  mvcgen [ask]
  · exact hanswer _ _ ‹_› ‹I _›
  · exact herror _ ‹I _›

/-- What recording an operation leads to holds after it was asked for, whatever the answer is. -/
theorem ask_spec (host : Host ρ ε) {op : ω} (h : ∀ w, I w → J (w.record op)) :
    ⦃fun w => ⌜I w⌝⦄ (ask host op : Program ω ε σ (ρ op))
    ⦃post⟨fun _ w => ⌜J w⌝, fun _ w => ⌜J w⌝⟩⦄ :=
  ask_answer_spec host (fun w _ _ => h w) h

/-- What a change of the state leads to holds after it. It raises nothing. -/
theorem update_spec {f : σ → σ} (h : ∀ w, I w → J { w with state := f w.state }) :
    ⦃fun w => ⌜I w⌝⦄ (update f : Program ω ε σ Unit)
    ⦃post⟨fun _ w => ⌜J w⌝, fun _ _ => ⌜False⌝⟩⦄ := by
  mvcgen [update]
  exact h _ ‹I _›

/-- What a triple says about a run. -/
theorem of_triple {x : Program ω ε σ α} {Q : α → World ω σ → Prop} {R : ε → World ω σ → Prop}
    (h : ⦃fun w => ⌜I w⌝⦄ x ⦃post⟨fun a w => ⌜Q a w⌝, fun e w => ⌜R e w⌝⟩⦄) {w : World ω σ}
    (hw : I w) : (∀ a, (exec x w).1 = .ok a → Q a (exec x w).2) ∧
      ∀ e, (exec x w).1 = .error e → R e (exec x w).2 := by
  have hpost := h w hw
  -- The precondition of a program is a match on the result of its run.
  have hrun : (StateT.run (ExceptT.run x) w).run = exec x w := rfl
  simp only [wp, PredTrans.apply_pushExcept, PredTrans.apply_pushArg, PredTrans.apply_Pure_pure,
    hrun] at hpost
  constructor
  · intro a ha
    rw [ha] at hpost
    exact hpost
  · intro e he
    rw [he] at hpost
    exact hpost

end Rules

/-- The traces that lead an abstract machine from its first state to another one. A step depends on
the trace before it. -/
inductive Path (step : List ω → π → ω → π → Prop) (init : π) : List ω → π → Prop
  | start : Path step init [] init
  | step {trace : List ω} {p p' : π} {op : ω} (h : Path step init trace p)
      (hstep : step trace p op p') : Path step init (trace ++ [op]) p'

end Effects
