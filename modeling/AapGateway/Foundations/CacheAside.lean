import Mathlib

/-!
# Cache-aside coherence

A store with a cache beside it. Readers answer from the cache and fill it from the store on a
miss; writers change the store and drop the keys whose values they may have changed. The first
part is about steps that do not overlap. The second part interleaves the instructions of any
number of processes: a process reads the store into a snapshot, and fills the cache from the
snapshot later.

An interleaving is a list of instructions tagged with their process, such that the instructions
of each process are the program of the process, in order.

## Main definitions

* `Coherent`: every cached value is the value built from the store;
* `exec` and `run`: the effect of an instruction and of a trace;
* `NoOvertaking`: no reader fills a key after a writer of that key has committed and invalidated
  since the reader took its snapshot.

## Main results

* `Coherent.commit`: a write keeps the cache coherent if it drops every key it changes;
* `coherent_run`: in a complete interleaving without overtaking, the cache ends up coherent.
-/

namespace CacheAside

variable {ι σ κ ν : Type}

/-- How values are built from the store, and which of them are kept. -/
structure System (σ κ ν : Type) where
  build : κ → σ → ν
  cacheable : ν → Bool

/-- Every cached value is the one built from the store. -/
def Coherent (sys : System σ κ ν) (store : σ) (cache : κ → Option ν) : Prop :=
  ∀ k v, cache k = some v → v = sys.build k store

section Sequential

variable {sys : System σ κ ν} {store store' : σ} {cache : κ → Option ν}

/-- An empty cache is coherent. -/
theorem coherent_empty (sys : System σ κ ν) (store : σ) : Coherent sys store fun _ => none := by
  intro k v h
  cases h

variable [DecidableEq κ]

/-- Drop the keys in `ks`. -/
def drop (ks : List κ) (cache : κ → Option ν) : κ → Option ν :=
  fun k => if k ∈ ks then none else cache k

/-- Keep a value if it is cacheable. -/
def fill (sys : System σ κ ν) (k : κ) (v : ν) (cache : κ → Option ν) : κ → Option ν :=
  if sys.cacheable v then Function.update cache k (some v) else cache

/-- What a cache holds after keys are dropped. -/
theorem of_drop_eq_some {ks : List κ} {k : κ} {v : ν} (h : drop ks cache k = some v) :
    k ∉ ks ∧ cache k = some v := by
  unfold drop at h
  split at h
  · cases h
  · rename_i hk
    exact ⟨hk, h⟩

/-- What a cache holds after a fill. -/
theorem of_fill_eq_some {k k' : κ} {v v' : ν} (h : fill sys k v cache k' = some v') :
    k' = k ∧ v' = v ∨ cache k' = some v' := by
  unfold fill at h
  split at h
  · by_cases hk : k' = k
    · rw [hk, Function.update_self] at h
      exact Or.inl ⟨hk, (Option.some.inj h).symm⟩
    · rw [Function.update_of_ne hk] at h
      exact Or.inr h
  · exact Or.inr h

/-- A write keeps the cache coherent if every key that stays cached keeps its value. -/
theorem Coherent.commit {ks : List κ} (h : Coherent sys store cache)
    (hsame : ∀ k ∉ ks, (cache k).isSome → sys.build k store' = sys.build k store) :
    Coherent sys store' (drop ks cache) := by
  intro k v hv
  obtain ⟨hk, hcached⟩ := of_drop_eq_some hv
  rw [hsame k hk (by rw [hcached]; rfl)]
  exact h k v hcached

/-- Filling a key from the store keeps the cache coherent. -/
theorem Coherent.fill {k : κ} (h : Coherent sys store cache) :
    Coherent sys store (fill sys k (sys.build k store) cache) := by
  intro k' v hv
  rcases of_fill_eq_some hv with ⟨rfl, rfl⟩ | hold
  · rfl
  · exact h k' v hold

end Sequential

/-- The instructions of readers and writers. -/
inductive Instr (σ κ : Type) where
  /-- Look a key up; a hit ends the process. -/
  | get (k : κ)
  /-- Take a snapshot of the store. -/
  | read
  /-- Fill a key from the snapshot. -/
  | set (k : κ)
  /-- Change the store, and learn which keys to invalidate; a failure ends the process. -/
  | commit (f : σ → Option (σ × List κ))
  /-- Drop the keys learned before. -/
  | invalidate

/-- What a process remembers between its instructions. -/
structure Memory (σ κ : Type) where
  stopped : Bool := false
  snapshot : Option σ := none
  pending : List κ := []

/-- The shared store and cache, and the memory of each process. -/
structure World (ι σ κ ν : Type) where
  store : σ
  cache : κ → Option ν
  memory : ι → Memory σ κ

/-- The two kinds of process. -/
inductive Party (σ κ : Type) where
  | reader (k : κ)
  | writer (f : σ → Option (σ × List κ))

/-- A reader fills its key on a miss; a writer invalidates after it has committed. -/
def Party.program : Party σ κ → List (Instr σ κ)
  | .reader k => [.get k, .read, .set k]
  | .writer f => [.commit f, .invalidate]

section Traces

variable [DecidableEq ι] {party : ι → Party σ κ} {trace : List (ι × Instr σ κ)} {i : ι} {k : κ}
  {instr : Instr σ κ}

/-- The instructions of one process in a trace. -/
def project (trace : List (ι × Instr σ κ)) (i : ι) : List (Instr σ κ) :=
  (trace.filter fun e => e.1 = i).map Prod.snd

/-- A trace interleaves programs up to some point of each. -/
def Interleaves (program : ι → List (Instr σ κ)) (trace : List (ι × Instr σ κ)) : Prop :=
  ∀ i, project trace i <+: program i

/-- A trace interleaves programs to their end. -/
def Completes (program : ι → List (Instr σ κ)) (trace : List (ι × Instr σ κ)) : Prop :=
  ∀ i, project trace i = program i

/-- The instructions of a process are those tagged with it. -/
theorem mem_project : instr ∈ project trace i ↔ (i, instr) ∈ trace := by
  simp [project]

/-- The next instruction of a process is the next one of its program. -/
theorem program_eq_of_interleaves {program : ι → List (Instr σ κ)}
    (h : Interleaves program (trace ++ [(i, instr)])) :
    ∃ rest, program i = project trace i ++ instr :: rest := by
  obtain ⟨rest, hrest⟩ := h i
  refine ⟨rest, ?_⟩
  rw [← hrest]
  simp [project]

/-- A prefix of an interleaving is one. -/
theorem Interleaves.of_append {program : ι → List (Instr σ κ)} {more : List (ι × Instr σ κ)}
    (h : Interleaves program (trace ++ more)) : Interleaves program trace := by
  intro i
  refine List.IsPrefix.trans ?_ (h i)
  rw [project, project, List.filter_append, List.map_append]
  exact List.prefix_append _ _

/-- Where a reader stands before its next instruction. -/
theorem reader_next (hp : party i = .reader k)
    (h : Interleaves (fun i => (party i).program) (trace ++ [(i, instr)])) :
    project trace i = [] ∧ instr = .get k ∨ project trace i = [.get k] ∧ instr = .read ∨
      project trace i = [.get k, .read] ∧ instr = .set k := by
  obtain ⟨rest, hrest⟩ := program_eq_of_interleaves h
  rw [hp, Party.program] at hrest
  rcases hproj : project trace i with _ | ⟨a, _ | ⟨b, _ | ⟨c, l⟩⟩⟩ <;> rw [hproj] at hrest <;>
    simp_all

/-- Where a writer stands before its next instruction. -/
theorem writer_next {f : σ → Option (σ × List κ)} (hp : party i = .writer f)
    (h : Interleaves (fun i => (party i).program) (trace ++ [(i, instr)])) :
    project trace i = [] ∧ instr = .commit f ∨
      project trace i = [.commit f] ∧ instr = .invalidate := by
  obtain ⟨rest, hrest⟩ := program_eq_of_interleaves h
  rw [hp, Party.program] at hrest
  rcases hproj : project trace i with _ | ⟨a, _ | ⟨b, l⟩⟩ <;> rw [hproj] at hrest <;> simp_all

end Traces

section Progress

variable {w w' : World ι σ κ ν} {trace : List (ι × Instr σ κ)} {i j : ι} {k : κ}

/-- A writer of the key `k` has committed but not yet invalidated. -/
def Pending (w : World ι σ κ ν) (trace : List (ι × Instr σ κ)) (j : ι) (k : κ) : Prop :=
  (∃ f, (j, .commit f) ∈ trace) ∧ (j, .invalidate) ∉ trace ∧
    k ∈ (w.memory j).pending ∧ (w.memory j).stopped = false

/-- A writer of the key `k` has committed since `i` read the store, and either has invalidated
since or is about to. -/
def Behind (w : World ι σ κ ν) (trace : List (ι × Instr σ κ)) (i : ι) (k : κ) : Prop :=
  ∃ j f, k ∈ (w.memory j).pending ∧ (w.memory j).stopped = false ∧
    ([(i, .read), (j, .commit f), (j, .invalidate)].Sublist trace ∨
      [(i, .read), (j, .commit f)].Sublist trace ∧ (j, .invalidate) ∉ trace)

/-- A pending invalidation stays pending until its process carries it out. -/
theorem Pending.snoc {e : ι × Instr σ κ} (h : Pending w trace j k)
    (hmem : ∀ f, (j, .commit f) ∈ trace → w'.memory j = w.memory j)
    (he : e ≠ (j, .invalidate)) : Pending w' (trace ++ [e]) j k := by
  obtain ⟨⟨f, hf⟩, hinv, hk, hstop⟩ := h
  refine ⟨⟨f, List.mem_append_left _ hf⟩, ?_, ?_, ?_⟩
  · rw [List.mem_append, List.mem_singleton]
    rintro (hmem' | heq)
    · exact hinv hmem'
    · exact he heq.symm
  · rw [hmem f hf]
    exact hk
  · rw [hmem f hf]
    exact hstop

/-- A process that is behind stays behind. -/
theorem Behind.snoc {e : ι × Instr σ κ} (h : Behind w trace i k)
    (hmem : ∀ j f, (j, .commit f) ∈ trace → w'.memory j = w.memory j) :
    Behind w' (trace ++ [e]) i k := by
  obtain ⟨j, f, hk, hstop, hsub⟩ := h
  have hj : (j, .commit f) ∈ trace := by
    rcases hsub with hsub | ⟨hsub, -⟩ <;> exact hsub.subset (by simp)
  refine ⟨j, f, by rw [hmem j f hj]; exact hk, by rw [hmem j f hj]; exact hstop, ?_⟩
  rcases hsub with hsub | ⟨hsub, hinv⟩
  · exact Or.inl (hsub.trans (List.sublist_append_left _ _))
  · by_cases he : e = (j, .invalidate)
    · -- The writer carries its invalidation out now, after its commit.
      left
      rw [he]
      exact hsub.append (List.Sublist.refl [(j, Instr.invalidate)])
    · right
      refine ⟨hsub.trans (List.sublist_append_left _ _), ?_⟩
      rw [List.mem_append, List.mem_singleton]
      rintro (hmem' | heq)
      · exact hinv hmem'
      · exact he heq.symm

end Progress

section Interleaved

variable [DecidableEq ι]

/-- Change the memory of one process. -/
def World.remember (w : World ι σ κ ν) (i : ι) (m : Memory σ κ) : World ι σ κ ν :=
  { w with memory := Function.update w.memory i m }

@[simp]
theorem World.remember_memory_self (w : World ι σ κ ν) (i : ι) (m : Memory σ κ) :
    (w.remember i m).memory i = m :=
  Function.update_self ..

theorem World.remember_memory_of_ne (w : World ι σ κ ν) {i j : ι} (m : Memory σ κ) (h : j ≠ i) :
    (w.remember i m).memory j = w.memory j :=
  Function.update_of_ne h ..

variable [DecidableEq κ]

/-- The effect of an instruction of a process that has not ended. -/
def perform (sys : System σ κ ν) (w : World ι σ κ ν) (i : ι) : Instr σ κ → World ι σ κ ν
  | .get k =>
    if (w.cache k).isSome then w.remember i { w.memory i with stopped := true } else w
  | .read => w.remember i { w.memory i with snapshot := some w.store }
  | .set k =>
    match (w.memory i).snapshot with
    | none => w
    | some s => { w with cache := fill sys k (sys.build k s) w.cache }
  | .commit f =>
    match f w.store with
    | none => w.remember i { w.memory i with stopped := true }
    | some (store', ks) =>
      { w with store := store' }.remember i { w.memory i with pending := ks }
  | .invalidate => { w with cache := drop (w.memory i).pending w.cache }

/-- The effect of an instruction: nothing, once its process has ended. -/
def exec (sys : System σ κ ν) (w : World ι σ κ ν) (e : ι × Instr σ κ) : World ι σ κ ν :=
  if (w.memory e.1).stopped then w else perform sys w e.1 e.2

/-- The effect of a trace. -/
def run (sys : System σ κ ν) (w : World ι σ κ ν) (trace : List (ι × Instr σ κ)) :
    World ι σ κ ν :=
  trace.foldl (exec sys) w

/-- A writer `j` of the key `k` has committed and invalidated since `i` read the store. -/
def Overtaken (w : World ι σ κ ν) (trace : List (ι × Instr σ κ)) (i : ι) (k : κ) : Prop :=
  ∃ j f, k ∈ (w.memory j).pending ∧
    [(i, .read), (j, .commit f), (j, .invalidate)].Sublist trace

/-- No reader that missed fills its key after it has been overtaken. -/
def NoOvertaking (sys : System σ κ ν) (w : World ι σ κ ν) (trace : List (ι × Instr σ κ)) :
    Prop :=
  ∀ pre post i k, trace = pre ++ (i, .set k) :: post →
    ((run sys w pre).memory i).stopped = false → ¬ Overtaken (run sys w pre) pre i k

/-- What holds along an interleaving: a cached value is current unless an invalidation is on its
way, and a snapshot is current unless a writer has committed since it was taken. -/
structure Inv (sys : System σ κ ν) (party : ι → Party σ κ) (w : World ι σ κ ν)
    (trace : List (ι × Instr σ κ)) : Prop where
  cached : ∀ k v, w.cache k = some v → v = sys.build k w.store ∨ ∃ j, Pending w trace j k
  snapshot : ∀ i k s, party i = .reader k → (w.memory i).snapshot = some s →
    (i, .read) ∈ trace ∧ (sys.build k s = sys.build k w.store ∨ Behind w trace i k)

variable {sys : System σ κ ν} {party : ι → Party σ κ} {w w' : World ι σ κ ν}
  {trace : List (ι × Instr σ κ)} {i j : ι} {k : κ} {instr : Instr σ κ}

/-- An instruction touches only the memory of its own process. -/
theorem exec_memory_of_ne (hne : j ≠ i) : (exec sys w (i, instr)).memory j = w.memory j := by
  unfold exec
  split
  · rfl
  · cases instr with
    | get k =>
        simp only [perform]
        split
        · exact World.remember_memory_of_ne _ _ hne
        · rfl
    | read => exact World.remember_memory_of_ne _ _ hne
    | set k =>
        simp only [perform]
        split <;> rfl
    | commit f =>
        simp only [perform]
        split
        · exact World.remember_memory_of_ne _ _ hne
        · exact World.remember_memory_of_ne _ _ hne
    | invalidate => rfl

/-- A process that has committed keeps its memory. -/
theorem exec_memory_of_committed {f : σ → Option (σ × List κ)}
    (h : Interleaves (fun i => (party i).program) (trace ++ [(i, instr)]))
    (hj : (j, .commit f) ∈ trace) : (exec sys w (i, instr)).memory j = w.memory j := by
  by_cases hne : j = i
  · subst hne
    rw [← mem_project] at hj
    cases hp : party j with
    | reader k =>
        rcases reader_next hp h with ⟨hproj, -⟩ | ⟨hproj, -⟩ | ⟨hproj, -⟩ <;>
          rw [hproj] at hj <;> simp at hj
    | writer g =>
        rcases writer_next hp h with ⟨hproj, -⟩ | ⟨-, rfl⟩
        · rw [hproj] at hj
          cases hj
        · unfold exec
          split <;> rfl
  · exact exec_memory_of_ne hne

/-- A process that has ended changes nothing. -/
theorem exec_of_stopped {e : ι × Instr σ κ} (h : (w.memory e.1).stopped = true) :
    exec sys w e = w := by
  unfold exec
  rw [if_pos h]

/-- A process that has not ended performs its instruction. -/
theorem exec_of_running {e : ι × Instr σ κ} (h : (w.memory e.1).stopped = false) :
    exec sys w e = perform sys w e.1 e.2 := by
  unfold exec
  rw [h]
  rfl

/-- A cached value that stays is still current, or still has its invalidation on the way. -/
theorem Inv.cached_snoc (hI : Inv sys party w trace)
    (h : Interleaves (fun i => (party i).program) (trace ++ [(i, instr)]))
    (hstore : (exec sys w (i, instr)).store = w.store)
    (hpend : instr = .invalidate → ∀ k, ¬ Pending w trace i k) {v : ν}
    (hv : w.cache k = some v) :
    v = sys.build k (exec sys w (i, instr)).store ∨
      ∃ j, Pending (exec sys w (i, instr)) (trace ++ [(i, instr)]) j k := by
  rw [hstore]
  rcases hI.cached k v hv with hcur | ⟨j, hj⟩
  · exact Or.inl hcur
  · right
    refine ⟨j, hj.snoc (fun f hf => exec_memory_of_committed h hf) ?_⟩
    intro he
    obtain ⟨hij, hinstr⟩ := Prod.mk.inj he
    rw [← hij] at hj
    exact hpend hinstr k hj

/-- A snapshot taken before is still current, or its reader is still behind. -/
theorem Inv.snapshot_snoc (hI : Inv sys party w trace)
    (h : Interleaves (fun i => (party i).program) (trace ++ [(i, instr)]))
    (hstore : (exec sys w (i, instr)).store = w.store) {s : σ}
    (hp : party j = .reader k) (hs : (w.memory j).snapshot = some s) :
    (j, .read) ∈ trace ++ [(i, instr)] ∧
      (sys.build k s = sys.build k (exec sys w (i, instr)).store ∨
        Behind (exec sys w (i, instr)) (trace ++ [(i, instr)]) j k) := by
  rw [hstore]
  obtain ⟨hread, hcur⟩ := hI.snapshot j k s hp hs
  refine ⟨List.mem_append_left _ hread, ?_⟩
  rcases hcur with hcur | hbehind
  · exact Or.inl hcur
  · exact Or.inr (hbehind.snoc fun j f hf => exec_memory_of_committed h hf)

/-- An instruction of a process that has ended keeps the invariant. -/
theorem Inv.stopped (hI : Inv sys party w trace) (hstop : (w.memory i).stopped = true)
    (h : Interleaves (fun i => (party i).program) (trace ++ [(i, instr)])) :
    Inv sys party (exec sys w (i, instr)) (trace ++ [(i, instr)]) := by
  have hexec : exec sys w (i, instr) = w := exec_of_stopped hstop
  have hstore : (exec sys w (i, instr)).store = w.store := by rw [hexec]
  constructor
  · intro k v hv
    refine hI.cached_snoc h hstore ?_ (by rw [hexec] at hv; exact hv)
    intro _ k' hpending
    rw [hpending.2.2.2] at hstop
    cases hstop
  · intro j k s hp hs
    exact hI.snapshot_snoc h hstore hp (by rw [hexec] at hs; exact hs)

/-- A lookup keeps the invariant. -/
theorem Inv.get (hI : Inv sys party w trace) (hrun : (w.memory i).stopped = false)
    (h : Interleaves (fun i => (party i).program) (trace ++ [(i, .get k)])) :
    Inv sys party (exec sys w (i, .get k)) (trace ++ [(i, .get k)]) := by
  have hexec : exec sys w (i, .get k) =
      if (w.cache k).isSome then w.remember i { w.memory i with stopped := true } else w :=
    exec_of_running hrun
  have hstore : (exec sys w (i, .get k)).store = w.store := by
    rw [hexec]
    split <;> rfl
  constructor
  · intro k' v hv
    refine hI.cached_snoc h hstore (fun hinstr => by cases hinstr) ?_
    rw [hexec] at hv
    split at hv <;> exact hv
  · intro j k' s hp hs
    refine hI.snapshot_snoc h hstore hp ?_
    by_cases hj : j = i
    · rw [hj, hexec] at hs
      rw [hj]
      split at hs
      · rw [World.remember_memory_self] at hs
        exact hs
      · exact hs
    · rw [exec_memory_of_ne hj] at hs
      exact hs

/-- Taking a snapshot keeps the invariant: the snapshot is current. -/
theorem Inv.read (hI : Inv sys party w trace) (hrun : (w.memory i).stopped = false)
    (h : Interleaves (fun i => (party i).program) (trace ++ [(i, .read)])) :
    Inv sys party (exec sys w (i, .read)) (trace ++ [(i, .read)]) := by
  have hexec : exec sys w (i, .read) =
      w.remember i { w.memory i with snapshot := some w.store } := exec_of_running hrun
  have hstore : (exec sys w (i, .read)).store = w.store := by
    rw [hexec]
    rfl
  constructor
  · intro k v hv
    refine hI.cached_snoc h hstore (fun hinstr => by cases hinstr) ?_
    rw [hexec] at hv
    exact hv
  · intro j k s hp hs
    by_cases hj : j = i
    · rw [hj, hexec, World.remember_memory_self] at hs
      rw [← Option.some.inj hs, hj, hstore]
      exact ⟨by simp, Or.inl rfl⟩
    · rw [exec_memory_of_ne hj] at hs
      exact hI.snapshot_snoc h hstore hp hs

/-- Filling a key keeps the invariant, unless the reader has been overtaken: a value that is no
longer current has its invalidation on the way. -/
theorem Inv.set (hI : Inv sys party w trace) (hrun : (w.memory i).stopped = false)
    (hp : party i = .reader k)
    (h : Interleaves (fun i => (party i).program) (trace ++ [(i, .set k)]))
    (hno : ¬ Overtaken w trace i k) :
    Inv sys party (exec sys w (i, .set k)) (trace ++ [(i, .set k)]) := by
  have hexec : exec sys w (i, .set k) = perform sys w i (.set k) := exec_of_running hrun
  have hmemory : ∀ j, (exec sys w (i, .set k)).memory j = w.memory j := by
    intro j
    rw [hexec]
    simp only [perform]
    split <;> rfl
  have hstore : (exec sys w (i, .set k)).store = w.store := by
    rw [hexec]
    simp only [perform]
    split <;> rfl
  constructor
  · intro k' v hv
    rw [hexec] at hv
    cases hsnap : (w.memory i).snapshot with
    | none =>
        simp only [perform, hsnap] at hv
        exact hI.cached_snoc h hstore (fun hinstr => by cases hinstr) hv
    | some s =>
        simp only [perform, hsnap] at hv
        rcases of_fill_eq_some hv with ⟨rfl, rfl⟩ | hold
        · rw [hstore]
          obtain ⟨-, hcur | ⟨j, f, hk, hstop, hsub | ⟨hsub, hinv⟩⟩⟩ :=
            hI.snapshot i k' s hp hsnap
          · exact Or.inl hcur
          · exact absurd ⟨j, f, hk, hsub⟩ hno
          · right
            have hpending : Pending w trace j k' :=
              ⟨⟨f, hsub.subset (by simp)⟩, hinv, hk, hstop⟩
            exact ⟨j, hpending.snoc (fun f hf => exec_memory_of_committed h hf) (by simp)⟩
        · exact hI.cached_snoc h hstore (fun hinstr => by cases hinstr) hold
  · intro j k' s hp' hs
    rw [hmemory] at hs
    exact hI.snapshot_snoc h hstore hp' hs

/-- A commit keeps the invariant: the keys whose values change are pending now, and the readers
that took a snapshot of them before are behind. -/
theorem Inv.commit {f : σ → Option (σ × List κ)} (hI : Inv sys party w trace)
    (hrun : (w.memory i).stopped = false) (hproj : project trace i = [])
    (h : Interleaves (fun i => (party i).program) (trace ++ [(i, .commit f)]))
    (hfoot : ∀ s s' ks, f s = some (s', ks) → ∀ k ∉ ks, sys.build k s' = sys.build k s) :
    Inv sys party (exec sys w (i, .commit f)) (trace ++ [(i, .commit f)]) := by
  have hexec : exec sys w (i, .commit f) = perform sys w i (.commit f) := exec_of_running hrun
  -- A commit gives no party a snapshot.
  have hsnap : ∀ {j s}, ((exec sys w (i, .commit f)).memory j).snapshot = some s →
      (w.memory j).snapshot = some s := by
    intro j s hs
    by_cases hj : j = i
    · rw [hj, hexec] at hs
      rw [hj]
      simp only [perform] at hs
      split at hs <;> rw [World.remember_memory_self] at hs <;> exact hs
    · rw [exec_memory_of_ne hj] at hs
      exact hs
  cases hf : f w.store with
  -- A commit that fails leaves the store, and with it everything that is cached.
  | none =>
      have hstore : (exec sys w (i, .commit f)).store = w.store := by
        rw [hexec]
        simp only [perform, hf]
        rfl
      constructor
      · intro k v hv
        refine hI.cached_snoc h hstore (fun hinstr => by cases hinstr) ?_
        rw [hexec] at hv
        simp only [perform, hf] at hv
        exact hv
      · intro j k s hp hs
        exact hI.snapshot_snoc h hstore hp (hsnap hs)
  | some out =>
      obtain ⟨store', ks⟩ := out
      have hstore : (exec sys w (i, .commit f)).store = store' := by
        rw [hexec]
        simp only [perform, hf]
        rfl
      have hmemory : (exec sys w (i, .commit f)).memory i =
          { w.memory i with pending := ks } := by
        rw [hexec]
        simp only [perform, hf]
        rw [World.remember_memory_self]
      have hinv : (i, Instr.invalidate) ∉ trace ++ [(i, .commit f)] := by
        intro hmem
        rcases List.mem_append.mp hmem with hmem | hmem
        · rw [← mem_project, hproj] at hmem
          cases hmem
        · simp at hmem
      constructor
      · intro k v hv
        rw [hstore]
        have hold : w.cache k = some v := by
          rw [hexec] at hv
          simp only [perform, hf] at hv
          exact hv
        -- The keys that the commit changes are pending; under the others the store has what it had.
        by_cases hk : k ∈ ks
        · right
          refine ⟨i, ⟨f, by simp⟩, hinv, ?_, ?_⟩
          · rw [hmemory]
            exact hk
          · rw [hmemory]
            exact hrun
        · rw [hfoot _ _ _ hf k hk]
          -- An invalidation that is on its way stays on its way.
          rcases hI.cached k v hold with hcur | ⟨j, hj⟩
          · exact Or.inl hcur
          · exact Or.inr ⟨j, hj.snoc (fun g hg => exec_memory_of_committed h hg) (by simp)⟩
      · intro j k s hp hs
        rw [hstore]
        obtain ⟨hread, hcur⟩ := hI.snapshot j k s hp (hsnap hs)
        refine ⟨List.mem_append_left _ hread, ?_⟩
        by_cases hk : k ∈ ks
        · right
          refine ⟨i, f, by rw [hmemory]; exact hk, by rw [hmemory]; exact hrun, Or.inr ⟨?_, hinv⟩⟩
          -- The snapshot was read before this commit, which its party is now behind.
          exact (List.singleton_sublist.mpr hread).append (List.Sublist.refl [(i, Instr.commit f)])
        · rw [hfoot _ _ _ hf k hk]
          rcases hcur with hcur | hbehind
          · exact Or.inl hcur
          · exact Or.inr (hbehind.snoc fun j g hg => exec_memory_of_committed h hg)

/-- An invalidation keeps the invariant: what it was on its way for is gone from the cache. -/
theorem Inv.invalidate (hI : Inv sys party w trace) (hrun : (w.memory i).stopped = false)
    (h : Interleaves (fun i => (party i).program) (trace ++ [(i, .invalidate)])) :
    Inv sys party (exec sys w (i, .invalidate)) (trace ++ [(i, .invalidate)]) := by
  have hexec : exec sys w (i, .invalidate) =
      { w with cache := drop (w.memory i).pending w.cache } := exec_of_running hrun
  have hstore : (exec sys w (i, .invalidate)).store = w.store := by
    rw [hexec]
  constructor
  · intro k v hv
    rw [hexec] at hv
    obtain ⟨hk, hold⟩ := of_drop_eq_some hv
    rw [hstore]
    rcases hI.cached k v hold with hcur | ⟨j, hj⟩
    · exact Or.inl hcur
    · right
      refine ⟨j, hj.snoc (fun f hf => exec_memory_of_committed h hf) ?_⟩
      intro he
      rw [(Prod.mk.inj he).1] at hk
      exact hk hj.2.2.1
  · intro j k s hp hs
    refine hI.snapshot_snoc h hstore hp ?_
    rw [hexec] at hs
    exact hs

/-- Every instruction of an interleaving keeps the invariant, if it does not let an overtaken
reader fill its key. -/
theorem Inv.step (hI : Inv sys party w trace)
    (h : Interleaves (fun i => (party i).program) (trace ++ [(i, instr)]))
    (hfoot : ∀ i f, party i = .writer f → ∀ s s' ks, f s = some (s', ks) →
      ∀ k ∉ ks, sys.build k s' = sys.build k s)
    (hno : ∀ k, instr = .set k → (w.memory i).stopped = false → ¬ Overtaken w trace i k) :
    Inv sys party (exec sys w (i, instr)) (trace ++ [(i, instr)]) := by
  cases hrun : (w.memory i).stopped with
  | true => exact hI.stopped hrun h
  | false =>
      cases hp : party i with
      | reader k =>
          rcases reader_next hp h with ⟨-, rfl⟩ | ⟨-, rfl⟩ | ⟨-, rfl⟩
          · exact hI.get hrun h
          · exact hI.read hrun h
          · exact hI.set hrun hp h (hno k rfl hrun)
      | writer f =>
          rcases writer_next hp h with ⟨hproj, rfl⟩ | ⟨-, rfl⟩
          · exact hI.commit hrun hproj h (hfoot i f hp)
          · exact hI.invalidate hrun h

/-- The effect of one more instruction. -/
theorem run_append_singleton (e : ι × Instr σ κ) :
    run sys w (trace ++ [e]) = exec sys (run sys w trace) e := by
  simp [run]

/-- A prefix of a trace without overtaking has none. -/
theorem NoOvertaking.of_append {more : List (ι × Instr σ κ)}
    (h : NoOvertaking sys w (trace ++ more)) : NoOvertaking sys w trace := by
  intro pre post i k htrace
  apply h pre (post ++ more) i k
  rw [htrace, List.append_assoc, List.cons_append]

/-- The invariant holds along every interleaving without overtaking that starts from a coherent
cache and processes that have not begun. -/
theorem inv_run (hcoherent : Coherent sys w.store w.cache) (hfresh : ∀ i, w.memory i = {})
    (hfoot : ∀ i f, party i = .writer f → ∀ s s' ks, f s = some (s', ks) →
      ∀ k ∉ ks, sys.build k s' = sys.build k s)
    (h : Interleaves (fun i => (party i).program) trace) (hno : NoOvertaking sys w trace) :
    Inv sys party (run sys w trace) trace := by
  induction trace using List.reverseRecOn with
  | nil =>
      constructor
      · intro k v hv
        exact Or.inl (hcoherent k v hv)
      · intro i k s _ hs
        have hnone : (w.memory i).snapshot = none := by rw [hfresh i]
        rw [run, List.foldl_nil, hnone] at hs
        cases hs
  | append_singleton trace e ih =>
      obtain ⟨i, instr⟩ := e
      rw [run_append_singleton]
      refine (ih h.of_append hno.of_append).step h hfoot ?_
      rintro k rfl hrun
      exact hno trace [] i k rfl hrun

/-- In a complete interleaving without overtaking the cache ends up coherent: a value that is not
current would have an invalidation on its way, and there is none left. -/
theorem coherent_run (hcoherent : Coherent sys w.store w.cache) (hfresh : ∀ i, w.memory i = {})
    (hfoot : ∀ i f, party i = .writer f → ∀ s s' ks, f s = some (s', ks) →
      ∀ k ∉ ks, sys.build k s' = sys.build k s)
    (h : Completes (fun i => (party i).program) trace) (hno : NoOvertaking sys w trace) :
    Coherent sys (run sys w trace).store (run sys w trace).cache := by
  have hint : Interleaves (fun i => (party i).program) trace := fun i => (h i) ▸ List.prefix_rfl
  intro k v hv
  rcases (inv_run hcoherent hfresh hfoot hint hno).cached k v hv with hcur | ⟨j, hj⟩
  · exact hcur
  · obtain ⟨⟨f, hf⟩, hinv, -⟩ := hj
    have hprogram : project trace j = (party j).program := h j
    rw [← mem_project, hprogram] at hf hinv
    cases hp : party j with
    | reader k' =>
        rw [hp] at hf
        simp [Party.program] at hf
    | writer g =>
        rw [hp] at hinv
        simp [Party.program] at hinv

end Interleaved

end CacheAside
