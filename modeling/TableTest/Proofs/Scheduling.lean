/-
`TableTest.Proofs.Scheduling` — running the cases of a suite side by side

The cases of a suite are started in its order whenever there is a free permit, end in whatever
order they do, and are collected in any order once no more are started.  `Pool.Step` is everything
that can happen next.  A pool has as many permits as the settings ask for: it is there only if they
have been granted, so a report comes of it (`Suite.ComesTo`) only where `Semaphores.Grants` holds.
Unless the suite fails fast, nothing is lost on the way and nothing is done twice: what has been
collected, what has ended and what is still to be run are always, taken together, the runs of all
cases by themselves.  No schedule goes on for ever or gets stuck, so in the end those runs are what
has been collected.
-/
import Mathlib.Logic.Relation
import TableTest.Proofs.Collection

namespace TableTest.Suite

/-- The cases of a suite while it is run, each with its place. -/
structure Pool where
  /-- The cases still to be started, in the order of the suite. -/
  waiting : List (Case × Nat)
  /-- The cases that are running; each holds a permit. -/
  running : List (Case × Nat)
  /-- What has ended and has not been collected. -/
  ended : List Finished
  /-- What has been collected, in this order. -/
  collected : List Finished
  /-- Whether no further case is to be started. -/
  stopped : Bool

namespace Pool

/-- The pool before the first case is started. -/
def ofCases (cases : List Case) : Pool := ⟨cases.zipIdx, [], [], [], false⟩

/-- Whether everything has been collected. -/
def Done (pool : Pool) : Prop := pool.waiting = [] ∧ pool.running = [] ∧ pool.ended = []

section

variable (catalog : Catalog) (site : Site) (runner : RunnerSettings)

/-- What can happen next. -/
inductive Step : Pool → Pool → Prop
  /-- The next case is started with a free permit. -/
  | start {next : Case × Nat} {waiting running : List (Case × Nat)}
      {ended collected : List Finished} : running.length < runner.permits →
      Step ⟨next :: waiting, running, ended, collected, false⟩
        ⟨waiting, running ++ [next], ended, collected, false⟩
  /-- There is a free permit, but no further case is to be started. -/
  | giveUp {next : Case × Nat} {waiting running : List (Case × Nat)}
      {ended collected : List Finished} : running.length < runner.permits →
      Step ⟨next :: waiting, running, ended, collected, true⟩
        ⟨[], running, ended, collected, true⟩
  /-- A case that is running ends; failing fast, one that has aborted stops the pool. -/
  | finish {waiting before after : List (Case × Nat)} {case : Case} {place : Nat}
      {ended collected : List Finished} {stopped : Bool} {run : Finished} :
      run = runAt catalog site place case →
      Step ⟨waiting, before ++ (case, place) :: after, ended, collected, stopped⟩
        ⟨waiting, before ++ after, ended ++ [run], collected,
          stopped || runner.failFast && run.outcome.isAborted⟩
  /-- Once no more are started, any case that has ended is collected. -/
  | collect {running : List (Case × Nat)} {before after collected : List Finished}
      {run : Finished} {stopped : Bool} :
      Step ⟨[], running, before ++ run :: after, collected, stopped⟩
        ⟨[], running, before ++ after, collected ++ [run], stopped⟩

/-- What the cases come to, all taken together: what has been collected, what has ended, and what
the others will come to. -/
def runs (pool : Pool) : List Finished :=
  pool.collected ++ pool.ended ++
    (pool.running ++ pool.waiting).map fun (case, place) => runAt catalog site place case

end

variable {catalog : Catalog} {site : Site} {runner : RunnerSettings} {pool pool' : Pool}

/-! ## Nothing is lost and nothing is done twice -/

theorem Step.stopped (hstep : Step catalog site runner pool pool')
    (hslow : runner.failFast = false) (hgo : pool.stopped = false) : pool'.stopped = false := by
  cases hstep with
  | start _ => rfl
  | giveUp _ => exact hgo
  | finish _ => simpa [hslow] using hgo
  | collect => exact hgo

theorem Step.runs_perm (hstep : Step catalog site runner pool pool')
    (hgo : pool.stopped = false) : (pool'.runs catalog site).Perm (pool.runs catalog site) := by
  cases hstep with
  | start _ => exact .of_eq (by simp [runs])
  | giveUp _ => cases hgo
  | finish hrun =>
      -- the run moves from what is still to come to what has ended
      subst hrun
      simp only [runs, List.append_assoc, List.map_append, List.map_cons, List.cons_append,
        List.nil_append]
      exact (List.perm_middle.symm.append_left _).append_left _
  | collect =>
      simp only [runs, List.append_assoc, List.cons_append, List.nil_append]
      exact List.perm_middle.symm.append_left _

/-- From one pool to another by any number of steps. -/
abbrev Reaches (catalog : Catalog) (site : Site) (runner : RunnerSettings) :
    Pool → Pool → Prop :=
  Relation.ReflTransGen (Step catalog site runner)

theorem runs_ofCases (cases : List Case) :
    (ofCases cases).runs catalog site = runFrom catalog site false 0 cases := by
  rw [runFrom_unhurried]
  rfl

/-- Unless a suite fails fast, the cases of its pool come to the same whatever has happened. -/
theorem Reaches.runs_perm {cases : List Case} (hslow : runner.failFast = false)
    (hreach : Reaches catalog site runner (ofCases cases) pool) :
    pool.stopped = false ∧
      (pool.runs catalog site).Perm (runFrom catalog site false 0 cases) := by
  induction hreach with
  | refl => exact ⟨rfl, .of_eq (runs_ofCases cases)⟩
  | tail _ hstep ih =>
      exact ⟨hstep.stopped hslow ih.1, (hstep.runs_perm ih.1).trans ih.2⟩

theorem Reaches.collected_perm {cases : List Case} (hslow : runner.failFast = false)
    (hreach : Reaches catalog site runner (ofCases cases) pool) (hdone : pool.Done) :
    pool.collected.Perm (runFrom catalog site false 0 cases) := by
  obtain ⟨hwaiting, hrunning, hended⟩ := hdone
  simpa [runs, hwaiting, hrunning, hended] using (hreach.runs_perm hslow).2

/-! ## Nothing but the cases of the suite is run -/

/-- What is to be run, and what has been, are the cases of a suite. -/
structure Drawn (catalog : Catalog) (site : Site) (cases : List Case) (pool : Pool) : Prop where
  waiting : ∀ next ∈ pool.waiting, next.1 ∈ cases
  running : ∀ next ∈ pool.running, next.1 ∈ cases
  ended : ∀ run ∈ pool.ended, ∃ case ∈ cases, ∃ place, run = runAt catalog site place case
  collected : ∀ run ∈ pool.collected, ∃ case ∈ cases, ∃ place, run = runAt catalog site place case

theorem drawn_ofCases (catalog : Catalog) (site : Site) (cases : List Case) :
    (ofCases cases).Drawn catalog site cases where
  waiting := by
    rintro ⟨case, place⟩ hnext
    exact List.mem_of_getElem? (List.mem_zipIdx_iff_getElem?.mp hnext)
  running _ h := absurd h List.not_mem_nil
  ended _ h := absurd h List.not_mem_nil
  collected _ h := absurd h List.not_mem_nil

theorem Drawn.step {cases : List Case} (h : pool.Drawn catalog site cases)
    (hstep : Step catalog site runner pool pool') : pool'.Drawn catalog site cases := by
  obtain ⟨hwaiting, hrunning, hended, hcollected⟩ := h
  cases hstep with
  | start _ =>
      rw [List.forall_mem_cons] at hwaiting
      refine ⟨hwaiting.2, ?_, hended, hcollected⟩
      exact List.forall_mem_append.mpr ⟨hrunning, List.forall_mem_singleton.mpr hwaiting.1⟩
  | giveUp _ => exact ⟨List.forall_mem_nil _, hrunning, hended, hcollected⟩
  | finish hrun =>
      rw [List.forall_mem_append, List.forall_mem_cons] at hrunning
      refine ⟨hwaiting, List.forall_mem_append.mpr ⟨hrunning.1, hrunning.2.2⟩, ?_, hcollected⟩
      refine List.forall_mem_append.mpr ⟨hended, List.forall_mem_singleton.mpr ?_⟩
      exact ⟨_, hrunning.2.1, _, hrun⟩
  | collect =>
      rw [List.forall_mem_append, List.forall_mem_cons] at hended
      refine ⟨hwaiting, hrunning, List.forall_mem_append.mpr ⟨hended.1, hended.2.2⟩, ?_⟩
      exact List.forall_mem_append.mpr ⟨hcollected, List.forall_mem_singleton.mpr hended.2.1⟩

theorem Reaches.drawn {cases : List Case}
    (hreach : Reaches catalog site runner (ofCases cases) pool) :
    pool.Drawn catalog site cases := by
  induction hreach with
  | refl => exact drawn_ofCases catalog site cases
  | tail _ hstep ih => exact ih.step hstep

/-! ## Every schedule comes to its end -/

/-- How much is left to be done: a case is to be started, to end and to be collected. -/
def work (pool : Pool) : Nat :=
  3 * pool.waiting.length + 2 * pool.running.length + pool.ended.length

theorem Step.work_lt (hstep : Step catalog site runner pool pool') : pool'.work < pool.work := by
  cases hstep <;>
    simp only [work, List.length_cons, List.length_append, List.length_nil] <;> omega

theorem exists_step (catalog : Catalog) (site : Site) (runner : RunnerSettings)
    (hleft : ¬ pool.Done) : ∃ next, Step catalog site runner pool next := by
  obtain ⟨waiting, running, ended, collected, stopped⟩ := pool
  cases running with
  | cons first running =>
      exact ⟨_, @Step.finish catalog site runner waiting [] running first.1 first.2 ended
        collected stopped _ rfl⟩
  | nil =>
      -- nothing is running, so every permit is free
      have hfree : ([] : List (Case × Nat)).length < runner.permits := runner.permits_pos
      match waiting, stopped, ended with
      | _ :: _, false, _ => exact ⟨_, .start hfree⟩
      | _ :: _, true, _ => exact ⟨_, .giveUp hfree⟩
      | [], stopped, run :: ended =>
          exact ⟨_, @Step.collect catalog site runner [] [] ended collected run stopped⟩
      | [], _, [] => exact absurd ⟨rfl, rfl, rfl⟩ hleft

/-- Whatever has happened, everything can still be collected. -/
theorem exists_done (catalog : Catalog) (site : Site) (runner : RunnerSettings) (pool : Pool) :
    ∃ last, Reaches catalog site runner pool last ∧ last.Done := by
  -- whichever step is taken, there is less work left after it
  induction hwork : pool.work using Nat.strongRecOn generalizing pool with
  | ind n ih =>
      by_cases hdone : pool.Done
      · exact ⟨pool, .refl, hdone⟩
      · obtain ⟨next, hstep⟩ := exists_step catalog site runner hdone
        obtain ⟨last, hreach, hlast⟩ := ih next.work (hwork ▸ hstep.work_lt) next rfl
        exact ⟨last, .head hstep hreach, hlast⟩

end Pool

end TableTest.Suite
