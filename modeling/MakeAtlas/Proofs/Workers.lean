import Mathlib.Logic.Relation

/-!
# Tasks shared out among workers

Tasks wait in a queue. A worker that is free takes the first one that waits; workers finish in any
order, and each result is kept in the place of its task. Whatever the order, the results are those
of the tasks one by one, and no order of steps gets stuck or goes on for ever.

## Key results

- `Step.map_outcome`: a step changes nothing about what the tasks come to
- `results_of_reaches`: the results at the end are those of the tasks, in their order
- `exists_step`: there is a next step as long as there is work left
- `Step.work_eq`: every step leaves less to do
- `exists_reaches_isDone`: every run can be brought to its end
-/

namespace MakeAtlas.Workers

variable {τ ρ : Type}

/-- The place of a task: what is to do in it, or what has come of it. -/
inductive Place (τ ρ : Type) where
  | waiting (task : τ)
  | running (task : τ)
  | finished (result : ρ)

namespace Place

def isWaiting : Place τ ρ → Bool
  | waiting _ => true
  | _ => false

def isRunning : Place τ ρ → Bool
  | running _ => true
  | _ => false

def result? : Place τ ρ → Option ρ
  | finished result => some result
  | _ => none

/-- What the task of a place comes to. -/
def outcome (run : τ → ρ) : Place τ ρ → ρ
  | waiting task => run task
  | running task => run task
  | finished result => result

/-- The steps that a task still takes. -/
def work : Place τ ρ → Nat
  | waiting _ => 2
  | running _ => 1
  | finished _ => 0

end Place

/-- One step of some workers. -/
inductive Step (workers : Nat) (run : τ → ρ) : List (Place τ ρ) → List (Place τ ρ) → Prop where
  /-- A free worker takes the first task that waits. -/
  | begin {before after : List (Place τ ρ)} {task : τ}
      (first : ∀ p ∈ before, p.isWaiting = false)
      (free : (before ++ .waiting task :: after).countP Place.isRunning < workers) :
      Step workers run (before ++ .waiting task :: after) (before ++ .running task :: after)
  /-- A worker finishes its task. -/
  | finish {before after : List (Place τ ρ)} {task : τ} :
      Step workers run (before ++ .running task :: after)
        (before ++ .finished (run task) :: after)

/-- All tasks wait. -/
def start (tasks : List τ) : List (Place τ ρ) :=
  tasks.map .waiting

/-- The results there are, in the order of the tasks. -/
def results (places : List (Place τ ρ)) : List ρ :=
  places.filterMap Place.result?

/-- No task waits or runs. -/
def IsDone (places : List (Place τ ρ)) : Prop :=
  ∀ p ∈ places, p.work = 0

/-- What is left to do. -/
def work : List (Place τ ρ) → Nat
  | [] => 0
  | p :: places => p.work + work places

variable {workers : Nat} {run : τ → ρ} {places places' : List (Place τ ρ)}

/-- What some workers can bring about. -/
abbrev Reaches (workers : Nat) (run : τ → ρ) : List (Place τ ρ) → List (Place τ ρ) → Prop :=
  Relation.ReflTransGen (Step workers run)

/-! ## What the tasks come to -/

/-- A step changes nothing about what the tasks come to. -/
theorem Step.map_outcome (h : Step workers run places places') :
    places'.map (Place.outcome run) = places.map (Place.outcome run) := by
  cases h with
  | begin first free => simp [Place.outcome]
  | finish => simp [Place.outcome]

/-- No run changes what the tasks come to. -/
theorem map_outcome_of_reaches (h : Reaches workers run places places') :
    places'.map (Place.outcome run) = places.map (Place.outcome run) := by
  induction h with
  | refl => rfl
  | tail _ hstep ih => rw [hstep.map_outcome, ih]

theorem results_of_isDone (run : τ → ρ) (h : IsDone places) :
    results places = places.map (Place.outcome run) := by
  induction places with
  | nil => rfl
  | cons p places ih =>
    rw [IsDone, List.forall_mem_cons] at h
    cases p with
    | waiting task => cases h.1
    | running task => cases h.1
    | finished result =>
      exact congrArg (result :: ·) (ih h.2)

/-- In whatever order the tasks were finished, their results are in the order of the tasks. -/
theorem results_of_reaches {tasks : List τ} (h : Reaches workers run (start tasks) places)
    (done : IsDone places) : results places = tasks.map run := by
  rw [results_of_isDone run done, map_outcome_of_reaches h, start, List.map_map]
  rfl

/-! ## Coming to an end -/

theorem work_append (first second : List (Place τ ρ)) :
    work (first ++ second) = work first + work second := by
  induction first with
  | nil => exact (Nat.zero_add _).symm
  | cons p first ih => rw [List.cons_append, work, work, ih, Nat.add_assoc]

/-- A step leaves less to do. -/
theorem Step.work_eq (h : Step workers run places places') : work places' + 1 = work places := by
  cases h with
  | begin first free => simp only [work_append, work, Place.work]; omega
  | finish => simp only [work_append, work, Place.work]; omega

/-- Where something is left to do, a task that waits can be begun or one that runs be finished. -/
theorem exists_step (hworkers : 0 < workers) (run : τ → ρ) (h : ¬ IsDone places) :
    ∃ places', Step workers run places places' := by
  by_cases hrunning : ∃ task, Place.running task ∈ places
  · obtain ⟨task, htask⟩ := hrunning
    obtain ⟨before, after, rfl⟩ := List.append_of_mem htask
    exact ⟨_, .finish⟩
  · have hnone : places.countP Place.isRunning = 0 := by
      rw [List.countP_eq_zero]
      rintro (task | task | result) hp hrun
      · cases hrun
      · exact hrunning ⟨task, hp⟩
      · cases hrun
    cases hfind : places.find? Place.isWaiting with
    | none =>
      rw [List.find?_eq_none] at hfind
      refine absurd (fun p hp => ?_) h
      cases p with
      | waiting task => exact absurd rfl (hfind _ hp)
      | running task => exact absurd ⟨task, hp⟩ hrunning
      | finished result => rfl
    | some p =>
      obtain ⟨hp, before, after, rfl, hfirst⟩ := List.find?_eq_some_iff_append.1 hfind
      cases p with
      | waiting task =>
        refine ⟨_, .begin (fun p hp => by simpa using hfirst p hp) ?_⟩
        rwa [hnone]
      | running task => cases hp
      | finished result => cases hp

/-- Every run can be brought to its end. -/
theorem exists_reaches_isDone (hworkers : 0 < workers) (run : τ → ρ) (places : List (Place τ ρ)) :
    ∃ last, Reaches workers run places last ∧ IsDone last := by
  by_cases hdone : IsDone places
  · exact ⟨places, .refl, hdone⟩
  · obtain ⟨places', hstep⟩ := exists_step hworkers run hdone
    have hless := hstep.work_eq
    obtain ⟨last, hreaches, hlast⟩ := exists_reaches_isDone hworkers run places'
    exact ⟨last, .head hstep hreaches, hlast⟩
termination_by work places

end MakeAtlas.Workers
