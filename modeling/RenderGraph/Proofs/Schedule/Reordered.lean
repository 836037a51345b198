import RenderGraph.Schedule.Run
import RenderGraph.Proofs.Schedule.Counters

/-!
# Scheduling does not depend on the order of connections

The scheduler looks connections up, asks whether there is one, and counts them.
When no port is fed twice, none of these depends on the order of the list, so the
whole run is the same for every order.
-/

namespace RenderGraph.Schedule

variable {φ : Type} [DecidableEq φ] {problem : Problem φ} {connections : List (Connection Anchor)}

section Questions

variable (hp : problem.connections.Perm connections)
include hp

omit [DecidableEq φ] in
/-- A node has the same consumers, in some order. -/
theorem consumers_perm (node : Anchor) :
    (problem.consumers node).Perm (({ problem with connections } : Problem φ).consumers node) :=
  (hp.filter _).map _

omit [DecidableEq φ] in
/-- What a node provides is taken off the same counts. -/
theorem foldl_supply_reordered (node : Anchor) (missing : List (Option Nat)) :
    (({ problem with connections } : Problem φ).consumers node).foldl supply missing =
      (problem.consumers node).foldl supply missing := by
  refine List.ext_getElem? fun i => ?_
  rw [getElem?_foldl_supply, getElem?_foldl_supply, (consumers_perm hp node).count_eq]

omit [DecidableEq φ] in
/-- The same outputs are read. -/
theorem checkOutputs_reordered (index : Nat) (task : Task φ) :
    checkOutputs ({ problem with connections } : Problem φ) index task =
      checkOutputs problem index task := by
  simp only [checkOutputs, hp.any_eq]

end Questions

variable (fedOnce : FedOnce problem.connections) (hp : problem.connections.Perm connections)
include fedOnce hp

omit [DecidableEq φ] in
/-- An input of a filter finds its texture in the same place. -/
theorem inputBinding_reordered (assignments : List (Option Nat)) (index : Nat) (path : String) :
    inputBinding ({ problem with connections } : Problem φ) assignments index path =
      inputBinding problem assignments index path := by
  funext port
  simp only [inputBinding, fedOnce.sourceOf?_perm hp, Problem.pathOf]

omit [DecidableEq φ] in
/-- So does an output of the pipeline. -/
theorem outputBinding_reordered (assignments : List (Option Nat)) (port : Nat) (name : String) :
    outputBinding ({ problem with connections } : Problem φ) assignments port name =
      outputBinding problem assignments port name := by
  simp only [outputBinding, fedOnce.sourceOf?_perm hp]

/-- A candidate is scheduled in the same way. -/
theorem State.schedule_reordered (state : State φ) (index : Nat) (task : Task φ) :
    state.schedule ({ problem with connections } : Problem φ) index task =
      state.schedule problem index task := by
  simp only [State.schedule, checkOutputs_reordered hp, inputBinding_reordered fedOnce hp,
    (consumers_perm hp (.member index)).length_eq, foldl_supply_reordered hp]

/-- The same candidate is chosen, and scheduled in the same way. -/
theorem step_reordered (state : State φ) :
    step ({ problem with connections } : Problem φ) state = step problem state := by
  have hpath : ({ problem with connections } : Problem φ).pathOf = problem.pathOf := rfl
  simp only [step, choose?, candidateTasks, State.schedule_reordered fedOnce hp, hpath]

/-- So it goes on, step by step. -/
theorem steps_reordered (n : Nat) (state : State φ) :
    steps ({ problem with connections } : Problem φ) n state = steps problem n state := by
  induction n generalizing state with
  | zero => rfl
  | succ n ih =>
    rw [steps, steps, step_reordered fedOnce hp]
    cases step problem state with
    | ok next => exact ih next
    | error e => rfl

/-- The schedule of a graph does not depend on the order of its connections, and neither does what
is reported meanwhile. -/
theorem solve_reordered (outputs : Ports) :
    ({ problem with connections } : Problem φ).solve outputs = problem.solve outputs := by
  have hstart : start ({ problem with connections } : Problem φ) = start problem := by
    simp only [start, foldl_supply_reordered hp]
  have hfinish : ∀ state : State φ,
      state.finish ({ problem with connections } : Problem φ) outputs =
        state.finish problem outputs := by
    intro state
    have hassigned : assignmentOf ({ problem with connections } : Problem φ) =
        assignmentOf problem := rfl
    simp only [State.finish, outputBinding_reordered fedOnce hp, hassigned]
  simp only [Problem.solve, hstart, steps_reordered fedOnce hp, hfinish]

end RenderGraph.Schedule
