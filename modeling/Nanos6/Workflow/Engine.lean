import Nanos6.Workflow.Start

namespace Nanos6.ExecutionWorkflow

/-! # The workflows of `ExecutionWorkflow.cpp` and the steps that run them

`executeTask` and `setupTaskwaitWorkflow` are translated; the `Step` and `Workflow` classes they
call are not in the sources and are modelled from the spec: a step counts its pending
predecessors, starts when the count reaches zero, and on completion counts down each successor.
-/

/-- The steps of the workflows that `executeTask` and `setupTaskwaitWorkflow` build: a copy step
per data access, the execution step, the data-release step and the notification step. -/
inductive StepId where
  | copy (index : Nat)
  | execution
  | release
  | notification
deriving DecidableEq, Repr

/-- What a workflow run records: a step starting or completing, a `fetchVector` call, and the
callbacks of the notification steps (`finalised` for `executeTask`'s, which finalises the task,
`releaseTaskwaitFragment` for `setupTaskwaitWorkflow`'s). -/
inductive WorkflowEvent where
  | started (step : StepId)
  | completed (step : StepId)
  | fetched (steps : List StepId)
  | finalised
  | releaseTaskwaitFragment
deriving DecidableEq, Repr

/-- What `createDataCopyStep` returned for an access: a step that completes once started (the
`new Step()` of reduction, commutative and concurrent accesses, or a null copy), or a
`ClusterDataCopyStep`, whose `requiresDataFetch()`, source and fragments are data. -/
inductive CopyStep where
  | plain
  | cluster (requiresDataFetch : Bool) (source : Nat) (numFragments : UInt64)
deriving DecidableEq, Repr

def CopyStep.root (index : Nat) : CopyStep → RootStep StepId
  | .plain => .plain (.copy index)
  | .cluster requiresDataFetch source numFragments =>
      .clusterCopy ⟨.copy index, requiresDataFetch, source, numFragments⟩

/-- Modelled from the spec: a workflow's steps, linked by `enforceOrder`: each step's
successors and its number of predecessors; the root steps; the accesses given to the release
step; and the events of the notification step's callback. -/
structure Workflow where
  successors : StepId → List StepId
  predecessors : StepId → Nat
  rootSteps : List (RootStep StepId)
  releaseAccesses : List Nat
  callback : List WorkflowEvent

namespace Workflow

/-- Modelled from the spec: a new workflow, whose notification step runs `callback`. -/
def empty (callback : List WorkflowEvent) : Workflow :=
  ⟨fun _ => [], fun _ => 0, [], [], callback⟩

/-- Modelled from the spec: `enforceOrder(predecessor, successor)` adds an edge. -/
def enforceOrder (workflow : Workflow) (predecessor successor : StepId) : Workflow :=
  { workflow with
    successors := Function.update workflow.successors predecessor
      (workflow.successors predecessor ++ [successor])
    predecessors := Function.update workflow.predecessors successor
      (workflow.predecessors successor + 1) }

/-- Modelled from the spec: `addRootStep` adds a step that `start()` visits. -/
def addRootStep (workflow : Workflow) (root : RootStep StepId) : Workflow :=
  { workflow with rootSteps := workflow.rootSteps ++ [root] }

/-- Modelled from the spec: `Step::ready()`, no predecessor is pending. -/
def ready (workflow : Workflow) (step : StepId) : Bool :=
  workflow.predecessors step == 0

/-- The loop over the task's data accesses in `executeTask`: a copy step before the execution
step, added as a root, and the access given to the release step. -/
def addCopies (workflow : Workflow) (index : Nat) : List CopyStep → Workflow
  | [] => workflow
  | copy :: rest =>
      let workflow := (workflow.enforceOrder (.copy index) .execution).addRootStep (copy.root index)
      addCopies { workflow with releaseAccesses := workflow.releaseAccesses ++ [index] }
        (index + 1) rest

end Workflow

def copyRoots (index : Nat) : List CopyStep → List (RootStep StepId)
  | [] => []
  | copy :: rest => copy.root index :: copyRoots (index + 1) rest

namespace Workflow

variable (workflow : Workflow) (predecessor successor step : StepId)

@[simp] theorem enforceOrder_successors :
    (workflow.enforceOrder predecessor successor).successors = Function.update workflow.successors
      predecessor (workflow.successors predecessor ++ [successor]) := rfl

@[simp] theorem enforceOrder_predecessors :
    (workflow.enforceOrder predecessor successor).predecessors = Function.update
      workflow.predecessors successor (workflow.predecessors successor + 1) := rfl

@[simp] theorem enforceOrder_rootSteps :
    (workflow.enforceOrder predecessor successor).rootSteps = workflow.rootSteps := rfl

@[simp] theorem enforceOrder_releaseAccesses :
    (workflow.enforceOrder predecessor successor).releaseAccesses = workflow.releaseAccesses := rfl

@[simp] theorem enforceOrder_callback :
    (workflow.enforceOrder predecessor successor).callback = workflow.callback := rfl

theorem addCopies_successors (index : Nat) (copies : List CopyStep) :
    (workflow.addCopies index copies).successors step = workflow.successors step ++
      match step with
      | .copy j => if index ≤ j ∧ j < index + copies.length then [.execution] else []
      | _ => [] := by
  induction copies generalizing workflow index with
  | nil => cases step <;> simp [addCopies]
  | cons copy rest ih =>
      rw [addCopies, ih]
      cases step with
      | copy j =>
          by_cases here : j = index
          · subst here; simp [addRootStep]
          · simp [addRootStep, Function.update_noteq (show StepId.copy j ≠ .copy index by simpa)]
            split_ifs <;> first | rfl | omega
      | _ => simp [addRootStep]

theorem addCopies_predecessors (index : Nat) (copies : List CopyStep) :
    (workflow.addCopies index copies).predecessors step = workflow.predecessors step +
      if step = .execution then copies.length else 0 := by
  induction copies generalizing workflow index with
  | nil => simp [addCopies]
  | cons copy rest ih =>
      rw [addCopies, ih]
      by_cases here : step = .execution
      · subst here; simp [addRootStep]; omega
      · simp [addRootStep, Function.update_noteq here, here]

theorem addCopies_rootSteps (index : Nat) (copies : List CopyStep) :
    (workflow.addCopies index copies).rootSteps = workflow.rootSteps ++ copyRoots index copies := by
  induction copies generalizing workflow index with
  | nil => simp [addCopies, copyRoots]
  | cons copy rest ih => simp [addCopies, ih, addRootStep, copyRoots]

theorem addCopies_releaseAccesses (index : Nat) (copies : List CopyStep) :
    (workflow.addCopies index copies).releaseAccesses =
      workflow.releaseAccesses ++ List.range' index copies.length := by
  induction copies generalizing workflow index with
  | nil => simp [addCopies]
  | cons copy rest ih => simp [addCopies, ih, addRootStep, List.range'_succ]

theorem addCopies_callback (index : Nat) (copies : List CopyStep) :
    (workflow.addCopies index copies).callback = workflow.callback := by
  induction copies generalizing workflow index with
  | nil => rfl
  | cons copy rest ih => simp [addCopies, ih, addRootStep]

end Workflow

/-- The workflow `executeTask` builds for a task whose accesses got the copy steps `copies`. -/
def executeTaskWorkflow (copies : List CopyStep) : Workflow :=
  let workflow := (((Workflow.empty [.finalised]).enforceOrder .execution .release).enforceOrder
    .release .notification).addCopies 0 copies
  if workflow.ready .execution then
    (workflow.enforceOrder .execution .notification).addRootStep (.plain .execution)
  else workflow

section Shape

variable {copies : List CopyStep}

theorem executeTaskWorkflow_of_ne_nil (nonempty : copies ≠ []) :
    executeTaskWorkflow copies = (((Workflow.empty [.finalised]).enforceOrder .execution
      .release).enforceOrder .release .notification).addCopies 0 copies := by
  simp [executeTaskWorkflow, Workflow.ready, Workflow.addCopies_predecessors, Workflow.empty,
    nonempty]

theorem executeTaskWorkflow_releaseAccesses (copies : List CopyStep) :
    (executeTaskWorkflow copies).releaseAccesses = List.range copies.length := by
  simp only [executeTaskWorkflow]
  split <;> simp [Workflow.addCopies_releaseAccesses, Workflow.addRootStep, Workflow.empty,
    List.range_eq_range']

variable (nonempty : copies ≠ [])
include nonempty

theorem executeTaskWorkflow_copy_successors {j : Nat} (valid : j < copies.length) :
    (executeTaskWorkflow copies).successors (.copy j) = [.execution] := by
  simp [executeTaskWorkflow_of_ne_nil nonempty, Workflow.addCopies_successors, Workflow.empty,
    valid]

theorem executeTaskWorkflow_successors :
    (executeTaskWorkflow copies).successors .execution = [.release] ∧
      (executeTaskWorkflow copies).successors .release = [.notification] ∧
      (executeTaskWorkflow copies).successors .notification = [] := by
  simp [executeTaskWorkflow_of_ne_nil nonempty, Workflow.addCopies_successors, Workflow.empty,
    Function.update_apply]

theorem executeTaskWorkflow_predecessors :
    (executeTaskWorkflow copies).predecessors .execution = copies.length ∧
      (executeTaskWorkflow copies).predecessors .release = 1 ∧
      (executeTaskWorkflow copies).predecessors .notification = 1 := by
  simp [executeTaskWorkflow_of_ne_nil nonempty, Workflow.addCopies_predecessors, Workflow.empty,
    Function.update_apply]

theorem executeTaskWorkflow_rootSteps :
    (executeTaskWorkflow copies).rootSteps = copyRoots 0 copies := by
  simp [executeTaskWorkflow_of_ne_nil nonempty, Workflow.addCopies_rootSteps, Workflow.empty]

theorem executeTaskWorkflow_callback : (executeTaskWorkflow copies).callback = [.finalised] := by
  simp [executeTaskWorkflow_of_ne_nil nonempty, Workflow.addCopies_callback, Workflow.empty]

end Shape

/-- The mini-workflow `setupTaskwaitWorkflow` builds for a fragment with an output location: the
copy step, a root, before the notification step, which releases the fragment. -/
def taskwaitWorkflow (copy : CopyStep) : Workflow :=
  ((Workflow.empty [.releaseTaskwaitFragment]).addRootStep (copy.root 0)).enforceOrder (.copy 0)
    .notification

/-- Modelled from the spec: the predecessors each step still waits for, and the log. -/
structure Run where
  pending : StepId → Nat
  log : List WorkflowEvent

namespace Run

/-- Modelled from the spec: a step runs its action. -/
def begin (run : Run) (workflow : Workflow) (step : StepId) : Run :=
  { run with log := run.log ++ .started step ::
      if step = .notification then workflow.callback else [] }

/-- Modelled from the spec: a step completes and releases its successors, and a successor whose
last predecessor completed starts. `fuel` bounds how many steps such a release starts in a row. -/
def complete (workflow : Workflow) : Nat → StepId → Run → Run
  | 0, _, run => run
  | fuel + 1, step, run =>
      (workflow.successors step).foldl (fun run next =>
          let run : Run :=
            { run with pending := Function.update run.pending next (run.pending next - 1) }
          if run.pending next = 0 then complete workflow fuel next (run.begin workflow next)
          else run)
        { run with log := run.log ++ [.completed step] }

/-- A copy, the execution, the release and the notification: the longest chain of steps one
release starts. -/
def chainFuel : Nat := 4

/-- Modelled from the spec and from the comment in `WorkflowBase::start`: what each call of
`start()` does. A started step completes; a cluster copy that needs no fetch releases its
successors inside `requiresDataFetch()`; `fetchVector` starts the transfers. -/
def perform (workflow : Workflow) (run : Run) : StartCall StepId → Run
  | .start step => (run.begin workflow step).complete workflow chainFuel step
  | .requiresDataFetch copy =>
      if copy.requiresDataFetch then run else run.complete workflow chainFuel copy.step
  | .fetchVector _ steps _ => { run with log := run.log ++ [.fetched (steps.map (·.step))] }

end Run

/-- `workflow->start()`, then the transfers of the copies `completions` finish, in that order. -/
def Workflow.run (workflow : Workflow) (completions : List Nat) : Run :=
  completions.foldl (fun run index => run.complete workflow Run.chainFuel (.copy index))
    ((WorkflowBase.start workflow.rootSteps).foldl (Run.perform workflow)
      ⟨workflow.predecessors, []⟩)

/-- `setupTaskwaitWorkflow`: with no output location the fragment is released at once; otherwise
the mini-workflow runs, and the transfers of `completions` finish. -/
def setupTaskwaitWorkflow (targetLocation : Option Nat) (copy : CopyStep)
    (completions : List Nat) : List WorkflowEvent :=
  match targetLocation with
  | none => [.releaseTaskwaitFragment]
  | some _ => ((taskwaitWorkflow copy).run completions).log

end Nanos6.ExecutionWorkflow
