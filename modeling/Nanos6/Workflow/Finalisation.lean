import Nanos6.Workflow.Ordering

namespace Nanos6.ExecutionWorkflow

/-! # The two paths by which `executeTask` finalises a task

The notification step's callback and the delayed-release branch of `executeTask` both run the
unregistration whose finaliser disposes the task. `Task` is not in the sources: its flags and
`markAs*` methods are modelled from the spec, and the workflow is abstracted to its execution
step, which runs once and clears its pointer.
-/

/-- What the finalisation paths do to a task, in order. -/
inductive TaskEvent where
  | built
  | executed
  | finished (result : Bool)
  | delayedRelease
  | unregistered
  | taskFinished
  | markedReleased (result : Bool)
  | disposed
deriving DecidableEq, Repr

/-- Modelled from the spec: what `executeTask` reads and changes of a task, with whether its
workflow's notification step is due, and the log of what happened. -/
structure TaskState where
  workflow : Bool
  executionStep : Bool
  notificationDue : Bool
  mustDelayRelease : Bool
  children : Nat
  blocked : Bool
  finished : Bool
  released : Bool
  log : List TaskEvent
deriving DecidableEq, Repr

namespace TaskState

def initial (mustDelayRelease : Bool) (children : Nat) : TaskState :=
  ⟨false, false, false, mustDelayRelease, children, false, false, false, []⟩

def record (task : TaskState) (event : TaskEvent) : TaskState :=
  { task with log := task.log ++ [event] }

/-- Modelled from the spec: `markAsFinished` marks the task finished and returns false when the
release must wait for the children of a task with a wait clause, which then blocks. -/
def markAsFinished (task : TaskState) : Bool × TaskState :=
  let task := { task with finished := true }
  if task.mustDelayRelease ∧ 0 < task.children then (false, { task with blocked := true })
  else (true, task)

/-- Modelled from the spec: `markAsReleased` returns true the first time only. -/
def markAsReleased (task : TaskState) : Bool × TaskState :=
  (!task.released, { task with released := true })

/-- The finaliser both paths pass to `unregisterTaskDataAccesses`. -/
def finalise (task : TaskState) : TaskState :=
  let task := task.record .taskFinished
  let (ret, task) := task.markAsReleased
  let task := task.record (.markedReleased ret)
  if ret then task.record .disposed else task

/-- Modelled from the spec: `unregisterTaskDataAccesses` runs the finaliser before it propagates
anything. -/
def unregisterTaskDataAccesses (task : TaskState) : TaskState :=
  (task.record .unregistered).finalise

def notificationCallback (task : TaskState) : TaskState :=
  let (finished, task) := task.markAsFinished
  let task := task.record (.finished finished)
  if finished then task.unregisterTaskDataAccesses else task

/-- Modelled from the spec: the execution step runs the body and clears its pointer; the release
and notification steps follow. -/
def runExecutionStep (task : TaskState) : TaskState :=
  { task.record .executed with executionStep := false, notificationDue := true }

/-- Modelled from the spec's Task record: the step `createExecutionStep` builds becomes the task's
current execution step, which `runExecutionStep` clears. -/
def createExecutionStep (task : TaskState) : TaskState :=
  { task with executionStep := true }

/-- `executeTask`: with a workflow, the delayed release when the execution step is null and
otherwise the execution step; without one, the workflow is built and set. `none` where
`assert(task->mustDelayRelease())` or `assert(task->hasFinished())` fails. -/
def executeTask (task : TaskState) : Option TaskState :=
  if task.workflow then
    if !task.executionStep then
      if !task.mustDelayRelease then none
      else
        -- completeDelayedRelease, markAsUnblocked and handleExitTaskwait
        let task := { task with blocked := false }.record .delayedRelease
        if !task.finished then none else some task.unregisterTaskDataAccesses
    else some task.runExecutionStep
  else some { (task.record .built).createExecutionStep with workflow := true }

section Callbacks

variable (task : TaskState)

theorem unregisterTaskDataAccesses_of_unreleased (fresh : task.released = false) :
    task.unregisterTaskDataAccesses = { task with released := true, log := task.log ++
      [.unregistered, .taskFinished, .markedReleased true, .disposed] } := by
  simp [unregisterTaskDataAccesses, finalise, markAsReleased, record, fresh]

theorem notificationCallback_of_waiting (waits : task.mustDelayRelease ∧ 0 < task.children) :
    task.notificationCallback =
      { task with blocked := true, finished := true, log := task.log ++ [.finished false] } := by
  simp [notificationCallback, markAsFinished, waits, record]

theorem notificationCallback_of_unreleased (free : ¬ (task.mustDelayRelease ∧ 0 < task.children))
    (fresh : task.released = false) :
    task.notificationCallback = { task with finished := true, released := true, log := task.log ++
      [.finished true, .unregistered, .taskFinished, .markedReleased true, .disposed] } := by
  simp [notificationCallback, markAsFinished, if_neg free, unregisterTaskDataAccesses, finalise,
    markAsReleased, record, fresh]

end Callbacks

end TaskState

/-- What happens to a task: a call of `executeTask`, its workflow starting the execution step,
the notification step running, and a child completing. -/
inductive TaskAction where
  | executeTask
  | executionStarts
  | notification
  | childCompletes
deriving DecidableEq, Repr

namespace TaskState

/-- One action, if it is enabled; `caller` says when `executeTask` may be called. -/
def step (caller : TaskState → Bool) (task : TaskState) : TaskAction → Option TaskState
  | .executeTask => if caller task then task.executeTask else none
  | .executionStarts => if task.executionStep then some task.runExecutionStep else none
  | .notification =>
      if task.notificationDue then some { task.notificationCallback with notificationDue := false }
      else none
  | .childCompletes =>
      if 0 < task.children then some { task with children := task.children - 1 } else none

def run (caller : TaskState → Bool) (task : TaskState) : List TaskAction → Option TaskState
  | [] => some task
  | action :: rest => (task.step caller action).bind fun task => task.run caller rest

/-- Modelled from the spec: the calls the runtime makes: the first, which builds the workflow,
calls while the execution step is pending, and the wake-up of a blocked task. -/
def runtimeCall (task : TaskState) : Bool :=
  !task.workflow || task.executionStep || task.blocked

end TaskState

section Finalised

variable {α : Type} {front before after : List α} {last : α}

end Finalised

/-- The abstract lifecycle of a task's finalisation: built, executed, then either finished and
released by the notification step, or blocked waiting for its children and resumed. -/
inductive Lifecycle where
  | created
  | built
  | executed
  | released
  | waiting
  | resumed
deriving DecidableEq, Repr

namespace Lifecycle

def log : Lifecycle → List TaskEvent
  | created => []
  | built => [.built]
  | executed => [.built, .executed]
  | released => [.built, .executed, .finished true, .unregistered, .taskFinished,
      .markedReleased true, .disposed]
  | waiting => [.built, .executed, .finished false]
  | resumed => [.built, .executed, .finished false, .delayedRelease, .unregistered, .taskFinished,
      .markedReleased true, .disposed]

/-- The task's workflow and execution-step pointers, whether the notification is due, and its
blocked, finished and released flags, in each phase. -/
def flags : Lifecycle → Bool × Bool × Bool × Bool × Bool × Bool
  | created => (false, false, false, false, false, false)
  | built => (true, true, false, false, false, false)
  | executed => (true, false, true, false, false, false)
  | released => (true, false, false, false, true, true)
  | waiting => (true, false, false, true, true, false)
  | resumed => (true, false, false, false, true, true)

inductive Next : Lifecycle → Lifecycle → Prop
  | build : Next created built
  | execute : Next built executed
  | finish : Next executed released
  | block : Next executed waiting
  | resume : Next waiting resumed

end Lifecycle

namespace TaskState

/-- The task is in `phase`: its log and flags are the phase's, and a waiting task has a wait
clause. -/
def Phase (task : TaskState) (phase : Lifecycle) : Prop :=
  task.log = phase.log ∧
    (task.workflow, task.executionStep, task.notificationDue, task.blocked, task.finished,
      task.released) = phase.flags ∧
    (phase = .waiting → task.mustDelayRelease = true)

/-- One action of the runtime keeps the phase or takes one abstract transition. -/
theorem step_refines {task next : TaskState} {phase : Lifecycle} {action : TaskAction}
    (holds : task.Phase phase) (stepped : task.step runtimeCall action = some next) :
    next.Phase phase ∨ ∃ phase', phase.Next phase' ∧ next.Phase phase' := by
  obtain ⟨logged, flagged, delays⟩ := holds
  cases phase <;> simp only [Lifecycle.flags, Prod.mk.injEq] at flagged <;>
    obtain ⟨workflow, executionStep, due, blocked, finished, released⟩ := flagged <;>
    cases action <;>
    simp [step, runtimeCall, executeTask, runExecutionStep, record, workflow, executionStep, due,
      blocked, finished, released, delays] at stepped
  case notification =>
    by_cases waits : task.mustDelayRelease ∧ 0 < task.children
    · rw [notificationCallback_of_waiting task waits] at stepped
      subst stepped
      exact .inr ⟨.waiting, .block, by simp [Phase, logged, Lifecycle.log, Lifecycle.flags,
        workflow, executionStep, released, waits.1]⟩
    · rw [notificationCallback_of_unreleased task waits released] at stepped
      subst stepped
      exact .inr ⟨.released, .finish, by simp [Phase, logged, Lifecycle.log, Lifecycle.flags,
        workflow, executionStep, blocked]⟩
  all_goals first | subst stepped | obtain ⟨-, rfl⟩ := stepped
  all_goals first
    | exact .inl ⟨logged, by simp [Lifecycle.flags, *], by simp [*]⟩
    | exact .inr ⟨_, .build, by simp [Phase, createExecutionStep, record, logged, Lifecycle.log,
        Lifecycle.flags, *]⟩
    | exact .inr ⟨_, .execute, by simp [Phase, record, logged, Lifecycle.log, Lifecycle.flags,
        *]⟩
    | exact .inr ⟨_, .resume, by simp [Phase, record, logged, Lifecycle.log, Lifecycle.flags,
        unregisterTaskDataAccesses_of_unreleased, workflow, executionStep, due, blocked,
        finished, released]⟩

theorem initial_phase (mustDelayRelease : Bool) (children : Nat) :
    (initial mustDelayRelease children).Phase .created := ⟨rfl, rfl, nofun⟩

theorem run_cons (caller : TaskState → Bool) (task : TaskState) (action : TaskAction)
    (rest : List TaskAction) :
    task.run caller (action :: rest) =
      (task.step caller action).bind fun next => next.run caller rest :=
  rfl

/-- Every run of the runtime's calls refines the lifecycle: it ends in a phase that the abstract
transitions reach from the phase it started in. -/
theorem run_refines : ∀ (actions : List TaskAction) {task final : TaskState} {phase : Lifecycle},
    task.Phase phase → task.run runtimeCall actions = some final →
    ∃ phase', Relation.ReflTransGen Lifecycle.Next phase phase' ∧ final.Phase phase'
  | [], task, final, phase, holds, ran => by
      obtain rfl : task = final := Option.some.inj ran
      exact ⟨phase, .refl, holds⟩
  | action :: rest, task, final, phase, holds, ran => by
      rw [run_cons] at ran
      obtain ⟨next, stepped, continued⟩ := Option.bind_eq_some.mp ran
      rcases step_refines holds stepped with same | ⟨phase', moved, entered⟩
      · exact run_refines rest same continued
      · obtain ⟨final', reached, ended⟩ := run_refines rest entered continued
        exact ⟨final', .head moved reached, ended⟩


theorem run_append (caller : TaskState → Bool) (first second : List TaskAction) :
    ∀ task : TaskState, task.run caller (first ++ second) =
      (task.run caller first).bind fun next => next.run caller second := by
  induction first with
  | nil => intro task; rfl
  | cons action rest ih =>
      intro task
      simp only [List.cons_append, run_cons, ih, Option.bind_assoc]

theorem run_children (caller : TaskState → Bool) : ∀ (count : Nat) (task : TaskState),
    task.children = count →
    task.run caller (List.replicate count .childCompletes) = some { task with children := 0 }
  | 0, task, drained => by simp [run, ← drained]
  | count + 1, task, more => by
      rw [List.replicate_succ, run_cons]
      simp only [step, more, Nat.zero_lt_succ, if_true, Nat.add_sub_cancel, Option.bind_some]
      exact run_children caller count _ rfl

section Progress

variable {task : TaskState}

theorem resumes (holds : task.Phase .waiting) :
    ∃ final, task.run runtimeCall
        (List.replicate task.children .childCompletes ++ [.executeTask]) =
      some final ∧ final.Phase .resumed := by
  obtain ⟨logged, flagged, delays⟩ := holds
  simp only [Lifecycle.flags, Prod.mk.injEq] at flagged
  obtain ⟨workflow, executionStep, due, blocked, finished, released⟩ := flagged
  rw [run_append, run_children runtimeCall _ task rfl]
  simp [run, step, runtimeCall, executeTask, workflow, executionStep, blocked, finished, delays rfl,
    Phase, record, unregisterTaskDataAccesses_of_unreleased, released, logged, Lifecycle.log,
    Lifecycle.flags, due]

theorem notifies (holds : task.Phase .executed) :
    ∃ final, task.run runtimeCall [.notification] = some final ∧
      (final.Phase .released ∨ final.Phase .waiting) := by
  obtain ⟨logged, flagged, -⟩ := holds
  simp only [Lifecycle.flags, Prod.mk.injEq] at flagged
  obtain ⟨workflow, executionStep, due, blocked, -, released⟩ := flagged
  by_cases waits : task.mustDelayRelease ∧ 0 < task.children
  · simp [run, step, due, notificationCallback_of_waiting task waits, Phase, logged, Lifecycle.log,
      Lifecycle.flags, workflow, executionStep, released, waits.1]
  · simp [run, step, due, notificationCallback_of_unreleased task waits released, Phase, logged,
      Lifecycle.log, Lifecycle.flags, workflow, executionStep, blocked]

theorem executes (holds : task.Phase .built) : task.runExecutionStep.Phase .executed := by
  obtain ⟨logged, flagged, -⟩ := holds
  simp only [Lifecycle.flags, Prod.mk.injEq] at flagged
  obtain ⟨workflow, -, -, blocked, finished, released⟩ := flagged
  simp [Phase, runExecutionStep, record, logged, Lifecycle.log, Lifecycle.flags, workflow, blocked,
    finished, released]

theorem builds (holds : task.Phase .created) :
    ∃ built, task.executeTask = some built ∧ built.Phase .built := by
  obtain ⟨logged, flagged, -⟩ := holds
  simp only [Lifecycle.flags, Prod.mk.injEq] at flagged
  obtain ⟨workflow, -, due, blocked, finished, released⟩ := flagged
  simp [Phase, executeTask, createExecutionStep, record, logged, Lifecycle.log, Lifecycle.flags,
    workflow, due, blocked, finished, released]

/-- From every phase, the runtime can drive the task to one of the two released phases: the
workflow runs, the notification step runs, and a waiting task's children complete before it is
woken. -/
theorem finishes {task : TaskState} {phase : Lifecycle} (holds : task.Phase phase) :
    ∃ more final, task.run runtimeCall more = some final ∧
      (final.Phase .released ∨ final.Phase .resumed) := by
  have ofWaiting : ∀ {task : TaskState}, task.Phase .waiting → ∃ more final,
      task.run runtimeCall more = some final ∧ (final.Phase .released ∨ final.Phase .resumed) :=
    fun holds => by
      obtain ⟨final, ran, ended⟩ := resumes holds
      exact ⟨_, final, ran, .inr ended⟩
  have ofExecuted : ∀ {task : TaskState}, task.Phase .executed → ∃ more final,
      task.run runtimeCall more = some final ∧ (final.Phase .released ∨ final.Phase .resumed) :=
    fun holds => by
      obtain ⟨next, ran, released | waiting⟩ := notifies holds
      · exact ⟨_, next, ran, .inl released⟩
      · obtain ⟨more, final, continued, ended⟩ := ofWaiting waiting
        refine ⟨[.notification] ++ more, final, ?_, ended⟩
        rw [run_append, ran]
        exact continued
  have ofBuilt : ∀ {task : TaskState}, task.Phase .built → ∃ more final,
      task.run runtimeCall more = some final ∧ (final.Phase .released ∨ final.Phase .resumed) :=
    fun {task} holds => by
      have started : task.executionStep = true := (Prod.mk.inj (Prod.mk.inj holds.2.1).2).1
      obtain ⟨more, final, continued, ended⟩ := ofExecuted (executes holds)
      exact ⟨.executionStarts :: more, final, by simpa [run, step, started] using continued,
        ended⟩
  cases phase with
  | released => exact ⟨[], _, rfl, .inl holds⟩
  | resumed => exact ⟨[], _, rfl, .inr holds⟩
  | waiting => exact ofWaiting holds
  | executed => exact ofExecuted holds
  | built => exact ofBuilt holds
  | created =>
      have unbuilt : task.workflow = false := (Prod.mk.inj holds.2.1).1
      obtain ⟨built, called, entered⟩ := builds holds
      obtain ⟨more, final, continued, ended⟩ := ofBuilt entered
      exact ⟨.executeTask :: more, final,
        by simpa [run, step, runtimeCall, unbuilt, called] using continued, ended⟩

end Progress

end TaskState

/-- Under the runtime's calls, every task can still be disposed: from any state a run reaches,
the workflow, the children and the wake-up can take it to a state where `disposeTask` ran once. -/
theorem runtime_disposes_once (mustDelayRelease : Bool) (children : Nat)
    (actions : List TaskAction) (task : TaskState)
    (ran : (TaskState.initial mustDelayRelease children).run TaskState.runtimeCall actions =
      some task) :
    ∃ more final, task.run TaskState.runtimeCall more = some final ∧
      final.log.count .disposed = 1 := by
  obtain ⟨phase, -, holds⟩ := TaskState.run_refines actions (TaskState.initial_phase _ _) ran
  obtain ⟨more, final, continued, ended⟩ := TaskState.finishes holds
  refine ⟨more, final, continued, ?_⟩
  rcases ended with ⟨logged, -⟩ | ⟨logged, -⟩ <;> rw [logged] <;> decide

/-- A task with a wait clause whose notification step found both its children running. -/
theorem blocked_task_disposed_once :
    ∃ task, (TaskState.initial true 2).run TaskState.runtimeCall
        [.executeTask, .executionStarts, .notification] = some task ∧
      ∃ more final, task.run TaskState.runtimeCall more = some final ∧
        final.log.count .disposed = 1 :=
  ⟨_, rfl, runtime_disposes_once true 2 [.executeTask, .executionStarts, .notification] _ rfl⟩

end Nanos6.ExecutionWorkflow
