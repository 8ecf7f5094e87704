import Nanos6.Scheduling.Queue

namespace Nanos6.Scheduling

/-! # `LeafScheduler`, one statement at a time

Every operation of `LeafScheduler.hpp` is cut into the statements another thread can interleave
with: each `_globalLock` section is one step, and so is each other access to shared state and
each call out to the parent, `ThreadManager` or `CPUManager`. The rebalance test
`_queue->getSize() > (_queueThreshold * 1.5)` is modelled exactly, as `2 * size > 3 * threshold`.
-/

/-- The fields of `LeafScheduler` that its operations read or write. `_parent`,
`_computePlace` and `_globalLock` are fixed identities and are not state here. -/
structure LeafScheduler where
  pollingIterations : UInt64
  queueThreshold : Nat
  rebalance : Bool
  pollingSlot : PollingSlot
  queue : TaskQueue
  idle : Bool
deriving DecidableEq, Repr

/-- The constructor: `_pollingIterations` comes from `NANOS6_SCHEDULER_POLLING_ITER`
(default 100000), the queue from `TreeSchedulerQueueInterface::initialize()`. -/
def LeafScheduler.init (pollingIterations : UInt64) (policy : SchedulingPolicy) :
    LeafScheduler where
  pollingIterations := pollingIterations
  queueThreshold := 0
  rebalance := false
  pollingSlot := ⟨none⟩
  queue := ⟨policy, []⟩
  idle := false

inductive Operation where
  | addTask (task : Task) (hasComputePlace : Bool)
  | addTaskBatch (taskBatch : List Task)
  | getTask (doWait : Bool)
  | disable
  | updateQueueThreshold (queueThreshold : Nat)
deriving DecidableEq, Repr

/-- What the leaf does to its surroundings. -/
inductive LeafEvent where
  | returned (thread : Nat) (task : Option Task)
  /-- `_parent->addTaskBatch(this, taskBatch)`. -/
  | handedToParent (taskBatch : List Task)
  | parentGetTask
  | unidleChild
  | resumeIdle
  | unidleCPU
  | cpuBecomesIdle
deriving DecidableEq, Repr

inductive LogEntry where
  | call (thread : Nat) (operation : Operation)
  | event (event : LeafEvent)
deriving DecidableEq, Repr

/-- The two callers of `handleQueueOverflow`, and what each still holds. -/
inductive OverflowCaller where
  | addTask
  | getTask (task : Task)
deriving DecidableEq, Repr

/-- The statement a thread executes next, with its locals. -/
inductive Pc where
  | idle
  | addTaskEnqueue (task : Task)
  | addTaskCompare (elements : Nat)
  | addTaskTrySlot (task : Task)
  | addTaskResume
  | addTaskClearRebalance
  | overflowThreshold (caller : OverflowCaller)
  | overflowTakeBatch (th : Nat) (caller : OverflowCaller)
  | overflowHandBatch (taskBatch : List Task) (caller : OverflowCaller)
  | batchTrySlot (taskBatch : List Task)
  | batchResume (taskBatch : List Task)
  | batchEnqueue (taskBatch : List Task)
  | getTaskCheckIdle (doWait : Bool)
  | getTaskUnidle (doWait : Bool)
  | getTaskUnidleCPU (doWait : Bool)
  | getTaskPollSlot (doWait : Bool)
  | getTaskSlotHit (task : Task)
  | getTaskPopQueue (doWait : Bool)
  | getTaskCheckRebalance (task : Task)
  | getTaskExchangeRebalance (task : Task)
  | getTaskCompareSize (task : Task)
  | getTaskClearRebalance (doWait : Bool)
  | getTaskAskParent (doWait : Bool)
  | getTaskPoll (task : Option Task) (iterations : UInt32)
  | getTaskPollOnce
  | getTaskRecheck
  | disableCheckIdle
  | disableUnidle
  | disableUnidleChild
  | disableUnidleCPU
  | disableTakeQueue
  | disableTakeSlot (taskBatch : List Task)
  | disableHandBatch (taskBatch : List Task)
  | updateCompare (queueThreshold : Nat)
  | updateSetRebalance (queueThreshold : Nat)
  | updateStore (queueThreshold : Nat)
deriving DecidableEq, Repr

def returnTask (thread : Nat) (task : Option Task) : Pc × List LeafEvent :=
  (.idle, [.returned thread task])

/-- Where `handleQueueOverflow` returns to: `addTask` still clears `_rebalance`,
`getTask` returns the task it dequeued. -/
def OverflowCaller.resume (thread : Nat) : OverflowCaller → Pc × List LeafEvent
  | .addTask => (.addTaskClearRebalance, [])
  | .getTask task => returnTask thread (some task)

/-- `size_t th = _queueThreshold / 2; if (th == 0) th = 1;` -/
def overflowBatchSize (queueThreshold : Nat) : Nat :=
  let th := queueThreshold / 2
  if th = 0 then 1 else th

/-- `if (taskBatch.size() > 0) _parent->addTaskBatch(this, taskBatch);`, in both
`handleQueueOverflow` and `disable`. -/
def handToParent (taskBatch : List Task) : List LeafEvent :=
  if taskBatch.length > 0 then [.handedToParent taskBatch] else []

/-- `getTaskBatch(-1)` in `disable`: the argument is `size_t(-1)`. -/
def allTasks : Nat := 2 ^ 64 - 1

/-- The loop test `task == nullptr && iterations < _pollingIterations`: the `unsigned int`
counter is widened to `size_t` for the comparison. -/
def pollingContinues (pollingIterations : UInt64) (task : Option Task)
    (iterations : UInt32) : Bool :=
  task.isNone && iterations.toUInt64 < pollingIterations

/-- One step of `thread` at `pc`: the new shared fields, the next statement and what the
step did outside the leaf. `none` at `idle`, and at `taskBatch.back()` of an empty batch,
which `addTaskBatch` asserts never happens. -/
def stepThread (leaf : LeafScheduler) (thread : Nat) :
    Pc → Option (LeafScheduler × Pc × List LeafEvent)
  | .idle => none
  | .addTaskEnqueue task =>
      let added := leaf.queue.addTask task
      some ({ leaf with queue := added.1 }, .addTaskCompare added.2, [])
  | .addTaskCompare elements =>
      some (leaf, if elements > leaf.queueThreshold then .overflowThreshold .addTask
        else .addTaskClearRebalance, [])
  | .addTaskTrySlot task =>
      let set := leaf.pollingSlot.setTask task
      some ({ leaf with pollingSlot := set.2 },
        if set.1 then (if leaf.idle then .addTaskResume else .addTaskClearRebalance)
        else .addTaskEnqueue task, [])
  | .addTaskResume => some (leaf, .addTaskClearRebalance, [.resumeIdle])
  | .addTaskClearRebalance => some ({ leaf with rebalance := false }, .idle, [])
  | .overflowThreshold caller =>
      some (leaf, .overflowTakeBatch (overflowBatchSize leaf.queueThreshold) caller, [])
  | .overflowTakeBatch th caller =>
      let taken := leaf.queue.getTaskBatch th
      some ({ leaf with queue := taken.2 }, .overflowHandBatch taken.1 caller, [])
  | .overflowHandBatch taskBatch caller =>
      some (leaf, (caller.resume thread).1, handToParent taskBatch ++ (caller.resume thread).2)
  | .batchTrySlot taskBatch =>
      match taskBatch.getLast? with
      | none => none
      | some task =>
          let set := leaf.pollingSlot.setTask task
          some ({ leaf with pollingSlot := set.2 },
            if set.1 then
              (if leaf.idle then .batchResume taskBatch.dropLast
              else .batchEnqueue taskBatch.dropLast)
            else .batchEnqueue taskBatch, [])
  | .batchResume taskBatch => some (leaf, .batchEnqueue taskBatch, [.resumeIdle])
  | .batchEnqueue taskBatch =>
      some ({ leaf with queue := leaf.queue.addTaskBatch taskBatch }, .idle, [])
  | .getTaskCheckIdle doWait =>
      some (leaf, if leaf.idle then .getTaskUnidle doWait else .getTaskPollSlot doWait, [])
  | .getTaskUnidle doWait => some ({ leaf with idle := false }, .getTaskUnidleCPU doWait, [])
  | .getTaskUnidleCPU doWait => some (leaf, .getTaskPollSlot doWait, [.unidleCPU])
  | .getTaskPollSlot doWait =>
      some ({ leaf with pollingSlot := leaf.pollingSlot.getTask.2 },
        match leaf.pollingSlot.getTask.1 with
        | some task => .getTaskSlotHit task
        | none => .getTaskPopQueue doWait, [])
  | .getTaskSlotHit task =>
      some ({ leaf with rebalance := false }, returnTask thread (some task))
  | .getTaskPopQueue doWait =>
      some ({ leaf with queue := leaf.queue.getTask.2 }, match leaf.queue.getTask.1 with
        | some task => .getTaskCheckRebalance task
        | none => .getTaskClearRebalance doWait, [])
  | .getTaskCheckRebalance task =>
      if leaf.rebalance then some (leaf, .getTaskExchangeRebalance task, [])
      else some (leaf, returnTask thread (some task))
  | .getTaskExchangeRebalance task =>
      if leaf.rebalance then some ({ leaf with rebalance := false }, .getTaskCompareSize task, [])
      else some (leaf, returnTask thread (some task))
  | .getTaskCompareSize task =>
      if 2 * leaf.queue.getSize > 3 * leaf.queueThreshold then
        some (leaf, .overflowThreshold (.getTask task), [])
      else some (leaf, returnTask thread (some task))
  | .getTaskClearRebalance doWait =>
      some ({ leaf with rebalance := false }, .getTaskAskParent doWait, [])
  | .getTaskAskParent doWait =>
      some (leaf, if doWait then .getTaskPoll none 0 else .getTaskPollOnce, [.parentGetTask])
  | .getTaskPoll task iterations =>
      if pollingContinues leaf.pollingIterations task iterations then
        some ({ leaf with pollingSlot := leaf.pollingSlot.getTask.2 },
          .getTaskPoll leaf.pollingSlot.getTask.1 (iterations + 1), [])
      else match task with
        | some task => some (leaf, returnTask thread (some task))
        | none => some (leaf, .getTaskRecheck, [])
  | .getTaskPollOnce =>
      match leaf.pollingSlot.getTask.1 with
      | some task => some ({ leaf with pollingSlot := leaf.pollingSlot.getTask.2 },
          returnTask thread (some task))
      | none => some ({ leaf with pollingSlot := leaf.pollingSlot.getTask.2 }, .getTaskRecheck, [])
  | .getTaskRecheck =>
      match leaf.pollingSlot.getTask.1 with
      | some task => some ({ leaf with pollingSlot := leaf.pollingSlot.getTask.2 },
          returnTask thread (some task))
      | none => some ({ leaf with pollingSlot := leaf.pollingSlot.getTask.2, idle := true },
          .idle, [.cpuBecomesIdle, .returned thread none])
  | .disableCheckIdle =>
      some (leaf, if leaf.idle then .disableUnidle else .disableTakeQueue, [])
  | .disableUnidle => some ({ leaf with idle := false }, .disableUnidleChild, [])
  | .disableUnidleChild => some (leaf, .disableUnidleCPU, [.unidleChild])
  | .disableUnidleCPU => some (leaf, .disableTakeQueue, [.unidleCPU])
  | .disableTakeQueue =>
      let taken := leaf.queue.getTaskBatch allTasks
      some ({ leaf with queue := taken.2 }, .disableTakeSlot taken.1, [])
  | .disableTakeSlot taskBatch =>
      some ({ leaf with pollingSlot := leaf.pollingSlot.getTask.2 },
        .disableHandBatch (taskBatch ++ leaf.pollingSlot.getTask.1.toList), [])
  | .disableHandBatch taskBatch =>
      some (leaf, .idle, handToParent taskBatch)
  | .updateCompare queueThreshold =>
      some (leaf, if queueThreshold < leaf.queueThreshold then .updateSetRebalance queueThreshold
        else .updateStore queueThreshold, [])
  | .updateSetRebalance queueThreshold =>
      some ({ leaf with rebalance := true }, .updateStore queueThreshold, [])
  | .updateStore queueThreshold => some ({ leaf with queueThreshold }, .idle, [])

namespace Operation

/-- The first statement of each operation; `addTask` branches on `hasComputePlace`. -/
def entry : Operation → Pc
  | .addTask task true => .addTaskEnqueue task
  | .addTask task false => .addTaskTrySlot task
  | .addTaskBatch taskBatch => .batchTrySlot taskBatch
  | .getTask doWait => .getTaskCheckIdle doWait
  | .disable => .disableCheckIdle
  | .updateQueueThreshold queueThreshold => .updateCompare queueThreshold

def handsIn : Operation → List Task
  | .addTask task _ => [task]
  | .addTaskBatch taskBatch => taskBatch
  | _ => []

/-- `assert(taskBatch.size() > 0)` in `addTaskBatch`. -/
def admissible : Operation → Bool
  | .addTaskBatch taskBatch => !taskBatch.isEmpty
  | _ => true

end Operation

structure LeafSystem where
  leaf : LeafScheduler
  threads : List Pc
  log : List LogEntry
deriving DecidableEq, Repr

def LeafSystem.init (pollingIterations : UInt64) (policy : SchedulingPolicy)
    (threadCount : Nat) : LeafSystem :=
  ⟨LeafScheduler.init pollingIterations policy, List.replicate threadCount .idle, []⟩

inductive LeafAction where
  | invoke (thread : Nat) (operation : Operation)
  | run (thread : Nat)
deriving DecidableEq, Repr

namespace LeafSystem

/-- An idle thread calls an operation, or a thread in an operation executes its next
statement. Any interleaving of the threads is a sequence of these. -/
def step (system : LeafSystem) : LeafAction → Option LeafSystem
  | .invoke thread operation =>
      if system.threads[thread]? = some .idle ∧ operation.admissible then
        some { system with threads := system.threads.set thread operation.entry,
                           log := system.log ++ [.call thread operation] }
      else none
  | .run thread =>
      match system.threads[thread]? with
      | none => none
      | some pc => (stepThread system.leaf thread pc).map fun (leaf, next, events) =>
          ⟨leaf, system.threads.set thread next, system.log ++ events.map .event⟩

def runActions (system : LeafSystem) (admits : LeafSystem → LeafAction → Bool) :
    List LeafAction → Option LeafSystem
  | [] => some system
  | action :: rest =>
      if admits system action then (system.step action).bind (runActions · admits rest) else none

def Quiescent (system : LeafSystem) : Prop :=
  ∀ pc ∈ system.threads, pc = .idle

instance (system : LeafSystem) : Decidable system.Quiescent :=
  inferInstanceAs (Decidable (∀ pc ∈ system.threads, pc = .idle))

variable {system next : LeafSystem}

theorem step_invoke {thread : Nat} {operation : Operation}
    (stepped : system.step (.invoke thread operation) = some next) :
    system.threads[thread]? = some .idle ∧ operation.admissible = true ∧
      next = { system with threads := system.threads.set thread operation.entry,
                           log := system.log ++ [.call thread operation] } := by
  simp only [step] at stepped
  split at stepped
  · rename_i admitted
    cases stepped
    exact ⟨admitted.1, admitted.2, rfl⟩
  · cases stepped

theorem step_run {thread : Nat} (stepped : system.step (.run thread) = some next) :
    ∃ pc leaf after events, system.threads[thread]? = some pc ∧
      stepThread system.leaf thread pc = some (leaf, after, events) ∧
      next = ⟨leaf, system.threads.set thread after, system.log ++ events.map .event⟩ := by
  simp only [step] at stepped
  split at stepped
  · cases stepped
  · rename_i pc found
    cases stepping : stepThread system.leaf thread pc with
    | none => simp [stepping] at stepped
    | some result =>
        obtain ⟨leaf, after, events⟩ := result
        simp only [stepping, Option.map_some', Option.some.injEq] at stepped
        exact ⟨pc, leaf, after, events, found, stepping, stepped.symm⟩

theorem runActions_cons {admits : LeafSystem → LeafAction → Bool} {action : LeafAction}
    (admitted : admits system action = true) (stepped : system.step action = some next)
    (rest : List LeafAction) :
    system.runActions admits (action :: rest) = next.runActions admits rest := by
  simp [runActions, admitted, stepped]

theorem runActions_append (admits : LeafSystem → LeafAction → Bool) (first rest : List LeafAction) :
    system.runActions admits (first ++ rest) =
      (system.runActions admits first).bind (runActions · admits rest) := by
  induction first generalizing system with
  | nil => rfl
  | cons action first ih =>
      simp only [List.cons_append, runActions]
      split
      · cases system.step action <;> simp [ih]
      · rfl

end LeafSystem

/-- The statement `thread` is at; a thread past the end of the list is idle. -/
def pcAt (threads : List Pc) (thread : Nat) : Pc :=
  threads[thread]?.getD .idle

section PcAt

variable {threads : List Pc} {thread other : Nat} {pc : Pc}

theorem pcAt_of_getElem? (found : threads[thread]? = some pc) : pcAt threads thread = pc := by
  simp [pcAt, found]

theorem pcAt_set_self (found : threads[thread]? = some pc) (after : Pc) :
    pcAt (threads.set thread after) thread = after := by
  have within : thread < threads.length := by
    by_contra outside
    simp [List.getElem?_eq_none (Nat.le_of_not_lt outside)] at found
  simp [pcAt, List.getElem?_set_self within]

theorem pcAt_set_ne (distinct : thread ≠ other) (after : Pc) :
    pcAt (threads.set thread after) other = pcAt threads other := by
  simp [pcAt, List.getElem?_set_ne distinct]

theorem set_self_of_getElem? (found : threads[thread]? = some pc) :
    threads.set thread pc = threads := by
  apply List.ext_getElem?
  intro other
  rw [List.getElem?_set]
  split
  · rename_i same
    subst same
    have within : thread < threads.length := by
      by_contra outside
      simp [List.getElem?_eq_none (Nat.le_of_not_lt outside)] at found
    simp [within, found]
  · rfl

theorem pcAt_replicate_idle (count thread : Nat) :
    pcAt (List.replicate count .idle) thread = .idle := by
  cases found : (List.replicate count Pc.idle)[thread]? with
  | none => simp [pcAt, found]
  | some pc =>
      rw [pcAt_of_getElem? found]
      exact List.eq_of_mem_replicate (List.getElem?_mem found)

theorem eq_active_of_getElem? {active : Nat}
    (others : ∀ other, other ≠ active → pcAt threads other = .idle)
    (found : threads[thread]? = some pc) (busy : pc ≠ .idle) : thread = active := by
  by_contra distinct
  exact busy ((pcAt_of_getElem? found).symm.trans (others thread distinct))

theorem quiescent_iff_pcAt {system : LeafSystem} :
    system.Quiescent ↔ ∀ thread, pcAt system.threads thread = .idle := by
  constructor
  · intro quiescent thread
    cases found : system.threads[thread]? with
    | none => simp [pcAt, found]
    | some pc => simp [pcAt, found, quiescent pc (List.getElem?_mem found)]
  · intro idle pc member
    obtain ⟨thread, found⟩ := List.mem_iff_getElem?.mp member
    rw [← pcAt_of_getElem? found, idle]

end PcAt

/-- The states a leaf reaches from `start` by the actions `allowed` admits. -/
inductive Reachable (allowed : LeafSystem → LeafAction → Bool) (start : LeafSystem) :
    LeafSystem → Prop
  | start : Reachable allowed start start
  | step {system next : LeafSystem} {action : LeafAction} :
      Reachable allowed start system → allowed system action →
        system.step action = some next → Reachable allowed start next

theorem Reachable.runActions {allowed : LeafSystem → LeafAction → Bool}
    {start system : LeafSystem} (reachable : Reachable allowed start system) :
    ∀ (actions : List LeafAction) {next : LeafSystem},
      system.runActions allowed actions = some next → Reachable allowed start next
  | [], _, ran => by cases ran; exact reachable
  | action :: rest, next, ran => by
      simp only [LeafSystem.runActions] at ran
      split at ran
      · rename_i admitted
        cases stepped : system.step action with
        | none => simp [stepped] at ran
        | some middle =>
            simp only [stepped, Option.bind_some] at ran
            exact (reachable.step admitted stepped).runActions rest ran
      · cases ran

def anyAction (_ : LeafSystem) (_ : LeafAction) : Bool := true

/-- Sequential use: an operation is called only when no other one is in progress. -/
def sequentialAction (system : LeafSystem) : LeafAction → Bool
  | .invoke _ _ => decide system.Quiescent
  | .run _ => true

end Nanos6.Scheduling
