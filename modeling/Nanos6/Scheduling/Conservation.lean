import Mathlib.Algebra.BigOperators.Group.List
import Mathlib.Tactic.Abel
import Nanos6.Scheduling.LeafScheduler

namespace Nanos6.Scheduling

def OverflowCaller.holding : OverflowCaller → Multiset Task
  | .addTask => 0
  | .getTask task => {task}

/-- The tasks a thread holds in its locals before executing `pc`. -/
def Pc.holding : Pc → Multiset Task
  | .addTaskEnqueue task | .addTaskTrySlot task => {task}
  | .overflowThreshold caller | .overflowTakeBatch _ caller => caller.holding
  | .overflowHandBatch taskBatch caller => taskBatch + caller.holding
  | .batchTrySlot taskBatch | .batchResume taskBatch | .batchEnqueue taskBatch => taskBatch
  | .getTaskSlotHit task | .getTaskCheckRebalance task | .getTaskExchangeRebalance task
  | .getTaskCompareSize task => {task}
  | .getTaskPoll task _ => task.toList
  | .disableTakeSlot taskBatch | .disableHandBatch taskBatch => taskBatch
  | _ => 0

/-- The tasks an event takes out of the leaf: a batch handed to the parent, or the task
a `getTask` returns. -/
def LeafEvent.tasksOut : LeafEvent → Multiset Task
  | .handedToParent taskBatch => taskBatch
  | .returned _ task => task.toList
  | _ => 0

/-- The tasks an `addTask` or `addTaskBatch` call hands to the leaf. A batch the parent
delivers during `_parent->getTask(this)` arrives through `addTaskBatch`, so it is one of
these calls. -/
def LogEntry.handedIn : LogEntry → Multiset Task
  | .call _ operation => operation.handsIn
  | .event _ => 0

def LogEntry.handedToParent : LogEntry → Multiset Task
  | .event (.handedToParent taskBatch) => taskBatch
  | _ => 0

def LogEntry.returned : LogEntry → Multiset Task
  | .event (.returned _ task) => task.toList
  | _ => 0

def LeafScheduler.contents (leaf : LeafScheduler) : Multiset Task :=
  leaf.queue.tasks + leaf.pollingSlot.task.toList

namespace LeafSystem

def inFlight (system : LeafSystem) : Multiset Task :=
  (system.threads.map Pc.holding).sum

def handedIn (system : LeafSystem) : Multiset Task :=
  (system.log.map LogEntry.handedIn).sum

def handedToParent (system : LeafSystem) : Multiset Task :=
  (system.log.map LogEntry.handedToParent).sum

def returned (system : LeafSystem) : Multiset Task :=
  (system.log.map LogEntry.returned).sum

/-- The conservation law, counting the tasks of operations still in progress. -/
def Balanced (system : LeafSystem) : Prop :=
  system.leaf.contents + system.inFlight + system.handedToParent + system.returned =
    system.handedIn

end LeafSystem

theorem sum_map_set {α M : Type} [AddCommMonoid M] (f : α → M) :
    ∀ (list : List α) (index : Nat) {old : α} (new : α), list[index]? = some old →
      ((list.set index new).map f).sum + f old = (list.map f).sum + f new
  | [], _, _, _, found => by simp at found
  | head :: tail, 0, _, _, found => by
      simp only [List.getElem?_cons_zero, Option.some.injEq] at found
      subst found
      simp only [List.set_cons_zero, List.map_cons, List.sum_cons]
      abel
  | head :: tail, index + 1, _, _, found => by
      simp only [List.getElem?_cons_succ] at found
      simp only [List.set_cons_succ, List.map_cons, List.sum_cons, add_assoc,
        sum_map_set f tail index _ found]

/-- One step of a thread moves tasks between the leaf, the thread's locals and the
outside; it creates none and drops none. -/
def StepBalanced (leaf : LeafScheduler) (pc : Pc) :
    Option (LeafScheduler × Pc × List LeafEvent) → Prop
  | none => True
  | some (next, after, events) =>
      next.contents + after.holding + (events.map LeafEvent.tasksOut).sum =
        leaf.contents + pc.holding

@[simp] theorem holding_resume (thread : Nat) (caller : OverflowCaller) :
    (caller.resume thread).1.holding = 0 := by
  cases caller <;> rfl

@[simp] theorem tasksOut_resume (thread : Nat) (caller : OverflowCaller) :
    ((caller.resume thread).2.map LeafEvent.tasksOut).sum = caller.holding := by
  cases caller <;> simp [OverflowCaller.resume, returnTask, LeafEvent.tasksOut,
    OverflowCaller.holding]

@[simp] theorem tasksOut_handToParent (taskBatch : List Task) :
    ((handToParent taskBatch).map LeafEvent.tasksOut).sum = taskBatch := by
  unfold handToParent; split <;> simp_all [LeafEvent.tasksOut]

theorem dropLast_add_getLast {taskBatch : List Task} {task : Task}
    (last : taskBatch.getLast? = some task) :
    ((taskBatch.dropLast : List Task) : Multiset Task) + {task} = taskBatch := by
  rw [← Multiset.coe_singleton, Multiset.coe_add, List.dropLast_append_getLast? task last]

theorem stepThread_balanced (leaf : LeafScheduler) (thread : Nat) (pc : Pc) :
    StepBalanced leaf pc (stepThread leaf thread pc) := by
  cases pc with
  | idle => trivial
  | addTaskEnqueue task =>
      simp only [StepBalanced, stepThread, LeafScheduler.contents, TaskQueue.addTask_tasks,
        Pc.holding, List.map_nil, List.sum_nil, add_zero]
      abel
  | addTaskCompare elements =>
      simp only [stepThread]; split <;> simp [StepBalanced, Pc.holding, OverflowCaller.holding]
  | addTaskTrySlot task =>
      obtain ⟨_, _, _, ⟨_ | held⟩, _, _⟩ := leaf
      · simp only [stepThread, PollingSlot.setTask_empty, if_true]
        split <;> simp [StepBalanced, LeafScheduler.contents, Pc.holding, LeafEvent.tasksOut,
          add_assoc]
      · simp [stepThread, StepBalanced, Pc.holding]
  | addTaskResume => simp [StepBalanced, stepThread, Pc.holding, LeafEvent.tasksOut]
  | addTaskClearRebalance => simp [StepBalanced, stepThread, LeafScheduler.contents, Pc.holding]
  | overflowThreshold caller => simp [StepBalanced, stepThread, Pc.holding]
  | overflowTakeBatch th caller =>
      simp only [StepBalanced, stepThread, LeafScheduler.contents, Pc.holding, List.map_nil,
        List.sum_nil, add_zero]
      rw [← TaskQueue.getTaskBatch_tasks leaf.queue th]
      abel
  | overflowHandBatch taskBatch caller =>
      cases caller <;> simp [StepBalanced, stepThread, Pc.holding, OverflowCaller.resume,
        returnTask, LeafEvent.tasksOut, OverflowCaller.holding, add_comm]
  | batchTrySlot taskBatch =>
      obtain ⟨_, _, _, ⟨_ | held⟩, _, _⟩ := leaf <;> simp only [stepThread] <;> split
      · trivial
      · simp only [PollingSlot.setTask_empty, if_true]
        split <;> simp only [StepBalanced, LeafScheduler.contents, Pc.holding, List.map,
          List.sum_cons, List.sum_nil, LeafEvent.tasksOut, add_zero, Option.toList_some,
          Option.toList_none, Multiset.coe_singleton, Multiset.coe_nil,
            ← dropLast_add_getLast ‹_›] <;>
          abel
      · trivial
      · simp [StepBalanced, LeafScheduler.contents, Pc.holding, PollingSlot.setTask_full]
  | batchResume taskBatch => simp [StepBalanced, stepThread, Pc.holding, LeafEvent.tasksOut]
  | batchEnqueue taskBatch =>
      simp only [StepBalanced, stepThread, LeafScheduler.contents, TaskQueue.addTaskBatch_tasks,
        Pc.holding, List.map_nil, List.sum_nil, add_zero]
      abel
  | getTaskCheckIdle doWait =>
      simp only [stepThread]; split <;> simp [StepBalanced, Pc.holding]
  | getTaskUnidle doWait => simp [StepBalanced, stepThread, LeafScheduler.contents, Pc.holding]
  | getTaskUnidleCPU doWait => simp [StepBalanced, stepThread, Pc.holding, LeafEvent.tasksOut]
  | getTaskPollSlot doWait =>
      cases slot : leaf.pollingSlot.task <;> simp [StepBalanced, stepThread,
        LeafScheduler.contents, Pc.holding, slot, add_comm]
  | getTaskSlotHit task =>
      simp [StepBalanced, stepThread, LeafScheduler.contents, Pc.holding, returnTask,
        LeafEvent.tasksOut]
  | getTaskPopQueue doWait =>
      have taken := TaskQueue.getTask_tasks leaf.queue
      cases popped : leaf.queue.getTask.1 <;>
        simp only [StepBalanced, stepThread, popped, LeafScheduler.contents, Pc.holding,
          List.map_nil, List.sum_nil, add_zero, Option.toList_none, Option.toList_some,
          Multiset.coe_nil, Multiset.coe_singleton] at taken ⊢ <;>
        rw [← taken]
      abel
  | getTaskCheckRebalance task =>
      simp only [stepThread]; split <;> simp [StepBalanced, Pc.holding, returnTask,
        LeafEvent.tasksOut]
  | getTaskExchangeRebalance task =>
      simp only [stepThread]; split <;> simp [StepBalanced, LeafScheduler.contents, Pc.holding,
        returnTask, LeafEvent.tasksOut]
  | getTaskCompareSize task =>
      simp only [stepThread]; split <;> simp [StepBalanced, Pc.holding, OverflowCaller.holding,
        returnTask, LeafEvent.tasksOut]
  | getTaskClearRebalance doWait => simp [StepBalanced, stepThread, LeafScheduler.contents,
    Pc.holding]
  | getTaskAskParent doWait =>
      simp only [stepThread]; split <;> simp [StepBalanced, Pc.holding, LeafEvent.tasksOut]
  | getTaskPoll task iterations =>
      simp only [stepThread]; split
      · rename_i continues
        simp only [pollingContinues, Bool.and_eq_true, Option.isNone_iff_eq_none] at continues
        rw [continues.1]
        cases slot : leaf.pollingSlot.task <;> simp [StepBalanced, LeafScheduler.contents,
          Pc.holding, slot]
      · cases task <;> simp [StepBalanced, Pc.holding, returnTask, LeafEvent.tasksOut]
  | getTaskPollOnce =>
      cases slot : leaf.pollingSlot.task <;> simp [StepBalanced, stepThread,
        LeafScheduler.contents, Pc.holding, slot, returnTask, LeafEvent.tasksOut]
  | getTaskRecheck =>
      cases slot : leaf.pollingSlot.task <;> simp [StepBalanced, stepThread,
        LeafScheduler.contents, Pc.holding, slot, returnTask, LeafEvent.tasksOut]
  | disableCheckIdle => simp only [stepThread]; split <;> simp [StepBalanced, Pc.holding]
  | disableUnidle => simp [StepBalanced, stepThread, LeafScheduler.contents, Pc.holding]
  | disableUnidleChild => simp [StepBalanced, stepThread, Pc.holding, LeafEvent.tasksOut]
  | disableUnidleCPU => simp [StepBalanced, stepThread, Pc.holding, LeafEvent.tasksOut]
  | disableTakeQueue =>
      simp only [StepBalanced, stepThread, LeafScheduler.contents, Pc.holding, List.map_nil,
        List.sum_nil, add_zero]
      rw [← TaskQueue.getTaskBatch_tasks leaf.queue allTasks]
      abel
  | disableTakeSlot taskBatch =>
      cases slot : leaf.pollingSlot.task <;>
        simp only [StepBalanced, stepThread, LeafScheduler.contents, Pc.holding, slot,
          PollingSlot.getTask_fst, PollingSlot.getTask_snd, Option.toList_none, Option.toList_some,
          List.append_nil, ← Multiset.coe_add, Multiset.coe_singleton, Multiset.coe_nil,
          List.map_nil, List.sum_nil, add_zero]
      abel
  | disableHandBatch taskBatch => simp [StepBalanced, stepThread, Pc.holding]
  | updateCompare queueThreshold => simp only [stepThread]; split <;> simp [StepBalanced,
    Pc.holding]
  | updateSetRebalance queueThreshold => simp [StepBalanced, stepThread, LeafScheduler.contents,
    Pc.holding]
  | updateStore queueThreshold => simp [StepBalanced, stepThread, LeafScheduler.contents,
    Pc.holding]


@[simp] theorem holding_idle : Pc.idle.holding = 0 := rfl

theorem holding_entry (operation : Operation) : operation.entry.holding = operation.handsIn := by
  rcases operation with ⟨task, _ | _⟩ | _ | _ | _ | _ <;> rfl

theorem event_handedToParent_add_returned (done : LeafEvent) :
    LogEntry.handedToParent (.event done) + LogEntry.returned (.event done) = done.tasksOut := by
  cases done <;> simp [LogEntry.handedToParent, LogEntry.returned, LeafEvent.tasksOut]

theorem events_handedToParent_add_returned (events : List LeafEvent) :
    ((events.map LogEntry.event).map LogEntry.handedToParent).sum +
        ((events.map LogEntry.event).map LogEntry.returned).sum =
      (events.map LeafEvent.tasksOut).sum := by
  induction events with
  | nil => simp
  | cons done rest ih =>
      simp only [List.map_cons, List.sum_cons, ← event_handedToParent_add_returned, ← ih]
      abel

@[simp] theorem events_handedIn (events : List LeafEvent) :
    ((events.map LogEntry.event).map LogEntry.handedIn).sum = 0 := by
  induction events <;> simp_all [LogEntry.handedIn]

namespace LeafSystem

variable {system next : LeafSystem} {action : LeafAction}

theorem step_balanced (balanced : system.Balanced) (stepped : system.step action = some next) :
    next.Balanced := by
  cases action with
  | invoke thread operation =>
      obtain ⟨idle, -, rfl⟩ := step_invoke stepped
      have moved := sum_map_set Pc.holding system.threads thread operation.entry idle
      simp only [Balanced, inFlight, handedIn, handedToParent, returned, List.map_append,
        List.sum_append, List.map_cons, List.map_nil, List.sum_cons, List.sum_nil,
        LogEntry.handedIn, LogEntry.handedToParent, LogEntry.returned, add_zero,
        holding_entry, holding_idle] at moved balanced ⊢
      rw [moved, ← balanced]
      abel
  | run thread =>
      obtain ⟨pc, leaf, after, events, found, stepping, rfl⟩ := step_run stepped
      have stepBalance := stepThread_balanced system.leaf thread pc
      simp only [stepping, StepBalanced] at stepBalance
      have moved := sum_map_set Pc.holding system.threads thread after found
      have out := events_handedToParent_add_returned events
      simp only [Balanced, inFlight, handedIn, handedToParent, returned, List.map_append,
        List.sum_append, events_handedIn, add_zero] at moved balanced ⊢
      refine add_right_cancel (?_ : _ + pc.holding = _ + pc.holding)
      calc _ = leaf.contents + (((system.threads.set thread after).map Pc.holding).sum +
              pc.holding) + (((events.map LogEntry.event).map LogEntry.handedToParent).sum +
              ((events.map LogEntry.event).map LogEntry.returned).sum) +
            (system.log.map LogEntry.handedToParent).sum +
            (system.log.map LogEntry.returned).sum := by abel
        _ = (leaf.contents + after.holding + (events.map LeafEvent.tasksOut).sum) +
            (system.threads.map Pc.holding).sum +
            (system.log.map LogEntry.handedToParent).sum +
            (system.log.map LogEntry.returned).sum := by rw [moved, out]; abel
        _ = _ := by rw [stepBalance, ← balanced]; abel

theorem init_balanced (pollingIterations : UInt64) (policy : SchedulingPolicy) (threadCount : Nat) :
    (LeafSystem.init pollingIterations policy threadCount).Balanced := by
  simp [Balanced, init, LeafScheduler.init, LeafScheduler.contents, inFlight, handedIn,
    handedToParent, returned, Pc.holding, nsmul_zero]

end LeafSystem

theorem reachable_balanced {allowed : LeafSystem → LeafAction → Bool} {start system : LeafSystem}
    (balanced : start.Balanced) (reachable : Reachable allowed start system) : system.Balanced := by
  induction reachable with
  | start => exact balanced
  | step _ _ stepped ih => exact LeafSystem.step_balanced ih stepped

theorem LeafSystem.inFlight_of_quiescent {system : LeafSystem} (quiescent : system.Quiescent) :
    system.inFlight = 0 :=
  List.sum_eq_zero fun holding member => by
    obtain ⟨pc, present, rfl⟩ := List.mem_map.1 member
    rw [quiescent pc present, holding_idle]

/-- No task is lost or duplicated, over every interleaving the scheduler `allowed` admits:
whenever no operation is in progress, the tasks in the queue and the polling slot, the
batches handed to the parent and the tasks returned by `getTask` are, with multiplicity,
exactly those handed in by `addTask` and `addTaskBatch` calls. -/
theorem leaf_conserves_tasks {allowed : LeafSystem → LeafAction → Bool}
    {pollingIterations : UInt64} {policy : SchedulingPolicy} {threadCount : Nat}
    {system : LeafSystem}
    (reachable : Reachable allowed (LeafSystem.init pollingIterations policy threadCount) system)
    (quiescent : system.Quiescent) :
    (system.leaf.queue.tasks : Multiset Task) + system.leaf.pollingSlot.task.toList +
      system.handedToParent + system.returned = system.handedIn := by
  have balanced := reachable_balanced (LeafSystem.init_balanced _ _ _) reachable
  rwa [LeafSystem.Balanced, LeafSystem.inFlight_of_quiescent quiescent, add_zero] at balanced

def slotHandoff : LeafSystem :=
  ⟨⟨100, 0, false, ⟨some 7⟩, ⟨.fifo, []⟩, false⟩, [.idle], [.call 0 (.addTask 7 false)]⟩

theorem leaf_conserves_tasks_after_slot_handoff :
    Reachable anyAction (LeafSystem.init 100 .fifo 1) slotHandoff ∧ slotHandoff.Quiescent ∧
      (slotHandoff.leaf.queue.tasks : Multiset Task) +
          slotHandoff.leaf.pollingSlot.task.toList + slotHandoff.handedToParent +
          slotHandoff.returned = slotHandoff.handedIn := by
  have reachable : Reachable anyAction (LeafSystem.init 100 .fifo 1) slotHandoff :=
    Reachable.start.runActions [.invoke 0 (.addTask 7 false), .run 0, .run 0] (by decide)
  exact ⟨reachable, by decide, leaf_conserves_tasks reachable (by decide)⟩

end Nanos6.Scheduling
