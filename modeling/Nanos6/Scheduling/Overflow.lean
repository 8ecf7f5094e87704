import Nanos6.Scheduling.LeafScheduler

namespace Nanos6.Scheduling

open TaskQueue

/-- Right after every non-empty hand-off of `handleQueueOverflow`, the queue holds at most
`_queueThreshold` tasks. -/
def OverflowRestoresBound (allowed : LeafSystem → LeafAction → Bool) : Prop :=
  ∀ (pollingIterations : UInt64) (policy : SchedulingPolicy) (threadCount thread : Nat)
    (system next : LeafSystem) (taskBatch : List Task) (caller : OverflowCaller),
    Reachable allowed (LeafSystem.init pollingIterations policy threadCount) system →
    system.threads[thread]? = some (.overflowHandBatch taskBatch caller) → taskBatch ≠ [] →
    system.step (.run thread) = some next → next.leaf.queue.getSize ≤ next.leaf.queueThreshold

/-- The threshold is set to 4, the parent delivers seven tasks (one to the slot, six to the
queue), and a local `addTask` overflows: two tasks go up and five stay. -/
def overflowSchedule : List LeafAction :=
  [.invoke 0 (.updateQueueThreshold 4), .run 0, .run 0,
   .invoke 0 (.addTaskBatch [1, 2, 3, 4, 5, 6, 7]), .run 0, .run 0,
   .invoke 0 (.addTask 8 true), .run 0, .run 0, .run 0, .run 0]

def overflowState : LeafSystem :=
  ⟨⟨100, 4, false, ⟨some 7⟩, ⟨.fifo, [1, 2, 3, 4, 5]⟩, false⟩,
    [.overflowHandBatch [6, 8] .addTask],
    [.call 0 (.updateQueueThreshold 4), .call 0 (.addTaskBatch [1, 2, 3, 4, 5, 6, 7]),
     .call 0 (.addTask 8 true)]⟩

theorem overflow_leaves_queue_above_threshold : ¬ OverflowRestoresBound sequentialAction := by
  intro restores
  have reachable : Reachable sequentialAction (LeafSystem.init 100 .fifo 1) overflowState :=
    Reachable.start.runActions overflowSchedule (by decide)
  have bound := restores 100 .fifo 1 0 overflowState _ [6, 8] .addTask reachable rfl
    (by simp) rfl
  exact absurd bound (by decide)

/-- Sequential use in which the parent delivers no batch and the threshold is never lowered. -/
def steadyAction (system : LeafSystem) : LeafAction → Bool
  | .invoke _ (.addTaskBatch _) => false
  | .invoke _ (.updateQueueThreshold queueThreshold) =>
      decide system.Quiescent && decide (system.leaf.queueThreshold ≤ queueThreshold)
  | .invoke _ _ => decide system.Quiescent
  | .run _ => true

/-- What a steady run knows at each statement of the one operation in progress: the queue is
within the threshold, or one over it between an `addTask` push and its overflow hand-off, and
no statement that only a batch, a lowered threshold or a rebalance request reaches is met. -/
def SteadyAt (leaf : LeafScheduler) : Pc → Prop
  | .idle => leaf.queue.getSize ≤ leaf.queueThreshold
  | .addTaskEnqueue _ => leaf.queue.getSize ≤ leaf.queueThreshold
  | .addTaskCompare elements =>
      elements = leaf.queue.getSize ∧ leaf.queue.getSize ≤ leaf.queueThreshold + 1
  | .addTaskTrySlot _ => leaf.queue.getSize ≤ leaf.queueThreshold
  | .addTaskResume => leaf.queue.getSize ≤ leaf.queueThreshold
  | .addTaskClearRebalance => leaf.queue.getSize ≤ leaf.queueThreshold
  | .overflowThreshold caller =>
      caller = .addTask ∧ leaf.queue.getSize ≤ leaf.queueThreshold + 1
  | .overflowTakeBatch th caller =>
      caller = .addTask ∧ 0 < th ∧ leaf.queue.getSize ≤ leaf.queueThreshold + 1
  | .overflowHandBatch _ caller => caller = .addTask ∧ leaf.queue.getSize ≤ leaf.queueThreshold
  | .batchTrySlot _ | .batchResume _ | .batchEnqueue _ => False
  | .getTaskCheckIdle _ | .getTaskUnidle _ | .getTaskUnidleCPU _ | .getTaskPollSlot _
  | .getTaskSlotHit _ | .getTaskPopQueue _ | .getTaskCheckRebalance _ => leaf.queue.getSize ≤ leaf.queueThreshold
  | .getTaskExchangeRebalance _ | .getTaskCompareSize _ => False
  | .getTaskClearRebalance _ | .getTaskAskParent _ | .getTaskPoll _ _ | .getTaskPollOnce
  | .getTaskRecheck => leaf.queue.getSize ≤ leaf.queueThreshold
  | .disableCheckIdle | .disableUnidle | .disableUnidleChild | .disableUnidleCPU
  | .disableTakeQueue | .disableTakeSlot _ | .disableHandBatch _ => leaf.queue.getSize ≤ leaf.queueThreshold
  | .updateCompare queueThreshold | .updateStore queueThreshold =>
      leaf.queueThreshold ≤ queueThreshold ∧ leaf.queue.getSize ≤ leaf.queueThreshold
  | .updateSetRebalance _ => False

theorem overflowBatchSize_pos (queueThreshold : Nat) : 0 < overflowBatchSize queueThreshold := by
  simp only [overflowBatchSize]; split <;> omega

theorem stepThread_steadyAt {leaf next : LeafScheduler} {thread : Nat} {pc nextPc : Pc}
    {events : List LeafEvent} (steady : SteadyAt leaf pc) (noRebalance : leaf.rebalance = false)
    (stepped : stepThread leaf thread pc = some (next, nextPc, events)) :
    SteadyAt next nextPc ∧ next.rebalance = false := by
  cases pc <;> simp only [SteadyAt] at steady <;> simp only [stepThread, returnTask] at stepped
  case addTaskEnqueue task =>
    cases stepped
    refine ⟨⟨addTask_elements.trans addTask_getSize.symm, ?_⟩, noRebalance⟩
    simp only [addTask_getSize]; omega
  case addTaskCompare elements =>
    cases stepped
    obtain ⟨rfl, bound⟩ := steady
    constructor
    · split <;> simp only [SteadyAt, true_and] <;> omega
    · exact noRebalance
  case overflowThreshold caller =>
    cases stepped
    exact ⟨⟨steady.1, overflowBatchSize_pos _, steady.2⟩, noRebalance⟩
  case overflowTakeBatch th caller =>
    cases stepped
    obtain ⟨rfl, positive, bound⟩ := steady
    refine ⟨⟨rfl, ?_⟩, noRebalance⟩
    simp only [getTaskBatch_getSize]; omega
  case overflowHandBatch taskBatch caller =>
    cases stepped
    obtain ⟨rfl, bound⟩ := steady
    exact ⟨bound, noRebalance⟩
  case getTaskPopQueue doWait =>
    cases stepped
    have shrunk : leaf.queue.getTask.2.getSize ≤ leaf.queueThreshold := by
      rw [getTask_getSize]; omega
    constructor
    · split <;> exact shrunk
    · exact noRebalance
  case getTaskCheckRebalance task =>
    simp only [noRebalance, Bool.false_eq_true, if_false, returnTask] at stepped
    cases stepped
    exact ⟨steady, noRebalance⟩
  case disableTakeQueue =>
    cases stepped
    refine ⟨?_, noRebalance⟩
    simp only [SteadyAt, getTaskBatch_getSize]; omega
  case updateCompare queueThreshold =>
    cases stepped
    obtain ⟨raised, bound⟩ := steady
    refine ⟨?_, noRebalance⟩
    rw [if_neg (Nat.not_lt.mpr raised)]
    exact ⟨raised, bound⟩
  case updateStore queueThreshold =>
    cases stepped
    exact ⟨Nat.le_trans steady.2 steady.1, noRebalance⟩
  all_goals
    repeat' split at stepped
  all_goals first
    | exact steady.elim
    | cases stepped
  all_goals exact ⟨steady, by simp [noRebalance]⟩

theorem steadyAt_entry {system : LeafSystem} {thread : Nat} {operation : Operation}
    (bound : system.leaf.queue.getSize ≤ system.leaf.queueThreshold)
    (allowed : steadyAction system (.invoke thread operation) = true) :
    SteadyAt system.leaf operation.entry := by
  cases operation with
  | addTask task hasComputePlace => cases hasComputePlace <;> exact bound
  | addTaskBatch taskBatch => cases allowed
  | getTask doWait => exact bound
  | disable => exact bound
  | updateQueueThreshold queueThreshold =>
      simp only [steadyAction, Bool.and_eq_true, decide_eq_true_eq] at allowed
      exact ⟨allowed.2, bound⟩

theorem quiescent_of_steadyAction {system : LeafSystem} {thread : Nat} {operation : Operation}
    (allowed : steadyAction system (.invoke thread operation) = true) : system.Quiescent := by
  cases operation <;> simp_all [steadyAction]

/-- The invariant of steady runs: `_rebalance` stays clear, and all threads but one are idle. -/
structure LeafSystem.Steady (system : LeafSystem) : Prop where
  noRebalance : system.leaf.rebalance = false
  single : ∃ active, SteadyAt system.leaf (pcAt system.threads active) ∧
    ∀ other, other ≠ active → pcAt system.threads other = .idle

theorem LeafSystem.Steady.bound_of_quiescent {system : LeafSystem} (steady : system.Steady)
    (quiescent : system.Quiescent) : system.leaf.queue.getSize ≤ system.leaf.queueThreshold := by
  obtain ⟨active, steadyAt, -⟩ := steady.single
  rw [quiescent_iff_pcAt.mp quiescent active] at steadyAt
  exact steadyAt

theorem LeafSystem.Steady.step {system next : LeafSystem} {action : LeafAction} (steady : system.Steady)
    (allowed : steadyAction system action = true) (stepped : system.step action = some next) :
    next.Steady := by
  cases action with
  | invoke thread operation =>
      obtain ⟨idle, -, rfl⟩ := LeafSystem.step_invoke stepped
      have quiescent := quiescent_of_steadyAction allowed
      have entry := steadyAt_entry (steady.bound_of_quiescent quiescent) allowed
      refine ⟨steady.noRebalance, thread, ?_, fun other distinct => ?_⟩
      · rw [pcAt_set_self idle]
        exact entry
      · rw [pcAt_set_ne (Ne.symm distinct)]
        exact quiescent_iff_pcAt.mp quiescent other
  | run thread =>
      obtain ⟨pc, leaf, after, events, found, stepping, rfl⟩ := LeafSystem.step_run stepped
      obtain ⟨active, steadyAt, others⟩ := steady.single
      obtain rfl := eq_active_of_getElem? others found (by rintro rfl; cases stepping)
      rw [pcAt_of_getElem? found] at steadyAt
      have next := stepThread_steadyAt steadyAt steady.noRebalance stepping
      refine ⟨next.2, thread, ?_, fun other distinct => ?_⟩
      · rw [pcAt_set_self found]
        exact next.1
      · rw [pcAt_set_ne (Ne.symm distinct)]
        exact others other distinct

theorem steady_of_reachable {pollingIterations : UInt64} {policy : SchedulingPolicy}
    {threadCount : Nat} {system : LeafSystem}
    (reachable : Reachable steadyAction (LeafSystem.init pollingIterations policy threadCount) system) :
    system.Steady := by
  induction reachable with
  | start =>
      refine ⟨rfl, 0, ?_, fun other _ => pcAt_replicate_idle threadCount other⟩
      rw [LeafSystem.init, pcAt_replicate_idle]
      exact Nat.le_refl 0
  | step _ allowed stepped steady => exact steady.step allowed stepped

theorem steady_overflow_restores_bound : OverflowRestoresBound steadyAction := by
  intro pollingIterations policy threadCount thread system next taskBatch caller reachable found _
    stepped
  obtain ⟨active, steadyAt, others⟩ := (steady_of_reachable reachable).single
  obtain rfl := eq_active_of_getElem? others found (by simp)
  rw [pcAt_of_getElem? found] at steadyAt
  obtain ⟨pc, leaf, after, events, found', stepping, rfl⟩ := LeafSystem.step_run stepped
  rw [found, Option.some.injEq] at found'
  subst found'
  cases stepping
  exact steadyAt.2

def pushedState : LeafSystem :=
  ⟨⟨100, 0, false, ⟨none⟩, ⟨.fifo, []⟩, false⟩, [.overflowHandBatch [1] .addTask],
    [.call 0 (.addTask 1 true)]⟩

theorem pushedState_reachable : Reachable steadyAction (LeafSystem.init 100 .fifo 1) pushedState :=
  Reachable.start.runActions [.invoke 0 (.addTask 1 true), .run 0, .run 0, .run 0,
    .run 0] (by decide)

theorem steady_overflow_after_push :
    ∃ next, pushedState.step (.run 0) = some next ∧
      next.leaf.queue.getSize ≤ next.leaf.queueThreshold :=
  ⟨_, rfl, steady_overflow_restores_bound 100 .fifo 1 0 pushedState _ [1] .addTask
    pushedState_reachable rfl (by simp) rfl⟩

/-- In steady runs the queue never exceeds `_queueThreshold` between operations. -/
theorem steady_queue_within_threshold {pollingIterations : UInt64} {policy : SchedulingPolicy}
    {threadCount : Nat} {system : LeafSystem}
    (reachable : Reachable steadyAction (LeafSystem.init pollingIterations policy threadCount) system)
    (quiescent : system.Quiescent) : system.leaf.queue.getSize ≤ system.leaf.queueThreshold :=
  (steady_of_reachable reachable).bound_of_quiescent quiescent

def pushedDoneState : LeafSystem :=
  ⟨⟨100, 0, false, ⟨none⟩, ⟨.fifo, []⟩, false⟩, [.idle],
    [.call 0 (.addTask 1 true), .event (.handedToParent [1])]⟩

theorem steady_queue_within_threshold_after_push :
    Reachable steadyAction (LeafSystem.init 100 .fifo 1) pushedDoneState ∧
      pushedDoneState.Quiescent ∧
      pushedDoneState.leaf.queue.getSize ≤ pushedDoneState.leaf.queueThreshold :=
  have reachable : Reachable steadyAction (LeafSystem.init 100 .fifo 1) pushedDoneState :=
    pushedState_reachable.runActions [.run 0, .run 0] (by decide)
  ⟨reachable, by decide, steady_queue_within_threshold reachable (by decide)⟩

/-- Whenever an operation, called alone, finds `_rebalance` set and leaves it clear, it handed an
overflow batch to the parent or left at most `1.5 * _queueThreshold` tasks in the queue. -/
def RebalanceRequestsHonoured : Prop :=
  ∀ (pollingIterations : UInt64) (policy : SchedulingPolicy) (threadCount thread runs : Nat)
    (operation : Operation) (system next : LeafSystem),
    Reachable sequentialAction (LeafSystem.init pollingIterations policy threadCount) system →
    system.Quiescent → system.leaf.rebalance = true →
    system.runActions sequentialAction
      (.invoke thread operation :: List.replicate runs (.run thread)) = some next →
    next.Quiescent → next.leaf.rebalance = false →
    (∃ taskBatch, LogEntry.event (.handedToParent taskBatch) ∈ next.log.drop system.log.length) ∨
      2 * next.leaf.queue.getSize ≤ 3 * next.leaf.queueThreshold

/-- The threshold is raised to 10, the parent delivers nine tasks (the last to the slot), and
the threshold is lowered to 2, which sets `_rebalance`. -/
def rebalanceSchedule : List LeafAction :=
  [.invoke 0 (.updateQueueThreshold 10), .run 0, .run 0,
   .invoke 0 (.addTaskBatch [1, 2, 3, 4, 5, 6, 7, 8, 9]), .run 0, .run 0,
   .invoke 0 (.updateQueueThreshold 2), .run 0, .run 0, .run 0]

def rebalanceState : LeafSystem :=
  ⟨⟨100, 2, true, ⟨some 9⟩, ⟨.fifo, [1, 2, 3, 4, 5, 6, 7, 8]⟩, false⟩, [.idle],
    [.call 0 (.updateQueueThreshold 10), .call 0 (.addTaskBatch [1, 2, 3, 4, 5, 6, 7, 8, 9]),
     .call 0 (.updateQueueThreshold 2)]⟩

def slotHitState : LeafSystem :=
  ⟨⟨100, 2, false, ⟨none⟩, ⟨.fifo, [1, 2, 3, 4, 5, 6, 7, 8]⟩, false⟩, [.idle],
    rebalanceState.log ++ [.call 0 (.getTask true), .event (.returned 0 (some 9))]⟩

theorem slot_hit_drops_rebalance : ¬ RebalanceRequestsHonoured := by
  intro honoured
  have reachable : Reachable sequentialAction (LeafSystem.init 100 .fifo 1) rebalanceState :=
    Reachable.start.runActions rebalanceSchedule (by decide)
  rcases honoured 100 .fifo 1 0 3 (.getTask true) rebalanceState slotHitState reachable
      (by decide) rfl (by decide) (by decide) rfl with ⟨taskBatch, handed⟩ | bound
  · simp [slotHitState, rebalanceState] at handed
  · exact absurd bound (by decide)

end Nanos6.Scheduling
