import Nanos6.Scheduling.Overflow

namespace Nanos6.Scheduling

/-- Runs with no batch from the parent, in which the threshold is only raised, by an update
that starts when no other operation is in progress; any thread calls `addTask`, `getTask` or
`disable` at any time. -/
def raisingAction (system : LeafSystem) : LeafAction → Bool
  | .invoke _ (.addTaskBatch _) => false
  | .invoke _ (.updateQueueThreshold queueThreshold) =>
      decide system.Quiescent && decide (system.leaf.queueThreshold ≤ queueThreshold)
  | _ => true

/-- An `addTask` that pushed its task and hands a batch to the parent if the threshold is at
most `bound`: at the comparison with more than `bound` tasks counted, or on the overflow path
before the batch is taken. -/
def Pc.overflowPending (bound : Nat) : Pc → Bool
  | .addTaskCompare elements => decide (bound < elements)
  | .overflowThreshold .addTask | .overflowTakeBatch _ .addTask => true
  | _ => false

def Pc.storesThreshold : Pc → Option Nat
  | .updateCompare queueThreshold | .updateSetRebalance queueThreshold
  | .updateStore queueThreshold => some queueThreshold
  | _ => none

/-- The statements such runs meet: none of `addTaskBatch`, and an overflow takes a batch of at
least one task. -/
def Pc.raisingShape : Pc → Bool
  | .batchTrySlot _ | .batchResume _ | .batchEnqueue _ => false
  | .overflowTakeBatch th _ => decide (0 < th)
  | _ => true

theorem Operation.overflowPending_entry (operation : Operation) (bound : Nat) :
    operation.entry.overflowPending bound = false := by
  cases operation with
  | addTask _ hasComputePlace => cases hasComputePlace <;> rfl
  | _ => rfl

theorem Operation.raisingShape_entry {system : LeafSystem} {thread : Nat} {operation : Operation}
    (allowed : raisingAction system (.invoke thread operation)) : operation.entry.raisingShape := by
  cases operation with
  | addTask _ hasComputePlace => cases hasComputePlace <;> rfl
  | addTaskBatch => cases allowed
  | _ => rfl

theorem stepThread_raisingShape {leaf after : LeafScheduler} {thread : Nat} {pc next : Pc}
    {events : List LeafEvent} (shape : pc.raisingShape)
    (stepped : stepThread leaf thread pc = some (after, next, events)) :
    next.raisingShape ∧ (next.storesThreshold = none ∨ next.storesThreshold = pc.storesThreshold) ∧
      (after.queueThreshold = leaf.queueThreshold ∨
        pc.storesThreshold = some after.queueThreshold ∧ next.storesThreshold = none) := by
  cases pc
  case overflowHandBatch taskBatch caller =>
    cases stepped
    cases caller <;> exact ⟨rfl, .inl rfl, .inl rfl⟩
  case overflowThreshold caller =>
    cases stepped
    exact ⟨by simp [Pc.raisingShape, overflowBatchSize_pos], .inl rfl, .inl rfl⟩
  case batchTrySlot | batchResume | batchEnqueue => cases shape
  all_goals simp only [stepThread] at stepped; (repeat' split at stepped) <;> cases stepped <;>
    first
      | exact ⟨rfl, .inl rfl, .inl rfl⟩
      | exact ⟨rfl, .inr rfl, .inl rfl⟩
      | exact ⟨rfl, .inl rfl, .inr ⟨rfl, rfl⟩⟩

theorem stepThread_pendingOverflow {leaf after : LeafScheduler} {thread : Nat} {pc next : Pc}
    {events : List LeafEvent} (shape : pc.raisingShape)
    (stepped : stepThread leaf thread pc = some (after, next, events)) {bound : Nat}
    (above : leaf.queueThreshold ≤ bound) :
    after.queue.getSize + (if pc.overflowPending bound then 1 else 0) ≤
        leaf.queue.getSize + (if next.overflowPending bound then 1 else 0) ∨
      after.queue.getSize ≤ bound := by
  cases pc
  case addTaskEnqueue task =>
    cases stepped
    simp only [Pc.overflowPending, TaskQueue.addTask_getSize, TaskQueue.addTask_elements,
      decide_eq_true_eq, Bool.false_eq_true, ↓reduceIte]
    split <;> omega
  case overflowTakeBatch th caller =>
    have batch : 0 < th := by simpa [Pc.raisingShape] using shape
    cases stepped
    cases caller <;> simp only [Pc.overflowPending, TaskQueue.getTaskBatch_getSize,
      Bool.false_eq_true, ↓reduceIte] <;> omega
  case overflowThreshold caller | overflowHandBatch _ caller =>
    cases stepped
    cases caller <;> exact .inl (Nat.le_refl _)
  case getTaskPopQueue doWait =>
    simp only [stepThread] at stepped
    split at stepped <;> cases stepped <;>
      simp only [Pc.overflowPending, TaskQueue.getTask_getSize, Bool.false_eq_true, ↓reduceIte] <;>
      omega
  case disableTakeQueue =>
    cases stepped
    simp only [Pc.overflowPending, TaskQueue.getTaskBatch_getSize, Bool.false_eq_true,
      ↓reduceIte]
    omega
  case addTaskCompare elements =>
    simp only [stepThread] at stepped
    split at stepped <;> cases stepped <;>
      simp only [Pc.overflowPending, decide_eq_true_eq, Bool.false_eq_true, ↓reduceIte] <;>
      split <;> omega
  case batchTrySlot | batchResume | batchEnqueue => cases shape
  all_goals simp only [stepThread] at stepped; (repeat' split at stepped) <;> cases stepped <;>
    exact .inl (Nat.le_refl _)

/-- What every run of `raisingAction` keeps: the statements it meets, an update in progress
alone and raising the threshold, and, for every bound from the threshold up, the queue within
the bound plus the overflows pending above it. -/
structure RaisingBound (system : LeafSystem) : Prop where
  shape : ∀ thread, (pcAt system.threads thread).raisingShape
  updating : ∀ thread queueThreshold,
    (pcAt system.threads thread).storesThreshold = some queueThreshold →
      system.leaf.queueThreshold ≤ queueThreshold ∧
        ∀ other, other ≠ thread → (pcAt system.threads other).storesThreshold = none
  bound : ∀ bound, system.leaf.queueThreshold ≤ bound →
    system.leaf.queue.getSize ≤ bound + system.threads.countP (Pc.overflowPending bound)

namespace RaisingBound

variable {system next : LeafSystem} {action : LeafAction}

theorem init (pollingIterations : UInt64) (policy : SchedulingPolicy) (threadCount : Nat) :
    RaisingBound (LeafSystem.init pollingIterations policy threadCount) where
  shape thread := by simp only [LeafSystem.init, pcAt_replicate_idle]; rfl
  updating thread _ := by simp only [LeafSystem.init, pcAt_replicate_idle]; nofun
  bound _ _ := Nat.zero_le _

theorem countP_overflowPending_set {threads : List Pc} {thread : Nat} {pc : Pc}
    (found : threads[thread]? = some pc) (next : Pc) (bound : Nat) :
    (threads.set thread next).countP (Pc.overflowPending bound) +
        (if pc.overflowPending bound then 1 else 0) =
      threads.countP (Pc.overflowPending bound) + (if next.overflowPending bound then 1 else 0) := by
  obtain ⟨within, rfl⟩ := List.getElem?_eq_some_iff.mp found
  have counted := List.boole_getElem_le_countP (Pc.overflowPending bound) threads thread within
  rw [List.countP_set _ _ _ _ within]
  omega

theorem invoke (bounded : RaisingBound system) {thread : Nat} {operation : Operation}
    (allowed : raisingAction system (.invoke thread operation))
    (stepped : system.step (.invoke thread operation) = some next) : RaisingBound next := by
  obtain ⟨idleThread, -, rfl⟩ := LeafSystem.step_invoke stepped
  refine ⟨fun other => ?_, fun updater queueThreshold stores => ?_, fun bound above => ?_⟩
  · by_cases same : thread = other
    · subst same
      rw [pcAt_set_self idleThread]
      exact Operation.raisingShape_entry allowed
    · rw [pcAt_set_ne same]
      exact bounded.shape other
  · by_cases update : ∃ raised, operation = .updateQueueThreshold raised
    · -- the update starts alone: every other thread is idle
      obtain ⟨raised, rfl⟩ := update
      simp only [raisingAction, Bool.and_eq_true, decide_eq_true_eq] at allowed
      have idle := quiescent_iff_pcAt.mp allowed.1
      have starter : updater = thread := by
        by_contra distinct
        rw [pcAt_set_ne (Ne.symm distinct), idle] at stores
        cases stores
      subst starter
      rw [pcAt_set_self idleThread] at stores
      cases stores
      refine ⟨allowed.2, fun other distinct => ?_⟩
      rw [pcAt_set_ne (Ne.symm distinct), idle]
      rfl
    · have quiet : operation.entry.storesThreshold = none := by
        cases operation with
        | addTask _ hasComputePlace => cases hasComputePlace <;> rfl
        | updateQueueThreshold raised => exact absurd ⟨raised, rfl⟩ update
        | _ => rfl
      have other : updater ≠ thread := by
        rintro rfl
        rw [pcAt_set_self idleThread, quiet] at stores
        cases stores
      rw [pcAt_set_ne (Ne.symm other)] at stores
      obtain ⟨raises, alone⟩ := bounded.updating updater queueThreshold stores
      refine ⟨raises, fun another distinct => ?_⟩
      by_cases same : thread = another
      · subst same
        rwa [pcAt_set_self idleThread]
      · rw [pcAt_set_ne same]
        exact alone another distinct
  · have moved := countP_overflowPending_set idleThread operation.entry bound
    rw [Operation.overflowPending_entry] at moved
    have before := bounded.bound bound above
    simp only [Pc.overflowPending] at moved above ⊢
    omega

theorem run (bounded : RaisingBound system) {thread : Nat}
    (stepped : system.step (.run thread) = some next) : RaisingBound next := by
  obtain ⟨pc, leaf, after, events, found, stepping, rfl⟩ := LeafSystem.step_run stepped
  have shape := bounded.shape thread
  have updating := bounded.updating thread
  rw [pcAt_of_getElem? found] at shape updating
  obtain ⟨nextShape, continues, threshold⟩ := stepThread_raisingShape shape stepping
  have rises : system.leaf.queueThreshold ≤ leaf.queueThreshold := by
    rcases threshold with same | ⟨stored, -⟩
    · exact same.ge
    · exact (updating _ stored).1
  -- outside an update, or still inside one, the stepping thread leaves the threshold alone
  have unchanged (still : pc.storesThreshold = none ∨ after.storesThreshold ≠ none) :
      leaf.queueThreshold = system.leaf.queueThreshold := by
    rcases threshold with same | ⟨stored, ended⟩
    · exact same
    · rcases still with outside | inside
      · rw [outside] at stored
        cases stored
      · exact absurd ended inside
  refine ⟨fun other => ?_, fun updater queueThreshold stores => ?_, fun bound above => ?_⟩
  · by_cases same : thread = other
    · subst same
      rwa [pcAt_set_self found]
    · rw [pcAt_set_ne same]
      exact bounded.shape other
  · by_cases same : updater = thread
    · -- the stepping thread is still in its update
      subst same
      rw [pcAt_set_self found] at stores
      have carried : pc.storesThreshold = some queueThreshold := by
        rcases continues with ended | kept
        · rw [ended] at stores
          cases stores
        · rwa [← kept]
      obtain ⟨raises, alone⟩ := updating queueThreshold carried
      refine ⟨unchanged (.inr (by rw [stores]; nofun)) ▸ raises, fun other distinct => ?_⟩
      rw [pcAt_set_ne (Ne.symm distinct)]
      exact alone other distinct
    · -- another thread's update: the stepping thread is not in one
      rw [pcAt_set_ne (Ne.symm same)] at stores
      obtain ⟨raises, alone⟩ := bounded.updating updater queueThreshold stores
      have outside := alone thread (Ne.symm same)
      rw [pcAt_of_getElem? found] at outside
      refine ⟨unchanged (.inl outside) ▸ raises, fun other distinct => ?_⟩
      by_cases mover : thread = other
      · subst mover
        rw [pcAt_set_self found]
        rcases continues with ended | carried
        · exact ended
        · rw [carried, outside]
      · rw [pcAt_set_ne mover]
        exact alone other distinct
  · have moved := countP_overflowPending_set found after bound
    have before := bounded.bound bound (Nat.le_trans rises above)
    rcases stepThread_pendingOverflow shape stepping (Nat.le_trans rises above) with grows | within
    · simp only at moved ⊢
      omega
    · simp only at within ⊢
      omega

theorem step (bounded : RaisingBound system) (allowed : raisingAction system action)
    (stepped : system.step action = some next) : RaisingBound next := by
  cases action with
  | invoke thread operation => exact bounded.invoke allowed stepped
  | run thread => exact bounded.run stepped

end RaisingBound

theorem countP_overflowPending_of_quiescent {system : LeafSystem} (quiescent : system.Quiescent)
    (bound : Nat) : system.threads.countP (Pc.overflowPending bound) = 0 :=
  List.countP_eq_zero.mpr fun pc member => by rw [quiescent pc member]; nofun

/-- However `addTask`, `getTask` and `disable` calls interleave, with no batch from the parent
and the threshold only raised by an update that starts alone, the queue holds at most
`_queueThreshold` tasks plus one per `addTask` that counted more and has not yet taken its
overflow batch; whenever no operation is in progress it holds at most `_queueThreshold`. -/
theorem queue_bound_under_contention {pollingIterations : UInt64} {policy : SchedulingPolicy}
    {threadCount : Nat} {system : LeafSystem}
    (reachable : Reachable raisingAction (LeafSystem.init pollingIterations policy threadCount)
      system) :
    system.leaf.queue.getSize ≤ system.leaf.queueThreshold +
        system.threads.countP (Pc.overflowPending system.leaf.queueThreshold) ∧
      (system.Quiescent → system.leaf.queue.getSize ≤ system.leaf.queueThreshold) := by
  have bounded : RaisingBound system := by
    induction reachable with
    | start => exact RaisingBound.init _ _ _
    | step _ allowed stepped bounded => exact bounded.step allowed stepped
  have bound := bounded.bound _ (Nat.le_refl _)
  refine ⟨bound, fun quiescent => ?_⟩
  rwa [countP_overflowPending_of_quiescent quiescent, Nat.add_zero] at bound

/-- Threads 0 and 1 each push a local task onto the empty queue of a fresh leaf, whose
threshold is 0, and stop before comparing the count. -/
def twoPushesSchedule : List LeafAction :=
  [.invoke 0 (.addTask 1 true), .run 0, .invoke 1 (.addTask 2 true), .run 1]

def twoPushesState : LeafSystem :=
  ⟨⟨100, 0, false, ⟨none⟩, ⟨.fifo, [1, 2]⟩, false⟩, [.addTaskCompare 1, .addTaskCompare 2],
    [.call 0 (.addTask 1 true), .call 1 (.addTask 2 true)]⟩

theorem twoPushesSchedule_runs :
    (LeafSystem.init 100 .fifo 2).runActions raisingAction twoPushesSchedule =
      some twoPushesState := by
  decide

/-- Two pushes waiting for their hand-offs hold the queue two tasks over the threshold, all the
slack the bound allows. -/
theorem two_pending_pushes_fill_the_slack :
    Reachable raisingAction (LeafSystem.init 100 .fifo 2) twoPushesState ∧
      twoPushesState.leaf.queue.getSize = twoPushesState.leaf.queueThreshold + 2 ∧
      twoPushesState.leaf.queue.getSize ≤ twoPushesState.leaf.queueThreshold +
        twoPushesState.threads.countP (Pc.overflowPending twoPushesState.leaf.queueThreshold) :=
  have reachable := Reachable.start.runActions _ twoPushesSchedule_runs
  ⟨reachable, rfl, (queue_bound_under_contention reachable).1⟩

end Nanos6.Scheduling
