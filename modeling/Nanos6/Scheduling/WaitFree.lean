import Nanos6.Scheduling.Polling

namespace Nanos6.Scheduling

def OverflowCaller.remaining : OverflowCaller → Nat
  | .addTask => 1
  | .getTask _ => 0

/-- The most steps a thread at `pc` takes before it returns, with a polling budget of `P`:
`getTask` with `doWait` polls the slot at most `P` times. -/
def Pc.remaining (P : Nat) : Pc → Nat
  | .idle => 0
  | .addTaskClearRebalance | .batchEnqueue _ | .getTaskSlotHit _ | .getTaskRecheck
  | .disableHandBatch _ | .updateStore _ => 1
  | .addTaskResume | .batchResume _ | .getTaskPollOnce | .disableTakeSlot _
  | .updateSetRebalance _ => 2
  | .batchTrySlot _ | .disableTakeQueue | .updateCompare _ => 3
  | .disableUnidleCPU | .getTaskCompareSize _ => 4
  | .disableUnidleChild | .getTaskExchangeRebalance _ | .addTaskCompare _ => 5
  | .disableUnidle | .addTaskEnqueue _ | .getTaskCheckRebalance _ => 6
  | .disableCheckIdle | .addTaskTrySlot _ => 7
  | .overflowHandBatch _ caller => caller.remaining + 1
  | .overflowTakeBatch _ caller => caller.remaining + 2
  | .overflowThreshold caller => caller.remaining + 3
  | .getTaskPoll task iterations => if task.isSome then 1 else P - iterations.toNat + 2
  | .getTaskAskParent _ => P + 3
  | .getTaskClearRebalance _ => P + 4
  | .getTaskPopQueue _ => P + 7
  | .getTaskPollSlot _ => P + 8
  | .getTaskUnidleCPU _ => P + 9
  | .getTaskUnidle _ => P + 10
  | .getTaskCheckIdle _ => P + 11

theorem stepThread_remaining {leaf after : LeafScheduler} {thread : Nat} {pc next : Pc}
    {events : List LeafEvent} (small : leaf.pollingIterations.toNat < 2 ^ 32)
    (stepped : stepThread leaf thread pc = some (after, next, events)) :
    after.pollingIterations = leaf.pollingIterations ∧ (∀ taskBatch, next ≠ .batchTrySlot taskBatch) ∧
      next.remaining leaf.pollingIterations.toNat < pc.remaining leaf.pollingIterations.toNat := by
  cases pc
  case getTaskPoll task iterations =>
    simp only [stepThread] at stepped
    split at stepped
    · rename_i continues
      cases task with
      | some => simp [pollingContinues] at continues
      | none =>
          -- one more poll: the counter counts it without wrapping
          have below := (pollingContinues_iff _ _).mp continues
          have counted := uint32_toNat_add_one iterations
          cases stepped
          refine ⟨rfl, nofun, ?_⟩
          cases leaf.pollingSlot.getTask.1 <;> simp only [Pc.remaining, Option.isSome_some,
            Option.isSome_none, Bool.false_eq_true, ↓reduceIte] <;> omega
    · cases task <;> cases stepped <;> refine ⟨rfl, nofun, ?_⟩ <;>
        simp only [Pc.remaining, returnTask, Option.isSome_some, Option.isSome_none,
          Bool.false_eq_true, ↓reduceIte] <;> omega
  case overflowHandBatch taskBatch caller =>
    cases caller <;> cases stepped <;>
      simp [Pc.remaining, OverflowCaller.remaining, OverflowCaller.resume, returnTask]
  all_goals simp only [stepThread] at stepped; (repeat' split at stepped) <;> cases stepped <;>
    refine ⟨rfl, nofun, ?_⟩ <;> simp only [Pc.remaining, OverflowCaller.remaining, returnTask,
      Option.isSome_none, Bool.false_eq_true, ↓reduceIte] <;> omega

theorem stepThread_isSome {leaf : LeafScheduler} {thread : Nat} {pc : Pc} (busy : pc ≠ .idle)
    (nonempty : pc ≠ .batchTrySlot []) : (stepThread leaf thread pc).isSome := by
  cases pc
  case idle => exact absurd rfl busy
  case batchTrySlot taskBatch =>
    cases last : taskBatch.getLast? with
    | none => exact absurd (by rw [List.getLast?_eq_none_iff.mp last]) nonempty
    | some task => simp [stepThread, last]
  all_goals simp only [stepThread]; (repeat' split) <;> rfl

namespace LeafSystem

/-- What every reachable state of a leaf keeps: its polling budget, and no thread at
`taskBatch.back()` of an empty batch, since `addTaskBatch` is called with a non-empty one. -/
structure Bounded (P : UInt64) (system : LeafSystem) : Prop where
  budget : system.leaf.pollingIterations = P
  nonempty : ∀ thread, pcAt system.threads thread ≠ .batchTrySlot []

variable {P : UInt64} {system next : LeafSystem} {action : LeafAction}

theorem entry_ne_batchTrySlot {operation : Operation} (admissible : operation.admissible) :
    operation.entry ≠ .batchTrySlot [] := by
  cases operation with
  | addTask task hasComputePlace => cases hasComputePlace <;> nofun
  | addTaskBatch taskBatch =>
      intro same
      cases same
      simp [Operation.admissible] at admissible
  | getTask | disable | updateQueueThreshold => nofun

theorem Bounded.step (small : P.toNat < 2 ^ 32) (bounded : system.Bounded P)
    (stepped : system.step action = some next) : next.Bounded P := by
  cases action with
  | invoke thread operation =>
      obtain ⟨idle, admissible, rfl⟩ := step_invoke stepped
      refine ⟨bounded.budget, fun other => ?_⟩
      by_cases same : thread = other
      · subst same
        rw [pcAt_set_self idle]
        exact entry_ne_batchTrySlot admissible
      · rw [pcAt_set_ne same]
        exact bounded.nonempty other
  | run thread =>
      obtain ⟨pc, leaf, after, events, found, stepping, rfl⟩ := step_run stepped
      obtain ⟨kept, noBatch, -⟩ := stepThread_remaining (bounded.budget ▸ small) stepping
      refine ⟨kept.trans bounded.budget, fun other => ?_⟩
      by_cases same : thread = other
      · subst same
        rw [pcAt_set_self found]
        exact noBatch []
      · rw [pcAt_set_ne same]
        exact bounded.nonempty other

theorem remaining_step (small : P.toNat < 2 ^ 32) (bounded : system.Bounded P)
    (stepped : system.step action = some next) {thread : Nat}
    (notCalled : ∀ operation, action ≠ .invoke thread operation) :
    (pcAt next.threads thread).remaining P.toNat + (if action = .run thread then 1 else 0) ≤
      (pcAt system.threads thread).remaining P.toNat := by
  cases action with
  | invoke other operation =>
      obtain ⟨-, -, rfl⟩ := step_invoke stepped
      have distinct : other ≠ thread := fun same => notCalled operation (by rw [same])
      simp [pcAt_set_ne distinct]
  | run other =>
      obtain ⟨pc, leaf, after, events, found, stepping, rfl⟩ := step_run stepped
      by_cases same : other = thread
      · subst same
        have lower := (stepThread_remaining (bounded.budget ▸ small) stepping).2.2
        rw [bounded.budget] at lower
        simp only [pcAt_set_self found, pcAt_of_getElem? found, if_true]
        omega
      · simp [pcAt_set_ne same, same]

theorem runActions_remaining (small : P.toNat < 2 ^ 32) {thread : Nat}
    {admits : LeafSystem → LeafAction → Bool} :
    ∀ {system after : LeafSystem} {actions : List LeafAction}, system.Bounded P →
      system.runActions admits actions = some after →
      (∀ operation, LeafAction.invoke thread operation ∉ actions) →
      actions.count (.run thread) + (pcAt after.threads thread).remaining P.toNat ≤
        (pcAt system.threads thread).remaining P.toNat
  | _, _, [], _, ran, _ => by cases ran; simp
  | system, after, action :: rest, bounded, ran, notCalled => by
      simp only [runActions] at ran
      split at ran
      · cases stepped : system.step action with
        | none => simp [stepped] at ran
        | some middle =>
            simp only [stepped, Option.bind_some] at ran
            have own := remaining_step small bounded stepped
              fun operation same => notCalled operation (same ▸ List.mem_cons_self _ _)
            have later := runActions_remaining small (bounded.step small stepped) ran
              fun operation member => notCalled operation (List.mem_cons_of_mem _ member)
            by_cases running : action = .run thread
            · subst running
              simp only [if_true] at own
              rw [List.count_cons_self]
              omega
            · simp only [running, if_false] at own
              rw [List.count_cons_of_ne (Ne.symm running)]
              omega
      · cases ran

end LeafSystem

/-- `thread` is never blocked inside an operation, and every run that does not call into it
again gives it at most `(pcAt system.threads thread).remaining P` steps: it returns within
them. -/
def WaitFree (P : Nat) (system : LeafSystem) (thread : Nat) : Prop :=
  (pcAt system.threads thread ≠ .idle → ∃ next, system.step (.run thread) = some next) ∧
    ∀ (admits : LeafSystem → LeafAction → Bool) actions after,
      system.runActions admits actions = some after →
      (∀ operation, LeafAction.invoke thread operation ∉ actions) →
      actions.count (.run thread) + (pcAt after.threads thread).remaining P ≤
        (pcAt system.threads thread).remaining P

theorem Reachable.bounded {allowed : LeafSystem → LeafAction → Bool} {P : UInt64}
    {policy : SchedulingPolicy} {threadCount : Nat} {system : LeafSystem} (small : P.toNat < 2 ^ 32)
    (reachable : Reachable allowed (LeafSystem.init P policy threadCount) system) :
    system.Bounded P := by
  induction reachable with
  | start => exact ⟨rfl, fun thread => by rw [LeafSystem.init, pcAt_replicate_idle]; nofun⟩
  | step _ _ stepped bounded => exact bounded.step small stepped

/-- However the threads interleave, every operation of a leaf is wait-free when the polling
budget fits the loop's `unsigned int` counter: a thread inside `addTask`, `addTaskBatch`,
`getTask`, `disable` or `updateQueueThreshold` always has a next step, and returns within
`Pc.remaining` of its own steps, at most `_pollingIterations + 11`. -/
theorem leaf_operations_wait_free {allowed : LeafSystem → LeafAction → Bool} {P : UInt64}
    {policy : SchedulingPolicy} {threadCount : Nat} {system : LeafSystem} (small : P.toNat < 2 ^ 32)
    (reachable : Reachable allowed (LeafSystem.init P policy threadCount) system) (thread : Nat) :
    WaitFree P.toNat system thread := by
  have bounded := reachable.bounded small
  refine ⟨fun busy => ?_, fun admits actions after ran notCalled =>
    LeafSystem.runActions_remaining small bounded ran notCalled⟩
  cases found : system.threads[thread]? with
  | none => exact absurd (by simp [pcAt, found]) busy
  | some pc =>
      rw [pcAt_of_getElem? found] at busy
      obtain ⟨⟨leaf, after, events⟩, stepping⟩ := Option.isSome_iff_exists.mp
        (@stepThread_isSome system.leaf thread pc busy
          (pcAt_of_getElem? found ▸ bounded.nonempty thread))
      exact ⟨⟨leaf, system.threads.set thread after, system.log ++ events.map .event⟩,
        by simp [LeafSystem.step, found, stepping]⟩

end Nanos6.Scheduling
