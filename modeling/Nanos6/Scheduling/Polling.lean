import Nanos6.Scheduling.LeafScheduler

namespace Nanos6.Scheduling

/-! # The polling loop of `getTask`

    unsigned int iterations = 0;
    while (task == nullptr && iterations < _pollingIterations) { ... ++iterations; }

The counter counts every poll while the `size_t` budget is below `2^32`, and wraps to 0 before
it reaches a larger budget.
-/

theorem LeafScheduler.poll_empty {leaf : LeafScheduler} (empty : leaf.pollingSlot.task = none) :
    { leaf with pollingSlot := leaf.pollingSlot.getTask.2 } = leaf := by
  obtain ⟨_, _, _, ⟨task⟩, _, _⟩ := leaf
  subst empty
  rfl

theorem uint32_toNat_lt (iterations : UInt32) : iterations.toNat < 2 ^ 32 :=
  iterations.toBitVec.isLt

theorem uint32_toNat_add_one (iterations : UInt32) :
    (iterations + 1).toNat = (iterations.toNat + 1) % 2 ^ 32 := rfl

theorem uint32_toNat_zero : (0 : UInt32).toNat = 0 := rfl

theorem pollingContinues_iff (pollingIterations : UInt64) (iterations : UInt32) :
    pollingContinues pollingIterations none iterations = true ↔
      iterations.toNat < pollingIterations.toNat := by
  simp only [pollingContinues, Option.isNone_none, Bool.true_and, decide_eq_true_eq]
  exact Iff.rfl

namespace LeafSystem

variable {system : LeafSystem} {thread : Nat} {iterations : UInt32}

theorem step_poll (polling : system.threads[thread]? = some (.getTaskPoll none iterations))
    (empty : system.leaf.pollingSlot.task = none)
    (below : iterations.toNat < system.leaf.pollingIterations.toNat) :
    system.step (.run thread) =
      some { system with threads := system.threads.set thread (.getTaskPoll none (iterations + 1)) } := by
  have continues := (pollingContinues_iff _ _).mpr below
  simp only [step, polling, stepThread, continues, if_true, PollingSlot.getTask_fst, empty,
    LeafScheduler.poll_empty empty, List.map_nil, List.append_nil, Option.map_some']

theorem step_poll_exit (polling : system.threads[thread]? = some (.getTaskPoll none iterations))
    (reached : system.leaf.pollingIterations.toNat ≤ iterations.toNat) :
    system.step (.run thread) =
      some { system with threads := system.threads.set thread .getTaskRecheck } := by
  have stops : pollingContinues system.leaf.pollingIterations none iterations = false := by
    rw [← Bool.not_eq_true, pollingContinues_iff]
    omega
  simp only [step, polling, stepThread, stops, Bool.false_eq_true, if_false, List.map_nil,
    List.append_nil, Option.map_some']

theorem step_recheck_empty (rechecking : system.threads[thread]? = some .getTaskRecheck)
    (empty : system.leaf.pollingSlot.task = none) :
    system.step (.run thread) =
      some ⟨{ system.leaf with idle := true }, system.threads.set thread .idle,
        system.log ++ [.event .cpuBecomesIdle, .event (.returned thread none)]⟩ := by
  obtain ⟨⟨_, _, _, ⟨task⟩, _, _⟩, _, _⟩ := system
  subst empty
  simp only [step, rechecking, stepThread, PollingSlot.getTask_fst, Option.map_some',
    List.map_cons, List.map_nil]
  rfl

theorem runActions_polls (polling : system.threads[thread]? = some (.getTaskPoll none iterations))
    (empty : system.leaf.pollingSlot.task = none) (n : Nat)
    (budget : ∀ j < n, (iterations.toNat + j) % 2 ^ 32 < system.leaf.pollingIterations.toNat) :
    ∃ reached : UInt32, reached.toNat = (iterations.toNat + n) % 2 ^ 32 ∧
      system.runActions anyAction (List.replicate n (.run thread)) =
        some { system with threads := system.threads.set thread (.getTaskPoll none reached) } := by
  induction n generalizing system iterations with
  | zero =>
      refine ⟨iterations, (Nat.mod_eq_of_lt (uint32_toNat_lt iterations)).symm, ?_⟩
      simp only [List.replicate_zero, runActions, set_self_of_getElem? polling]
  | succ n ih =>
      have below := budget 0 (Nat.succ_pos n)
      rw [Nat.add_zero, Nat.mod_eq_of_lt (uint32_toNat_lt iterations)] at below
      have polled : (system.threads.set thread (.getTaskPoll none (iterations + 1)))[thread]? =
          some (.getTaskPoll none (iterations + 1)) :=
        List.getElem?_set_self (List.getElem?_eq_some_iff.mp polling).1
      have shifted : ∀ j < n, ((iterations + 1).toNat + j) % 2 ^ 32 <
          system.leaf.pollingIterations.toNat := by
        intro j within
        rw [uint32_toNat_add_one, Nat.mod_add_mod, Nat.add_assoc, Nat.add_comm 1 j]
        exact budget (j + 1) (Nat.succ_lt_succ within)
      obtain ⟨reached, counted, ran⟩ := @ih { system with
        threads := system.threads.set thread (.getTaskPoll none (iterations + 1)) }
        (iterations + 1) polled empty shifted
      refine ⟨reached, ?_, ?_⟩
      · rw [counted, uint32_toNat_add_one, Nat.mod_add_mod, Nat.add_assoc, Nat.add_comm 1 n]
      · rw [List.replicate_succ, runActions_cons rfl (step_poll polling empty below), ran]
        simp only [List.set_set]

/-- Below `2^32` the budget is honoured: with the slot empty, after `n` turns for any `n` up
to `_pollingIterations` the counter holds `n`; the loop then exits, and the recheck marks the
leaf idle and returns `nullptr`. -/
theorem polling_budget_honoured (polling : system.threads[thread]? = some (.getTaskPoll none 0))
    (empty : system.leaf.pollingSlot.task = none)
    (small : system.leaf.pollingIterations.toNat < 2 ^ 32) :
    (∀ n ≤ system.leaf.pollingIterations.toNat, ∃ iterations : UInt32, iterations.toNat = n ∧
      system.runActions anyAction (List.replicate n (.run thread)) =
        some { system with threads := system.threads.set thread (.getTaskPoll none iterations) }) ∧
    system.runActions anyAction
        (List.replicate (system.leaf.pollingIterations.toNat + 2) (.run thread)) =
      some ⟨{ system.leaf with idle := true }, system.threads.set thread .idle,
        system.log ++ [.event .cpuBecomesIdle, .event (.returned thread none)]⟩ := by
  have polls : ∀ n ≤ system.leaf.pollingIterations.toNat, ∃ iterations : UInt32,
      iterations.toNat = n ∧ system.runActions anyAction (List.replicate n (.run thread)) =
        some { system with threads := system.threads.set thread (.getTaskPoll none iterations) } := by
    intro n within
    obtain ⟨reached, counted, ran⟩ := runActions_polls polling empty n fun j below => by
      rw [Nat.mod_eq_of_lt (by simp only [uint32_toNat_zero]; omega)]
      simp only [uint32_toNat_zero]
      omega
    exact ⟨reached, by rw [counted, uint32_toNat_zero, Nat.zero_add, Nat.mod_eq_of_lt (by omega)],
      ran⟩
  refine ⟨polls, ?_⟩
  obtain ⟨iterations, counted, ran⟩ := polls _ (Nat.le_refl _)
  have atBudget : (system.threads.set thread (.getTaskPoll none iterations))[thread]? =
      some (.getTaskPoll none iterations) :=
    List.getElem?_set_self (List.getElem?_eq_some_iff.mp polling).1
  have exited := @step_poll_exit { system with
    threads := system.threads.set thread (.getTaskPoll none iterations) } thread iterations atBudget
    (Nat.le_of_eq counted.symm)
  have rechecking : (system.threads.set thread .getTaskRecheck)[thread]? =
      some .getTaskRecheck :=
    List.getElem?_set_self (List.getElem?_eq_some_iff.mp polling).1
  rw [List.replicate_add, runActions_append, ran, Option.some_bind, List.replicate_succ,
    runActions_cons rfl exited, List.replicate_one]
  simp only [List.set_set] at rechecking ⊢
  rw [runActions_cons rfl (@step_recheck_empty { system with
    threads := system.threads.set thread .getTaskRecheck } thread rechecking empty)]
  simp only [List.set_set, runActions]

/-- From `2^32` on, the counter wraps to 0 before it reaches the budget: with the slot empty
the loop never exits, and after `n` turns the counter holds `n mod 2^32`. -/
theorem polling_never_exits (polling : system.threads[thread]? = some (.getTaskPoll none 0))
    (empty : system.leaf.pollingSlot.task = none)
    (large : 2 ^ 32 ≤ system.leaf.pollingIterations.toNat) (n : Nat) :
    ∃ iterations : UInt32, iterations.toNat = n % 2 ^ 32 ∧
      system.runActions anyAction (List.replicate n (.run thread)) =
        some { system with threads := system.threads.set thread (.getTaskPoll none iterations) } := by
  obtain ⟨reached, counted, ran⟩ := runActions_polls polling empty n fun j _ =>
    Nat.lt_of_lt_of_le (Nat.mod_lt _ (Nat.two_pow_pos 32)) large
  exact ⟨reached, by rw [counted, uint32_toNat_zero, Nat.zero_add], ran⟩

end LeafSystem

def shortPollState : LeafSystem :=
  ⟨⟨3, 0, false, ⟨none⟩, ⟨.fifo, []⟩, false⟩, [.getTaskPoll none 0],
    [.call 0 (.getTask true), .event .parentGetTask]⟩

theorem shortPollState_reachable :
    Reachable anyAction (LeafSystem.init 3 .fifo 1) shortPollState :=
  Reachable.start.runActions [.invoke 0 (.getTask true), .run 0, .run 0, .run 0, .run 0, .run 0]
    (by decide)

theorem short_poll_goes_idle :
    shortPollState.runActions anyAction (List.replicate 5 (.run 0)) =
      some ⟨{ shortPollState.leaf with idle := true }, [.idle],
        shortPollState.log ++ [.event .cpuBecomesIdle, .event (.returned 0 none)]⟩ :=
  (@LeafSystem.polling_budget_honoured shortPollState 0 rfl rfl (by decide)).2

def wrapState : LeafSystem :=
  ⟨⟨4294967296, 0, false, ⟨none⟩, ⟨.fifo, []⟩, false⟩, [.getTaskPoll none 0],
    [.call 0 (.getTask true), .event .parentGetTask]⟩

theorem wrapState_reachable : Reachable anyAction (LeafSystem.init 4294967296 .fifo 1) wrapState :=
  Reachable.start.runActions [.invoke 0 (.getTask true), .run 0, .run 0, .run 0, .run 0, .run 0]
    (by decide)

/-- `2^32` polls of the empty slot bring the counter back to 0, still inside the loop. -/
theorem polling_wraps_at_two_pow_32 :
    Reachable anyAction (LeafSystem.init 4294967296 .fifo 1) wrapState ∧
      wrapState.runActions anyAction (List.replicate (2 ^ 32) (.run 0)) = some wrapState := by
  refine ⟨wrapState_reachable, ?_⟩
  obtain ⟨iterations, counted, ran⟩ :=
    @LeafSystem.polling_never_exits wrapState 0 rfl rfl (by decide) (2 ^ 32)
  have wrapped : iterations = 0 := UInt32.toNat.inj counted
  rw [ran, wrapped]
  rfl

end Nanos6.Scheduling
