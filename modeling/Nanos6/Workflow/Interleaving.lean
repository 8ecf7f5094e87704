import Nanos6.Workflow.Ordering

namespace Nanos6.ExecutionWorkflow

def WorkflowEvent.isFetched : WorkflowEvent → Bool
  | .fetched _ => true
  | _ => false

def StartCall.isFetchVector {σ : Type} : StartCall σ → Bool
  | .fetchVector .. => true
  | _ => false

namespace Run

def prepend (earlier : List WorkflowEvent) (run : Run) : Run :=
  ⟨run.pending, earlier ++ run.log⟩

/-- An action that reads only the counters of a run: logging `earlier` first changes nothing but
the log, by `earlier` in front. -/
def Appends (action : Run → Run) : Prop :=
  ∀ earlier run, action (run.prepend earlier) = (action run).prepend earlier

/-- Two runs that agree but for the `fetchVector` calls in their logs. -/
structure Agree (run other : Run) : Prop where
  pending : run.pending = other.pending
  log : run.log.filter (!·.isFetched) = other.log.filter (!·.isFetched)

variable {workflow : Workflow} {run other third : Run}

theorem Agree.refl (run : Run) : Agree run run := ⟨rfl, rfl⟩

theorem Agree.symm (agree : Agree run other) : Agree other run :=
  ⟨agree.pending.symm, agree.log.symm⟩

theorem Agree.trans (first : Agree run other) (second : Agree other third) : Agree run third :=
  ⟨first.pending.trans second.pending, first.log.trans second.log⟩

theorem Appends.agree {action : Run → Run} (appends : Appends action) (agree : Agree run other) :
    Agree (action run) (action other) := by
  have split : ∀ run : Run, action run = (action ⟨run.pending, []⟩).prepend run.log := by
    rintro ⟨pending, log⟩
    simpa [prepend] using appends log ⟨pending, []⟩
  rw [split run, split other, agree.pending]
  exact ⟨rfl, by simp only [prepend, List.filter_append, agree.log]⟩

theorem begin_prepend (earlier : List WorkflowEvent) (step : StepId) :
    (run.prepend earlier).begin workflow step = (run.begin workflow step).prepend earlier := by
  simp [begin, prepend]

theorem complete_appends (workflow : Workflow) :
    ∀ fuel step, Appends (complete workflow fuel step)
  | 0, _ => fun _ _ => rfl
  | fuel + 1, step => fun earlier run => by
      have logged : ({ run.prepend earlier with
          log := (run.prepend earlier).log ++ [.completed step] } : Run) =
          prepend earlier { run with log := run.log ++ [.completed step] } := by
        simp [prepend]
      rw [complete, complete, logged]
      refine List.foldl_hom _ _ _ _ _ fun counted next => ?_
      let down : Run :=
        ⟨Function.update counted.pending next (counted.pending next - 1), counted.log⟩
      show (if down.pending next = 0 then
          complete workflow fuel next ((down.prepend earlier).begin workflow next)
        else down.prepend earlier) =
        prepend earlier (if down.pending next = 0 then
          complete workflow fuel next (down.begin workflow next) else down)
      split_ifs
      · rw [begin_prepend, complete_appends workflow fuel next]
      · rfl

theorem perform_of_isFetchVector {call : StartCall StepId} (fetch : call.isFetchVector) :
    Agree (run.perform workflow call) run := by
  cases call with
  | fetchVector fragments steps source =>
      exact ⟨rfl, by simp [perform, WorkflowEvent.isFetched]⟩
  | _ => simp [StartCall.isFetchVector] at fetch

theorem completions_agree (agree : Agree run other) (order : List Nat) :
    Agree (order.foldl (fun run index => run.complete workflow chainFuel (.copy index)) run)
      (order.foldl (fun run index => run.complete workflow chainFuel (.copy index)) other) := by
  induction order generalizing run other with
  | nil => exact agree
  | cons index rest ih => exact ih ((complete_appends workflow chainFuel (.copy index)).agree agree)

theorem fetchVectors_agree (calls : List (StartCall StepId))
    (fetches : ∀ call ∈ calls, call.isFetchVector) :
    Agree (calls.foldl (perform workflow) run) run := by
  induction calls generalizing run with
  | nil => exact Agree.refl run
  | cons call rest ih =>
      exact (ih fun call member => fetches call (List.mem_cons_of_mem _ member)).trans
        (perform_of_isFetchVector (fetches call (List.mem_cons_self _ _)))

/-- Modelled from the spec: an event of a run in which transfers finish while `start()` still
issues its calls: a call of `start()`, or the transfer of a copy finishing. -/
def handle (workflow : Workflow) (run : Run) : StartCall StepId ⊕ Nat → Run
  | .inl call => run.perform workflow call
  | .inr index => run.complete workflow chainFuel (.copy index)

theorem handle_agree : ∀ (schedule : List (StartCall StepId ⊕ Nat)) (run : Run),
    (∀ call ∈ schedule.filterMap Sum.getLeft?, call.isFetchVector) →
    Agree (schedule.foldl (handle workflow) run)
      ((schedule.filterMap Sum.getRight?).foldl
        (fun run index => run.complete workflow chainFuel (.copy index)) run)
  | [], run, _ => Agree.refl run
  | .inl call :: rest, run, fetches => by
      have fetch : call.isFetchVector := fetches call (by simp)
      exact (handle_agree rest (run.perform workflow call) fun call member =>
        fetches call (by simpa using Or.inr member)).trans
        (completions_agree (perform_of_isFetchVector fetch) _)
  | .inr index :: rest, run, fetches =>
      handle_agree rest (run.complete workflow chainFuel (.copy index)) fun call member =>
        fetches call (by simpa using member)

end Run

/-- Modelled from the spec: `workflow->start()` with the transfers of its copies finishing while
it still issues calls: the loop over the roots, then `schedule`, which interleaves the calls
`start()` makes after its loop with the completions. -/
def Workflow.runInterleaved (workflow : Workflow) (schedule : List (StartCall StepId ⊕ Nat)) :
    Run :=
  schedule.foldl (Run.handle workflow)
    ((workflow.rootSteps.map RootStep.probe).foldl (Run.perform workflow)
      ⟨workflow.predecessors, []⟩)

theorem isFetchVector_of_start {σ : Type} {rootSteps : List (RootStep σ)}
    {calls : List (StartCall σ)}
    (after : rootSteps.map RootStep.probe ++ calls = WorkflowBase.start rootSteps) :
    ∀ call ∈ calls, call.isFetchVector := by
  rw [start_batches_fetches, List.append_cancel_left_eq] at after
  simp only [after, List.mem_map]
  rintro call ⟨source, _, rfl⟩
  rfl

/-- Whatever the interleaving of transfers and `fetchVector` calls, the run agrees with the one
in which the transfers finish after `start()` returns, but for where those calls stand in the
log. -/
theorem runInterleaved_agree (workflow : Workflow) (schedule : List (StartCall StepId ⊕ Nat))
    (calls : workflow.rootSteps.map RootStep.probe ++ schedule.filterMap Sum.getLeft? =
      WorkflowBase.start workflow.rootSteps) :
    Run.Agree (workflow.runInterleaved schedule)
      (workflow.run (schedule.filterMap Sum.getRight?)) := by
  have fetches := isFetchVector_of_start calls
  refine (Run.handle_agree schedule _ fetches).trans ?_
  rw [Workflow.run, ← calls, List.foldl_append]
  exact Run.completions_agree (Run.fetchVectors_agree _ fetches).symm _

section Filter

variable {α : Type} {log other : List α} {earlier later : α}

theorem precedes_filter_iff (p : α → Bool) (keptEarlier : p earlier) (keptLater : p later) :
    Precedes (log.filter p) earlier later ↔ Precedes log earlier later := by
  constructor
  · intro ordered before after split
    exact (List.mem_filter.mp (ordered (before.filter p) (after.filter p)
      (by simp [split, List.filter_cons, keptLater]))).1
  · intro ordered before after split
    obtain ⟨front, back, rfl, frontKept, backKept⟩ := List.filter_eq_append_iff.mp split
    obtain ⟨skipped, rest, rfl, dropped, -, -⟩ := List.filter_eq_cons_iff.mp backKept
    rcases List.mem_append.mp (ordered (front ++ skipped) rest (by simp)) with inFront | inSkipped
    · exact frontKept ▸ List.mem_filter.mpr ⟨inFront, keptEarlier⟩
    · exact absurd keptEarlier (dropped earlier inSkipped)

theorem Precedes.of_filter_eq (p : α → Bool) (same : log.filter p = other.filter p)
    (keptEarlier : p earlier) (keptLater : p later) (ordered : Precedes log earlier later) :
    Precedes other earlier later :=
  (precedes_filter_iff p keptEarlier keptLater).mp
    (same ▸ (precedes_filter_iff p keptEarlier keptLater).mpr ordered)

end Filter

theorem ExecutionOrdered.of_filter_eq {accesses : Nat} {allFetched : Prop}
    {log other : List WorkflowEvent} (ordered : ExecutionOrdered accesses allFetched log)
    (same : log.filter (!·.isFetched) = other.filter (!·.isFetched)) :
    ExecutionOrdered accesses allFetched other := by
  have counted : ∀ event : WorkflowEvent, !event.isFetched →
      other.count event = log.count event :=
    fun event kept => by
      rw [← (List.count_filter kept : (other.filter (!·.isFetched)).count event = _), ← same,
        (List.count_filter kept : (log.filter (!·.isFetched)).count event = _)]
  refine ⟨fun index valid =>
      (ordered.copies_before_execution index valid).of_filter_eq _ same rfl rfl, ?_,
    ordered.execution_before_release.of_filter_eq _ same rfl rfl,
    ordered.release_before_callback.of_filter_eq _ same rfl rfl, ?_, fun all => ?_⟩
  · rw [counted (.started .execution) rfl]; exact ordered.execution_at_most_once
  · rw [counted .finalised rfl]; exact ordered.callback_at_most_once
  · rw [counted (.started .execution) rfl, counted .finalised rfl]; exact ordered.fires_once all

/-- However the transfers of a task's copies interleave with the `fetchVector` calls that start
them, the copies complete before the execution step, the execution, release and notification
steps run in order and at most once, and exactly once when every transfer finished. -/
theorem interleaved_completions_keep_order (copies : List CopyStep)
    (schedule : List (StartCall StepId ⊕ Nat))
    (calls : (executeTaskWorkflow copies).rootSteps.map RootStep.probe ++
      schedule.filterMap Sum.getLeft? = WorkflowBase.start (executeTaskWorkflow copies).rootSteps)
    (distinct : (schedule.filterMap Sum.getRight?).Nodup)
    (fetched : ∀ index ∈ schedule.filterMap Sum.getRight?, index ∈ fetchingIndices 0 copies) :
    ExecutionOrdered copies.length
      (∀ index ∈ fetchingIndices 0 copies, index ∈ schedule.filterMap Sum.getRight?)
      ((executeTaskWorkflow copies).runInterleaved schedule).log :=
  (executeTaskWorkflow_ordered copies _ distinct fetched).of_filter_eq
    (runInterleaved_agree _ schedule calls).log.symm

/-- Two fetches from different nodes, the transfer of the first finishing before the second
`fetchVector` call. -/
theorem completion_between_fetches_keeps_order :
    (executeTaskWorkflow [.cluster true 5 2, .plain, .cluster true 3 1]).rootSteps.map
        RootStep.probe ++ [.fetchVector 1 [⟨.copy 2, true, 3, 1⟩] 3,
          .fetchVector 2 [⟨.copy 0, true, 5, 2⟩] 5] =
      WorkflowBase.start
        (executeTaskWorkflow [.cluster true 5 2, .plain, .cluster true 3 1]).rootSteps ∧
    ExecutionOrdered 3 (∀ index ∈ fetchingIndices 0 [.cluster true 5 2, .plain,
        .cluster true 3 1], index ∈ [2, 0])
      ((executeTaskWorkflow [.cluster true 5 2, .plain, .cluster true 3 1]).runInterleaved
        [.inl (.fetchVector 1 [⟨.copy 2, true, 3, 1⟩] 3), .inr 2,
          .inl (.fetchVector 2 [⟨.copy 0, true, 5, 2⟩] 5), .inr 0]).log :=
  ⟨by decide, interleaved_completions_keep_order [.cluster true 5 2, .plain, .cluster true 3 1]
    [.inl (.fetchVector 1 [⟨.copy 2, true, 3, 1⟩] 3), .inr 2,
      .inl (.fetchVector 2 [⟨.copy 0, true, 5, 2⟩] 5), .inr 0] (by decide) (by decide)
    (by decide)⟩

end Nanos6.ExecutionWorkflow
