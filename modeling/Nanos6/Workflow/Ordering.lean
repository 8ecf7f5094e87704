import Nanos6.Workflow.Engine
import Mathlib.Data.List.Perm.Subperm

namespace Nanos6.ExecutionWorkflow

namespace CopyStep

/-- Whether the copy's `requiresDataFetch()` is true: its transfer completes it later. -/
def fetches : CopyStep → Bool
  | .plain => false
  | .cluster requiresDataFetch _ _ => requiresDataFetch

/-- What probing the copy's root in `start()` logs: a copy that needs no transfer completes. -/
def syncEvents (index : Nat) : CopyStep → List WorkflowEvent
  | .plain => [.started (.copy index), .completed (.copy index)]
  | .cluster requiresDataFetch _ _ => if requiresDataFetch then [] else [.completed (.copy index)]

end CopyStep

def syncEvents (index : Nat) : List CopyStep → List WorkflowEvent
  | [] => []
  | copy :: rest => copy.syncEvents index ++ syncEvents (index + 1) rest

def fetchingIndices (index : Nat) : List CopyStep → List Nat
  | [] => []
  | copy :: rest => (if copy.fetches then [index] else []) ++ fetchingIndices (index + 1) rest

def syncCount (copies : List CopyStep) : Nat := (copies.filter (!·.fetches)).length

theorem syncCount_cons (copy : CopyStep) (rest : List CopyStep) :
    syncCount (copy :: rest) = (if copy.fetches then 0 else 1) + syncCount rest := by
  cases fetch : copy.fetches <;> simp [syncCount, List.filter_cons, fetch]; omega

theorem syncCount_add_fetching (index : Nat) : ∀ copies : List CopyStep,
    syncCount copies + (fetchingIndices index copies).length = copies.length
  | [] => rfl
  | copy :: rest => by
      have counted := syncCount_add_fetching (index + 1) rest
      cases fetch : copy.fetches <;> simp [syncCount_cons, fetchingIndices, fetch] <;> omega

theorem mem_fetchingIndices {index i : Nat} : ∀ {copies : List CopyStep},
    i ∈ fetchingIndices index copies → index ≤ i ∧ i < index + copies.length
  | copy :: rest, member => by
      simp only [fetchingIndices, List.mem_append] at member
      simp only [List.length_cons]
      rcases member with here | later
      · split at here
        · obtain rfl := List.mem_singleton.mp here
          omega
        · exact absurd here (List.not_mem_nil i)
      · have := mem_fetchingIndices later
        omega

theorem fetchingIndices_nodup (index : Nat) : ∀ copies : List CopyStep,
    (fetchingIndices index copies).Nodup
  | [] => List.nodup_nil
  | copy :: rest => by
      have later := fetchingIndices_nodup (index + 1) rest
      cases fetch : copy.fetches <;> simp only [fetchingIndices, fetch, if_true,
        Bool.false_eq_true, if_false, List.nil_append, List.singleton_append, List.nodup_cons,
        later, and_true]
      exact fun above => by have := (mem_fetchingIndices above).1; omega

theorem fetchingIndices_eq_nil {index : Nat} : ∀ {copies : List CopyStep},
    fetchingIndices index copies = [] ↔ ∀ copy ∈ copies, copy.fetches = false
  | [] => by simp [fetchingIndices]
  | copy :: rest => by
      cases fetch : copy.fetches <;> simp [fetchingIndices, fetch, fetchingIndices_eq_nil]

theorem fetchingCopies_copyRoots (index : Nat) : ∀ copies : List CopyStep,
    (fetchingCopies (copyRoots index copies)).map (·.step) =
      (fetchingIndices index copies).map .copy
  | [] => rfl
  | copy :: rest => by
      have later := fetchingCopies_copyRoots (index + 1) rest
      cases copy with
      | plain =>
          simpa [fetchingCopies, copyRoots, fetchingIndices, CopyStep.root, RootStep.fetching?,
            CopyStep.fetches] using later
      | cluster requiresDataFetch source numFragments =>
          cases requiresDataFetch <;>
            simpa [fetchingCopies, copyRoots, fetchingIndices, CopyStep.root, RootStep.fetching?,
              CopyStep.fetches] using later

theorem settled_or_fetching {index i : Nat} : ∀ {copies : List CopyStep},
    index ≤ i → i < index + copies.length →
    .completed (.copy i) ∈ syncEvents index copies ∨ i ∈ fetchingIndices index copies
  | [], _, upper => by simp at upper; omega
  | copy :: rest, lower, upper => by
      by_cases here : i = index
      · subst here
        cases copy with
        | plain => simp [syncEvents, CopyStep.syncEvents]
        | cluster requiresDataFetch source numFragments =>
            cases requiresDataFetch <;>
              simp [syncEvents, CopyStep.syncEvents, fetchingIndices, CopyStep.fetches]
      · simp only [List.length_cons] at upper
        simp only [syncEvents, fetchingIndices, List.mem_append]
        rcases @settled_or_fetching (index + 1) i rest (by omega) (by omega) with synced | fetching
        exacts [.inl (.inr synced), .inr (.inr fetching)]

namespace Run

variable {workflow : Workflow} {run : Run} {step : StepId}

@[simp] theorem begin_pending : (run.begin workflow step).pending = run.pending := rfl

theorem begin_log : (run.begin workflow step).log =
    run.log ++ .started step :: if step = .notification then workflow.callback else [] := rfl

/-- What one completion starts once the execution step's last predecessor completes: the
execution, release and notification steps in turn, the last with its callback. -/
def chain (callback : List WorkflowEvent) : List WorkflowEvent :=
  [.started .execution, .completed .execution, .started .release, .completed .release,
    .started .notification] ++ callback ++ [.completed .notification]

theorem complete_of_waiting {waiting : Nat} (edges : workflow.successors step = [.execution])
    (pending : run.pending .execution = waiting + 2) :
    run.complete workflow chainFuel step =
      ⟨Function.update run.pending .execution (waiting + 1), run.log ++ [.completed step]⟩ := by
  simp only [complete, Function.update_same, begin_pending, edges, List.foldl_cons, pending,
    Nat.add_one_sub_one, Nat.add_one_ne_zero, ↓reduceIte, List.foldl_nil]

theorem complete_of_last (edges : workflow.successors step = [.execution])
    (execution : workflow.successors .execution = [.release])
    (release : workflow.successors .release = [.notification])
    (notification : workflow.successors .notification = [])
    (pendingExecution : run.pending .execution = 1) (pendingRelease : run.pending .release = 1)
    (pendingNotification : run.pending .notification = 1) :
    (run.complete workflow chainFuel step).log =
      run.log ++ .completed step :: chain workflow.callback := by
  simp [complete, chainFuel, edges, execution, release, notification, pendingExecution,
    pendingRelease, pendingNotification, Function.update_apply, begin_log, chain]

theorem perform_root_of_waiting {waiting index : Nat} (copy : CopyStep)
    (edges : workflow.successors (.copy index) = [.execution])
    (pending : run.pending .execution = (if copy.fetches then 0 else 1) + waiting + 1) :
    run.perform workflow (copy.root index).probe =
      ⟨Function.update run.pending .execution (waiting + 1),
        run.log ++ copy.syncEvents index⟩ := by
  cases copy with
  | plain =>
      have waits : run.pending .execution = waiting + 2 := by
        simp [CopyStep.fetches] at pending; omega
      simp [perform, CopyStep.root, RootStep.probe,
        @complete_of_waiting workflow (run.begin workflow _) _ waiting edges waits, begin_log,
        CopyStep.syncEvents]
  | cluster requiresDataFetch source numFragments =>
      cases requiresDataFetch
      · have waits : run.pending .execution = waiting + 2 := by
          simp [CopyStep.fetches] at pending; omega
        simp [perform, CopyStep.root, RootStep.probe, complete_of_waiting edges waits,
          CopyStep.syncEvents]
      · simp only [CopyStep.fetches, if_true, Nat.zero_add] at pending
        simp [perform, CopyStep.root, RootStep.probe, CopyStep.syncEvents, ← pending]

theorem perform_root_of_last {index : Nat} (copy : CopyStep) (sync : copy.fetches = false)
    (edges : workflow.successors (.copy index) = [.execution])
    (execution : workflow.successors .execution = [.release])
    (release : workflow.successors .release = [.notification])
    (notification : workflow.successors .notification = [])
    (pendingExecution : run.pending .execution = 1) (pendingRelease : run.pending .release = 1)
    (pendingNotification : run.pending .notification = 1) :
    (run.perform workflow (copy.root index).probe).log =
      run.log ++ copy.syncEvents index ++ chain workflow.callback := by
  cases copy with
  | plain =>
      simp [perform, CopyStep.root, RootStep.probe, @complete_of_last workflow
        (run.begin workflow _) _ edges execution release notification pendingExecution
        pendingRelease pendingNotification, begin_log, CopyStep.syncEvents]
  | cluster requiresDataFetch source numFragments =>
      simp only [CopyStep.fetches] at sync
      simp [perform, CopyStep.root, RootStep.probe, sync, complete_of_last edges execution release
        notification pendingExecution pendingRelease pendingNotification, CopyStep.syncEvents]

theorem perform_roots_of_waiting {waiting : Nat} : ∀ (copies : List CopyStep) (index : Nat)
    (run : Run), (∀ j, index ≤ j → j < index + copies.length →
      workflow.successors (.copy j) = [.execution]) →
    run.pending .execution = syncCount copies + waiting + 1 →
    ((copyRoots index copies).map RootStep.probe).foldl (perform workflow) run =
      ⟨Function.update run.pending .execution (waiting + 1), run.log ++ syncEvents index copies⟩
  | [], _, ⟨pending, log⟩, _, counted => by
      simp only [syncCount, List.filter_nil, List.length_nil, Nat.zero_add] at counted
      simp [copyRoots, syncEvents, ← counted]
  | copy :: rest, index, run, edges, counted => by
      have first := @perform_root_of_waiting workflow run (syncCount rest + waiting) index copy
        (edges index le_rfl (Nat.lt_add_of_pos_right (Nat.succ_pos _)))
        (by rw [counted, syncCount_cons]; omega)
      rw [copyRoots, List.map_cons, List.foldl_cons, first, @perform_roots_of_waiting
        waiting rest (index + 1) _
        (fun j lower upper => edges j (by omega) (by rw [List.length_cons]; omega))
        (Function.update_same .execution _ run.pending)]
      simp only [syncEvents, Function.update_idem, List.append_assoc]

theorem perform_roots_of_last (execution : workflow.successors .execution = [.release])
    (release : workflow.successors .release = [.notification])
    (notification : workflow.successors .notification = []) :
    ∀ (copies : List CopyStep) (index : Nat) (run : Run), copies ≠ [] →
    (∀ copy ∈ copies, copy.fetches = false) →
    (∀ j, index ≤ j → j < index + copies.length →
      workflow.successors (.copy j) = [.execution]) →
    run.pending .execution = copies.length → run.pending .release = 1 →
    run.pending .notification = 1 →
    (((copyRoots index copies).map RootStep.probe).foldl (perform workflow) run).log =
      run.log ++ syncEvents index copies ++ chain workflow.callback
  | [copy], index, run, _, sync, edges, pendingExecution, pendingRelease, pendingNotification => by
      simp only [copyRoots, List.map_cons, List.map_nil, List.foldl_cons, List.foldl_nil,
        syncEvents, List.append_nil, perform_root_of_last copy
        (sync copy (List.mem_singleton_self _))
        (edges index le_rfl (Nat.lt_add_of_pos_right (Nat.succ_pos _))) execution release
        notification pendingExecution pendingRelease pendingNotification]
  | copy :: next :: rest, index, run, _, sync, edges, pendingExecution, pendingRelease,
      pendingNotification => by
      have first := @perform_root_of_waiting workflow run rest.length index copy
        (edges index le_rfl (Nat.lt_add_of_pos_right (Nat.succ_pos _)))
        (by simp only [sync copy (List.mem_cons_self _ _), pendingExecution, List.length_cons,
          Bool.false_eq_true, ↓reduceIte]; omega)
      have later := perform_roots_of_last execution release notification (next :: rest) (index + 1)
        ⟨Function.update run.pending .execution (rest.length + 1),
          run.log ++ copy.syncEvents index⟩
        (List.cons_ne_nil _ _) (fun c member => sync c (List.mem_cons_of_mem _ member))
        (fun j lower upper => edges j (by omega)
          (by simp only [List.length_cons] at upper ⊢; omega))
        (Function.update_same .execution _ run.pending)
        (by simpa using pendingRelease) (by simpa using pendingNotification)
      rw [copyRoots, List.map_cons, List.foldl_cons, first, later]
      simp only [syncEvents, List.append_assoc]

theorem perform_fetchVectors (numFragments : (_ : Nat) × List (ClusterCopy StepId) → UInt64) :
    ∀ (groups : PlaceMap (List (ClusterCopy StepId))) (run : Run),
    (groups.map fun group => StartCall.fetchVector (numFragments group) group.2 group.1).foldl
        (perform workflow) run =
      ⟨run.pending, run.log ++ groups.map fun group => .fetched (group.2.map (·.step))⟩
  | [], _ => by simp
  | group :: rest, run => by
      simp [perform, perform_fetchVectors numFragments rest]

theorem complete_all_of_waiting {waiting : Nat} : ∀ (order : List Nat) (run : Run),
    (∀ index ∈ order, workflow.successors (.copy index) = [.execution]) →
    run.pending .execution = order.length + waiting + 1 →
    order.foldl (fun run index => run.complete workflow chainFuel (.copy index)) run =
      ⟨Function.update run.pending .execution (waiting + 1),
        run.log ++ order.map fun index => .completed (.copy index)⟩
  | [], ⟨pending, log⟩, _, counted => by
      simp only [List.length_nil, Nat.zero_add] at counted
      simp [← counted]
  | index :: rest, run, edges, counted => by
      have first := @complete_of_waiting workflow run _ (rest.length + waiting)
        (edges index (List.mem_cons_self _ _))
        (by simp only [counted, List.length_cons]; omega)
      rw [List.foldl_cons, first, @complete_all_of_waiting waiting rest _
        (fun index member => edges index (List.mem_cons_of_mem _ member))
        (Function.update_same .execution _ run.pending)]
      simp only [Function.update_idem, List.map_cons, List.append_assoc, List.singleton_append]

theorem complete_all_of_last (execution : workflow.successors .execution = [.release])
    (release : workflow.successors .release = [.notification])
    (notification : workflow.successors .notification = []) :
    ∀ (order : List Nat) (run : Run), order ≠ [] →
    (∀ index ∈ order, workflow.successors (.copy index) = [.execution]) →
    run.pending .execution = order.length → run.pending .release = 1 →
    run.pending .notification = 1 →
    (order.foldl (fun run index => run.complete workflow chainFuel (.copy index)) run).log =
      run.log ++ (order.map fun index => .completed (.copy index)) ++ chain workflow.callback
  | [index], run, _, edges, pendingExecution, pendingRelease, pendingNotification => by
      simp [complete_of_last (edges index (List.mem_singleton_self _)) execution release
        notification pendingExecution pendingRelease pendingNotification]
  | index :: next :: rest, run, _, edges, pendingExecution, pendingRelease,
      pendingNotification => by
      have first := @complete_of_waiting workflow run _ rest.length
        (edges index (List.mem_cons_self _ _)) pendingExecution
      have later := complete_all_of_last execution release notification (next :: rest)
        ⟨Function.update run.pending .execution (rest.length + 1),
          run.log ++ [.completed (.copy index)]⟩
        (List.cons_ne_nil _ _) (fun index member => edges index (List.mem_cons_of_mem _ member))
        (Function.update_same .execution _ run.pending) (by simpa using pendingRelease)
        (by simpa using pendingNotification)
      rw [List.foldl_cons, first, later]
      simp only [List.map_cons, List.append_assoc, List.singleton_append]

end Run

def fetchLog (copies : List CopyStep) : List WorkflowEvent :=
  ((fetchingCopies (copyRoots 0 copies)).foldl Batches.add ⟨[], []⟩).groups.map fun group =>
    .fetched (group.2.map (·.step))

/-- The whole log of a task's workflow: the copies that need no transfer complete as `start()`
probes them, the transfers start, the transfers of `order` finish, and the chain runs exactly
when the last transfer finishes, or at the last probe if there is none. -/
theorem executeTaskWorkflow_log (copies : List CopyStep) (order : List Nat)
    (fetched : ∀ index ∈ order, index ∈ fetchingIndices 0 copies)
    (fewer : order.length ≤ (fetchingIndices 0 copies).length) :
    ((executeTaskWorkflow copies).run order).log =
      syncEvents 0 copies ++ fetchLog copies ++ (order.map fun index => .completed (.copy index)) ++
        if order.length = (fetchingIndices 0 copies).length then Run.chain [.finalised]
        else [] := by
  by_cases nonempty : copies = []
  · subst nonempty
    obtain rfl : order = [] := List.eq_nil_iff_forall_not_mem.mpr fun index member =>
      by simpa [fetchingIndices] using fetched index member
    rfl
  obtain ⟨execution, release, notification⟩ := executeTaskWorkflow_successors nonempty
  obtain ⟨pendingExecution, pendingRelease, pendingNotification⟩ :=
    executeTaskWorkflow_predecessors nonempty
  have edges : ∀ j, 0 ≤ j → j < 0 + copies.length →
      (executeTaskWorkflow copies).successors (.copy j) = [.execution] := fun j _ valid =>
    executeTaskWorkflow_copy_successors nonempty (by simpa using valid)
  have ordered : ∀ index ∈ order,
      (executeTaskWorkflow copies).successors (.copy index) = [.execution] := fun index member =>
    edges index (Nat.zero_le _) (mem_fetchingIndices (fetched index member)).2
  have counted := syncCount_add_fetching 0 copies
  simp only [Workflow.run, WorkflowBase.start, startRoots_eq, executeTaskWorkflow_rootSteps
    nonempty, List.foldl_append, executeTaskWorkflow_callback nonempty]
  by_cases sync : fetchingIndices 0 copies = []
  · obtain rfl : order = [] := List.eq_nil_of_length_eq_zero (by simpa [sync] using fewer)
    have none : fetchingCopies (copyRoots 0 copies) = [] := by
      simpa [sync] using fetchingCopies_copyRoots 0 copies
    simp only [none, List.foldl_nil, List.map_nil, List.append_nil, fetchLog, sync,
      List.length_nil, if_true]
    rw [Run.perform_roots_of_last execution release notification copies 0 _ nonempty
      (fetchingIndices_eq_nil.mp sync) edges pendingExecution pendingRelease pendingNotification,
      List.nil_append, executeTaskWorkflow_callback nonempty]
  · have waiting := List.length_pos.mpr sync
    rw [@Run.perform_roots_of_waiting _ ((fetchingIndices 0 copies).length - 1) copies 0 _ edges
        (by dsimp only; omega),
      Run.perform_fetchVectors]
    by_cases all : order.length = (fetchingIndices 0 copies).length
    · rw [Run.complete_all_of_last execution release notification order _
        (by rintro rfl; rw [List.length_nil] at all; omega) ordered
        (by simp only [Function.update_same]; omega)
        (by simpa using pendingRelease) (by simpa using pendingNotification)]
      simp [fetchLog, all, executeTaskWorkflow_callback nonempty]
    · rw [@Run.complete_all_of_waiting _ ((fetchingIndices 0 copies).length - order.length - 1)
        order _ ordered (by simp only [Function.update_same]; omega)]
      simp [fetchLog, all]

theorem fetchLog_eq_nil {copies : List CopyStep}
    (noFetch : ∀ copy ∈ copies, copy.fetches = false) : fetchLog copies = [] := by
  have none : fetchingCopies (copyRoots 0 copies) = [] := by
    simpa [fetchingIndices_eq_nil.mpr noFetch] using fetchingCopies_copyRoots 0 copies
  simp [fetchLog, none]

/-- A task none of whose copies waits for a transfer runs to its notification inside `start()`:
the copies complete as they are probed, no `fetchVector` call is made, and the execution,
release and notification steps follow. -/
theorem local_task_runs_within_start (copies : List CopyStep)
    (noFetch : ∀ copy ∈ copies, copy.fetches = false) :
    ((executeTaskWorkflow copies).run []).log = syncEvents 0 copies ++ Run.chain [.finalised] := by
  rw [executeTaskWorkflow_log copies [] (by simp) (by simp), fetchLog_eq_nil noFetch,
    fetchingIndices_eq_nil.mpr noFetch]
  simp

/-- A task with a local access and a cluster copy that needs no transfer. -/
theorem local_task_runs_within_start_two_copies :
    (∀ copy ∈ [CopyStep.plain, .cluster false 3 1], copy.fetches = false) ∧
      ((executeTaskWorkflow [.plain, .cluster false 3 1]).run []).log =
        syncEvents 0 [.plain, .cluster false 3 1] ++ Run.chain [.finalised] :=
  ⟨by decide, local_task_runs_within_start _ (by decide)⟩

/-- Modelled from the spec: every occurrence of `later` in the log follows an `earlier`. -/
def Precedes {α : Type} (log : List α) (earlier later : α) : Prop :=
  ∀ before after, log = before ++ later :: after → earlier ∈ before

section Precedes

variable {α : Type} {log front rest : List α} {earlier later : α}

theorem precedes_of_not_mem (absent : later ∉ log) : Precedes log earlier later :=
  fun before after split => absurd (by simp [split]) absent

theorem precedes_of_front (split : log = front ++ rest) (absent : later ∉ front)
    (present : earlier ∈ front) : Precedes log earlier later := by
  intro before after occurrence
  rcases List.append_eq_append_iff.mp (split.symm.trans occurrence) with
    ⟨middle, extended, _⟩ | ⟨middle, shortened, remainder⟩
  · exact extended ▸ List.mem_append_left middle present
  · cases middle with
    | nil => simpa [shortened] using present
    | cons first _ =>
        simp only [List.cons_append, List.cons.injEq] at remainder
        exact absurd (by simp [shortened, remainder.1]) absent

end Precedes

def WorkflowEvent.aboutCopies : WorkflowEvent → Bool
  | .started (.copy _) => true
  | .completed (.copy _) => true
  | .fetched _ => true
  | _ => false

section Through

variable {copiesLog tail front rest : List WorkflowEvent} {earlier later : WorkflowEvent}
  {done : Prop} [Decidable done]

theorem not_mem_of_aboutCopies (copiesOnly : ∀ event ∈ copiesLog, event.aboutCopies)
    (separate : later.aboutCopies = false) : later ∉ copiesLog :=
  fun member => by simpa [separate] using copiesOnly later member

theorem precedes_through (copiesOnly : ∀ event ∈ copiesLog, event.aboutCopies)
    (separate : later.aboutCopies = false) (split : tail = front ++ rest)
    (absent : later ∉ front) (present : done → earlier ∈ copiesLog ++ front) :
    Precedes (copiesLog ++ if done then tail else []) earlier later := by
  split_ifs with finished
  · exact precedes_of_front (by rw [split, List.append_assoc]) (by
      simp [absent, not_mem_of_aboutCopies copiesOnly separate]) (present finished)
  · exact precedes_of_not_mem (by simpa using not_mem_of_aboutCopies copiesOnly separate)

theorem count_through (later : WorkflowEvent)
    (copiesOnly : ∀ event ∈ copiesLog, event.aboutCopies)
    (separate : later.aboutCopies = false) :
    (copiesLog ++ if done then tail else []).count later =
      if done then tail.count later else 0 := by
  rw [List.count_append, List.count_eq_zero.mpr (not_mem_of_aboutCopies copiesOnly separate)]
  split_ifs <;> simp

end Through

theorem syncEvents_aboutCopies : ∀ {index : Nat} {copies : List CopyStep},
    ∀ event ∈ syncEvents index copies, event.aboutCopies
  | _, copy :: rest, event, member => by
      simp only [syncEvents, List.mem_append] at member
      rcases member with here | later
      · cases copy with
        | plain => simp [CopyStep.syncEvents] at here; rcases here with rfl | rfl <;> rfl
        | cluster requiresDataFetch =>
            cases requiresDataFetch <;> simp [CopyStep.syncEvents] at here; subst here; rfl
      · exact syncEvents_aboutCopies event later

theorem fetchLog_aboutCopies (copies : List CopyStep) : ∀ event ∈ fetchLog copies,
    event.aboutCopies := by
  simp only [fetchLog, List.mem_map]
  rintro event ⟨group, _, rfl⟩
  rfl

theorem complete_iff_length_eq {order indices : List Nat} (distinct : order.Nodup)
    (indexed : indices.Nodup) (within : ∀ index ∈ order, index ∈ indices) :
    (∀ index ∈ indices, index ∈ order) ↔ order.length = indices.length :=
  ⟨fun all => ((List.perm_ext_iff_of_nodup distinct indexed).mpr fun index =>
      ⟨within index, all index⟩).length_eq,
    fun same _ member => ((distinct.subperm within).perm_of_length_le same.ge).mem_iff.mpr
      member⟩

/-- Modelled from the spec: the order a task's workflow must keep, for `accesses` copies, where
`allFetched` says that every transfer finished. -/
structure ExecutionOrdered (accesses : Nat) (allFetched : Prop) (log : List WorkflowEvent) :
    Prop where
  copies_before_execution : ∀ index < accesses,
    Precedes log (.completed (.copy index)) (.started .execution)
  execution_at_most_once : log.count (.started .execution) ≤ 1
  execution_before_release : Precedes log (.completed .execution) (.started .release)
  release_before_callback : Precedes log (.completed .release) .finalised
  callback_at_most_once : log.count .finalised ≤ 1
  fires_once : allFetched → log.count (.started .execution) = 1 ∧ log.count .finalised = 1

theorem ordered_of_copiesLog {copiesLog : List WorkflowEvent} {accesses : Nat} {allFetched : Prop}
    {done : Prop} [Decidable done] (copiesOnly : ∀ event ∈ copiesLog, event.aboutCopies)
    (settled : done → ∀ index < accesses, .completed (.copy index) ∈ copiesLog)
    (fires : allFetched → done) :
    ExecutionOrdered accesses allFetched
      (copiesLog ++ if done then Run.chain [.finalised] else []) := by
  refine ⟨fun index valid => precedes_through copiesOnly rfl (List.nil_append _).symm
      (List.not_mem_nil _) fun finished => by simp [settled finished index valid], ?_,
    precedes_through copiesOnly rfl
      (show Run.chain [.finalised] = [.started .execution, .completed .execution] ++ _ from rfl)
      (by simp) (by simp),
    precedes_through copiesOnly rfl
      (show Run.chain [.finalised] = [.started .execution, .completed .execution,
        .started .release, .completed .release, .started .notification] ++ _ from rfl)
      (by simp) (by simp), ?_, fun all => ?_⟩
  · rw [count_through (.started .execution) copiesOnly rfl]; split_ifs <;> decide
  · rw [count_through .finalised copiesOnly rfl]; split_ifs <;> decide
  · rw [count_through (.started .execution) copiesOnly rfl,
      count_through .finalised copiesOnly rfl]
    simp only [if_pos (fires all)]
    decide

theorem completed_of_all {copies : List CopyStep} {order : List Nat}
    (all : ∀ index ∈ fetchingIndices 0 copies, index ∈ order) :
    ∀ index < copies.length, .completed (.copy index) ∈
      syncEvents 0 copies ++ order.map fun index => .completed (.copy index) := by
  intro index valid
  rcases settled_or_fetching (Nat.zero_le index) (by simpa using valid) with synced | fetching
  · simp [synced]
  · simp [all index fetching]

theorem executeTaskWorkflow_ordered (copies : List CopyStep) (order : List Nat)
    (distinct : order.Nodup) (fetched : ∀ index ∈ order, index ∈ fetchingIndices 0 copies) :
    ExecutionOrdered copies.length (∀ index ∈ fetchingIndices 0 copies, index ∈ order)
      ((executeTaskWorkflow copies).run order).log := by
  have complete := complete_iff_length_eq distinct (fetchingIndices_nodup 0 copies) fetched
  rw [executeTaskWorkflow_log copies order fetched (distinct.subperm fetched).length_le]
  refine ordered_of_copiesLog ?_ (fun done index valid => ?_) complete.mp
  · simp only [List.mem_append, List.mem_map]
    rintro event ((synced | fetching) | ⟨index, _, rfl⟩)
    exacts [syncEvents_aboutCopies event synced, fetchLog_aboutCopies copies event fetching, rfl]
  · rcases List.mem_append.mp (completed_of_all (complete.mpr done) index valid) with
      synced | finished
    exacts [List.mem_append_left _ (List.mem_append_left _ synced),
      List.mem_append_right _ finished]

/-- Modelled from the spec: a taskwait fragment is released once, after its copy step when it
has an output location, where `allFetched` says that the copy's transfer finished. -/
structure TaskwaitReleased (hasOutput : Bool) (allFetched : Prop) (log : List WorkflowEvent) :
    Prop where
  release_at_most_once : log.count .releaseTaskwaitFragment ≤ 1
  copy_before_release : hasOutput → Precedes log (.completed (.copy 0)) .releaseTaskwaitFragment
  releases_once : allFetched → log.count .releaseTaskwaitFragment = 1

theorem taskwaitWorkflow_log (copy : CopyStep) (completions : List Nat)
    (distinct : completions.Nodup)
    (fetched : ∀ index ∈ completions, index ∈ fetchingIndices 0 [copy]) :
    ((taskwaitWorkflow copy).run completions).log =
      copy.syncEvents 0 ++ (if copy.fetches then [.fetched [.copy 0]] else []) ++
        (completions.map fun index => .completed (.copy index)) ++
        if completions.length = (fetchingIndices 0 [copy]).length then
          [.started .notification, .releaseTaskwaitFragment, .completed .notification]
        else [] := by
  have single : ∀ index ∈ completions, index = 0 ∧ copy.fetches := fun index member => by
    have := fetched index member
    cases fetch : copy.fetches <;> simp_all [fetchingIndices]
  match completions, copy, distinct, single with
  | [], .plain, _, _ => rfl
  | [], .cluster false _ _, _, _ => rfl
  | [], .cluster true _ _, _, _ => rfl
  | [index], .cluster true _ _, _, single =>
      obtain rfl := (single index (List.mem_singleton_self _)).1
      rfl
  | [index], .plain, _, single => simp [CopyStep.fetches] at single
  | [index], .cluster false _ _, _, single => simp [CopyStep.fetches] at single
  | first :: second :: _, _, distinct, single =>
      simp only [List.mem_cons, forall_eq_or_imp] at single
      simp [single.1.1, single.2.1.1] at distinct

theorem setupTaskwaitWorkflow_released (targetLocation : Option Nat) (copy : CopyStep)
    (completions : List Nat) (distinct : completions.Nodup)
    (fetched : ∀ index ∈ completions, index ∈ fetchingIndices 0 [copy]) :
    TaskwaitReleased targetLocation.isSome
      (∀ index ∈ fetchingIndices 0 [copy], index ∈ completions)
      (setupTaskwaitWorkflow targetLocation copy completions) := by
  cases targetLocation with
  | none => exact ⟨by simp [setupTaskwaitWorkflow], by simp,
    fun _ => by simp [setupTaskwaitWorkflow]⟩
  | some location =>
      have complete := complete_iff_length_eq distinct (fetchingIndices_nodup 0 [copy]) fetched
      have synced : ∀ event ∈ copy.syncEvents 0, event.aboutCopies := fun event member =>
        @syncEvents_aboutCopies 0 [copy] event (by simpa [syncEvents] using member)
      have copiesOnly : ∀ event ∈ copy.syncEvents 0 ++
          (if copy.fetches then [.fetched [.copy 0]] else []) ++
          completions.map (fun index => .completed (.copy index)), event.aboutCopies := by
        simp only [List.mem_append, List.mem_map]
        rintro event ((early | fetching) | ⟨index, _, rfl⟩)
        · exact synced event early
        · split_ifs at fetching
          · rw [List.mem_singleton.mp fetching]; rfl
          · exact absurd fetching (List.not_mem_nil _)
        · rfl
      simp only [setupTaskwaitWorkflow]
      rw [taskwaitWorkflow_log copy completions distinct fetched]
      refine ⟨?_, fun _ => precedes_through copiesOnly rfl
        (show ([.started .notification, .releaseTaskwaitFragment, .completed .notification] :
          List WorkflowEvent) = [.started .notification] ++ _ from rfl) (by simp) fun done => ?_,
            fun all => ?_⟩
      · rw [count_through .releaseTaskwaitFragment copiesOnly rfl]; split_ifs <;> decide
      · rcases @settled_or_fetching 0 0 [copy] le_rfl (by simp) with early | fetching
        · simp only [syncEvents, List.append_nil] at early
          simp [early]
        · simp [complete.mpr done 0 fetching]
      · rw [count_through .releaseTaskwaitFragment copiesOnly rfl, if_pos (complete.mp all)]
        decide

theorem workflow_order_fires_once (copies : List CopyStep) (order : List Nat)
    (distinct : order.Nodup) (fetched : ∀ index ∈ order, index ∈ fetchingIndices 0 copies)
    (targetLocation : Option Nat) (copy : CopyStep) (completions : List Nat)
    (distinctCompletions : completions.Nodup)
    (fetchedCompletions : ∀ index ∈ completions, index ∈ fetchingIndices 0 [copy]) :
    ExecutionOrdered copies.length (∀ index ∈ fetchingIndices 0 copies, index ∈ order)
        ((executeTaskWorkflow copies).run order).log ∧
      (executeTaskWorkflow copies).releaseAccesses = List.range copies.length ∧
      TaskwaitReleased targetLocation.isSome
        (∀ index ∈ fetchingIndices 0 [copy], index ∈ completions)
        (setupTaskwaitWorkflow targetLocation copy completions) :=
  ⟨executeTaskWorkflow_ordered copies order distinct fetched,
    executeTaskWorkflow_releaseAccesses copies,
    setupTaskwaitWorkflow_released targetLocation copy completions distinctCompletions
      fetchedCompletions⟩

/-- A task with a local access, two fetches from one node and a copy that needs no transfer,
whose transfers finish out of order, and a taskwait fragment fetched to location 1. -/
theorem mixed_workflow_fires_once :
    ExecutionOrdered 4 (∀ index ∈ fetchingIndices 0 [.plain, .cluster true 5 2,
        .cluster false 3 1, .cluster true 5 4], index ∈ [3, 1])
        ((executeTaskWorkflow [.plain, .cluster true 5 2, .cluster false 3 1,
          .cluster true 5 4]).run [3, 1]).log ∧
      (executeTaskWorkflow [.plain, .cluster true 5 2, .cluster false 3 1,
        .cluster true 5 4]).releaseAccesses = List.range 4 ∧
      TaskwaitReleased true (∀ index ∈ fetchingIndices 0 [.cluster true 2 1], index ∈ [0])
        (setupTaskwaitWorkflow (some 1) (.cluster true 2 1) [0]) :=
  workflow_order_fires_once [.plain, .cluster true 5 2, .cluster false 3 1, .cluster true 5 4]
    [3, 1] (by decide) (by decide) (some 1) (.cluster true 2 1) [0]
    (by decide) (by decide)

end Nanos6.ExecutionWorkflow
