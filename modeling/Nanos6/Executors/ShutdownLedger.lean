import Nanos6.Executors.Shutdown
import Mathlib.Data.List.Nodup

namespace Nanos6.Executors

theorem nodup_snoc {α : Type} {l : List α} {x : α} (nodup : l.Nodup) (fresh : x ∉ l) :
    (l ++ [x]).Nodup :=
  nodup.append (List.nodup_singleton x) (List.disjoint_singleton.mpr fresh)

theorem popper_unique {popped : List (Nat × Agent)} (nodup : (popped.map Prod.fst).Nodup)
    {w : Nat} {first second : Agent} (poppedFirst : (w, first) ∈ popped)
    (poppedSecond : (w, second) ∈ popped) : first = second :=
  (Prod.mk.inj (List.inj_on_of_nodup_map nodup poppedFirst poppedSecond rfl)).2

/-- A worker that some `getIdleThread` has returned: it is neither running nor parked. -/
def WorkerPc.isPopped : WorkerPc → Bool
  | .running | .parked => false
  | _ => true

def WorkerPc.isDecremented : WorkerPc → Bool
  | .exiting | .exited => true
  | _ => false

/-- The idle deque and the log of pops agree with the workers' program counters. -/
structure Ledger (s : ShutdownState) : Prop where
  outside : ∀ w, s.totalThreads ≤ w → s.workers w = .running
  idle_iff : ∀ w, w ∈ s.idleThreads ↔ s.workers w = .parked
  idle_nodup : s.idleThreads.Nodup
  popped_iff : ∀ w, w ∈ s.popped.map Prod.fst ↔ (s.workers w).isPopped
  popped_nodup : (s.popped.map Prod.fst).Nodup

/-- The ledger, the log of decrements, and every popped worker that is not yet resumed is
held by whoever popped it. -/
structure Bookkeeping (s : ShutdownState) extends Ledger s : Prop where
  decremented_iff : ∀ w, w ∈ s.decremented ↔ (s.workers w).isDecremented
  decremented_nodup : s.decremented.Nodup
  designating : ∀ cpu w rest, s.initiator = .designate cpu w rest →
    s.workers w = .claimed ∧ (w, .initiator) ∈ s.popped
  resuming : ∀ x cpu b w, s.workers x = .resumeNext cpu b w →
    s.workers w = .claimed ∧ (w, .worker x) ∈ s.popped

theorem bookkeeping_init (totalThreads : Nat) (cpus : List Nat) :
    Bookkeeping (ShutdownState.init totalThreads cpus) := by
  refine ⟨⟨?_, ?_, ?_, ?_, ?_⟩, ?_, ?_, ?_, ?_⟩ <;>
    simp [ShutdownState.init, WorkerPc.isPopped, WorkerPc.isDecremented]

theorem decremented_update {workers : Nat → WorkerPc} {decremented : List Nat}
    (iff : ∀ w, w ∈ decremented ↔ (workers w).isDecremented) {id : Nat} {pc : WorkerPc}
    (same : (workers id).isDecremented = pc.isDecremented) :
    ∀ w, w ∈ decremented ↔ (Function.update workers id pc w).isDecremented := by
  intro w
  by_cases distinct : w = id
  · subst distinct; simp [iff, same]
  · simp [Function.update_noteq distinct, iff]

namespace Ledger

variable {s : ShutdownState} (ledger : Ledger s)
include ledger

theorem congr {next : ShutdownState} (total : next.totalThreads = s.totalThreads)
    (workers : next.workers = s.workers) (idle : next.idleThreads = s.idleThreads)
    (popped : next.popped = s.popped) : Ledger next := by
  refine ⟨?_, ?_, ?_, ?_, ?_⟩ <;> simp only [total, workers, idle, popped]
  exacts [ledger.outside, ledger.idle_iff, ledger.idle_nodup, ledger.popped_iff,
    ledger.popped_nodup]

theorem within_of_popped {w : Nat} (popped : (s.workers w).isPopped) : w < s.totalThreads := by
  by_contra outside
  simp [ledger.outside w (Nat.le_of_not_lt outside), WorkerPc.isPopped] at popped

theorem setWorker (id : Nat) (pc : WorkerPc) (wasPopped : (s.workers id).isPopped)
    (nowPopped : pc.isPopped) : Ledger (s.setWorker id pc) := by
  have within := ledger.within_of_popped wasPopped
  constructor
  · intro w outside
    rw [ShutdownState.setWorker_totalThreads] at outside
    rw [ShutdownState.setWorker_workers, Function.update_noteq (by omega)]
    exact ledger.outside w outside
  · intro w
    by_cases same : w = id
    · subst same
      simp only [ShutdownState.setWorker_idleThreads, ShutdownState.setWorker_workers,
        Function.update_same, ledger.idle_iff]
      constructor <;> intro parked <;> simp_all [WorkerPc.isPopped]
    · simp [Function.update_noteq same, ledger.idle_iff]
  · exact ledger.idle_nodup
  · intro w
    by_cases same : w = id
    · subst same; simp [ledger.popped_iff, wasPopped, nowPopped]
    · simp [Function.update_noteq same, ledger.popped_iff]
  · exact ledger.popped_nodup

theorem claim {w : Nat} (idle : w ∈ s.idleThreads) (agent : Agent) :
    Ledger (s.claim w agent) := by
  have parked := (ledger.idle_iff w).mp idle
  have fresh : w ∉ s.popped.map Prod.fst := by
    simp [ledger.popped_iff, parked, WorkerPc.isPopped]
  constructor
  · intro x outside
    have distinct : x ≠ w := fun same => by
      have := ledger.outside x outside; rw [same, parked] at this; cases this
    simpa [Function.update_noteq distinct] using ledger.outside x outside
  · intro x
    by_cases same : x = w
    · subst same; simp [ledger.idle_nodup.mem_erase_iff]
    · simp [ledger.idle_nodup.mem_erase_iff, same, Function.update_noteq same, ledger.idle_iff]
  · exact ledger.idle_nodup.erase w
  · intro x
    by_cases same : x = w
    · subst same; simp [WorkerPc.isPopped]
    · simp [same, Function.update_noteq same, ledger.popped_iff]
  · simpa using nodup_snoc ledger.popped_nodup fresh

end Ledger

theorem Bookkeeping.transition {s next : ShutdownState} (book : Bookkeeping s)
    (transition : Transition s next) : Bookkeeping next := by
  have ledger := book.toLedger
  have keep : ∀ {next : ShutdownState}, next.totalThreads = s.totalThreads →
      next.workers = s.workers → next.idleThreads = s.idleThreads → next.popped = s.popped →
      next.decremented = s.decremented →
      (∀ cpu w rest, next.initiator ≠ .designate cpu w rest) →
      Bookkeeping next := fun total workers idle popped decremented notDesignating =>
    ⟨ledger.congr total workers idle popped, by simpa only [workers, decremented] using
      book.decremented_iff, by simpa only [decremented] using book.decremented_nodup,
      fun cpu w rest h => absurd h (notDesignating cpu w rest),
      by simpa only [workers, popped] using book.resuming⟩
  /- A worker moving between two popped statements, holding nobody before or after. -/
  have move : ∀ {id : Nat} {pc : WorkerPc}, (s.workers id).isPopped → pc.isPopped →
      (s.workers id).isDecremented = pc.isDecremented → s.workers id ≠ .claimed →
      (∀ cpu b w, pc ≠ .resumeNext cpu b w) → Bookkeeping (s.setWorker id pc) := by
    intro id pc wasPopped nowPopped sameDecrement unclaimed holdsNone
    have other : ∀ w, s.workers w = .claimed → w ≠ id := fun w claimed same =>
      unclaimed (same ▸ claimed)
    refine ⟨ledger.setWorker id pc wasPopped nowPopped,
      decremented_update book.decremented_iff sameDecrement, book.decremented_nodup, ?_, ?_⟩
    · intro cpu w rest designating
      have held := book.designating cpu w rest designating
      simp [Function.update_noteq (other w held.1), held]
    · intro x cpu b w resuming
      by_cases same : x = id
      · subst same; simp at resuming; exact absurd resuming (holdsNone cpu b w)
      · rw [ShutdownState.setWorker_workers, Function.update_noteq same] at resuming
        have held := book.resuming x cpu b w resuming
        simp [Function.update_noteq (other w held.1), held]
  cases transition with
  | setup => exact keep rfl rfl rfl rfl rfl (by simp)
  | visitDone => exact keep rfl rfl rfl rfl rfl (by simp)
  | visitNext => exact keep rfl rfl rfl rfl rfl (by simp)
  | initiatorEmpty => exact keep rfl rfl rfl rfl rfl (by simp)
  | retry => exact keep rfl rfl rfl rfl rfl (by simp)
  | skip => exact keep rfl rfl rfl rfl rfl (by simp)
  | joinController => exact keep rfl rfl rfl rfl rfl (by simp)
  | joinMissing => exact keep rfl rfl rfl rfl rfl (by simp)
  | finish => exact keep rfl rfl rfl rfl rfl (by simp)
  | enter id cpu within current =>
      exact move (by simp [current, WorkerPc.isPopped]) rfl
        (by simp [current, WorkerPc.isDecremented]) (by simp [current]) (by simp)
  | leave id cpu within current =>
      exact move (by simp [current, WorkerPc.isPopped]) rfl
        (by simp [current, WorkerPc.isDecremented]) (by simp [current]) (by simp)
  | mainFindsNone id cpu within current =>
      exact move (by simp [current, WorkerPc.isPopped]) rfl
        (by simp [current, WorkerPc.isDecremented]) (by simp [current]) (by simp)
  | controllerDone id cpu within current =>
      exact move (by simp [current, WorkerPc.isPopped]) rfl
        (by simp [current, WorkerPc.isDecremented]) (by simp [current]) (by simp)
  | joinNext id cpu b w within current =>
      have moved : Bookkeeping (s.setWorker id (.pop cpu b)) :=
        move (by simp [current, WorkerPc.isPopped]) rfl
          (by simp [current, WorkerPc.isDecremented]) (by simp [current]) (by simp)
      exact ⟨moved.congr rfl rfl rfl rfl, moved.decremented_iff, moved.decremented_nodup,
        moved.designating, moved.resuming⟩
  | lastOut id cpu within current =>
      exact move (by simp [current, WorkerPc.isPopped]) rfl
        (by simp [current, WorkerPc.isDecremented]) (by simp [current]) (by simp)
  | keepPolling id cpu within current =>
      exact move (by simp [current, WorkerPc.isPopped]) rfl
        (by simp [current, WorkerPc.isDecremented]) (by simp [current]) (by simp)
  | exit id within current =>
      exact move (by simp [current, WorkerPc.isPopped]) rfl
        (by simp [current, WorkerPc.isDecremented]) (by simp [current]) (by simp)
  | initiatorPop cpu rest w current idle =>
      have parked := (ledger.idle_iff w).mp idle
      refine ⟨(ledger.claim idle .initiator).congr rfl rfl rfl rfl,
        decremented_update book.decremented_iff (by simp [parked, WorkerPc.isDecremented]),
        book.decremented_nodup, ?_, ?_⟩
      · intro cpu' w' rest' designating
        simp only [InitiatorPc.designate.injEq] at designating
        obtain ⟨-, rfl, -⟩ := designating
        simp
      · intro x cpu' b w' resuming
        have distinct : x ≠ w := fun same => by simp [same] at resuming
        rw [ShutdownState.claim_workers, Function.update_noteq distinct] at resuming
        have held := book.resuming x cpu' b w' resuming
        have other : w' ≠ w := fun same => by rw [same, parked] at held; cases held.1
        simp [Function.update_noteq other, held]
  | designate cpu w rest current =>
      have held := book.designating cpu w rest current
      refine ⟨(ledger.setWorker w (.resumed cpu) (by simp [held.1, WorkerPc.isPopped])
        rfl).congr rfl rfl rfl rfl,
        decremented_update book.decremented_iff (by simp [held.1, WorkerPc.isDecremented]),
        book.decremented_nodup, (fun _ _ _ h => by cases h), ?_⟩
      intro x cpu' b w' resuming
      have distinct : x ≠ w := by
        rintro rfl
        simp at resuming
      simp only [Function.update_noteq distinct] at resuming
      have held' := book.resuming x cpu' b w' resuming
      have other : w' ≠ w := fun same => by
        subst same; cases popper_unique ledger.popped_nodup held.2 held'.2
      simp [Function.update_noteq other, held']
  | park id within current =>
      have notIdle : id ∉ s.idleThreads := by simp [ledger.idle_iff, current]
      have unheld : ∀ w, s.workers w = .claimed → w ≠ id := by
        rintro w claimed rfl
        rw [current] at claimed
        cases claimed
      refine ⟨⟨?_, ?_, nodup_snoc ledger.idle_nodup notIdle, ?_, ledger.popped_nodup⟩,
        decremented_update book.decremented_iff (by simp [current, WorkerPc.isDecremented]),
        book.decremented_nodup, ?_, ?_⟩
      · intro w outside
        have beyond : s.totalThreads ≤ w := outside
        simpa [Function.update_noteq (show w ≠ id by omega)] using ledger.outside w beyond
      · intro w
        by_cases same : w = id
        · subst same; simp
        · simp [same, Function.update_noteq same, ledger.idle_iff]
      · intro w
        by_cases same : w = id
        · subst same; simp [ledger.popped_iff, current, WorkerPc.isPopped]
        · simp [Function.update_noteq same, ledger.popped_iff]
      · intro cpu w rest designating
        have held := book.designating cpu w rest designating
        simp [Function.update_noteq (unheld w held.1), held]
      · intro x cpu b w resuming
        have distinct : x ≠ id := by
          rintro rfl
          simp at resuming
        simp only [Function.update_noteq distinct] at resuming
        have held := book.resuming x cpu b w resuming
        simp [Function.update_noteq (unheld w held.1), held]
  | controllerPop id cpu b w within current idle =>
      have parked := (ledger.idle_iff w).mp idle
      have distinct : w ≠ id := by
        rintro rfl
        rw [current] at parked
        cases parked
      refine ⟨(ledger.claim idle (.worker id)).setWorker id (.resumeNext cpu b w)
        (by simp [Function.update_noteq distinct.symm, current, WorkerPc.isPopped]) rfl, ?_,
        book.decremented_nodup, ?_, ?_⟩
      · simp only [ShutdownState.setWorker_workers, ShutdownState.claim_workers,
          ShutdownState.setWorker_decremented, ShutdownState.claim_decremented]
        refine decremented_update (decremented_update book.decremented_iff ?_) ?_ <;>
          simp [Function.update_noteq distinct.symm, current, parked, WorkerPc.isDecremented]
      · intro cpu' w' rest designating
        have held := book.designating cpu' w' rest designating
        have notNext : w' ≠ w := by
          rintro rfl
          rw [parked] at held
          cases held.1
        have notId : w' ≠ id := by
          rintro rfl
          rw [current] at held
          cases held.1
        simp [Function.update_noteq notNext, Function.update_noteq notId, held]
      · intro x cpu' b' w' resuming
        by_cases same : x = id
        · subst same
          simp only [ShutdownState.setWorker_workers, Function.update_same,
            WorkerPc.resumeNext.injEq] at resuming
          obtain ⟨-, -, rfl⟩ := resuming
          simp [Function.update_noteq distinct]
        · have notNext : x ≠ w := by
            rintro rfl
            simp [Function.update_noteq same] at resuming
          simp only [ShutdownState.setWorker_workers, ShutdownState.claim_workers,
            Function.update_noteq same, Function.update_noteq notNext] at resuming
          have held := book.resuming x cpu' b' w' resuming
          have otherNext : w' ≠ w := by
            rintro rfl
            rw [parked] at held
            cases held.1
          have otherId : w' ≠ id := by
            rintro rfl
            rw [current] at held
            cases held.1
          simp [Function.update_noteq otherNext, Function.update_noteq otherId, held]
  | resumeNext id cpu b w within current =>
      have held := book.resuming id cpu b w current
      have distinct : w ≠ id := by
        rintro rfl
        rw [current] at held
        cases held.1
      refine ⟨(ledger.setWorker w (.resumed cpu) (by simp [held.1, WorkerPc.isPopped])
        rfl).setWorker id (.joinNext cpu b w)
        (by simp [Function.update_noteq distinct.symm, current, WorkerPc.isPopped]) rfl, ?_,
        book.decremented_nodup, ?_, ?_⟩
      · simp only [ShutdownState.setWorker_workers, ShutdownState.setWorker_decremented]
        refine decremented_update (decremented_update book.decremented_iff ?_) ?_ <;>
          simp [Function.update_noteq distinct.symm, current, held.1, WorkerPc.isDecremented]
      · intro cpu' w' rest designating
        have held' := book.designating cpu' w' rest designating
        have notNext : w' ≠ w := by
          rintro rfl
          cases popper_unique ledger.popped_nodup held'.2 held.2
        have notId : w' ≠ id := by
          rintro rfl
          rw [current] at held'
          cases held'.1
        simp [Function.update_noteq notNext, Function.update_noteq notId, held']
      · intro x cpu' b' w' resuming
        have notId : x ≠ id := by
          rintro rfl
          simp at resuming
        have notNext : x ≠ w := by
          rintro rfl
          simp [Function.update_noteq notId] at resuming
        simp only [ShutdownState.setWorker_workers, Function.update_noteq notId,
          Function.update_noteq notNext] at resuming
        have held' := book.resuming x cpu' b' w' resuming
        have otherNext : w' ≠ w := by
          rintro rfl
          cases popper_unique ledger.popped_nodup held'.2 held.2
          exact notId rfl
        have otherId : w' ≠ id := by
          rintro rfl
          rw [current] at held'
          cases held'.1
        simp [Function.update_noteq otherNext, Function.update_noteq otherId, held']
  | decrement id within current =>
      have unheld : ∀ w, s.workers w = .claimed → w ≠ id := by
        rintro w claimed rfl
        rw [current] at claimed
        cases claimed
      have fresh : id ∉ s.decremented := by
        simp [book.decremented_iff, current, WorkerPc.isDecremented]
      refine ⟨(ledger.setWorker id .exiting (by simp [current, WorkerPc.isPopped]) rfl).congr
        rfl rfl rfl rfl, ?_, nodup_snoc book.decremented_nodup fresh, ?_, ?_⟩
      · intro w
        by_cases same : w = id
        · subst same; simp [WorkerPc.isDecremented]
        · simp [same, Function.update_noteq same, book.decremented_iff]
      · intro cpu w rest designating
        have held := book.designating cpu w rest designating
        simp [Function.update_noteq (unheld w held.1), held]
      · intro x cpu b w resuming
        have distinct : x ≠ id := by
          rintro rfl
          simp at resuming
        simp only [ShutdownState.setWorker_workers, Function.update_noteq distinct] at resuming
        have held := book.resuming x cpu b w resuming
        simp [Function.update_noteq (unheld w held.1), held]

end Nanos6.Executors
