import Mathlib.Data.List.Sigma
import Mathlib.Data.List.Sort
import Mathlib.Data.UInt
import Mathlib.Algebra.BigOperators.Group.List

namespace Nanos6.ExecutionWorkflow

/-- `std::map<MemoryPlace const*, V>`: its entries in increasing order of the key. -/
abbrev PlaceMap (V : Type) := List ((_ : Nat) × V)

namespace PlaceMap

variable {V : Type}

/-- `map[key] = f(map[key])`: `operator[]` inserts `default` in its place when `key` is missing. -/
def modify (key : Nat) (default : V) (f : V → V) : PlaceMap V → PlaceMap V
  | [] => [⟨key, f default⟩]
  | ⟨k, v⟩ :: rest =>
      if key < k then ⟨key, f default⟩ :: ⟨k, v⟩ :: rest
      else if key = k then ⟨k, f v⟩ :: rest
      else ⟨k, v⟩ :: modify key default f rest

def Sorted (m : PlaceMap V) : Prop :=
  m.Pairwise fun a b => a.1 < b.1

theorem Sorted.below {k : Nat} {v : V} {rest : PlaceMap V} (sorted : Sorted (⟨k, v⟩ :: rest)) :
    ∀ a ∈ rest, k < a.1 :=
  fun _ member => List.rel_of_pairwise_cons sorted member

theorem dlookup_cons_of_ne {k key : Nat} {v : V} {rest : PlaceMap V} (distinct : k ≠ key) :
    List.dlookup k (⟨key, v⟩ :: rest) = rest.dlookup k :=
  List.dlookup_cons_ne rest ⟨key, v⟩ distinct

theorem dlookup_eq_none_of_lt {k : Nat} {m : PlaceMap V} (below : ∀ a ∈ m, k < a.1) :
    m.dlookup k = none :=
  List.dlookup_eq_none.mpr fun member => by
    obtain ⟨b, inMap⟩ := List.mem_keys.mp member
    exact lt_irrefl k (below ⟨k, b⟩ inMap)

theorem mem_keys_modify {key k : Nat} {default : V} {f : V → V} :
    ∀ {m : PlaceMap V}, k ∈ (modify key default f m).keys → k = key ∨ k ∈ m.keys
  | [], member => by simpa [modify] using member
  | ⟨k', v⟩ :: rest, member => by
      unfold modify at member
      split_ifs at member with before same
      · simpa [or_comm, or_left_comm] using member
      · simpa [same] using member
      · simp only [List.keys_cons, List.mem_cons] at member ⊢
        rcases member with rfl | member
        · exact .inr (.inl rfl)
        · exact (mem_keys_modify member).imp_right .inr

theorem sorted_modify (key : Nat) (default : V) (f : V → V) :
    ∀ {m : PlaceMap V}, Sorted m → Sorted (modify key default f m)
  | [], _ => List.pairwise_singleton _ _
  | ⟨k, v⟩ :: rest, sorted => by
      have later := sorted.below
      unfold modify
      split_ifs with before same
      · exact sorted.cons fun a member => (List.mem_cons.mp member).elim
          (fun first => first ▸ before) fun member => before.trans (later _ member)
      · exact sorted.of_cons.cons fun a member => same ▸ later _ member
      · refine (sorted_modify key default f sorted.of_cons).cons fun a member => ?_
        rcases mem_keys_modify (List.mem_keys_of_mem member) with first | member
        · show k < a.1
          omega
        · obtain ⟨b, inRest⟩ := List.mem_keys.mp member
          exact later ⟨a.1, b⟩ inRest

theorem dlookup_modify_ne {key k : Nat} (distinct : k ≠ key) (default : V) (f : V → V) :
    ∀ m : PlaceMap V, (modify key default f m).dlookup k = m.dlookup k
  | [] => by rw [modify, dlookup_cons_of_ne distinct]
  | ⟨k', v⟩ :: rest => by
      unfold modify
      split_ifs with before same
      · rw [dlookup_cons_of_ne distinct]
      · subst same
        rw [dlookup_cons_of_ne distinct, dlookup_cons_of_ne distinct]
      · by_cases here : k = k'
        · subst here
          rw [List.dlookup_cons_eq, List.dlookup_cons_eq]
        · rw [dlookup_cons_of_ne here, dlookup_cons_of_ne here,
            dlookup_modify_ne distinct default f rest]

theorem dlookup_modify_self (key : Nat) (default : V) (f : V → V) :
    ∀ {m : PlaceMap V}, Sorted m →
      (modify key default f m).dlookup key = some (f ((m.dlookup key).getD default))
  | [], _ => by simp [modify, List.dlookup_cons_eq]
  | ⟨k, v⟩ :: rest, sorted => by
      unfold modify
      split_ifs with before same
      · rw [List.dlookup_cons_eq, dlookup_eq_none_of_lt fun a member =>
          (List.mem_cons.mp member).elim (fun first => first ▸ before)
            fun inRest => before.trans (sorted.below a inRest)]
        rfl
      · subst same
        rw [List.dlookup_cons_eq, List.dlookup_cons_eq]
        rfl
      · rw [dlookup_cons_of_ne same, dlookup_cons_of_ne same]
        exact dlookup_modify_self key default f sorted.of_cons

theorem eq_of_dlookup_eq : ∀ {m₁ m₂ : PlaceMap V}, Sorted m₁ → Sorted m₂ →
    (∀ k, m₁.dlookup k = m₂.dlookup k) → m₁ = m₂
  | [], [], _, _, _ => rfl
  | [], ⟨k, v⟩ :: _, _, _, same => by simpa [List.dlookup_cons_eq] using same k
  | ⟨k, v⟩ :: _, [], _, _, same => by simpa [List.dlookup_cons_eq] using same k
  | ⟨k₁, v₁⟩ :: r₁, ⟨k₂, v₂⟩ :: r₂, sorted₁, sorted₂, same => by
      have absent : ∀ {k k' : Nat} {v' : V} {r : PlaceMap V}, Sorted (⟨k', v'⟩ :: r) → k < k' →
          List.dlookup k (⟨k', v'⟩ :: r) = none := fun sorted lt =>
        dlookup_eq_none_of_lt fun a member => (List.mem_cons.mp member).elim
          (fun first => first ▸ lt) fun inRest => lt.trans (sorted.below a inRest)
      obtain rfl : k₁ = k₂ := by
        rcases lt_trichotomy k₁ k₂ with lt | same' | gt
        · simpa [List.dlookup_cons_eq, absent sorted₂ lt] using same k₁
        · exact same'
        · simpa [List.dlookup_cons_eq, absent sorted₁ gt] using same k₂
      obtain rfl : v₁ = v₂ := by simpa [List.dlookup_cons_eq] using same k₁
      congr 1
      refine eq_of_dlookup_eq sorted₁.of_cons sorted₂.of_cons fun k => ?_
      by_cases here : k = k₁
      · subst here
        rw [dlookup_eq_none_of_lt sorted₁.below, dlookup_eq_none_of_lt sorted₂.below]
      · have found := same k
        rwa [dlookup_cons_of_ne here, dlookup_cons_of_ne here] at found

theorem dlookup_map_keys (value : Nat → V) (k : Nat) :
    ∀ keys : List Nat, (keys.map fun key => (⟨key, value key⟩ : (_ : Nat) × V)).dlookup k =
      if k ∈ keys then some (value k) else none
  | [] => rfl
  | key :: keys => by
      by_cases here : k = key
      · subst here; simp [List.dlookup_cons_eq]
      · simp [dlookup_cons_of_ne here, here, dlookup_map_keys value k keys]
end PlaceMap

/-- A `ClusterDataCopyStep` as `WorkflowBase::start` sees it. The class is not in the sources, so
what its accessors return is data here: `requiresDataFetch()`, the source memory place (its
address, the key of the maps) and `getNumFragments()`. -/
structure ClusterCopy (σ : Type) where
  step : σ
  requiresDataFetch : Bool
  source : Nat
  numFragments : UInt64
deriving DecidableEq, Repr

/-- A root step: a cluster copy, or any other step (the `dynamic_cast` fails). -/
inductive RootStep (σ : Type) where
  | plain (step : σ)
  | clusterCopy (copy : ClusterCopy σ)
deriving DecidableEq, Repr

/-- The calls `start()` makes, in order. -/
inductive StartCall (σ : Type) where
  | start (step : σ)
  | requiresDataFetch (copy : ClusterCopy σ)
  | fetchVector (fragments : UInt64) (steps : List (ClusterCopy σ)) (source : Nat)
deriving DecidableEq, Repr

section Start

variable {σ : Type}

/-- The two maps of `start()`, from source memory place to fragments and to steps. -/
structure Batches (σ : Type) where
  fragments : PlaceMap UInt64
  groups : PlaceMap (List (ClusterCopy σ))

/-- `fragments[source] += clusterCopy->getNumFragments(); groups[source].push_back(clusterCopy);` -/
def Batches.add (batches : Batches σ) (copy : ClusterCopy σ) : Batches σ where
  fragments := PlaceMap.modify copy.source 0 (· + copy.numFragments) batches.fragments
  groups := PlaceMap.modify copy.source [] (· ++ [copy]) batches.groups

/-- The loop over `_rootSteps`: the calls it makes, and the maps it leaves. -/
def startRoots (batches : Batches σ) : List (RootStep σ) → List (StartCall σ) × Batches σ
  | [] => ([], batches)
  | .plain step :: rest =>
      let visited := startRoots batches rest
      (.start step :: visited.1, visited.2)
  | .clusterCopy copy :: rest =>
      let visited := startRoots (if copy.requiresDataFetch then batches.add copy else batches) rest
      (.requiresDataFetch copy :: visited.1, visited.2)

/-- `WorkflowBase::start`: the loop, then one `fetchVector` per entry of `groups`, in the map's
order. -/
def WorkflowBase.start (rootSteps : List (RootStep σ)) : List (StartCall σ) :=
  let visited := startRoots ⟨[], []⟩ rootSteps
  visited.1 ++ visited.2.groups.map fun group =>
    .fetchVector ((visited.2.fragments.dlookup group.1).getD 0) group.2 group.1

/-- The call `start()` makes on a root inside its loop. -/
def RootStep.probe : RootStep σ → StartCall σ
  | .plain step => .start step
  | .clusterCopy copy => .requiresDataFetch copy

def RootStep.fetching? : RootStep σ → Option (ClusterCopy σ)
  | .plain _ => none
  | .clusterCopy copy => if copy.requiresDataFetch then some copy else none

def fetchingCopies (rootSteps : List (RootStep σ)) : List (ClusterCopy σ) :=
  rootSteps.filterMap RootStep.fetching?

def sourceGroup (copies : List (ClusterCopy σ)) (source : Nat) : List (ClusterCopy σ) :=
  copies.filter (·.source = source)

def sources (copies : List (ClusterCopy σ)) : List Nat :=
  (copies.map (·.source)).dedup.insertionSort (· ≤ ·)

/-- One `fetchVector` per source: its copies, and the sum of their fragments. -/
def fetchCall (copies : List (ClusterCopy σ)) (source : Nat) : StartCall σ :=
  .fetchVector ((sourceGroup copies source).map (·.numFragments)).sum (sourceGroup copies source)
    source

/-- What a map of `start()` holds for `source` once `copies` went through the loop. -/
def lookupGroup (copies : List (ClusterCopy σ)) (source : Nat) : Option (List (ClusterCopy σ)) :=
  if source ∈ copies.map (·.source) then some (sourceGroup copies source) else none

theorem mem_sources {copies : List (ClusterCopy σ)} {source : Nat} :
    source ∈ sources copies ↔ source ∈ copies.map (·.source) :=
  (List.perm_insertionSort _ _).mem_iff.trans List.mem_dedup

theorem sources_nodup (copies : List (ClusterCopy σ)) : (sources copies).Nodup :=
  (List.perm_insertionSort _ _).nodup_iff.mpr (List.nodup_dedup _)

theorem lookupGroup_getD (copies : List (ClusterCopy σ)) (source : Nat) :
    (lookupGroup copies source).getD [] = sourceGroup copies source := by
  unfold lookupGroup
  split_ifs with found
  · rfl
  · refine (List.filter_eq_nil_iff.mpr fun copy member same => found ?_).symm
    exact List.mem_map.mpr ⟨copy, member, of_decide_eq_true same⟩

theorem lookupGroup_append (copies : List (ClusterCopy σ)) (copy : ClusterCopy σ) (source : Nat) :
    lookupGroup (copies ++ [copy]) source =
      if source = copy.source then some (sourceGroup copies source ++ [copy])
      else lookupGroup copies source := by
  by_cases same : source = copy.source
  · subst same
    simp [lookupGroup, sourceGroup, List.filter_append]
  · have other : copy.source ≠ source := Ne.symm same
    simp [lookupGroup, sourceGroup, List.filter_append, same, other]

theorem startRoots_eq (batches : Batches σ) (rootSteps : List (RootStep σ)) :
    startRoots batches rootSteps =
      (rootSteps.map RootStep.probe, (fetchingCopies rootSteps).foldl Batches.add batches) := by
  induction rootSteps generalizing batches with
  | nil => rfl
  | cons root rest ih =>
      cases root with
      | plain step => simp [startRoots, ih, fetchingCopies, RootStep.fetching?, RootStep.probe]
      | clusterCopy copy =>
          cases fetch : copy.requiresDataFetch <;>
            simp [startRoots, ih, fetchingCopies, RootStep.fetching?, RootStep.probe, fetch]

/-- The maps of `start()` are sorted and hold, for each source, the copies from it and the sum
of their fragments. -/
structure Batches.Represents (batches : Batches σ) (copies : List (ClusterCopy σ)) : Prop where
  fragments_sorted : PlaceMap.Sorted batches.fragments
  groups_sorted : PlaceMap.Sorted batches.groups
  groups : ∀ source, batches.groups.dlookup source = lookupGroup copies source
  fragments : ∀ source, batches.fragments.dlookup source =
    (lookupGroup copies source).map fun group => (group.map (·.numFragments)).sum

theorem Batches.Represents.add {batches : Batches σ} {copies : List (ClusterCopy σ)}
    (represents : batches.Represents copies) (copy : ClusterCopy σ) :
    (batches.add copy).Represents (copies ++ [copy]) where
  fragments_sorted := PlaceMap.sorted_modify _ _ _ represents.fragments_sorted
  groups_sorted := PlaceMap.sorted_modify _ _ _ represents.groups_sorted
  groups source := by
    rw [lookupGroup_append]
    split_ifs with same
    · subst same
      rw [Batches.add, PlaceMap.dlookup_modify_self _ _ _ represents.groups_sorted,
        represents.groups, lookupGroup_getD]
    · rw [Batches.add, PlaceMap.dlookup_modify_ne same, represents.groups]
  fragments source := by
    rw [lookupGroup_append]
    split_ifs with same
    · subst same
      rw [Batches.add, PlaceMap.dlookup_modify_self _ _ _ represents.fragments_sorted,
        represents.fragments]
      cases found : lookupGroup copies copy.source with
      | none =>
          have empty := lookupGroup_getD copies copy.source
          rw [found] at empty
          simp [← empty]
      | some group =>
          have same := lookupGroup_getD copies copy.source
          rw [found] at same
          simp [← same, List.sum_append]
    · rw [Batches.add, PlaceMap.dlookup_modify_ne same, represents.fragments]

theorem Batches.Represents.foldl {batches : Batches σ} {done : List (ClusterCopy σ)}
    (represents : batches.Represents done) (copies : List (ClusterCopy σ)) :
    (copies.foldl Batches.add batches).Represents (done ++ copies) := by
  induction copies generalizing batches done with
  | nil => simpa using represents
  | cons copy rest ih => simpa using ih (represents.add copy)

theorem Batches.represents_empty : (⟨[], []⟩ : Batches σ).Represents [] :=
  ⟨List.Pairwise.nil, List.Pairwise.nil, fun _ => rfl, fun _ => rfl⟩

theorem Batches.Represents.groups_eq {batches : Batches σ} {copies : List (ClusterCopy σ)}
    (represents : batches.Represents copies) :
    batches.groups = (sources copies).map fun source => ⟨source, sourceGroup copies source⟩ := by
  have increasing : (sources copies).Sorted (· < ·) :=
    (List.sorted_insertionSort _ _).lt_of_le (sources_nodup copies)
  refine PlaceMap.eq_of_dlookup_eq represents.groups_sorted
    (List.pairwise_map.mpr increasing) fun source => ?_
  rw [represents.groups, PlaceMap.dlookup_map_keys, lookupGroup]
  simp only [mem_sources]

/-- `start()` calls `start()` on each root that is not a cluster copy and `requiresDataFetch()`
on each cluster copy, in root order, and then `fetchVector` once per distinct source of the
copies that require a fetch, in increasing order of the source, passing exactly the copies from
that source, in root order, and the sum of their fragments. -/
theorem start_batches_fetches (rootSteps : List (RootStep σ)) :
    WorkflowBase.start rootSteps = rootSteps.map RootStep.probe ++
      (sources (fetchingCopies rootSteps)).map (fetchCall (fetchingCopies rootSteps)) := by
  have represents := Batches.represents_empty.foldl (fetchingCopies rootSteps)
  rw [List.nil_append] at represents
  simp only [WorkflowBase.start, startRoots_eq, represents.groups_eq, List.map_map]
  congr 1
  refine List.map_congr_left fun source member => ?_
  simp only [Function.comp, fetchCall, represents.fragments, lookupGroup,
    if_pos (mem_sources.mp member), Option.map_some', Option.getD_some]

end Start

end Nanos6.ExecutionWorkflow
