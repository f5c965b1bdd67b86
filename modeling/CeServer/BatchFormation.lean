import CeServer.Completion

/-!
Every pass of the dispatch loop splits the backlog in two: a batch within its
limits, and the rest as it was.
-/

namespace CeServer.Memory

open Transition

variable {Thread Device Scatter : Type} {dma : Dma Device Scatter}
  {before after : MemoryState Thread Device Scatter} {event : MemoryEvent Thread Device}

section Limits

variable {items : ItemId → BacklogItem Thread} {pid : Int32}

theorem takeBatch_length {requestedSoFar : UInt64} {taken : Nat} {order : List BacklogEntry}
    (room : taken < MAX_DISPATCH_SIZE) :
    taken + (takeBatch items pid requestedSoFar taken order).length ≤ MAX_DISPATCH_SIZE := by
  induction order generalizing requestedSoFar taken with
  | nil => exact Nat.le_of_lt room
  | cons entry rest ih =>
      simp only [takeBatch]
      split
      · exact ih room
      · split
        · exact Nat.le_of_lt room
        · rw [List.length_cons]
          split
          · exact room
          · rename_i below
            have later : taken + 1 + (takeBatch items pid (requestedSoFar + (items entry.2).size)
                (taken + 1) rest).length ≤ MAX_DISPATCH_SIZE := ih (Nat.lt_of_not_le below)
            omega

def requestedBytes (items : ItemId → BacklogItem Thread) (batch : List BacklogEntry) : Nat :=
  (batch.map fun entry => (items entry.2).size.toNat).sum

/-- The running sum does not wrap around: the loop stops at the limit, and no
item alone reaches the sign bit. -/
theorem takeBatch_bytes {requestedSoFar : UInt64} {taken : Nat} {order : List BacklogEntry}
    (sized : ∀ item, (items item).size.toNat < 2 ^ 63)
    (below : requestedSoFar.toNat < MAX_BYTES_PER_DISPATCH.toNat) :
    requestedSoFar.toNat + requestedBytes items (takeBatch items pid requestedSoFar taken order) <
      MAX_BYTES_PER_DISPATCH.toNat := by
  induction order generalizing requestedSoFar taken with
  | nil => exact below
  | cons entry rest ih =>
      simp only [takeBatch]
      split
      · exact ih below
      · split
        · exact below
        · rename_i fits
          have bound := sized entry.2
          have limit : MAX_BYTES_PER_DISPATCH.toNat = 1000000000 := rfl
          have sum : (requestedSoFar + (items entry.2).size).toNat =
              requestedSoFar.toNat + (items entry.2).size.toNat := by
            rw [UInt64.toNat_add]
            apply Nat.mod_eq_of_lt
            omega
          have still : (requestedSoFar + (items entry.2).size).toNat <
              MAX_BYTES_PER_DISPATCH.toNat :=
            UInt64.lt_iff_toNat_lt.mp (UInt64.not_le.mp fits)
          rw [requestedBytes, List.map_cons, List.sum_cons, ← Nat.add_assoc, ← sum]
          split
          · exact still
          · exact ih still

end Limits

/-- `new char[size]` has succeeded for every item. -/
def Sized (state : MemoryState Thread Device Scatter) : Prop :=
  ∀ item, (state.items item).size.toNat < 2 ^ 63

theorem sized_start (device : Device) :
    Sized (start device : MemoryState Thread Device Scatter) :=
  fun _ => Nat.two_pow_pos 63

theorem Sized.update (sized : Sized before) {item : ItemId} {value : BacklogItem Thread}
    (items : after.items = Function.update before.items item value)
    (fits : value.size.toNat < 2 ^ 63) : Sized after := by
  intro other
  rw [items]
  by_cases here : other = item
  · rw [here, Function.update_self]
    exact fits
  · rw [Function.update_of_ne here]
    exact sized other

theorem size_of_create [DecidableEq Thread] {thread : Thread} {first : Nat} {request : ReadRequest}
    (calling : before.threads thread = .calling first request)
    (missing : before.backlog.find request.key = none)
    (stepped : step dma before (.enqueue thread) = some after) : request.size.toNat < 2 ^ 63 := by
  by_contra large
  have refused : request.size ≥ 0x8000000000000000 :=
    UInt64.le_iff_toNat_le.mpr (Nat.le_of_not_lt large)
  cases abandoned : before.mtxAbandoned with
  | false => simp [step, readStep, calling, abandoned, missing, refused] at stepped
  | true => simp [step, readStep, calling, abandoned] at stepped

theorem Sized.step [DecidableEq Thread] (sized : Sized before)
    (taken : Steps (next dma) before event after) : Sized after := by
  obtain ⟨acted, stepped, rfl⟩ := Option.map_eq_some_iff.mp taken
  have act := act_of_step stepped
  cases act with
  | create calling missing =>
      exact Sized.update sized rfl (size_of_create calling missing stepped)
  | retrieve | copy | setValue => exact Sized.update sized rfl (sized _)
  | _ => exact sized

/-- A pass took this batch, in the backlog's own order of iteration, for one pid. -/
structure Partitions (before after : MemoryState Thread Device Scatter) (pid : Int32)
    (batch : List BacklogEntry) : Prop where
  dispatched : after.dispatcher = .formed pid (batch.map Sigma.snd)
  whole : (batch ++ after.backlog.entries).Perm before.backlog.entries
  disjoint : batch.Disjoint after.backlog.entries
  pid : ∀ entry ∈ batch, (before.items entry.2).pid = pid
  length : batch.length ≤ MAX_DISPATCH_SIZE
  bytes : requestedBytes before.items batch < MAX_BYTES_PER_DISPATCH.toNat
  unchanged : after.items = before.items

theorem disjoint_eraseBatch (batch : List BacklogEntry) (backlog : Backlog) :
    batch.Disjoint (eraseBatch batch backlog).entries := by
  intro entry taken left
  have spared := (find_of_eraseBatch (AList.mem_lookup_iff.mpr left)).1
  exact spared (List.mem_map_of_mem taken)

theorem formBatch_step [DecidableEq Thread] (dma : Dma Device Scatter) (sized : Sized before)
    (pacing : before.dispatcher = .pacing) (unlocked : before.mtxAbandoned = false)
    {first : BacklogEntry} {rest : List BacklogEntry}
    (perm : (first :: rest).Perm before.backlog.entries) :
    ∃ after, Steps (next dma) before (.formBatch (first :: rest)) after ∧
      Partitions before after (before.items first.2).pid
        (dispatchBuffer before.items (first :: rest)) := by
  have stepped : step dma before (.formBatch (first :: rest)) = some { before with
      backlog := eraseBatch (dispatchBuffer before.items (first :: rest)) before.backlog
      batches := fun item => before.batches item +
        ((dispatchBuffer before.items (first :: rest)).map Sigma.snd).count item
      dispatcher := .formed (before.items first.2).pid
        ((dispatchBuffer before.items (first :: rest)).map Sigma.snd) } := by
    simp only [step, dispatchStep, pacing, unlocked, if_pos perm]
  refine ⟨_, Option.map_eq_some_iff.mpr ⟨_, stepped, rfl⟩, ?_⟩
  constructor
  · rfl
  · exact perm_eraseBatch (nodup_keys_dispatchBuffer before.items perm)
      fun entry => find_of_mem_dispatchBuffer perm
  · exact disjoint_eraseBatch _ _
  · exact fun entry => dispatchBuffer_pid
  · have bounded : 0 + (dispatchBuffer before.items (first :: rest)).length ≤ MAX_DISPATCH_SIZE :=
      takeBatch_length (by decide)
    rwa [Nat.zero_add] at bounded
  · have bounded : (0 : UInt64).toNat + requestedBytes before.items
        (dispatchBuffer before.items (first :: rest)) < MAX_BYTES_PER_DISPATCH.toNat :=
      takeBatch_bytes sized (by decide)
    rwa [UInt64.toNat_zero, Nat.zero_add] at bounded
  · rfl

/-- Whatever has been queued meanwhile and in whatever order the map is walked,
batch formation finds an item and splits the backlog. -/
theorem formBatch_partitions [DecidableEq Thread] {device : Device}
    {events : List (MemoryEvent Thread Device)} {state : MemoryState Thread Device Scatter}
    (run : Run (Steps (next dma)) (start device) events state)
    (pacing : state.dispatcher = .pacing) :
    state.backlog.entries ≠ [] ∧
      ∀ order, order.Perm state.backlog.entries → state.mtxAbandoned = false →
        ∃ after pid batch, Steps (next dma) state (.formBatch order) after ∧
          Partitions state after pid batch := by
  have attended := attended_of_run run
  have sized : Sized state := run.invariant (sized_start device)
    fun _ _ _ held taken => held.step taken
  have waiting := attended.alert.pacing pacing
  refine ⟨waiting, fun order perm unlocked => ?_⟩
  cases order with
  | nil => exact absurd perm.nil_eq.symm waiting
  | cons first rest =>
      obtain ⟨after, taken, splits⟩ := formBatch_step dma sized pacing unlocked perm
      exact ⟨after, _, _, taken, splits⟩

theorem formBatch_partitions_readTwoBytes : ∃ state after pid batch,
    Run (Steps (next flatMemory)) (start [1, 2, 3, 4]) (readTwoBytes.take 4) state ∧
      state.backlog.entries ≠ [] ∧ Partitions state after pid batch := by
  have executed : (execute (next flatMemory) (start [1, 2, 3, 4]) (readTwoBytes.take 4)).map
      (fun state => (state.dispatcher, state.mtxAbandoned)) = some (.pacing, false) := by
    rfl
  obtain ⟨state, ran, observed⟩ := Option.map_eq_some_iff.mp executed
  obtain ⟨pacing, unlocked⟩ := Prod.mk.inj observed
  obtain ⟨waiting, splits⟩ := formBatch_partitions (run_of_execute ran) pacing
  obtain ⟨after, pid, batch, _, partitions⟩ := splits _ (List.Perm.refl _) unlocked
  exact ⟨state, after, pid, batch, run_of_execute ran, waiting, partitions⟩

end CeServer.Memory
