import CeServer.Readers

/-!
The buffer handed over through a promise: who owns it, and when a reader may
still copy from it.
-/

namespace CeServer.Memory

open Transition

variable {Thread Device Scatter : Type} {dma : Dma Device Scatter}
  {before after : MemoryState Thread Device Scatter} {event : MemoryEvent Thread Device}

/-- The sequential branch releases a buffer only after the item's reader has
copied it. -/
def releasedAfterCopy (dma : Dma Device Scatter) (state : MemoryState Thread Device Scatter) :
    MemoryEvent Thread Device → Bool
  | .memFree _ =>
      match state.dispatcher with
      | .freeing _ item _ _ => !dma.memFreeReleases || (state.items item).promiseRead
      | _ => true
  | _ => true

def ReleasedAfterCopy (dma : Dma Device Scatter) (state : MemoryState Thread Device Scatter)
    (event : MemoryEvent Thread Device) : Prop :=
  releasedAfterCopy dma state event = true

instance (dma : Dma Device Scatter) (state : MemoryState Thread Device Scatter)
    (event : MemoryEvent Thread Device) : Decidable (ReleasedAfterCopy dma state event) :=
  inferInstanceAs (Decidable (releasedAfterCopy dma state event = true))

theorem ReleasedAfterCopy.copied {remains : List UInt8} {pid : Int32} {item : ItemId}
    {buffer : BufferId} {todo : List ItemId}
    (released : ReleasedAfterCopy dma before (.memFree remains))
    (freeing : before.dispatcher = .freeing pid item buffer todo)
    (releases : dma.memFreeReleases = true) : (before.items item).promiseRead = true := by
  simpa [ReleasedAfterCopy, releasedAfterCopy, freeing, releases] using released

/-- Who copies, copies from an allocated buffer that holds what the device read
put there. -/
def CopiesIntact (state : MemoryState Thread Device Scatter) : Prop :=
  ∀ thread start request item read buffer,
    state.threads thread = .reading start request item (.copying read buffer) →
    (state.buffers buffer).allocated = true ∧
      (state.buffers buffer).bytes = state.fillings buffer

structure Buffers (state : MemoryState Thread Device Scatter) : Prop where
  promised : ∀ item read buffer, (state.items item).promise.value = some (read, buffer) →
    buffer < state.nextBuffer ∧ state.owners buffer = item ∧
      ((state.items item).promiseRead = false → (state.buffers buffer).allocated = true)
  intact : ∀ buffer, (state.buffers buffer).allocated = true →
    (state.buffers buffer).bytes = state.fillings buffer
  filled : ∀ path item read buffer todo,
    state.dispatcher = .filled path item read buffer todo →
    buffer < state.nextBuffer ∧ state.owners buffer = item ∧
      (state.buffers buffer).allocated = true
  freeing : ∀ pid item buffer todo, state.dispatcher = .freeing pid item buffer todo →
    ∃ read, (state.items item).promise.value = some (read, buffer)

theorem buffers_start (device : Device) :
    Buffers (start device : MemoryState Thread Device Scatter) where
  promised := fun _ _ _ value => by simp [start] at value
  intact := fun _ allocated => by simp [start] at allocated
  filled := fun _ _ _ _ _ filled => by simp [start] at filled
  freeing := fun _ _ _ _ freeing => by simp [start] at freeing

def SamePromise (old new : BacklogItem Thread) : Prop :=
  new.promise.value = old.promise.value ∧
    (new.promiseRead = false → old.promiseRead = false ∨ new.promise.value = none)

theorem samePromise_update {items : ItemId → BacklogItem Thread} {item : ItemId}
    {value : BacklogItem Thread} (same : SamePromise (items item) value) (other : ItemId) :
    SamePromise (items other) (Function.update items item value other) := by
  by_cases here : other = item
  · subst here
    rw [Function.update_self]
    exact same
  · rw [Function.update_of_ne here]
    exact ⟨rfl, Or.inl⟩

theorem Buffers.of_same (held : Buffers before) (buffers : after.buffers = before.buffers)
    (owners : after.owners = before.owners) (fillings : after.fillings = before.fillings)
    (nextBuffer : after.nextBuffer = before.nextBuffer)
    (items : ∀ item, SamePromise (before.items item) (after.items item))
    (filled : ∀ path item read buffer todo,
      after.dispatcher = .filled path item read buffer todo →
      before.dispatcher = .filled path item read buffer todo)
    (freeing : ∀ pid item buffer todo, after.dispatcher = .freeing pid item buffer todo →
      before.dispatcher = .freeing pid item buffer todo) : Buffers after where
  promised := by
    intro item read buffer value
    obtain ⟨same, unread⟩ := items item
    have old := held.promised item read buffer (same.symm.trans value)
    rw [nextBuffer, owners, buffers]
    refine ⟨old.1, old.2.1, fun pending => ?_⟩
    rcases unread pending with earlier | none
    · exact old.2.2 earlier
    · rw [none] at value
      simp at value
  intact := by
    rw [buffers, fillings]
    exact held.intact
  filled := by
    intro path item read buffer todo now
    rw [nextBuffer, owners, buffers]
    exact held.filled path item read buffer todo (filled _ _ _ _ _ now)
  freeing := by
    intro pid item buffer todo now
    rw [(items item).1]
    exact held.freeing pid item buffer todo (freeing _ _ _ _ now)

theorem Buffers.fill (held : Buffers before) {path : DispatchPath Scatter} {item : ItemId}
    {todo : List ItemId} {bytes : List UInt8} {read : UInt64}
    (instants : ItemId → Option Nat) :
    Buffers { before with
      buffers := Function.update before.buffers before.nextBuffer { bytes, allocated := true }
      owners := Function.update before.owners before.nextBuffer item
      fillings := Function.update before.fillings before.nextBuffer bytes
      instants := instants
      nextBuffer := before.nextBuffer + 1
      dispatcher := .filled path item read before.nextBuffer todo :
        MemoryState Thread Device Scatter } where
  promised := by
    intro other count buffer value
    obtain ⟨below, owner, allocated⟩ := held.promised other count buffer value
    have old : buffer ≠ before.nextBuffer := Nat.ne_of_lt below
    simp only [Function.update_of_ne old]
    exact ⟨Nat.lt_succ_of_lt below, owner, allocated⟩
  intact := by
    intro buffer allocated
    by_cases new : buffer = before.nextBuffer
    · subst new
      simp only [Function.update_self]
    · simp only [Function.update_of_ne new] at allocated ⊢
      exact held.intact buffer allocated
  filled := by
    rintro _ _ _ _ _ ⟨⟩
    refine ⟨Nat.lt_succ_self _, ?_, ?_⟩ <;> simp only [Function.update_self]
  freeing := nofun

theorem Buffers.setValue (held : Buffers before) {path : DispatchPath Scatter} {item : ItemId}
    {read : UInt64} {buffer : BufferId} {todo : List ItemId}
    (filled : before.dispatcher = .filled path item read buffer todo)
    (settings : ItemId → Nat) :
    Buffers { before with
      items := Function.update before.items item { before.items item with
        promise := { (before.items item).promise with value := some (read, buffer) } }
      settings := settings
      dispatcher := afterSet item buffer todo path : MemoryState Thread Device Scatter } where
  promised := by
    intro other count pointer value
    by_cases here : other = item
    · subst here
      simp only [Function.update_self, Option.some.injEq, Prod.mk.injEq] at value ⊢
      obtain ⟨below, owner, allocated⟩ := held.filled _ _ _ _ _ filled
      rw [← value.2]
      exact ⟨below, owner, fun _ => allocated⟩
    · simp only [Function.update_of_ne here] at value ⊢
      exact held.promised other count pointer value
  intact := held.intact
  filled := by
    intro _ _ _ _ _ now
    cases path <;> simp [afterSet] at now
  freeing := by
    intro pid other pointer rest now
    cases path with
    | sequential pid =>
        simp only [afterSet, Dispatcher.freeing.injEq] at now
        obtain ⟨-, rfl, rfl, -⟩ := now
        refine ⟨read, ?_⟩
        simp only [Function.update_self]
    | scatter handle => simp [afterSet] at now

/-- The released buffer belongs to one item, and that one has been copied. -/
theorem Buffers.memFree (held : Buffers before) {pid : Int32} {item : ItemId}
    {buffer : BufferId} {todo : List ItemId} (remains : List UInt8)
    (freeing : before.dispatcher = .freeing pid item buffer todo)
    (copied : dma.memFreeReleases = true → (before.items item).promiseRead = true) :
    Buffers { before with
      buffers := if dma.memFreeReleases
        then Function.update before.buffers buffer { bytes := remains, allocated := false }
        else before.buffers
      dispatcher := .reading (.sequential pid) todo : MemoryState Thread Device Scatter } := by
  by_cases releases : dma.memFreeReleases = true
  · simp only [releases, if_true]
    constructor
    · intro other count pointer value
      obtain ⟨below, owner, allocated⟩ := held.promised other count pointer value
      refine ⟨below, owner, fun unread => ?_⟩
      have apart : pointer ≠ buffer := by
        intro same
        obtain ⟨read, own⟩ := held.freeing pid item buffer todo freeing
        have owned := (held.promised item read buffer own).2.1
        have here : other = item := by rw [← owner, same, owned]
        rw [here, copied releases] at unread
        simp at unread
      simp only [Function.update_of_ne apart]
      exact allocated unread
    · intro pointer allocated
      by_cases here : pointer = buffer
      · subst here
        simp at allocated
      · simp only [Function.update_of_ne here] at allocated ⊢
        exact held.intact pointer allocated
    · exact nofun
    · exact nofun
  · refine held.of_same ?_ rfl rfl rfl (fun _ => ⟨rfl, Or.inl⟩) nofun nofun
    simp [releases]

theorem Buffers.step [DecidableEq Thread] (held : Buffers before) (queue : Queue before)
    (released : ReleasedAfterCopy dma before event) (act : Act dma before event after) :
    Buffers after := by
  have unchanged (item : ItemId) : SamePromise (before.items item) (before.items item) :=
    ⟨rfl, Or.inl⟩
  cases act with
  | fill reading read => exact held.fill _
  | setValue filled unset => exact held.setValue filled _
  | memFree remains freeing =>
      exact held.memFree remains freeing (released.copied freeing)
  | create calling missing =>
      refine held.of_same rfl rfl rfl rfl (samePromise_update ⟨?_, fun _ => Or.inr rfl⟩)
        (fun _ _ _ _ _ => Dispatcher.notified_eq_filled.mp)
        (fun _ _ _ _ => Dispatcher.notified_eq_freeing.mp)
      exact (queue.unborn _ (Nat.le_refl _)).2.2.symm
  | retrieve locking unlocked unread fresh =>
      exact held.of_same rfl rfl rfl rfl (samePromise_update ⟨rfl, Or.inl⟩)
        (fun _ _ _ _ _ => id) (fun _ _ _ _ => id)
  | copy copying =>
      exact held.of_same rfl rfl rfl rfl
        (samePromise_update ⟨rfl, fun unread => Bool.noConfusion unread⟩)
        (fun _ _ _ _ _ => id) (fun _ _ _ _ => id)
  | acquire | testStop | testEmpty | waitTest =>
      refine held.of_same rfl rfl rfl rfl unchanged ?_ ?_
      · intro path item read buffer todo filled
        dsimp only at filled
        split at filled <;> simp at filled
      · intro pid item buffer todo freeing
        dsimp only at freeing
        split at freeing <;> simp at freeing
  | notifyStop =>
      exact held.of_same rfl rfl rfl rfl unchanged
        (fun _ _ _ _ _ => Dispatcher.notified_eq_filled.mp)
        (fun _ _ _ _ => Dispatcher.notified_eq_freeing.mp)
  | wakeSpuriously | formBatch | prepare | execute | setTwice | finish | release =>
      exact held.of_same rfl rfl rfl rfl unchanged nofun nofun
  | callRead | join | refuse | reuse | retrieveTwice | wake | returnRead | callWrite
    | acquireWrite | memWrite | returnWrite | change | setStop =>
      exact held.of_same rfl rfl rfl rfl unchanged (fun _ _ _ _ _ => id) (fun _ _ _ _ => id)

theorem copiesIntact_of_buffers {state : MemoryState Thread Device Scatter}
    (held : Buffers state) (readers : Readers state) : CopiesIntact state := by
  intro thread first request item read buffer copying
  obtain ⟨_, _, _, unread, value⟩ := readers.reader thread _ _ _ _ copying
  have allocated := (held.promised item read buffer value).2.2 unread
  exact ⟨allocated, held.intact buffer allocated⟩

structure HandedOver (state : MemoryState Thread Device Scatter) : Prop where
  buffers : Buffers state
  served : Served state

theorem handedOver_start (device : Device) :
    HandedOver (start device : MemoryState Thread Device Scatter) :=
  ⟨buffers_start device, served_start device⟩

theorem HandedOver.step [DecidableEq Thread] (handed : HandedOver before)
    (released : ReleasedAfterCopy dma before event) (act : Act dma before event after) :
    HandedOver after :=
  ⟨handed.buffers.step handed.served.queue released act, handed.served.step act⟩

theorem HandedOver.tick {state : MemoryState Thread Device Scatter} (handed : HandedOver state)
    (past : List Device) : HandedOver { state with past } where
  buffers := handed.buffers.of_same rfl rfl rfl rfl (fun _ => ⟨rfl, Or.inl⟩)
    (fun _ _ _ _ _ => id) fun _ _ _ _ => id
  served := handed.served.tick past

/-- When every sequential buffer is released after it has been copied, readers
only ever copy from an intact buffer, on both branches of `dispatch`. -/
theorem copiesIntact_of_releasedAfterCopy [DecidableEq Thread] {device : Device}
    {events : List (MemoryEvent Thread Device)} {final : MemoryState Thread Device Scatter}
    (run : Run (Restrict (Steps (next dma)) (ReleasedAfterCopy dma)) (start device) events final) :
    CopiesIntact final := by
  have handed : HandedOver final := run_invariant run (handedOver_start device)
    (fun _ _ _ held released act => held.step released act) fun _ past held => held.tick past
  exact copiesIntact_of_buffers handed.buffers handed.served.readers

theorem copiesIntact_of_releasedAfterCopy_readTwoBytes : ∃ middle final,
    Run (Restrict (Steps (next flatMemory)) (ReleasedAfterCopy flatMemory)) (start [1, 2, 3, 4])
        (readTwoBytes.take 10) middle ∧
      middle.threads () = .reading 0 ⟨7, 1, 2⟩ 0 (.copying 2 0) ∧ CopiesIntact middle ∧
      Run (Restrict (Steps (next flatMemory)) (ReleasedAfterCopy flatMemory)) (start [1, 2, 3, 4])
        readTwoBytes final ∧ CopiesIntact final := by
  have halfway : (execute (restricted (next flatMemory) (ReleasedAfterCopy flatMemory))
      (start [1, 2, 3, 4]) (readTwoBytes.take 10)).map (fun middle => middle.threads ()) =
        some (.reading 0 ⟨7, 1, 2⟩ 0 (.copying 2 0)) := by
    rfl
  have whole : (execute (restricted (next flatMemory) (ReleasedAfterCopy flatMemory))
      (start [1, 2, 3, 4]) readTwoBytes).isSome = true := by
    rfl
  obtain ⟨middle, ran, copying⟩ := Option.map_eq_some_iff.mp halfway
  obtain ⟨final, ranOn⟩ := Option.isSome_iff_exists.mp whole
  have first := (run_of_execute ran).mono fun _ _ _ => restrict_of_restricted
  have second := (run_of_execute ranOn).mono fun _ _ _ => restrict_of_restricted
  exact ⟨middle, final, first, copying, copiesIntact_of_releasedAfterCopy first, second,
    copiesIntact_of_releasedAfterCopy second⟩

/-- The same read, with the release right after the publication: the reader
wakes up to a buffer that is gone. -/
def readTwoBytesReleasedEarly : List (MemoryEvent Unit (List UInt8)) :=
  [.callRead () ⟨7, 1, 2⟩, .enqueue (), .testStop, .testEmpty,
    .formBatch [⟨(⟨7, 1, 2⟩ : ReadRequest).key, 0⟩], .acquire [0], .fill, .setValue,
    .memFree [9, 9], .lockItem (), .wake ()]

theorem releasedEarly_not_copiesIntact :
    ¬∀ (events : List (MemoryEvent Unit (List UInt8)))
      (final : MemoryState Unit (List UInt8) (List UInt8)),
      Run (Steps (next flatMemory)) (start [1, 2, 3, 4]) events final → CopiesIntact final := by
  intro intact
  have executed : (execute (next flatMemory) (start [1, 2, 3, 4]) readTwoBytesReleasedEarly).map
      (fun final => (final.threads (), (final.buffers 0).allocated)) =
        some (.reading 0 ⟨7, 1, 2⟩ 0 (.copying 2 0), false) := by
    rfl
  obtain ⟨final, ran, observed⟩ := Option.map_eq_some_iff.mp executed
  obtain ⟨copying, released⟩ := Prod.mk.inj observed
  have allocated := (intact _ final (run_of_execute ran) () _ _ _ _ _ copying).1
  rw [released] at allocated
  simp at allocated

end CeServer.Memory
