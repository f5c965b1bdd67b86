import CeServer.Answers

/-!
The readers of an item: one of them takes the future and copies the answer under
the item's mutex, and all of them return what it copied.
-/

namespace CeServer.Memory

open Transition

variable {Thread Device Scatter : Type} {dma : Dma Device Scatter}
  {before after : MemoryState Thread Device Scatter} {event : MemoryEvent Thread Device}

/-- What a thread knows of its item in each phase of `get`. -/
def InPhase (item : BacklogItem Thread) (thread : Thread) : GetPhase → Prop
  | .locking => True
  | .waiting => item.mtx = some thread ∧ item.promiseRead = false
  | .copying read buffer => item.mtx = some thread ∧ item.promiseRead = false ∧
      item.promise.value = some (read, buffer)
  | .returning read => item.promiseRead = true ∧ item.read = read

def Reader (state : MemoryState Thread Device Scatter) (thread : Thread) : Prop :=
  ∀ start request item phase, state.threads thread = .reading start request item phase →
    item < state.created ∧ (state.items item).toReadRequest = request ∧
      InPhase (state.items item) thread phase

/-- The future is taken once, and until the answer is copied its taker holds the mutex. -/
structure Retrieval (state : MemoryState Thread Device Scatter) (item : ItemId) : Prop where
  count : state.futures item = if (state.items item).promise.futureRetrieved then 1 else 0
  held : (state.items item).promiseRead = false →
    (state.items item).promise.futureRetrieved = true → (state.items item).mtx ≠ none

structure Logged (state : MemoryState Thread Device Scatter) (entry : ReturnedRead Thread) :
    Prop where
  created : entry.item < state.created
  request : (state.items entry.item).toReadRequest = entry.request
  promiseRead : (state.items entry.item).promiseRead = true
  count : entry.count = (state.items entry.item).read
  bytes : entry.bytes =
    (state.items entry.item).data.take (state.items entry.item).read.toNat

structure Readers (state : MemoryState Thread Device Scatter) : Prop where
  reader : ∀ thread, Reader state thread
  retrieval : ∀ item < state.created, Retrieval state item
  unborn : ∀ item, state.created ≤ item → state.futures item = 0
  logged : ∀ entry ∈ state.returnedReads, Logged state entry

theorem readers_start (device : Device) :
    Readers (start device : MemoryState Thread Device Scatter) where
  reader := fun _ _ _ _ _ reading => ThreadState.noConfusion reading
  retrieval := fun item below => absurd below (Nat.not_lt_zero item)
  unborn := fun _ _ => rfl
  logged := fun entry member => by simp [start] at member

structure Keeps (acting : Thread → Prop) (old new : BacklogItem Thread) : Prop where
  request : new.toReadRequest = old.toReadRequest
  phase : ∀ thread phase, ¬acting thread → InPhase old thread phase → InPhase new thread phase
  promiseRead : old.promiseRead = true → new.promiseRead = true
  answer : old.promiseRead = true → new.read = old.read ∧ new.data = old.data

theorem Keeps.refl (acting : Thread → Prop) (item : BacklogItem Thread) :
    Keeps acting item item where
  request := rfl
  phase := fun _ _ _ phase => phase
  promiseRead := id
  answer := fun _ => ⟨rfl, rfl⟩

theorem Keeps.logged {acting : Thread → Prop} {entry : ReturnedRead Thread}
    (logged : Logged before entry) (created : before.created ≤ after.created)
    (keeps : Keeps acting (before.items entry.item) (after.items entry.item)) :
    Logged after entry where
  created := Nat.lt_of_lt_of_le logged.created created
  request := keeps.request.trans logged.request
  promiseRead := keeps.promiseRead logged.promiseRead
  count := by rw [(keeps.answer logged.promiseRead).1, logged.count]
  bytes := by
    obtain ⟨read, data⟩ := keeps.answer logged.promiseRead
    rw [read, data, logged.bytes]

theorem Readers.of_keeps (readers : Readers before) (acting : Thread → Prop)
    (created : before.created ≤ after.created)
    (keeps : ∀ item < before.created, Keeps acting (before.items item) (after.items item))
    (threads : ∀ thread, ¬acting thread → after.threads thread = before.threads thread)
    (acts : ∀ thread, acting thread → Reader after thread)
    (retrieval : ∀ item < after.created, Retrieval after item)
    (unborn : ∀ item, after.created ≤ item → after.futures item = 0)
    (logged : ∀ entry ∈ after.returnedReads,
      entry ∈ before.returnedReads ∨ Logged after entry) : Readers after where
  reader := by
    intro thread start request item phase reading
    by_cases acted : acting thread
    · exact acts thread acted start request item phase reading
    · rw [threads thread acted] at reading
      obtain ⟨below, same, inPhase⟩ := readers.reader thread start request item phase reading
      refine ⟨Nat.lt_of_lt_of_le below created, ?_, ?_⟩
      · rw [(keeps item below).request, same]
      · exact (keeps item below).phase thread phase acted inPhase
  retrieval := retrieval
  unborn := unborn
  logged := by
    intro entry member
    rcases logged entry member with earlier | new
    · have old := readers.logged entry earlier
      exact (keeps entry.item old.created).logged old created
    · exact new

theorem Retrieval.of_same {item : ItemId} (retrieval : Retrieval before item)
    (items : after.items item = before.items item)
    (futures : after.futures item = before.futures item) : Retrieval after item where
  count := by rw [futures, items, retrieval.count]
  held := by
    rw [items]
    exact retrieval.held

theorem Readers.of_thread (readers : Readers before) (acting : Thread → Prop)
    (items : after.items = before.items) (created : after.created = before.created)
    (futures : after.futures = before.futures)
    (threads : ∀ thread, ¬acting thread → after.threads thread = before.threads thread)
    (acts : ∀ thread, acting thread → Reader after thread)
    (logged : ∀ entry ∈ after.returnedReads,
      entry ∈ before.returnedReads ∨ Logged after entry) : Readers after := by
  refine readers.of_keeps acting (Nat.le_of_eq created.symm) (fun item _ => ?_) threads acts
    (fun item below => ?_) (fun item above => ?_) logged
  · rw [items]
    exact Keeps.refl acting _
  · rw [created] at below
    exact (readers.retrieval item below).of_same (congrFun items item) (congrFun futures item)
  · rw [created] at above
    rw [futures]
    exact readers.unborn item above

theorem Readers.of_same (readers : Readers before) (items : after.items = before.items)
    (created : after.created = before.created) (futures : after.futures = before.futures)
    (threads : after.threads = before.threads)
    (logged : after.returnedReads = before.returnedReads) : Readers after := by
  refine readers.of_thread (fun _ => False) items created futures (fun thread _ => ?_)
    (fun thread none => none.elim) (fun entry member => ?_)
  · rw [threads]
  · rw [logged] at member
    exact Or.inl member

section Thread

variable [DecidableEq Thread]

theorem threads_update_of_ne {thread : Thread} {value : ThreadState} (other : Thread)
    (apart : other ≠ thread) :
    Function.update before.threads thread value other = before.threads other :=
  Function.update_of_ne apart _ _

theorem reader_of_update {thread : Thread} {value : ThreadState}
    (threads : after.threads = Function.update before.threads thread value)
    (fact : ∀ start request item phase, value = .reading start request item phase →
      item < after.created ∧ (after.items item).toReadRequest = request ∧
        InPhase (after.items item) thread phase)
    (other : Thread) (same : other = thread) : Reader after other := by
  intro start request item phase reading
  rw [threads, same, Function.update_self] at reading
  rw [same]
  exact fact start request item phase reading

end Thread

theorem Readers.key_injective {request : ReadRequest} {item : ItemId} (queue : Queue before)
    (found : before.backlog.find request.key = some item) :
    item < before.created ∧ (before.items item).toReadRequest = request := by
  obtain ⟨below, same, _⟩ := queue.entry request.key item found
  exact ⟨below, ReadRequest.key_injective same⟩

theorem Readers.create [DecidableEq Thread] (readers : Readers before) (thread : Thread)
    (first : Nat) (request : ReadRequest) :
    Readers { before with
      backlog := before.backlog.insert request.key before.created
      items := Function.update before.items before.created { request with }
      created := before.created + 1
      dispatcher := before.dispatcher.notified
      threads := Function.update before.threads thread
        (.reading first request before.created .locking) :
          MemoryState Thread Device Scatter } := by
  have old {item : ItemId} (below : item < before.created) :
      Function.update before.items before.created { request with } item = before.items item :=
    Function.update_of_ne (Nat.ne_of_lt below) _ _
  refine readers.of_keeps (· = thread) (Nat.le_succ _) (fun item below => ?_)
    threads_update_of_ne (reader_of_update rfl ?_) (fun item below => ?_) (fun item above => ?_)
    fun entry member => Or.inl member
  · simp only [old below]
    exact Keeps.refl _ _
  · rintro _ _ _ _ ⟨⟩
    refine ⟨Nat.lt_succ_self _, ?_, trivial⟩
    simp only [Function.update_self]
  · by_cases new : item = before.created
    · subst new
      constructor
      · simp only [Function.update_self]
        exact readers.unborn _ (Nat.le_refl _)
      · simp only [Function.update_self]
        exact fun _ retrieved => Bool.noConfusion retrieved
    · have earlier : item < before.created := Nat.lt_of_le_of_ne (Nat.le_of_lt_succ below) new
      exact (readers.retrieval item earlier).of_same (old earlier) rfl
  · exact readers.unborn item (Nat.le_of_succ_le above)

/-- Whoever takes the future finds nobody waiting, since the mutex was free. -/
theorem Readers.retrieve [DecidableEq Thread] (readers : Readers before) {thread : Thread}
    {first : Nat} {request : ReadRequest} {item : ItemId}
    (locking : before.threads thread = .reading first request item .locking)
    (unlocked : (before.items item).mtx = none)
    (unread : (before.items item).promiseRead = false)
    (fresh : (before.items item).promise.futureRetrieved = false) :
    Readers { before with
      items := Function.update before.items item { before.items item with
        mtx := some thread
        promise := { (before.items item).promise with futureRetrieved := true } }
      futures := Function.update before.futures item (before.futures item + 1)
      threads := Function.update before.threads thread (.reading first request item .waiting) :
        MemoryState Thread Device Scatter } := by
  obtain ⟨here, asks, _⟩ := readers.reader thread _ _ _ _ locking
  refine readers.of_keeps (· = thread) (Nat.le_refl _) (fun other _ => ?_)
    threads_update_of_ne (reader_of_update rfl ?_) (fun other below => ?_) (fun other above => ?_)
    fun entry member => Or.inl member
  · by_cases same : other = item
    · subst same
      simp only [Function.update_self]
      refine ⟨rfl, fun other phase _ inPhase => ?_, id, fun _ => ⟨rfl, rfl⟩⟩
      cases phase with
      | locking => trivial
      | waiting =>
          have held := inPhase.1
          rw [unlocked] at held
          simp at held
      | copying count pointer =>
          have held := inPhase.1
          rw [unlocked] at held
          simp at held
      | returning count => exact inPhase
    · simp only [Function.update_of_ne same]
      exact Keeps.refl _ _
  · rintro _ _ _ _ ⟨⟩
    simp only [Function.update_self]
    exact ⟨here, asks, rfl, unread⟩
  · by_cases same : other = item
    · subst same
      have none := (readers.retrieval other below).count
      rw [fresh] at none
      constructor
      · simp only [Function.update_self, none]
        rfl
      · simp only [Function.update_self]
        exact fun _ _ => Option.some_ne_none _
    · exact (readers.retrieval other below).of_same (Function.update_of_ne same _ _)
        (Function.update_of_ne same _ _)
  · have apart : other ≠ item := fun same => Nat.not_le_of_lt here (same ▸ above)
    simp only [Function.update_of_ne apart]
    exact readers.unborn other above

/-- The copy happens under the mutex, so no other thread is waiting for it. -/
theorem Readers.copy [DecidableEq Thread] (readers : Readers before) {thread : Thread}
    {first : Nat} {request : ReadRequest} {item : ItemId} {read : UInt64} {buffer : BufferId}
    (copying : before.threads thread = .reading first request item (.copying read buffer)) :
    Readers { before with
      items := Function.update before.items item { before.items item with
        read
        data := resize (before.items item).size.toNat (before.buffers buffer).bytes
        promiseRead := true
        mtx := none }
      threads := Function.update before.threads thread
        (.reading first request item (.returning read)) :
          MemoryState Thread Device Scatter } := by
  obtain ⟨here, asks, held, unread, _⟩ := readers.reader thread _ _ _ _ copying
  refine readers.of_keeps (· = thread) (Nat.le_refl _) (fun other _ => ?_)
    threads_update_of_ne (reader_of_update rfl ?_) (fun other below => ?_) readers.unborn
    fun entry member => Or.inl member
  · by_cases same : other = item
    · subst same
      simp only [Function.update_self]
      refine ⟨rfl, fun other phase apart inPhase => ?_, fun _ => rfl, fun already => ?_⟩
      · cases phase with
        | locking => trivial
        | waiting =>
            have holder := inPhase.1
            rw [held] at holder
            exact absurd (Option.some.inj holder).symm apart
        | copying count pointer =>
            have holder := inPhase.1
            rw [held] at holder
            exact absurd (Option.some.inj holder).symm apart
        | returning count =>
            have already := inPhase.1
            rw [unread] at already
            simp at already
      · rw [unread] at already
        simp at already
    · simp only [Function.update_of_ne same]
      exact Keeps.refl _ _
  · rintro _ _ _ _ ⟨⟩
    simp only [Function.update_self]
    exact ⟨here, asks, rfl, rfl⟩
  · by_cases same : other = item
    · subst same
      constructor
      · simp only [Function.update_self]
        exact (readers.retrieval other below).count
      · simp only [Function.update_self]
        exact fun unread => Bool.noConfusion unread
    · exact (readers.retrieval other below).of_same (Function.update_of_ne same _ _) rfl

theorem Readers.step [DecidableEq Thread] (readers : Readers before) (queue : Queue before)
    (act : Act dma before event after) : Readers after := by
  cases act with
  | @join thread first request item calling found =>
      refine readers.of_thread (· = thread) rfl rfl rfl threads_update_of_ne
        (reader_of_update rfl ?_) fun entry member => Or.inl member
      rintro _ _ _ _ ⟨⟩
      obtain ⟨below, same⟩ := Readers.key_injective queue found
      exact ⟨below, same, trivial⟩
  | @create thread first request calling missing => exact readers.create thread first request
  | @reuse thread first request item locking unlocked promiseRead =>
      refine readers.of_thread (· = thread) rfl rfl rfl threads_update_of_ne
        (reader_of_update rfl ?_) fun entry member => Or.inl member
      rintro _ _ _ _ ⟨⟩
      obtain ⟨below, same, _⟩ := readers.reader thread _ _ _ _ locking
      exact ⟨below, same, promiseRead, rfl⟩
  | retrieve locking unlocked unread fresh => exact readers.retrieve locking unlocked unread fresh
  | @wake thread first request item read buffer waiting set =>
      refine readers.of_thread (· = thread) rfl rfl rfl threads_update_of_ne
        (reader_of_update rfl ?_) fun entry member => Or.inl member
      rintro _ _ _ _ ⟨⟩
      obtain ⟨below, same, held, unread⟩ := readers.reader thread _ _ _ _ waiting
      exact ⟨below, same, held, unread, set⟩
  | copy copying => exact readers.copy copying
  | @returnRead thread first request item read returning =>
      refine readers.of_thread (· = thread) rfl rfl rfl threads_update_of_ne
        (reader_of_update rfl nofun) fun entry member => ?_
      rcases List.mem_cons.mp member with new | earlier
      · right
        obtain ⟨below, same, promiseRead, count⟩ := readers.reader thread _ _ _ _ returning
        subst new
        exact ⟨below, same, promiseRead, count.symm, by rw [count]⟩
      · exact Or.inl earlier
  | @callRead thread | @refuse thread | @retrieveTwice thread | @callWrite thread
    | @acquireWrite thread | @memWrite thread | @returnWrite thread =>
      exact readers.of_thread (· = thread) rfl rfl rfl threads_update_of_ne
        (reader_of_update rfl nofun) fun entry member => Or.inl member
  | @setValue path item read buffer todo filled unset =>
      refine readers.of_keeps (fun _ => False) (Nat.le_refl _) (fun other _ => ?_)
        (fun _ _ => rfl) (fun _ none => none.elim) (fun other below => ?_) readers.unborn
        fun entry member => Or.inl member
      · by_cases here : other = item
        · subst here
          simp only [Function.update_self]
          refine ⟨rfl, fun thread phase _ inPhase => ?_, id, fun _ => ⟨rfl, rfl⟩⟩
          cases phase with
          | copying count pointer =>
              have value := inPhase.2.2
              rw [unset] at value
              simp at value
          | _ => exact inPhase
        · simp only [Function.update_of_ne here]
          exact Keeps.refl _ _
      · have retrieval := readers.retrieval other below
        by_cases here : other = item
        · subst here
          constructor
          · simp only [Function.update_self]
            exact retrieval.count
          · simp only [Function.update_self]
            exact retrieval.held
        · exact retrieval.of_same (Function.update_of_ne here _ _) rfl
  | _ => exact readers.of_same rfl rfl rfl rfl rfl

theorem unthrown_step [DecidableEq Thread] (queue : Queue before) (readers : Readers before)
    (unthrown : before.thrown = false) (act : Act dma before event after) :
    after.thrown = false := by
  cases act with
  | @retrieveTwice thread first request item locking unlocked unread retrieved =>
      obtain ⟨below, _⟩ := readers.reader thread _ _ _ _ locking
      exact absurd unlocked ((readers.retrieval item below).held unread retrieved)
  | @setTwice path item read buffer todo filled set =>
      have member : item ∈ before.dispatcher.todo := by
        rw [filled]
        exact List.mem_cons_self
      exact absurd (queue.working item member).2.2.2 set
  | _ => exact unthrown

structure Served (state : MemoryState Thread Device Scatter) : Prop where
  queue : Queue state
  readers : Readers state
  unthrown : state.thrown = false

theorem Served.step [DecidableEq Thread] (served : Served before)
    (act : Act dma before event after) : Served after where
  queue := served.queue.step act
  readers := served.readers.step served.queue act
  unthrown := unthrown_step served.queue served.readers served.unthrown act

theorem Served.tick {state : MemoryState Thread Device Scatter} (served : Served state)
    (past : List Device) : Served { state with past } where
  queue := served.queue.of_same rfl rfl (List.Perm.refl _) rfl rfl fun _ => rfl
  readers := served.readers.of_same rfl rfl rfl rfl rfl
  unthrown := served.unthrown

theorem served_start (device : Device) :
    Served (start device : MemoryState Thread Device Scatter) :=
  ⟨queue_start device, readers_start device, rfl⟩

theorem served_of_run [DecidableEq Thread] {device : Device}
    {events : List (MemoryEvent Thread Device)} {final : MemoryState Thread Device Scatter}
    (run : Run (Steps (next dma)) (start device) events final) : Served final :=
  run_invariant (unrestricted run) (served_start device) (fun _ _ _ held _ act => held.step act)
    fun _ past held => held.tick past

structure AnsweredOnce (state : MemoryState Thread Device Scatter) : Prop where
  batches : ∀ item, state.batches item ≤ 1
  settings : ∀ item, state.settings item ≤ 1
  futures : ∀ item, state.futures item ≤ 1
  dispatched : ∀ item, state.batches item = 1 → item ∉ state.dispatcher.todo →
    state.settings item = 1
  agreed : ∀ first ∈ state.returnedReads, ∀ second ∈ state.returnedReads,
    first.item = second.item → first.count = second.count ∧ first.bytes = second.bytes
  queued : ∀ entry ∈ state.backlog.entries,
    (state.items entry.2).key = entry.1 ∧ state.batches entry.2 = 0
  unique : ∀ first < state.created, ∀ second < state.created,
    state.batches first = 0 → state.batches second = 0 →
    (state.items first).toReadRequest = (state.items second).toReadRequest → first = second
  joined : ∀ thread start request item phase,
    state.threads thread = .reading start request item phase →
    (state.items item).toReadRequest = request
  unthrown : state.thrown = false

theorem Served.answeredOnce {state : MemoryState Thread Device Scatter} (served : Served state) :
    AnsweredOnce state := by
  have queue := served.queue
  have readers := served.readers
  have found {item : ItemId} (below : item < state.created) (unbatched : state.batches item = 0) :
      state.backlog.find (state.items item).key = some item := by
    cases queue.stage item below with
    | queued _ _ _ found => exact found
    | batched one _ _ _ => omega
    | answered one _ _ => omega
  constructor
  · intro item
    by_cases below : item < state.created
    · cases queue.stage item below <;> omega
    · have none := (queue.unborn item (Nat.le_of_not_lt below)).1
      omega
  · intro item
    by_cases below : item < state.created
    · cases queue.stage item below <;> omega
    · have none := (queue.unborn item (Nat.le_of_not_lt below)).2.1
      omega
  · intro item
    by_cases below : item < state.created
    · rw [(readers.retrieval item below).count]
      split <;> omega
    · rw [readers.unborn item (Nat.le_of_not_lt below)]
      omega
  · intro item one finished
    by_cases below : item < state.created
    · cases queue.stage item below with
      | queued zero _ _ _ => omega
      | batched _ _ _ working => exact absurd working finished
      | answered _ set _ => exact set
    · have none := (queue.unborn item (Nat.le_of_not_lt below)).1
      omega
  · intro first firstMember second secondMember same
    have left := readers.logged first firstMember
    have right := readers.logged second secondMember
    constructor
    · rw [left.count, right.count, same]
    · rw [left.bytes, right.bytes, same]
  · intro entry member
    exact (queue.entry entry.1 entry.2 (AList.mem_lookup_iff.mpr member)).2
  · intro first firstBelow second secondBelow firstZero secondZero same
    have left := found firstBelow firstZero
    rw [same, found secondBelow secondZero] at left
    exact (Option.some.inj left).symm
  · intro thread start request item phase reading
    exact (readers.reader thread start request item phase reading).2.1
  · exact served.unthrown

/-- Whatever the threads, the dispatcher and the device calls do, every item is
batched, answered and taken at most once, and its readers agree. -/
theorem read_answeredOnce [DecidableEq Thread] {device : Device}
    {events : List (MemoryEvent Thread Device)} {final : MemoryState Thread Device Scatter}
    (run : Run (Steps (next dma)) (start device) events final) : AnsweredOnce final := by
  have served := served_of_run run
  exact served.answeredOnce

def readTwoBytes : List (MemoryEvent Unit (List UInt8)) :=
  [.callRead () ⟨7, 1, 2⟩, .enqueue (), .testStop, .testEmpty,
    .formBatch [⟨(⟨7, 1, 2⟩ : ReadRequest).key, 0⟩], .acquire [0], .fill, .setValue,
    .lockItem (), .wake (), .copy (), .memFree [], .finish, .release, .returnRead ()]

theorem read_answeredOnce_readTwoBytes : ∃ final,
    Run (Steps (next flatMemory)) (start [1, 2, 3, 4]) readTwoBytes final ∧
      final.returnedReads.map ReturnedRead.bytes = [[2, 3]] ∧ AnsweredOnce final := by
  have executed : (execute (next flatMemory) (start [1, 2, 3, 4]) readTwoBytes).map
      (fun final => final.returnedReads.map ReturnedRead.bytes) = some [[2, 3]] := by
    rfl
  obtain ⟨final, ran, bytes⟩ := Option.map_eq_some_iff.mp executed
  have run := run_of_execute ran
  exact ⟨final, run, bytes, read_answeredOnce run⟩

section Merging

/-- A read has been given `item`, and waits for it or has returned. -/
def Joins (state : MemoryState Thread Device Scatter) (request : ReadRequest) (item : ItemId) :
    Prop :=
  (∃ thread start phase, state.threads thread = .reading start request item phase) ∨
    ∃ entry ∈ state.returnedReads, entry.request = request ∧ entry.item = item

theorem Readers.joins {state : MemoryState Thread Device Scatter} (readers : Readers state)
    {request : ReadRequest} {item : ItemId} (joins : Joins state request item) :
    (state.items item).toReadRequest = request := by
  rcases joins with ⟨thread, start, phase, reading⟩ | ⟨entry, returned, rfl, rfl⟩
  · exact (readers.reader thread start request item phase reading).2.1
  · exact (readers.logged entry returned).request

/-- Keys are the same for the same pid, address and size only, and in every run the
reads of one item have asked for the same. -/
theorem keys_identify [DecidableEq Thread] {device : Device}
    {events : List (MemoryEvent Thread Device)} {final : MemoryState Thread Device Scatter}
    (run : Run (Steps (next dma)) (start device) events final) :
    (∀ (pid otherPid : Int32) (address otherAddress size otherSize : UInt64),
      (⟨pid, address, size⟩ : ReadRequest).key =
          (⟨otherPid, otherAddress, otherSize⟩ : ReadRequest).key ↔
        pid = otherPid ∧ address = otherAddress ∧ size = otherSize) ∧
      ∀ first second item, Joins final first item → Joins final second item → first = second := by
  constructor
  · intro pid otherPid address otherAddress size otherSize
    constructor
    · intro same
      exact ReadRequest.mk.inj (ReadRequest.key_injective same)
    · rintro ⟨rfl, rfl, rfl⟩
      rfl
  · intro first second item joins joined
    have readers := (served_of_run run).readers
    exact (readers.joins joins).symm.trans (readers.joins joined)

theorem keys_identify_twoReads : ∃ final : MemoryState Bool (List UInt8) (List UInt8),
    Joins final ⟨7, 1, 2⟩ 0 ∧ ∀ other, Joins final other 0 → other = ⟨7, 1, 2⟩ := by
  have executed : (execute (next flatMemory) (start [1, 2, 3, 4])
      [.callRead false ⟨7, 1, 2⟩, .callRead true ⟨7, 1, 2⟩, .enqueue false, .enqueue true]).map
        (fun final => final.threads true) = some (.reading 1 ⟨7, 1, 2⟩ 0 .locking) := by
    rfl
  obtain ⟨final, ran, reading⟩ := Option.map_eq_some_iff.mp executed
  have joins : Joins final ⟨7, 1, 2⟩ 0 := Or.inl ⟨true, 1, .locking, reading⟩
  refine ⟨final, joins, fun other joined => ?_⟩
  exact (keys_identify (run_of_execute ran)).2 other ⟨7, 1, 2⟩ 0 joined joins

end Merging

end CeServer.Memory
