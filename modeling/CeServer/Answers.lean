import CeServer.Batch
import CeServer.MemorySteps

/-!
Every queued read is answered once: where an item stands between the backlog,
the batch in hand and its answer, and what its readers receive.
-/

namespace CeServer.Memory

open Transition

variable {Thread Device Scatter : Type} {dma : Dma Device Scatter}
  {before after : MemoryState Thread Device Scatter} {event : MemoryEvent Thread Device}

def start (device : Device) : MemoryState Thread Device Scatter := { device }

/-- In the backlog, in the batch in hand, or answered. -/
inductive Stage (state : MemoryState Thread Device Scatter) (item : ItemId) : Prop
  | queued (batches : state.batches item = 0) (settings : state.settings item = 0)
      (unset : (state.items item).promise.value = none)
      (found : state.backlog.find (state.items item).key = some item)
  | batched (batches : state.batches item = 1) (settings : state.settings item = 0)
      (unset : (state.items item).promise.value = none) (working : item ∈ state.dispatcher.todo)
  | answered (batches : state.batches item = 1) (settings : state.settings item = 1)
      (set : (state.items item).promise.value ≠ none)

structure Queue (state : MemoryState Thread Device Scatter) : Prop where
  stage : ∀ item < state.created, Stage state item
  unborn : ∀ item, state.created ≤ item → state.batches item = 0 ∧ state.settings item = 0 ∧
    (state.items item).promise.value = none
  entry : ∀ key item, state.backlog.find key = some item →
    item < state.created ∧ (state.items item).key = key ∧ state.batches item = 0
  nodup : state.dispatcher.todo.Nodup
  working : ∀ item ∈ state.dispatcher.todo, item < state.created ∧ state.batches item = 1 ∧
    state.settings item = 0 ∧ (state.items item).promise.value = none

theorem queue_start (device : Device) :
    Queue (start device : MemoryState Thread Device Scatter) where
  stage := fun item below => absurd below (Nat.not_lt_zero item)
  unborn := fun _ _ => ⟨rfl, rfl, rfl⟩
  entry := fun key item found => by simp [start, Backlog.find] at found
  nodup := List.nodup_nil
  working := fun item member => by simp [start, Dispatcher.todo] at member

def asked (item : BacklogItem Thread) : ReadRequest × Option (UInt64 × BufferId) :=
  (item.toReadRequest, item.promise.value)

theorem view_update {View : Type} (view : BacklogItem Thread → View)
    {items : ItemId → BacklogItem Thread} {item : ItemId} {value : BacklogItem Thread}
    (same : view value = view (items item)) (other : ItemId) :
    view (Function.update items item value other) = view (items other) := by
  by_cases here : other = item
  · rw [here, Function.update_self, same]
  · rw [Function.update_of_ne here]

theorem Queue.of_same (queue : Queue before) (backlog : after.backlog = before.backlog)
    (created : after.created = before.created)
    (todo : after.dispatcher.todo.Perm before.dispatcher.todo)
    (batches : after.batches = before.batches) (settings : after.settings = before.settings)
    (kept : ∀ item, asked (after.items item) = asked (before.items item)) : Queue after := by
  have request (item : ItemId) :
      (after.items item).toReadRequest = (before.items item).toReadRequest :=
    congrArg Prod.fst (kept item)
  have value (item : ItemId) :
      (after.items item).promise.value = (before.items item).promise.value :=
    congrArg Prod.snd (kept item)
  constructor
  · intro item below
    rw [created] at below
    cases queue.stage item below with
    | queued zero unsettled unset found =>
        refine .queued ?_ ?_ ?_ ?_
        · rw [batches, zero]
        · rw [settings, unsettled]
        · rw [value, unset]
        · rw [backlog, request, found]
    | batched one unsettled unset working =>
        refine .batched ?_ ?_ ?_ ?_
        · rw [batches, one]
        · rw [settings, unsettled]
        · rw [value, unset]
        · exact todo.mem_iff.mpr working
    | answered one settled set =>
        refine .answered ?_ ?_ ?_
        · rw [batches, one]
        · rw [settings, settled]
        · rw [value]
          exact set
  · intro item above
    rw [created] at above
    rw [batches, settings, value]
    exact queue.unborn item above
  · intro key item found
    rw [backlog] at found
    rw [created, request, batches]
    exact queue.entry key item found
  · exact todo.nodup_iff.mpr queue.nodup
  · intro item member
    rw [created, batches, settings, value]
    exact queue.working item (todo.mem_iff.mp member)

/-- Nothing is in hand while the dispatcher forms a batch. -/
theorem Queue.formBatch (queue : Queue before) (pacing : before.dispatcher = .pacing)
    {order : List BacklogEntry} (perm : order.Perm before.backlog.entries) (pid : Int32) :
    Queue { before with
      backlog := eraseBatch (dispatchBuffer before.items order) before.backlog
      batches := fun item => before.batches item +
        ((dispatchBuffer before.items order).map Sigma.snd).count item
      dispatcher := .formed pid ((dispatchBuffer before.items order).map Sigma.snd) :
        MemoryState Thread Device Scatter } := by
  have looked {entry : BacklogEntry} (member : entry ∈ dispatchBuffer before.items order) :=
    queue.entry entry.1 entry.2 (find_of_mem_dispatchBuffer perm member)
  -- an item determines its key, so the items of the batch are distinct
  have nodup : ((dispatchBuffer before.items order).map Sigma.snd).Nodup := by
    have keys := nodup_keys_dispatchBuffer before.items perm
    refine List.Nodup.of_map (fun item => (before.items item).key) ?_
    rw [List.map_map]
    have same : (dispatchBuffer before.items order).map
        ((fun item => (before.items item).key) ∘ Sigma.snd) =
          (dispatchBuffer before.items order).map Sigma.fst :=
      List.map_congr_left fun entry member => (looked member).2.1
    rw [same]
    exact keys
  have taken {item : ItemId} (member : item ∈ (dispatchBuffer before.items order).map Sigma.snd) :
      before.backlog.find (before.items item).key = some item ∧ item < before.created ∧
        before.batches item = 0 := by
    obtain ⟨entry, inBatch, rfl⟩ := List.mem_map.mp member
    obtain ⟨below, key, zero⟩ := looked inBatch
    refine ⟨?_, below, zero⟩
    rw [key]
    exact find_of_mem_dispatchBuffer perm inBatch
  have still : before.dispatcher.todo = [] := by rw [pacing]; rfl
  constructor
  · intro item below
    by_cases member : item ∈ (dispatchBuffer before.items order).map Sigma.snd
    · obtain ⟨found, _, zero⟩ := taken member
      have stage := queue.stage item below
      cases stage with
      | queued _ unsettled unset _ =>
          refine .batched ?_ unsettled unset member
          change before.batches item + _ = 1
          rw [zero, List.count_eq_one_of_mem nodup member]
      | batched one _ _ _ => omega
      | answered one _ _ => omega
    · have none : ((dispatchBuffer before.items order).map Sigma.snd).count item = 0 :=
        List.count_eq_zero.mpr member
      cases queue.stage item below with
      | queued zero unsettled unset found =>
          refine .queued ?_ unsettled unset ?_
          · change before.batches item + _ = 0
            omega
          · change (eraseBatch _ before.backlog).find (before.items item).key = some item
            rw [find_eraseBatch_of_notMem, found]
            intro key
            obtain ⟨entry, inBatch, same⟩ := List.mem_map.mp key
            have other := find_of_mem_dispatchBuffer perm inBatch
            rw [same, found] at other
            exact member (List.mem_map.mpr ⟨entry, inBatch, (Option.some.inj other).symm⟩)
      | batched _ _ _ working =>
          rw [still] at working
          simp at working
      | answered one settled set =>
          refine .answered ?_ settled set
          change before.batches item + _ = 1
          omega
  · intro item above
    obtain ⟨zero, unsettled, unset⟩ := queue.unborn item above
    refine ⟨?_, unsettled, unset⟩
    change before.batches item + _ = 0
    rw [zero, List.count_eq_zero.mpr]
    intro member
    have below := (taken member).2.1
    exact Nat.not_le_of_lt below above
  · intro key item found
    obtain ⟨spared, found⟩ := find_of_eraseBatch found
    obtain ⟨below, same, zero⟩ := queue.entry key item found
    refine ⟨below, same, ?_⟩
    change before.batches item + _ = 0
    rw [zero, List.count_eq_zero.mpr]
    intro member
    obtain ⟨entry, inBatch, here⟩ := List.mem_map.mp member
    refine spared (List.mem_map.mpr ⟨entry, inBatch, ?_⟩)
    rw [← (looked inBatch).2.1, here, same]
  · exact nodup
  · intro item member
    obtain ⟨_, below, zero⟩ := taken member
    refine ⟨below, ?_, ?_⟩
    · change before.batches item + _ = 1
      rw [zero, List.count_eq_one_of_mem nodup member]
    · cases queue.stage item below with
      | queued _ unsettled unset _ => exact ⟨unsettled, unset⟩
      | batched one _ _ _ => omega
      | answered one _ _ => omega

theorem Queue.create (queue : Queue before) {request : ReadRequest}
    (missing : before.backlog.find request.key = none) (threads : Thread → ThreadState) :
    Queue { before with
      backlog := before.backlog.insert request.key before.created
      items := Function.update before.items before.created { request with }
      created := before.created + 1
      dispatcher := before.dispatcher.notified
      threads := threads : MemoryState Thread Device Scatter } := by
  have old {item : ItemId} (below : item < before.created) :
      Function.update before.items before.created { request with } item = before.items item :=
    Function.update_of_ne (Nat.ne_of_lt below) _ _
  obtain ⟨unbatched, unsettled, _⟩ := queue.unborn before.created (Nat.le_refl _)
  constructor
  · intro item below
    by_cases new : item = before.created
    · subst new
      refine .queued unbatched unsettled ?_ ?_
      · simp only [Function.update_self]
      · simp only [Function.update_self]
        exact find_insert
    · have earlier : item < before.created := Nat.lt_of_le_of_ne (Nat.le_of_lt_succ below) new
      cases queue.stage item earlier with
      | queued zero unset none found =>
          refine .queued zero unset ?_ ?_
          · simp only [old earlier]
            exact none
          · simp only [old earlier]
            rw [find_insert_of_ne, found]
            intro same
            rw [same, missing] at found
            simp at found
      | batched one unset none working =>
          refine .batched one unset ?_ ?_
          · simp only [old earlier]
            exact none
          · simp only [Dispatcher.todo_notified]
            exact working
      | answered one set some =>
          refine .answered one set ?_
          simp only [old earlier]
          exact some
  · intro item above
    have apart : item ≠ before.created := Nat.ne_of_gt (Nat.lt_of_succ_le above)
    simp only [Function.update_of_ne apart]
    exact queue.unborn item (Nat.le_of_succ_le above)
  · intro key item found
    by_cases new : key = request.key
    · rw [new, find_insert] at found
      obtain rfl := Option.some.inj found
      refine ⟨Nat.lt_succ_self _, ?_, unbatched⟩
      simp only [Function.update_self]
      exact new.symm
    · rw [find_insert_of_ne new] at found
      obtain ⟨below, same, zero⟩ := queue.entry key item found
      refine ⟨Nat.lt_succ_of_lt below, ?_, zero⟩
      simp only [old below]
      exact same
  · simp only [Dispatcher.todo_notified]
    exact queue.nodup
  · intro item member
    simp only [Dispatcher.todo_notified] at member
    obtain ⟨below, one, unset, none⟩ := queue.working item member
    refine ⟨Nat.lt_succ_of_lt below, one, unset, ?_⟩
    simp only [old below]
    exact none

@[simp] theorem todo_afterSet (item : ItemId) (buffer : BufferId) (todo : List ItemId)
    (path : DispatchPath Scatter) : (afterSet item buffer todo path).todo = todo := by
  cases path <;> rfl

theorem Queue.setValue (queue : Queue before) {path : DispatchPath Scatter} {item : ItemId}
    {read : UInt64} {buffer : BufferId} {todo : List ItemId}
    (filled : before.dispatcher = .filled path item read buffer todo) :
    Queue { before with
      items := Function.update before.items item { before.items item with
        promise := { (before.items item).promise with value := some (read, buffer) } }
      settings := Function.update before.settings item (before.settings item + 1)
      dispatcher := afterSet item buffer todo path : MemoryState Thread Device Scatter } := by
  have whole : before.dispatcher.todo = item :: todo := by rw [filled]; rfl
  have fresh : item ∉ todo := (List.nodup_cons.mp (whole ▸ queue.nodup)).1
  obtain ⟨below, one, unsettled, _⟩ := queue.working item (by rw [whole]; exact List.mem_cons_self)
  have request (other : ItemId) := view_update BacklogItem.toReadRequest
    (show ({ before.items item with
        promise := { (before.items item).promise with value := some (read, buffer) } } :
          BacklogItem Thread).toReadRequest = _ from rfl) other
  constructor
  · intro other earlier
    by_cases here : other = item
    · subst here
      refine .answered one ?_ ?_
      · simp only [Function.update_self]
        omega
      · simp only [Function.update_self]
        simp
    · cases queue.stage other earlier with
      | queued zero unset none found =>
          refine .queued zero ?_ ?_ ?_
          · simp only [Function.update_of_ne here, unset]
          · simp only [Function.update_of_ne here, none]
          · simp only [Function.update_of_ne here, found]
      | batched one unset none working =>
          refine .batched one ?_ ?_ ?_
          · simp only [Function.update_of_ne here, unset]
          · simp only [Function.update_of_ne here, none]
          · rw [whole] at working
            simp only [todo_afterSet]
            exact (List.mem_cons.mp working).resolve_left here
      | answered one set some =>
          refine .answered one ?_ ?_
          · simp only [Function.update_of_ne here, set]
          · simp only [Function.update_of_ne here]
            exact some
  · intro other above
    have apart : other ≠ item := fun same => Nat.not_le_of_lt below (same ▸ above)
    simp only [Function.update_of_ne apart]
    exact queue.unborn other above
  · intro key other found
    obtain ⟨bound, same, zero⟩ := queue.entry key other found
    refine ⟨bound, ?_, zero⟩
    rw [← same]
    exact congrArg ReadRequest.key (request other)
  · simp only [todo_afterSet]
    exact (List.nodup_cons.mp (whole ▸ queue.nodup)).2
  · intro other member
    simp only [todo_afterSet] at member
    have apart : other ≠ item := fun same => fresh (same ▸ member)
    obtain ⟨bound, single, unset, none⟩ :=
      queue.working other (by rw [whole]; exact List.mem_cons_of_mem _ member)
    refine ⟨bound, single, ?_, ?_⟩
    · simp only [Function.update_of_ne apart, unset]
    · simp only [Function.update_of_ne apart, none]

theorem Queue.step [DecidableEq Thread] (queue : Queue before)
    (act : Act dma before event after) : Queue after := by
  cases act with
  | create calling missing => exact queue.create missing _
  | formBatch pacing perm => exact queue.formBatch pacing perm _
  | setValue filled unset => exact queue.setValue filled
  | @setTwice path item read buffer todo filled set =>
      have member : item ∈ before.dispatcher.todo := by
        rw [filled]
        exact List.mem_cons_self
      exact absurd (queue.working item member).2.2.2 set
  | acquire formed free perm =>
      refine queue.of_same rfl rfl ?_ rfl rfl fun _ => rfl
      rw [formed]
      dsimp only
      split <;> exact perm
  | testStop test =>
      refine queue.of_same rfl rfl ?_ rfl rfl fun _ => rfl
      rw [test]
      dsimp only
      split <;> exact List.Perm.refl _
  | testEmpty entered =>
      refine queue.of_same rfl rfl ?_ rfl rfl fun _ => rfl
      rw [entered]
      dsimp only
      split <;> exact List.Perm.refl _
  | waitTest waits =>
      refine queue.of_same rfl rfl ?_ rfl rfl fun _ => rfl
      rw [waits]
      dsimp only
      split <;> exact List.Perm.refl _
  | wakeSpuriously same | prepare same | execute same | fill same | memFree _ same | finish same
    | release same =>
      refine queue.of_same rfl rfl ?_ rfl rfl fun _ => rfl
      rw [same]
      exact List.Perm.refl _
  | notifyStop =>
      refine queue.of_same rfl rfl ?_ rfl rfl fun _ => rfl
      rw [Dispatcher.todo_notified]
  | retrieve | copy =>
      exact queue.of_same rfl rfl (List.Perm.refl _) rfl rfl (view_update asked rfl)
  | callRead | join | refuse | reuse | retrieveTwice | wake | returnRead | callWrite
    | acquireWrite | memWrite | returnWrite | change | setStop =>
      exact queue.of_same rfl rfl (List.Perm.refl _) rfl rfl fun _ => rfl

end CeServer.Memory
