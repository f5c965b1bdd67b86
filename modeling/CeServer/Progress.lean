import CeServer.Readers

/-!
Progress of the dispatch loop: when a pass takes something, when the backlog
drains, and that nobody waits for a dispatcher that sleeps.
-/

namespace CeServer.Memory

open Transition

variable {Thread Device Scatter : Type} {dma : Dma Device Scatter}
  {before after : MemoryState Thread Device Scatter} {event : MemoryEvent Thread Device}

def isPass : MemoryEvent Thread Device → Bool
  | .formBatch _ => true
  | _ => false

def passes (events : List (MemoryEvent Thread Device)) : Nat := events.countP isPass

/-- Every queued item is below the byte limit by itself. -/
def Batchable (state : MemoryState Thread Device Scatter) : Prop :=
  ∀ entry ∈ state.backlog.entries, (state.items entry.2).size < MAX_BYTES_PER_DISPATCH

theorem dispatchBuffer_ne_nil {state : MemoryState Thread Device Scatter}
    (batchable : Batchable state) {order : List BacklogEntry}
    (perm : order.Perm state.backlog.entries) (waiting : state.backlog.entries ≠ []) :
    dispatchBuffer state.items order ≠ [] := by
  cases order with
  | nil => exact absurd (List.nil_perm.mp perm) waiting
  | cons first rest =>
      intro nothing
      have small := batchable first (perm.mem_iff.mp List.mem_cons_self)
      have large := (dispatchBuffer_cons_eq_nil first rest).mp nothing
      exact absurd small (UInt64.not_lt.mpr large)

theorem batchable_of_takes {state : MemoryState Thread Device Scatter}
    (takes : ∀ order : List BacklogEntry, order.Perm state.backlog.entries →
      dispatchBuffer state.items order ≠ []) : Batchable state := by
  intro entry member
  by_contra large
  -- the order that meets this item first takes nothing
  have perm : (entry :: state.backlog.entries.erase entry).Perm state.backlog.entries :=
    (List.perm_cons_erase member).symm
  refine takes _ perm ((dispatchBuffer_cons_eq_nil entry _).mpr ?_)
  exact UInt64.not_lt.mp large

section Quiet

variable [DecidableEq Thread]

theorem request_step (act : Act dma before event after)
    (quiet : ∀ thread, event ≠ .enqueue thread) (item : ItemId) :
    (after.items item).toReadRequest = (before.items item).toReadRequest := by
  cases act with
  | create => exact absurd rfl (quiet _)
  | retrieve | copy | setValue =>
      refine view_update BacklogItem.toReadRequest ?_ item
      rfl
  | _ => rfl

theorem backlog_step (act : Act dma before event after)
    (quiet : ∀ thread, event ≠ .enqueue thread) :
    isPass event = false ∧ after.backlog = before.backlog ∨ ∃ order, event = .formBatch order ∧
      order.Perm before.backlog.entries ∧ before.backlog.entries ≠ [] ∧
      after.backlog = eraseBatch (dispatchBuffer before.items order) before.backlog := by
  cases act with
  | create => exact absurd rfl (quiet _)
  | formBatch pacing order =>
      refine Or.inr ⟨_, rfl, order, ?_, rfl⟩
      intro empty
      rw [empty] at order
      exact List.cons_ne_nil _ _ (List.perm_nil.mp order)
  | _ => exact Or.inl ⟨rfl, rfl⟩

theorem batchable_step (batchable : Batchable before) (act : Act dma before event after)
    (quiet : ∀ thread, event ≠ .enqueue thread) : Batchable after := by
  intro entry member
  rw [request_step act quiet]
  rcases backlog_step act quiet with ⟨_, same⟩ | ⟨order, _, _, _, erased⟩
  · rw [same] at member
    exact batchable entry member
  · rw [erased] at member
    exact batchable entry (mem_of_mem_eraseBatch member)

end Quiet

theorem drains_of_batchable [DecidableEq Thread] {events : List (MemoryEvent Thread Device)}
    (run : Run (Steps (next dma)) before events after)
    (quiet : ∀ event ∈ events, ∀ thread, event ≠ .enqueue thread) (batchable : Batchable before) :
    Batchable after ∧
      after.backlog.entries.length + passes events ≤ before.backlog.entries.length := by
  induction run with
  | nil => exact ⟨batchable, Nat.le_refl _⟩
  | @snoc events middle event final earlier last ih =>
      obtain ⟨still, bounded⟩ := ih fun other member =>
        quiet other (List.mem_append_left _ member)
      have silent : ∀ thread, event ≠ .enqueue thread := quiet event (by simp)
      obtain ⟨acted, act, same⟩ := act_of_next last
      subst same
      have stillBatchable : Batchable acted := batchable_step still act silent
      refine ⟨stillBatchable, ?_⟩
      have counted : passes (events ++ [event]) =
          passes events + if isPass event then 1 else 0 := by
        simp [passes, List.countP_append, List.countP_singleton]
      rw [counted]
      rcases backlog_step act silent with ⟨noPass, kept⟩ | ⟨order, pass, perm, waiting, erased⟩
      · dsimp only
        rw [kept, noPass]
        simpa using bounded
      · subst pass
        have some : dispatchBuffer middle.items order ≠ [] :=
          dispatchBuffer_ne_nil still perm waiting
        have shrunk := length_eraseBatch (nodup_keys_dispatchBuffer middle.items perm)
          fun entry => find_of_mem_dispatchBuffer perm
        have positive := List.length_pos_iff.mpr some
        dsimp only
        rw [erased]
        simp only [isPass, if_true]
        omega

def holdsSem : Dispatcher Scatter → Bool
  | .preparing .. | .prepared .. | .reading .. | .filled .. | .freeing .. | .dispatched => true
  | _ => false

def holdsSemaphore : ThreadState → Bool
  | .acquired .. | .written .. => true
  | _ => false

/-- The dispatcher sleeps and stops for a reason, and whoever has the semaphore
is going to release it. -/
structure Alert (state : MemoryState Thread Device Scatter) : Prop where
  blocked : state.dispatcher = .blocked → state.backlog.entries = []
  pacing : state.dispatcher = .pacing → state.backlog.entries ≠ []
  stopped : state.dispatcher = .stopped → state.bStop = true
  semaphore : state.semFree = false →
    holdsSem state.dispatcher = true ∨ ∃ thread, holdsSemaphore (state.threads thread) = true

theorem alert_start (device : Device) :
    Alert (start device : MemoryState Thread Device Scatter) where
  blocked := nofun
  pacing := nofun
  stopped := nofun
  semaphore := nofun

theorem Alert.thread [DecidableEq Thread] (alert : Alert before) {thread : Thread}
    {value : ThreadState} (threads : after.threads = Function.update before.threads thread value)
    (same : holdsSemaphore value = holdsSemaphore (before.threads thread))
    (dispatcher : after.dispatcher = before.dispatcher) (backlog : after.backlog = before.backlog)
    (bStop : after.bStop = before.bStop) (semFree : after.semFree = before.semFree) :
    Alert after where
  blocked := by
    rw [dispatcher, backlog]
    exact alert.blocked
  pacing := by
    rw [dispatcher, backlog]
    exact alert.pacing
  stopped := by
    rw [dispatcher, bStop]
    exact alert.stopped
  semaphore := by
    intro taken
    rw [semFree] at taken
    rw [dispatcher]
    rcases alert.semaphore taken with here | ⟨other, there⟩
    · exact Or.inl here
    · refine Or.inr ⟨other, ?_⟩
      rw [threads]
      by_cases own : other = thread
      · rw [own, Function.update_self, same, ← own]
        exact there
      · rw [Function.update_of_ne own]
        exact there

theorem Alert.dispatch (alert : Alert before) (threads : after.threads = before.threads)
    (semFree : after.semFree = before.semFree)
    (holds : holdsSem after.dispatcher = holdsSem before.dispatcher)
    (blocked : after.dispatcher = .blocked → after.backlog.entries = [])
    (pacing : after.dispatcher = .pacing → after.backlog.entries ≠ [])
    (stopped : after.dispatcher = .stopped → after.bStop = true) : Alert after where
  blocked := blocked
  pacing := pacing
  stopped := stopped
  semaphore := by
    intro taken
    rw [semFree] at taken
    rw [holds, threads]
    exact alert.semaphore taken

theorem holdsSem_notified (dispatcher : Dispatcher Scatter) :
    holdsSem dispatcher.notified = holdsSem dispatcher := by
  cases dispatcher <;> rfl

theorem notified_ne_blocked (dispatcher : Dispatcher Scatter) : dispatcher.notified ≠ .blocked := by
  cases dispatcher <;> simp [Dispatcher.notified]

theorem notified_eq_stopped {dispatcher : Dispatcher Scatter}
    (stopped : dispatcher.notified = .stopped) : dispatcher = .stopped := by
  cases dispatcher <;> simp_all [Dispatcher.notified]

theorem notified_eq_pacing {dispatcher : Dispatcher Scatter}
    (pacing : dispatcher.notified = .pacing) : dispatcher = .pacing := by
  cases dispatcher <;> simp_all [Dispatcher.notified]

theorem Alert.create [DecidableEq Thread] (alert : Alert before) {thread : Thread} {first : Nat}
    {request : ReadRequest} (calling : before.threads thread = .calling first request) :
    Alert { before with
      backlog := before.backlog.insert request.key before.created
      items := Function.update before.items before.created { request with }
      created := before.created + 1
      dispatcher := before.dispatcher.notified
      threads := Function.update before.threads thread
        (.reading first request before.created .locking) :
          MemoryState Thread Device Scatter } where
  blocked := fun asleep => absurd asleep (notified_ne_blocked _)
  pacing := by
    intro _ empty
    dsimp only at empty
    rw [AList.entries_insert] at empty
    exact List.cons_ne_nil _ _ empty
  stopped := fun halted => alert.stopped (notified_eq_stopped halted)
  semaphore := by
    intro taken
    dsimp only
    rw [holdsSem_notified]
    rcases alert.semaphore taken with here | ⟨other, there⟩
    · exact Or.inl here
    · refine Or.inr ⟨other, ?_⟩
      have apart : other ≠ thread := by
        intro same
        rw [same, calling] at there
        simp [holdsSemaphore] at there
      rw [Function.update_of_ne apart]
      exact there

theorem Alert.step [DecidableEq Thread] (alert : Alert before) (served : Served before)
    (act : Act dma before event after) : Alert after := by
  cases act with
  | create calling missing => exact alert.create calling
  | callRead _ same | callWrite _ same | join same | refuse same | reuse same
    | retrieveTwice same | retrieve same | wake same | copy same | returnRead same
    | memWrite same =>
      exact alert.thread rfl (by rw [same]; rfl) rfl rfl rfl rfl
  | @acquireWrite thread first request writing free =>
      refine ⟨alert.blocked, alert.pacing, alert.stopped, fun _ => Or.inr ⟨thread, ?_⟩⟩
      dsimp only
      rw [Function.update_self]
      rfl
  | returnWrite written =>
      exact ⟨alert.blocked, alert.pacing, alert.stopped, nofun⟩
  | testStop test =>
      refine alert.dispatch rfl rfl ?_ ?_ ?_ ?_
      · rw [test]
        dsimp only
        split <;> rfl
      · dsimp only
        split <;> nofun
      · dsimp only
        split <;> nofun
      · dsimp only
        split
        · rename_i stopped
          exact fun _ => stopped
        · nofun
  | testEmpty entered =>
      refine alert.dispatch rfl rfl ?_ ?_ ?_ ?_
      · rw [entered]
        dsimp only
        split <;> rfl
      · dsimp only
        split <;> nofun
      · dsimp only
        split
        · nofun
        · rename_i nonempty
          intro _ empty
          rw [empty] at nonempty
          exact nonempty rfl
      · dsimp only
        split <;> nofun
  | waitTest waits =>
      refine alert.dispatch rfl rfl ?_ ?_ ?_ ?_
      · rw [waits]
        dsimp only
        split <;> rfl
      · dsimp only
        split
        · nofun
        · rename_i empty
          simp only [Bool.or_eq_true, Bool.not_eq_true', not_or, Bool.not_eq_false] at empty
          exact fun _ => List.isEmpty_iff.mp empty.2
      · dsimp only
        split <;> nofun
      · dsimp only
        split <;> nofun
  | acquire formed free perm =>
      refine ⟨?_, ?_, ?_, fun _ => Or.inl ?_⟩
      · dsimp only
        split <;> nofun
      · dsimp only
        split <;> nofun
      · dsimp only
        split <;> nofun
      · dsimp only
        split <;> rfl
  | release dispatched => exact ⟨nofun, nofun, nofun, nofun⟩
  | @setTwice path item read buffer todo filled set =>
      have member : item ∈ before.dispatcher.todo := by
        rw [filled]
        exact List.mem_cons_self
      exact absurd (served.queue.working item member).2.2.2 set
  | @setValue path item read buffer todo filled unset =>
      refine alert.dispatch rfl rfl ?_ ?_ ?_ ?_
      · rw [filled]
        cases path <;> rfl
      all_goals
        intro now
        cases path <;> simp [afterSet] at now
  | notifyStop =>
      exact alert.dispatch rfl rfl (holdsSem_notified _)
        (fun asleep => absurd asleep (notified_ne_blocked _))
        (fun paces => alert.pacing (notified_eq_pacing paces))
        fun halted => alert.stopped (notified_eq_stopped halted)
  | setStop =>
      exact alert.dispatch rfl rfl rfl alert.blocked alert.pacing fun _ => rfl
  | change device => exact alert.dispatch rfl rfl rfl alert.blocked alert.pacing alert.stopped
  | formBatch same _ | wakeSpuriously same | prepare same | execute same | fill same _
    | memFree _ same | finish same =>
      refine alert.dispatch rfl rfl ?_ nofun nofun nofun
      rw [same]
      rfl

theorem Alert.tick {state : MemoryState Thread Device Scatter} (alert : Alert state)
    (past : List Device) : Alert { state with past } :=
  ⟨alert.blocked, alert.pacing, alert.stopped, alert.semaphore⟩

end CeServer.Memory
