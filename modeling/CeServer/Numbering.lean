import CeServer.HandleRefinement

/-!
The numbers handles get over runs of any length: the counter starts again at 0
after 2^31 - 1, whatever is still stored under the numbers it comes back to.
-/

namespace CeServer

open Transition

variable {Client : Type}

/-- The handle of the given generation, counted from 1. -/
def issuedNumber (generation : Nat) : CE_HANDLE := Int32.ofNat (generation % 2 ^ 31)

theorem toInt_issuedNumber (generation : Nat) :
    (issuedNumber generation).toInt = (generation % 2 ^ 31 : Nat) :=
  Int32.toInt_ofNat_of_lt (Nat.mod_lt _ (by decide))

theorem issuedNumber_inj {first second : Nat} :
    issuedNumber first = issuedNumber second ↔ first % 2 ^ 31 = second % 2 ^ 31 := by
  rw [← Int32.toInt_inj, toInt_issuedNumber, toInt_issuedNumber, Int.natCast_inj]

theorem issuedNumber_mod (generation : Nat) :
    issuedNumber (generation % 2 ^ 31) = issuedNumber generation :=
  issuedNumber_inj.mpr (Nat.mod_mod _ _)

theorem issuedNumber_eq_zero_iff (generation : Nat) :
    issuedNumber generation = 0 ↔ generation % 2 ^ 31 = 0 := by
  rw [show (0 : CE_HANDLE) = issuedNumber 0 from rfl, issuedNumber_inj, Nat.zero_mod]

theorem generateHandle_number {state : ClientState} {generated : Nat}
    (last : state.lastHandleID = issuedNumber generated) :
    state.generateHandle =
      (issuedNumber (generated + 1),
        { state with lastHandleID := issuedNumber (generated + 1) }) := by
  rcases Nat.lt_or_ge (generated % 2 ^ 31 + 1) (2 ^ 31) with small | wraps
  · have value : state.lastHandleID.toInt = (generated % 2 ^ 31 : Nat) := by
      rw [last, toInt_issuedNumber]
    obtain ⟨number, kept⟩ := ClientState.generateHandle_of_lt value small
    have same : state.generateHandle.1 = issuedNumber (generated + 1) := by
      rw [← Int32.toInt_inj, number, toInt_issuedNumber]
      omega
    rw [← same, ← kept]
  · -- the increment of 2^31 - 1 is negative
    have full : generated % 2 ^ 31 = 2 ^ 31 - 1 := by
      have bound := Nat.mod_lt generated (show 0 < 2 ^ 31 by decide)
      omega
    have zero : issuedNumber (generated + 1) = 0 := by
      rw [issuedNumber_eq_zero_iff]
      omega
    have most : state.lastHandleID = 2147483647 := by
      rw [last, issuedNumber, full]
      decide
    rw [zero, ClientState.generateHandle, most]
    rfl

def ClientState.Live (state : ClientState) (handle : CE_HANDLE) : Prop :=
  handle ∈ state.handlesToProcessIDs ∨ handle ∈ state.handlesToProcessInfoSnapshots ∨
    handle ∈ state.handlesToModuleSnapshots

/-- What the history of a run says about the numbers: how many were generated,
whose generation waits for its insertion, and which numbers (below 2^31) have
been stored under and not closed since. -/
structure Numbering (Client : Type) where
  generated : Nat := 0
  waiting : Client → Option Nat := fun _ => none
  occupied : Nat → Bool := fun _ => false

namespace Numbering

variable [DecidableEq Client]

def after (numbering : Numbering Client) : HandleEvent Client → Numbering Client
  | .generate client _ _ => { numbering with
      generated := numbering.generated + 1
      waiting := Function.update numbering.waiting client (some (numbering.generated + 1)) }
  | .insert client =>
      match numbering.waiting client with
      | some generation => { numbering with
          waiting := Function.update numbering.waiting client none
          occupied := Function.update numbering.occupied (generation % 2 ^ 31) true }
      | none => numbering
  | .access _ (.closeHandle handle) _ => { numbering with
      occupied := fun number => numbering.occupied number && issuedNumber number != handle }
  | .access .. => numbering

def ofHistory (events : List (HandleEvent Client)) : Numbering Client :=
  events.foldl after {}

theorem ofHistory_snoc (events : List (HandleEvent Client)) (event : HandleEvent Client) :
    ofHistory (events ++ [event]) = (ofHistory events).after event :=
  List.foldl_concat ..

theorem after_insert {numbering : Numbering Client} {client : Client} {generation : Nat}
    (waits : numbering.waiting client = some generation) :
    numbering.after (.insert client) = { numbering with
      waiting := Function.update numbering.waiting client none
      occupied := Function.update numbering.occupied (generation % 2 ^ 31) true } := by
  simp only [after, waits]

end Numbering

structure Numbered (numbering : Numbering Client) (sharing : Sharing Client) : Prop where
  last : sharing.state.lastHandleID = issuedNumber numbering.generated
  waiting : ∀ client,
    (sharing.storing client).map Prod.fst = (numbering.waiting client).map issuedNumber
  live : ∀ handle, sharing.state.Live handle ↔
    ∃ number, number < 2 ^ 31 ∧ issuedNumber number = handle ∧ numbering.occupied number = true

theorem numbered_start : Numbered ({} : Numbering Client) {} where
  last := rfl
  waiting _ := rfl
  live handle := by
    refine iff_of_false ?_ (by simp)
    rintro (live | live | live) <;> exact Finmap.notMem_empty live

theorem live_store (object : HandleObject) (state : ClientState) (handle other : CE_HANDLE) :
    (object.store state handle).Live other ↔ other = handle ∨ state.Live other := by
  cases object with
  | process processID =>
      simp only [HandleObject.store, ClientState.storeOpenProcess, ClientState.Live,
        Finmap.mem_insert, or_assoc]
  | processes snapshot =>
      simp only [HandleObject.store, ClientState.storeProcessSnapshot, ClientState.Live,
        Table.mem_insertNew]
      tauto
  | modules snapshot =>
      simp only [HandleObject.store, ClientState.storeModuleSnapshot, ClientState.Live,
        Table.mem_insertNew]
      tauto

theorem live_closeHandle (state : ClientState) (handle other : CE_HANDLE) :
    (state.closeHandle handle).Live other ↔ other ≠ handle ∧ state.Live other := by
  simp only [ClientState.closeHandle, ClientState.Live, Finmap.mem_erase]
  tauto

theorem live_access (first : FirstEntry) {op : StateOp} (accesses : op.Accesses)
    (state : ClientState) (handle : CE_HANDLE) :
    (op.apply first state).2.Live handle ↔
      (∀ closed, op = .closeHandle closed → handle ≠ closed) ∧ state.Live handle := by
  cases op with
  | generateHandle | storeOpenProcess | storeProcessSnapshot | storeModuleSnapshot =>
      exact absurd accesses id
  | closeHandle closed =>
      rw [StateOp.apply, live_closeHandle]
      simp
  | _ => simp [StateOp.apply, ClientState.Live, ClientState.nextProcessInfo,
      ClientState.nextMemoryRegion, ClientState.resetProcessIterator,
      ClientState.resetModuleIterator]

section Runs

variable [DecidableEq Client] {numbering : Numbering Client} {before after : Sharing Client}

theorem Numbered.step {event : HandleEvent Client} (numbered : Numbered numbering before)
    (step : Sharing.Step before event after) : Numbered (numbering.after event) after := by
  cases step with
  | @generate client object idle =>
      rw [generateHandle_number numbered.last]
      refine ⟨rfl, fun other => ?_, numbered.live⟩
      simp only [Numbering.after]
      by_cases same : other = client
      · subst same
        simp
      · rw [Function.update_of_ne same, Function.update_of_ne same]
        exact numbered.waiting other
  | @insert client handle object pending =>
      have known := numbered.waiting client
      rw [pending, Option.map_some, eq_comm, Option.map_eq_some_iff] at known
      obtain ⟨generation, waits, number⟩ := known
      dsimp only at number
      rw [Numbering.after_insert waits]
      refine ⟨?_, fun other => ?_, fun other => ?_⟩
      · dsimp only
        rw [← numbered.last]
        cases object <;> rfl
      · dsimp only
        by_cases same : other = client
        · subst same
          simp
        · rw [Function.update_of_ne same, Function.update_of_ne same]
          exact numbered.waiting other
      · dsimp only
        rw [live_store, numbered.live]
        constructor
        · rintro (rfl | ⟨stored, bound, same, occupied⟩)
          · refine ⟨generation % 2 ^ 31, Nat.mod_lt _ (by decide), ?_, by simp⟩
            rw [issuedNumber_mod, number]
          · refine ⟨stored, bound, same, ?_⟩
            by_cases here : stored = generation % 2 ^ 31
            · rw [here, Function.update_self]
            · rwa [Function.update_of_ne here]
        · rintro ⟨stored, bound, rfl, occupied⟩
          by_cases here : stored = generation % 2 ^ 31
          · left
            rw [here, issuedNumber_mod, number]
          · rw [Function.update_of_ne here] at occupied
            exact .inr ⟨stored, bound, rfl, occupied⟩
  | @access client op first accesses idle =>
      have same (kept : ∀ closed, op ≠ .closeHandle closed) :
          numbering.after (.access client op (op.apply first before.state).1) = numbering := by
        cases op with
        | closeHandle closed => exact absurd rfl (kept closed)
        | _ => rfl
      have last : (op.apply first before.state).2.lastHandleID = before.state.lastHandleID := by
        cases op with
        | generateHandle | storeOpenProcess | storeProcessSnapshot | storeModuleSnapshot =>
            exact absurd accesses id
        | _ => rfl
      by_cases closing : ∃ closed, op = .closeHandle closed
      · obtain ⟨closed, rfl⟩ := closing
        refine ⟨numbered.last, numbered.waiting, fun handle => ?_⟩
        rw [live_access first accesses, numbered.live]
        simp only [Numbering.after, StateOp.closeHandle.injEq, forall_eq', Bool.and_eq_true,
          bne_iff_ne]
        constructor
        · rintro ⟨other, number, bound, rfl, occupied⟩
          exact ⟨number, bound, rfl, occupied, other⟩
        · rintro ⟨number, bound, rfl, occupied, other⟩
          exact ⟨other, number, bound, rfl, occupied⟩
      · rw [same fun closed isClose => closing ⟨closed, isClose⟩]
        refine ⟨last.trans numbered.last, numbered.waiting, fun handle => ?_⟩
        rw [live_access first accesses, ← numbered.live]
        exact and_iff_right fun closed isClose => absurd ⟨closed, isClose⟩ closing

theorem numbered_of_run {events : List (HandleEvent Client)} {sharing : Sharing Client}
    (run : Run Sharing.Step {} events sharing) :
    Numbered (Numbering.ofHistory events) sharing := by
  refine run.history (fun events sharing => Numbered (Numbering.ofHistory events) sharing)
    numbered_start fun past before event after earlier numbered step => ?_
  rw [Numbering.ofHistory_snoc]
  exact numbered.step step

end Runs

structure Fresh (state : ClientState) (handle : CE_HANDLE) (object : HandleObject) : Prop where
  nonzero : handle ≠ 0
  vacant : ¬state.Live handle
  designates : Shows (object.store state handle) handle (some object)

theorem shows_store {state : ClientState} {handle : CE_HANDLE} (vacant : ¬state.Live handle)
    (object : HandleObject) : Shows (object.store state handle) handle (some object) := by
  simp only [ClientState.Live, not_or, ← Finmap.lookup_eq_none] at vacant
  obtain ⟨process, processes, modules⟩ := vacant
  have processID : (object.store state handle).handlesToProcessIDs.lookup handle =
      object.processID? := by
    rw [store_processIDs]
    cases object <;> simp [HandleObject.processID?, process]
  have listed : (object.store state handle).handlesToProcessInfoSnapshots.lookup handle =
      object.processes? := by
    rw [store_processes]
    cases object <;> simp [HandleObject.processes?, processes]
  have mapped : (object.store state handle).handlesToModuleSnapshots.lookup handle =
      object.modules? := by
    rw [store_modules]
    cases object <;> simp [HandleObject.modules?, modules]
  have present {Value : Type} {table : Table Value} {found : Option Value}
      (lookup : table.lookup handle = found) : decide (handle ∈ table) = found.isSome := by
    rw [← lookup, Bool.eq_iff_iff, decide_eq_true_iff, Finmap.lookup_isSome]
  refine ⟨processID, listed, mapped, ?_, present processID, present listed, present mapped,
    ⟨0, ?_⟩, ⟨0, ?_⟩⟩
  · rw [ClientState.getProcessID, processID]
    rfl
  · refine (advance_entry fun isSome => ?_).trans (by rw [listed]; rfl)
    rw [listed] at isSome
    obtain ⟨snapshot, found⟩ := Option.isSome_iff_exists.mp isSome
    simp [store_processIter, found]
  · refine (advance_entry fun isSome => ?_).trans (by rw [mapped]; rfl)
    rw [mapped] at isSome
    obtain ⟨snapshot, found⟩ := Option.isSome_iff_exists.mp isSome
    simp [store_moduleIter, found]

theorem exists_generate (sharing : Sharing Unit) (idle : sharing.storing () = none) :
    ∃ after, Sharing.Step sharing
        (.generate () (.process 4) sharing.state.generateHandle.1) after ∧
      after.storing () = some (sharing.state.generateHandle.1, .process 4) :=
  ⟨_, Sharing.Step.generate (.process 4) idle, by simp⟩

/-- A client about to store its object does so under a fresh handle exactly when
its generation is no multiple of 2^31 and nothing that was stored under the same
number is still open. -/
theorem handle_fresh_iff [DecidableEq Client] {events : List (HandleEvent Client)}
    {sharing : Sharing Client} (run : Run Sharing.Step {} events sharing) {client : Client}
    {handle : CE_HANDLE} {object : HandleObject}
    (pending : sharing.storing client = some (handle, object)) :
    ∃ generation, (Numbering.ofHistory events).waiting client = some generation ∧
      (Fresh sharing.state handle object ↔ ¬2 ^ 31 ∣ generation ∧
        (Numbering.ofHistory events).occupied (generation % 2 ^ 31) = false) := by
  have numbered := numbered_of_run run
  have known := numbered.waiting client
  rw [pending, Option.map_some, eq_comm, Option.map_eq_some_iff] at known
  obtain ⟨generation, waits, number⟩ := known
  dsimp only at number
  have live : sharing.state.Live handle ↔
      (Numbering.ofHistory events).occupied (generation % 2 ^ 31) = true := by
    rw [numbered.live, ← number]
    constructor
    · rintro ⟨stored, bound, same, occupied⟩
      rw [issuedNumber_inj, Nat.mod_eq_of_lt bound] at same
      rwa [← same]
    · intro occupied
      exact ⟨_, Nat.mod_lt _ (by decide), issuedNumber_mod _, occupied⟩
  have zero : handle = 0 ↔ 2 ^ 31 ∣ generation := by
    rw [← number, issuedNumber_eq_zero_iff, Nat.dvd_iff_mod_eq_zero]
  refine ⟨generation, waits, ?_⟩
  rw [← zero, ← Bool.not_eq_true, ← live]
  constructor
  · intro fresh
    exact ⟨fresh.nonzero, fresh.vacant⟩
  · rintro ⟨nonzero, vacant⟩
    exact ⟨nonzero, vacant, shows_store vacant object⟩

theorem handle_fresh_iff_openProcess :
    ∃ (events : List (HandleEvent Unit)) (sharing : Sharing Unit),
      Run Sharing.Step {} events sharing ∧ Fresh sharing.state 1 (.process 4) := by
  obtain ⟨sharing, step, stores⟩ := exists_generate {} rfl
  have run := Run.single step
  obtain ⟨generation, waits, fresh⟩ := handle_fresh_iff run stores
  obtain rfl : 1 = generation := Option.some.inj waits
  exact ⟨_, sharing, run, fresh.mpr ⟨by decide, rfl⟩⟩

theorem exists_run_generations (count : Nat) :
    ∃ (events : List (HandleEvent Unit)) (sharing : Sharing Unit),
      Run Sharing.Step {} events sharing ∧ sharing.storing () = none ∧
        (Numbering.ofHistory events).generated = count := by
  induction count with
  | zero => exact ⟨[], {}, Run.nil, rfl, rfl⟩
  | succ count ih =>
      obtain ⟨events, sharing, run, idle, generated⟩ := ih
      obtain ⟨after, step, stores⟩ := exists_generate sharing idle
      have issued := run.snoc step
      refine ⟨_, _, issued.snoc (Sharing.Step.insert stores), by simp, ?_⟩
      have waits : ((Numbering.ofHistory events).after
          (.generate () (.process 4) sharing.state.generateHandle.1)).waiting () =
            some ((Numbering.ofHistory events).generated + 1) := by
        simp [Numbering.after]
      rw [Numbering.ofHistory_snoc, Numbering.ofHistory_snoc, Numbering.after_insert waits]
      simp [Numbering.after, generated]

theorem handle_2147483648_not_fresh :
    ¬∀ (events : List (HandleEvent Unit)) (sharing : Sharing Unit) (client : Unit)
      (handle : CE_HANDLE) (object : HandleObject), Run Sharing.Step {} events sharing →
        sharing.storing client = some (handle, object) → Fresh sharing.state handle object := by
  intro fresh
  obtain ⟨events, sharing, run, idle, generated⟩ := exists_run_generations (2 ^ 31 - 1)
  obtain ⟨after, step, stores⟩ := exists_generate sharing idle
  have number := generateHandle_number (numbered_of_run run).last
  have nonzero := (fresh _ after () _ _ (run.snoc step) stores).nonzero
  rw [number, generated] at nonzero
  exact nonzero ((issuedNumber_eq_zero_iff _).mpr (by decide))

end CeServer
