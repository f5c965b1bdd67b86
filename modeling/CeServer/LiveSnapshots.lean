import CeServer.Enumeration
import CeServer.HandleTargets

/-!
The pointer that `nextProcessInfo` and `nextMemoryRegion` return is read after
the mutex was released: when the snapshot it points into is still stored.
-/

namespace CeServer

open LittleEndian Interaction Transition

namespace SnapshotKind

def read : SnapshotKind → EntryPointer → Op
  | processes, entry => .readProcessInfo entry
  | modules, entry => .readMemoryRegion entry

def response : (kind : SnapshotKind) → (entry : EntryPointer) → kind.Entry →
    (kind.read entry).Response
  | processes, _, procInfo => procInfo
  | modules, _, memoryRegion => memoryRegion

theorem read_injective {kind other : SnapshotKind} {entry pointer : EntryPointer}
    (same : kind.read entry = other.read pointer) : kind = other ∧ entry = pointer := by
  cases kind <;> cases other <;> simp_all [read]

end SnapshotKind

inductive PointerPhase
  | idle
  | designated (kind : SnapshotKind) (entry : EntryPointer)

namespace PointerPhase

def allows : PointerPhase → Op → Prop
  | idle, op => ∀ kind entry, op ≠ SnapshotKind.read kind entry
  | designated kind entry, op => op = kind.read entry

def after : PointerPhase → (op : Op) → op.Response → PointerPhase
  | idle, .state (.nextProcessInfo _), some entry => designated .processes entry
  | idle, .state (.nextMemoryRegion _), some entry => designated .modules entry
  | _, _, _ => idle

end PointerPhase

/-- A pointer into a snapshot is read at once, and only then. -/
def pointerProtocol : Protocol Op Op.Response where
  Phase := PointerPhase
  allows := PointerPhase.allows
  after := PointerPhase.after

def Op.Plain : Op → Prop
  | .readProcessInfo _ | .readMemoryRegion _ | .state (.nextProcessInfo _)
  | .state (.nextMemoryRegion _) => False
  | _ => True

theorem neutral_of_plain {op : Op} (plain : op.Plain) :
    pointerProtocol.Neutral .idle op := by
  constructor
  · intro kind entry same
    subst same
    cases kind <;> exact plain
  · intro response
    cases op with
    | state op =>
        cases op with
        | nextProcessInfo handle | nextMemoryRegion handle => exact absurd plain id
        | _ => rfl
    | _ => rfl

section Handlers

open Client

abbrev Settled (phase : PointerPhase) (_ : Bool) : Prop := phase = .idle

/-- The kind of snapshot a command walks through. -/
def Command.iterates : Command → Option SnapshotKind
  | .process32First | .process32Next => some .processes
  | .module32First | .module32Next => some .modules
  | _ => none

theorem plain_of_madeBy {op : Op} {command : Command} (made : op.madeBy command)
    (other : command.iterates = none) : op.Plain := by
  cases op with
  | readProcessInfo | readMemoryRegion =>
      cases command <;> first | exact absurd made Bool.false_ne_true | cases other
  | state op =>
      cases op <;> first
        | trivial
        | (cases command <;> first | exact absurd made Bool.false_ne_true | cases other)
  | _ => trivial

theorem handle_plain {command : Command} (other : command.iterates = none) :
    (handle command).Uses Op.Plain :=
  (handle_stays (coversAll_within (fun _ made => plain_of_madeBy made other) (fun _ => trivial)
    (fun _ _ => trivial) fun _ op polls => by
      cases op with
      | state op => cases op <;> trivial
      | readProcessInfo | readMemoryRegion => cases polls
      | _ => trivial)).uses

theorem settled_of_plain {handler : Handler Bool} (plain : handler.Uses Op.Plain) :
    pointerProtocol.Ends Settled .idle handler := by
  induction handler with
  | ret value => exact rfl
  | call op next ih =>
      obtain ⟨allowed, kept⟩ := neutral_of_plain plain.1
      refine ⟨allowed, fun response => ?_⟩
      rw [kept response]
      exact ih response (plain.2 response)

theorem iterateProcessesNext_settled (first : Bool) (handle : CE_HANDLE) :
    pointerProtocol.Ends Settled .idle (keepOpen (iterateProcessesNext first handle)) := by
  have ends : pointerProtocol.Ends Settled .idle (keepOpen (sendProcess32Entry false 0 [])) :=
    settled_of_plain (keepOpen_uses (sendProcess32Entry_stays (fun _ => trivial) ..).uses)
  have takes : pointerProtocol.Ends Settled .idle
      (invoke (.state (.nextProcessInfo handle)) >>= fun found =>
        keepOpen (sendProcessAt found)) := by
    refine ⟨nofun, fun found => ?_⟩
    cases found with
    | none => exact ends
    | some entry =>
        refine ⟨rfl, fun procInfo => ?_⟩
        exact settled_of_plain (keepOpen_uses (sendProcess32Entry_stays (fun _ => trivial) ..).uses)
  refine ⟨nofun, fun present => ?_⟩
  cases present with
  | false => exact ends
  | true =>
      cases first with
      | false => exact takes
      | true => exact ⟨nofun, fun _ => takes⟩

theorem iterateModulesNext_settled (first : Bool) (handle : CE_HANDLE) :
    pointerProtocol.Ends Settled .idle (keepOpen (iterateModulesNext first handle)) := by
  have ends : pointerProtocol.Ends Settled .idle (keepOpen (sendModule32Entry false 0 0 0 0 [])) :=
    settled_of_plain (keepOpen_uses (sendModule32Entry_stays (fun _ => trivial) ..).uses)
  have takes : pointerProtocol.Ends Settled .idle
      (invoke (.state (.nextMemoryRegion handle)) >>= fun found =>
        keepOpen (sendModuleAt found)) := by
    refine ⟨nofun, fun found => ?_⟩
    cases found with
    | none => exact ends
    | some entry =>
        refine ⟨rfl, fun region => ?_⟩
        exact settled_of_plain
          (keepOpen_uses (sendModuleRegion_stays (fun _ => trivial) region).uses)
  refine ⟨nofun, fun present => ?_⟩
  cases present with
  | false => exact ends
  | true =>
      cases first with
      | false => exact takes
      | true => exact ⟨nofun, fun _ => takes⟩

theorem dispatchCommand_settled (command : UInt8) :
    pointerProtocol.Ends Settled .idle (dispatchCommand command) := by
  have received {rest : CE_HANDLE → Handler Unit}
      (each : ∀ handle, pointerProtocol.Ends Settled .idle (keepOpen (rest handle))) :
      pointerProtocol.Ends Settled .idle (keepOpen (CeServer.read CE_HANDLE >>= rest)) :=
    ⟨nofun, fun received => each _⟩
  unfold dispatchCommand
  cases Command.ofCode command with
  | none => exact rfl
  | some command =>
      cases walks : command.iterates with
      | none => exact settled_of_plain (handle_plain walks)
      | some kind =>
          cases command with
          | process32First | process32Next => exact received (iterateProcessesNext_settled _)
          | module32First | module32Next => exact received (iterateModulesNext_settled _)
          | _ => cases walks

end Handlers

variable {Connection : Type}

structure Pointee where
  kind : SnapshotKind
  entry : EntryPointer
  snapshot : List kind.Entry

/-- `pointee` is what the pointer that a connection got last points into: the
snapshot, until it is erased from its table. It is history; no step reads it. -/
structure Watching (Connection : Type) where
  serving : Serving Connection := {}
  pointee : Connection → Option Pointee := fun _ => none

namespace Watching

def pointeeAfter [DecidableEq Connection] (watching : Watching Connection)
    (connection : Connection) : Option Op → Connection → Option Pointee
  | some (.state (.nextProcessInfo handle)) =>
      match (watching.serving.state.nextProcessInfo handle).1 with
      | some entry => Function.update watching.pointee connection (some ⟨.processes, entry,
          (watching.serving.state.handlesToProcessInfoSnapshots.lookup handle).getD []⟩)
      | none => watching.pointee
  | some (.state (.nextMemoryRegion handle)) =>
      match (watching.serving.state.nextMemoryRegion handle).1 with
      | some entry => Function.update watching.pointee connection (some ⟨.modules, entry,
          (watching.serving.state.handlesToModuleSnapshots.lookup handle).getD []⟩)
      | none => watching.pointee
  | some (.state (.closeHandle handle)) => fun other =>
      (watching.pointee other).filter fun pointee => pointee.entry.handle ≠ handle
  | _ => watching.pointee

def next [DecidableEq Connection] (watching : Watching Connection)
    (event : ServingEvent Connection) : Option (Watching Connection) :=
  (watching.serving.next event).map fun serving =>
    { serving
      pointee := match event with
        | .respond connection _ _ =>
            watching.pointeeAfter connection (watching.serving.pending connection)
        | _ => watching.pointee }

/-- Every pointer that is about to be read points into a snapshot that is still
stored, so that the read gives the entry the cursor designated. -/
def Live (watching : Watching Connection) : Prop :=
  ∀ connection kind entry,
    watching.serving.pending connection = some (SnapshotKind.read kind entry) →
    ∃ snapshot : List kind.Entry, watching.pointee connection = some ⟨kind, entry, snapshot⟩ ∧
      (kind.table watching.serving.state).lookup entry.handle = some snapshot ∧
      ∃ designated, snapshot[entry.index]? = some designated ∧ ∀ first outside,
        Serving.answer first outside watching.serving.state (kind.read entry) =
          some (kind.response entry designated, watching.serving.state)

/-- No handle is closed while a pointer into its snapshot is about to be read. -/
def Undisturbed (watching : Watching Connection) (event : ServingEvent Connection) : Prop :=
  ∀ handle, watching.serving.closing? event = some handle → ∀ connection kind entry,
    watching.serving.pending connection = some (SnapshotKind.read kind entry) →
    entry.handle ≠ handle

def Points (watching : Watching Connection) (connection : Connection) : PointerPhase → Prop
  | .idle => True
  | .designated kind entry => ∃ snapshot : List kind.Entry,
      watching.pointee connection = some ⟨kind, entry, snapshot⟩ ∧
      (kind.table watching.serving.state).lookup entry.handle = some snapshot ∧
      entry.index < snapshot.length

def Invariant (watching : Watching Connection) : Prop :=
  ∀ connection program, watching.serving.running connection = some program →
    ∃ phase, pointerProtocol.Ends Settled phase program ∧ watching.Points connection phase

section Table

variable {first : FirstEntry} {outside : (op : Op) → op.Response} {state later : ClientState}
  {op : Op} {response : op.Response} {handle : CE_HANDLE}

theorem advance_some {Entry : Type} {snapshots : Table (List Entry)} {iter : Table Int32}
    {entry : EntryPointer} (found : (ClientState.advance snapshots iter handle).1 = some entry) :
    entry.handle = handle ∧ ∃ snapshot, snapshots.lookup handle = some snapshot ∧
      entry.index < snapshot.length := by
  unfold ClientState.advance at found
  cases stored : snapshots.lookup handle with
  | none => simp [stored] at found
  | some snapshot =>
      simp only [stored] at found
      split at found
      · simp at found
      · rename_i inside
        obtain rfl := Option.some.inj found
        exact ⟨rfl, snapshot, rfl, Nat.not_le.mp inside⟩

theorem table_apply {kind : SnapshotKind} {snapshot : List kind.Entry} {call : StateOp}
    (stored : (kind.table state).lookup handle = some snapshot)
    (kept : call ≠ .closeHandle handle) :
    (kind.table (call.apply first state).2).lookup handle = some snapshot := by
  cases call with
  | closeHandle other =>
      have apart : handle ≠ other := fun same => kept (by rw [same])
      cases kind <;>
      · simp only [SnapshotKind.table, StateOp.apply, ClientState.closeHandle,
          Table.lookup_erase, if_neg apart] at stored ⊢
        exact stored
  | storeProcessSnapshot other new =>
      cases kind with
      | modules => exact stored
      | processes =>
          simp only [SnapshotKind.table, StateOp.apply, ClientState.storeProcessSnapshot,
            Table.lookup_insertNew] at stored ⊢
          split
          · rename_i same
            rw [← same, stored, Option.getD_some]
          · exact stored
  | storeModuleSnapshot other new =>
      cases kind with
      | processes => exact stored
      | modules =>
          simp only [SnapshotKind.table, StateOp.apply, ClientState.storeModuleSnapshot,
            Table.lookup_insertNew] at stored ⊢
          split
          · rename_i same
            rw [← same, stored, Option.getD_some]
          · exact stored
  | _ => cases kind <;> exact stored

theorem table_answer {kind : SnapshotKind} {snapshot : List kind.Entry}
    (answered : Serving.answer first outside state op = some (response, later))
    (stored : (kind.table state).lookup handle = some snapshot)
    (kept : op ≠ .state (.closeHandle handle)) :
    (kind.table later).lookup handle = some snapshot := by
  rcases Serving.answer_state answered with rfl | ⟨call, rfl, rfl⟩
  · exact stored
  · exact table_apply stored fun closes => kept (by rw [closes])

theorem answer_read {kind : SnapshotKind} {state : ClientState} {entry : EntryPointer}
    {snapshot : List kind.Entry} {designated : kind.Entry}
    (stored : (kind.table state).lookup entry.handle = some snapshot)
    (found : snapshot[entry.index]? = some designated) (first : FirstEntry)
    (outside : (op : Op) → op.Response) :
    Serving.answer first outside state (kind.read entry) =
      some (kind.response entry designated, state) := by
  cases kind with
  | processes =>
      simp only [SnapshotKind.table] at stored
      simp [SnapshotKind.read, SnapshotKind.response, Serving.answer, stored, found]
  | modules =>
      simp only [SnapshotKind.table] at stored
      simp [SnapshotKind.read, SnapshotKind.response, Serving.answer, stored, found]

end Table

theorem invariant_start : Invariant ({} : Watching Connection) := by
  intro connection program running
  simp at running

section Steps

variable [DecidableEq Connection] {before after watching : Watching Connection}
  {connection other : Connection} {event : ServingEvent Connection}

theorem pointeeAfter_of_ne {op : Op} {pointee : Pointee} (different : other ≠ connection)
    (points : watching.pointee other = some pointee)
    (kept : op ≠ .state (.closeHandle pointee.entry.handle)) :
    watching.pointeeAfter connection (some op) other = some pointee := by
  cases op with
  | state call =>
      cases call with
      | nextProcessInfo handle =>
          simp only [pointeeAfter]
          cases (watching.serving.state.nextProcessInfo handle).1 with
          | none => exact points
          | some entry => exact (Function.update_of_ne different _ _).trans points
      | nextMemoryRegion handle =>
          simp only [pointeeAfter]
          cases (watching.serving.state.nextMemoryRegion handle).1 with
          | none => exact points
          | some entry => exact (Function.update_of_ne different _ _).trans points
      | closeHandle handle =>
          have apart : pointee.entry.handle ≠ handle := fun same => kept (by rw [same])
          simp [pointeeAfter, points, apart]
      | _ => exact points
  | _ => exact points

omit [DecidableEq Connection] in
theorem Points.read {kind : SnapshotKind} {entry : EntryPointer}
    (points : watching.Points connection (.designated kind entry)) :
    ∃ snapshot : List kind.Entry, watching.pointee connection = some ⟨kind, entry, snapshot⟩ ∧
      (kind.table watching.serving.state).lookup entry.handle = some snapshot ∧
      ∃ designated, snapshot[entry.index]? = some designated ∧ ∀ first outside,
        Serving.answer first outside watching.serving.state (kind.read entry) =
          some (kind.response entry designated, watching.serving.state) := by
  obtain ⟨snapshot, pointee, stored, inside⟩ := points
  have found := List.getElem?_eq_getElem inside
  exact ⟨snapshot, pointee, stored, snapshot[entry.index], found, answer_read stored found⟩

omit [DecidableEq Connection] in
theorem pending_eq {op : Op} {rest : op.Response → Handler Bool}
    (running : watching.serving.running connection = some (.call op rest)) :
    watching.serving.pending connection = some op := by
  simp [Serving.pending, running]

omit [DecidableEq Connection] in
theorem Invariant.live (invariant : Invariant watching) : watching.Live := by
  intro connection kind entry waiting
  unfold Serving.pending at waiting
  split at waiting
  · rename_i op rest running
    obtain rfl := Option.some.inj waiting
    obtain ⟨phase, ends, points⟩ := invariant connection _ running
    cases phase with
    | idle => exact absurd rfl (ends.1 kind entry)
    | designated other pointer =>
        obtain ⟨rfl, rfl⟩ := SnapshotKind.read_injective ends.1
        exact points.read
  · simp at waiting

theorem Points.taken {call : StateOp} {rest : call.Response → Handler Bool} {first : FirstEntry}
    {phase : PointerPhase}
    (running : before.serving.running connection = some (.call (.state call) rest))
    (state : after.serving.state = (call.apply first before.serving.state).2)
    (pointee : after.pointee =
      before.pointeeAfter connection (before.serving.pending connection)) :
    after.Points connection
      (phase.after (.state call) (call.apply first before.serving.state).1) := by
  rw [pending_eq running] at pointee
  cases phase with
  | designated kind entry => exact trivial
  | idle =>
      cases call with
      | nextProcessInfo handle =>
          change after.Points connection
            (PointerPhase.after .idle (.state (.nextProcessInfo handle))
              (before.serving.state.nextProcessInfo handle).1)
          cases found : (before.serving.state.nextProcessInfo handle).1 with
          | none => exact trivial
          | some entry =>
              obtain ⟨rfl, snapshot, stored, inside⟩ := advance_some found
              refine ⟨snapshot, ?_, ?_, inside⟩
              · simp [pointee, pointeeAfter, found, stored]
              · rw [state]
                exact stored
      | nextMemoryRegion handle =>
          change after.Points connection
            (PointerPhase.after .idle (.state (.nextMemoryRegion handle))
              (before.serving.state.nextMemoryRegion handle).1)
          cases found : (before.serving.state.nextMemoryRegion handle).1 with
          | none => exact trivial
          | some entry =>
              obtain ⟨rfl, snapshot, stored, inside⟩ := advance_some found
              refine ⟨snapshot, ?_, ?_, inside⟩
              · simp [pointee, pointeeAfter, found, stored]
              · rw [state]
                exact stored
      | _ => exact trivial

theorem Invariant.step (invariant : Invariant before)
    (taken : Restrict (Steps next) Undisturbed before event after) : Invariant after := by
  obtain ⟨undisturbed, step⟩ := taken
  obtain ⟨serving, served, built⟩ := Option.map_eq_some_iff.mp step
  cases event with
  | dispatch connection command =>
      obtain rfl := Serving.dispatched_of_next served
      subst built
      intro other program running
      by_cases same : other = connection
      · subst same
        simp only [Function.update_self, Option.some.injEq] at running
        subst running
        exact ⟨.idle, dispatchCommand_settled command, trivial⟩
      · simp only [Function.update_of_ne same] at running
        exact invariant other program running
  | finish connection =>
      obtain rfl := Serving.finished_of_next served
      subst built
      intro other program running
      by_cases same : other = connection
      · subst same
        simp at running
      · simp only [Function.update_of_ne same] at running
        exact invariant other program running
  | respond connection first outside =>
      obtain ⟨op, rest, response, state, program, answered, rfl⟩ :=
        Serving.responded_of_next served
      subst built
      intro other body running
      by_cases same : other = connection
      · subst same
        simp only [Function.update_self, Option.some.injEq] at running
        subst running
        obtain ⟨phase, ends, points⟩ := invariant other _ program
        refine ⟨phase.after op response, ends.2 response, ?_⟩
        cases op with
        | state call =>
            obtain ⟨rfl, rfl⟩ := Prod.mk.inj (Option.some.inj answered)
            exact Points.taken program rfl rfl
        | _ => cases phase <;> exact trivial
      · simp only [Function.update_of_ne same] at running
        obtain ⟨phase, ends, points⟩ := invariant other body running
        refine ⟨phase, ends, ?_⟩
        cases phase with
        | idle => exact trivial
        | designated kind entry =>
            obtain ⟨snapshot, pointee, stored, inside⟩ := points
            have waiting : before.serving.pending other = some (kind.read entry) := by
              cases body with
              | ret value => cases ends
              | call op rest => rw [pending_eq running, show op = kind.read entry from ends.1]
            have kept : op ≠ .state (.closeHandle entry.handle) := by
              rintro rfl
              refine undisturbed entry.handle ?_ other kind entry waiting rfl
              simp [Serving.closing?, pending_eq program]
            have still := pointeeAfter_of_ne same pointee kept
            rw [← pending_eq program] at still
            exact ⟨snapshot, still, table_answer answered stored kept, inside⟩

theorem undisturbed_of_live (step : Steps next before event after) (live : after.Live) :
    before.Undisturbed event := by
  obtain ⟨serving, served, built⟩ := Option.map_eq_some_iff.mp step
  intro handle closes other kind entry waiting same
  cases event with
  | dispatch connection command => simp [Serving.closing?] at closes
  | finish connection => simp [Serving.closing?] at closes
  | respond connection first outside =>
      have pending : before.serving.pending connection = some (.state (.closeHandle handle)) := by
        simp only [Serving.closing?] at closes
        split at closes
        · rename_i found
          rw [found, Option.some.inj closes]
        · simp at closes
      have different : other ≠ connection := by
        rintro rfl
        rw [pending] at waiting
        cases kind <;> simp [SnapshotKind.read] at waiting
      have still : after.serving.pending other = some (kind.read entry) := by
        obtain ⟨_, _, _, _, _, _, rfl⟩ := Serving.responded_of_next served
        subst built
        rw [← waiting]
        simp only [Serving.pending, Function.update_of_ne different]
      obtain ⟨snapshot, pointee, _⟩ := live other kind entry still
      have dangling : after.pointee other =
          (before.pointee other).filter fun pointee => pointee.entry.handle ≠ handle := by
        subst built
        simp only [pending, pointeeAfter]
      rw [dangling, Option.filter_eq_some_iff] at pointee
      exact absurd same (by simpa using pointee.2)

/-- The states of a run are live throughout exactly when no step closes a handle
while a pointer into its snapshot is about to be read. -/
theorem live_iff_undisturbed {events : List (ServingEvent Connection)}
    (run : Run (Steps next) {} events watching) :
    (∀ past middle, past.IsPrefix events → Run (Steps next) {} past middle → middle.Live) ↔
      Run (Restrict (Steps next) Undisturbed) {} events watching :=
  run.restrict_iff Invariant (steps_deterministic next) invariant_start
    (fun _ _ _ holds taken => holds.step taken) (fun _ holds => holds.live)
    fun _ _ _ _ step live => undisturbed_of_live step live

end Steps

noncomputable def lists (connection : Connection) (snapshot : List ProcessInfo) :
    ServingEvent Connection :=
  .respond connection .any fun op => match op with
    | .getProcessSnapshot => snapshot
    | op => (Environment.healthy.respond op ()).1

/-- One client stores a list of one process and gets handle 1, another asks for
the first entry of it; `between` happens before that entry is read. -/
noncomputable def walksStored (between : List (ServingEvent Bool)) : List (ServingEvent Bool) :=
  [.dispatch false 4, Serving.receives false [2, 0, 0, 0], Serving.receives false [0, 0, 0, 0],
    lists false [⟨[97], 4⟩], Serving.receives false [], Serving.receives false [],
    Serving.receives false [], .finish false,
    .dispatch true 5, Serving.receives true [1, 0, 0, 0], Serving.receives true [],
    Serving.receives true [], Serving.receives true []] ++ between

theorem live_iff_undisturbed_walksStored : ∃ watching : Watching Bool,
    Run (Restrict (Steps next) Undisturbed) {} (walksStored []) watching ∧
      watching.serving.pending true = some (.readProcessInfo ⟨1, 0⟩) ∧ watching.Live := by
  have executed : ((execute (restricted next fun watching event =>
      watching.serving.closing? event = none) ({} : Watching Bool) (walksStored [])).map
        fun watching => watching.serving.pending true) = some (some (.readProcessInfo ⟨1, 0⟩)) := by
    rfl
  obtain ⟨watching, ran, waits⟩ := Option.map_eq_some_iff.mp executed
  have run : Run (Restrict (Steps next) Undisturbed) {} (walksStored []) watching := by
    refine (run_of_execute ran).mono fun before event after taken => ?_
    obtain ⟨quiet, step⟩ := restrict_of_restricted taken
    exact ⟨fun handle closes => by rw [quiet] at closes; simp at closes, step⟩
  exact ⟨watching, run, waits, (live_iff_undisturbed run.unrestrict).mpr run _ _ List.prefix_rfl
    run.unrestrict⟩

/-- The owner closes the handle after the other client got its pointer. -/
theorem walk_of_closed_not_live :
    ¬∀ (events : List (ServingEvent Bool)) (watching : Watching Bool),
      Run (Steps next) {} events watching → watching.Live := by
  intro live
  have executed : ((execute next ({} : Watching Bool) (walksStored
      [.dispatch false 7, Serving.receives false [1, 0, 0, 0], Serving.receives false []])).map
        fun watching => (watching.serving.pending true, watching.pointee true)) =
          some (some (.readProcessInfo ⟨1, 0⟩), none) := by
    rfl
  obtain ⟨watching, ran, observed⟩ := Option.map_eq_some_iff.mp executed
  obtain ⟨waits, dangling⟩ := Prod.mk.inj observed
  obtain ⟨snapshot, pointee, _⟩ := live _ watching (run_of_execute ran) true .processes ⟨1, 0⟩ waits
  rw [dangling] at pointee
  simp at pointee

end Watching

end CeServer
