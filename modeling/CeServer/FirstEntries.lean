import CeServer.LiveSnapshots

/-!
Clients that walk through one shared snapshot: FIRST resets the cursor and takes
an entry in two steps, and other clients may take theirs in between.
-/

namespace CeServer

open LittleEndian Interaction Transition

namespace SnapshotKind

def contains : SnapshotKind → CE_HANDLE → StateOp
  | processes, handle => .containsProcessInfoHandle handle
  | modules, handle => .containsMemoryRegionHandle handle

def reset : SnapshotKind → CE_HANDLE → StateOp
  | processes, handle => .resetProcessIterator handle
  | modules, handle => .resetModuleIterator handle

def take : SnapshotKind → CE_HANDLE → StateOp
  | processes, handle => .nextProcessInfo handle
  | modules, handle => .nextMemoryRegion handle

/-- The stored snapshot; a handle without one lists nothing. -/
def snapshot (kind : SnapshotKind) (state : ClientState) (handle : CE_HANDLE) : List kind.Entry :=
  ((kind.table state).lookup handle).getD []

end SnapshotKind

/-- A FIRST or NEXT command whose handle is read. `taken` is the pointer it got,
`sent` what it has sent; both are history. -/
structure Walker where
  kind : SnapshotKind
  first : Bool
  program : Handler Unit
  taken : Option (Option EntryPointer) := none
  sent : List UInt8 := []

/-- `fresh` tells, once a cursor has been reset, whether that was its last move;
it is history too. -/
structure Walking (Client : Type) where
  state : ClientState
  running : Client → Option Walker := fun _ => none
  fresh : SnapshotKind → Option Bool := fun _ => none

inductive WalkEvent (Client : Type)
  | issue (client : Client) (kind : SnapshotKind) (first : Bool)
  | respond (client : Client) (begin : FirstEntry) (outside : (op : Op) → op.Response)
  | finish (client : Client)

namespace Walking

variable {Client : Type}

def takenAfter (taken : Option (Option EntryPointer)) : (op : Op) → op.Response →
    Option (Option EntryPointer)
  | .state (.nextProcessInfo _), pointer => some pointer
  | .state (.nextMemoryRegion _), pointer => some pointer
  | _, _ => taken

def freshAfter (fresh : SnapshotKind → Option Bool) : Op → SnapshotKind → Option Bool
  | .state (.resetProcessIterator _) => Function.update fresh .processes (some true)
  | .state (.resetModuleIterator _) => Function.update fresh .modules (some true)
  | .state (.nextProcessInfo _) =>
      Function.update fresh .processes ((fresh .processes).map fun _ => false)
  | .state (.nextMemoryRegion _) =>
      Function.update fresh .modules ((fresh .modules).map fun _ => false)
  | _ => fresh

def next [DecidableEq Client] (handle : CE_HANDLE) (walking : Walking Client) :
    WalkEvent Client → Option (Walking Client)
  | .issue client kind first =>
      match walking.running client with
      | some _ => none
      | none => some { walking with
          running := Function.update walking.running client
            (some { kind, first, program := kind.iterateNext first handle }) }
  | .respond client begin outside =>
      match walking.running client with
      | some ⟨kind, first, .call op rest, taken, sent⟩ =>
          (Serving.answer begin outside walking.state op).map fun answered =>
            { state := answered.2
              running := Function.update walking.running client
                (some { kind, first, program := rest answered.1,
                        taken := takenAfter taken op answered.1, sent := sent ++ op.sent })
              fresh := freshAfter walking.fresh op }
      | _ => none
  | .finish client =>
      match walking.running client with
      | some ⟨_, _, .ret _, _, _⟩ => some { walking with
          running := Function.update walking.running client none }
      | _ => none

/-- Each FIRST gets the pointer to entry 0, or none of an empty snapshot, and
what it has sent in the end is that entry or the end of the list. -/
structure ListsFirst (handle : CE_HANDLE) (walking : Walking Client) : Prop where
  designates : ∀ client walker, walking.running client = some walker → walker.first = true →
    ∀ pointer, walker.taken = some pointer →
      pointer = (walker.kind.snapshot walking.state handle)[0]?.map fun _ => ⟨handle, 0⟩
  replies : ∀ client walker, walking.running client = some walker → walker.first = true →
    walker.program = .ret () →
      walker.sent = walker.kind.reply (walker.kind.snapshot walking.state handle)[0]?

/-- The kind of list from which a client's FIRST is about to take its entry. -/
def taking? (handle : CE_HANDLE) (walking : Walking Client) (client : Client) :
    Option SnapshotKind :=
  match walking.running client with
  | some ⟨kind, true, .call op _, _, _⟩ =>
      if op = .state (kind.take handle) then some kind else none
  | _ => none

/-- A FIRST takes its entry while the last move of the cursor is a reset, its own
or another's. -/
def Unmoved (handle : CE_HANDLE) (walking : Walking Client) : WalkEvent Client → Prop
  | .respond client _ _ => ∀ kind, walking.taking? handle client = some kind →
      walking.fresh kind = some true ∨ kind.snapshot walking.state handle = []
  | _ => True

end Walking

inductive WalkPhase
  | begun
  | checked
  | rewound
  | took (entry : EntryPointer)
  | replying (rest : List UInt8)

namespace WalkPhase

def allows (kind : SnapshotKind) (handle : CE_HANDLE) : WalkPhase → Op → Prop
  | begun, op => op = .state (kind.contains handle)
  | checked, op => op = .state (kind.reset handle)
  | rewound, op => op = .state (kind.take handle)
  | took entry, op => op = kind.read entry
  | replying rest, op => ∃ bytes, op = .send bytes ∧ ∃ later, rest = bytes ++ later

def afterCheck (kind : SnapshotKind) (first present : Bool) : WalkPhase :=
  if !present then replying (kind.reply none) else if first then checked else rewound

def afterTake (kind : SnapshotKind) : Option EntryPointer → WalkPhase
  | none => replying (kind.reply none)
  | some entry => took entry

def after (kind : SnapshotKind) (first : Bool) : WalkPhase → (op : Op) → op.Response → WalkPhase
  | begun, .state (.containsProcessInfoHandle _), present => afterCheck kind first present
  | begun, .state (.containsMemoryRegionHandle _), present => afterCheck kind first present
  | checked, _, _ => rewound
  | rewound, .state (.nextProcessInfo _), pointer => afterTake kind pointer
  | rewound, .state (.nextMemoryRegion _), pointer => afterTake kind pointer
  | took _, .readProcessInfo _, procInfo => replying (SnapshotKind.processes.reply (some procInfo))
  | took _, .readMemoryRegion _, region => replying (SnapshotKind.modules.reply (some region))
  | replying rest, .send bytes, _ => replying (rest.drop bytes.length)
  | phase, _, _ => phase

end WalkPhase

def walkProtocol (kind : SnapshotKind) (first : Bool) (handle : CE_HANDLE) :
    Protocol Op Op.Response where
  Phase := WalkPhase
  allows := WalkPhase.allows kind handle
  after := WalkPhase.after kind first

section Walks

variable {kind : SnapshotKind} {first : Bool} {handle : CE_HANDLE}

abbrev Replied (phase : WalkPhase) (_ : Unit) : Prop := phase = .replying []

theorem replying_sendName (name : List UInt8) :
    (walkProtocol kind first handle).Ends Replied (.replying name)
      (if !name.isEmpty then sendBytes name else pure () : Handler Unit) := by
  cases name with
  | nil => exact rfl
  | cons byte rest =>
      refine ⟨⟨_, rfl, [], (List.append_nil _).symm⟩, fun response => ?_⟩
      exact congrArg WalkPhase.replying (List.drop_length)

/-- A header and a name that is sent by a call of its own. -/
theorem replying_entry (header name : List UInt8) :
    (walkProtocol kind first handle).Ends Replied (.replying (header ++ name)) (do
      sendBytes header
      if !name.isEmpty then
        sendBytes name) := by
  refine ⟨⟨header, rfl, name, rfl⟩, fun response => ?_⟩
  have left : WalkPhase.after kind first (.replying (header ++ name)) (.send header) response =
      .replying name := congrArg WalkPhase.replying List.drop_left
  change (walkProtocol kind first handle).Ends Replied
    (WalkPhase.after kind first (.replying (header ++ name)) (.send header) response) _
  rw [left]
  exact replying_sendName name

theorem sendProcess32Entry_replies (hasNext : Bool) (processID : Int32) (name : List UInt8) :
    (walkProtocol kind first handle).Ends Replied
      (.replying (processEntryBytes hasNext processID name))
      (Client.sendProcess32Entry hasNext processID name) :=
  replying_entry _ name

theorem sendModule32Entry_replies (hasNext : Bool) (moduleBase : UInt64)
    (modulePart memoryRegionSize : Int32) (fileOffset : UInt32) (name : List UInt8) :
    (walkProtocol kind first handle).Ends Replied
      (.replying (moduleEntryBytes hasNext moduleBase modulePart memoryRegionSize name))
      (Client.sendModule32Entry hasNext moduleBase modulePart memoryRegionSize fileOffset name) :=
  replying_entry _ name

theorem iterateProcessesNext_walks (first : Bool) (handle : CE_HANDLE) :
    (walkProtocol .processes first handle).Ends Replied .begun
      (Client.iterateProcessesNext first handle) := by
  have takes : (walkProtocol .processes first handle).Ends Replied .rewound
      (invoke (.state (.nextProcessInfo handle)) >>= Client.sendProcessAt) := by
    refine ⟨rfl, fun pointer => ?_⟩
    cases pointer with
    | none => exact sendProcess32Entry_replies ..
    | some entry => exact ⟨rfl, fun procInfo => sendProcess32Entry_replies ..⟩
  refine ⟨rfl, fun present => ?_⟩
  cases present with
  | false => exact sendProcess32Entry_replies ..
  | true =>
      cases first with
      | false => exact takes
      | true => exact ⟨rfl, fun _ => takes⟩

theorem iterateModulesNext_walks (first : Bool) (handle : CE_HANDLE) :
    (walkProtocol .modules first handle).Ends Replied .begun
      (Client.iterateModulesNext first handle) := by
  have takes : (walkProtocol .modules first handle).Ends Replied .rewound
      (invoke (.state (.nextMemoryRegion handle)) >>= Client.sendModuleAt) := by
    refine ⟨rfl, fun pointer => ?_⟩
    cases pointer with
    | none => exact sendModule32Entry_replies false 0 0 0 0 []
    | some entry =>
        exact ⟨rfl, fun region => sendModule32Entry_replies true region.startAddr region.part
          region.regionSize region.fileOffset region.name⟩
  refine ⟨rfl, fun present => ?_⟩
  cases present with
  | false => exact sendModule32Entry_replies false 0 0 0 0 []
  | true =>
      cases first with
      | false => exact takes
      | true => exact ⟨rfl, fun _ => takes⟩

theorem iterateNext_walks (kind : SnapshotKind) (first : Bool) (handle : CE_HANDLE) :
    (walkProtocol kind first handle).Ends Replied .begun (kind.iterateNext first handle) := by
  cases kind with
  | processes => exact iterateProcessesNext_walks first handle
  | modules => exact iterateModulesNext_walks first handle

end Walks

namespace Walking

variable {Client : Type} {handle : CE_HANDLE}

def Walker.pointed (walker : Walker) (snapshot : List walker.kind.Entry) :
    Option walker.kind.Entry :=
  (walker.taken.getD none).bind fun entry => snapshot[entry.index]?

/-- What is known of a walker in each phase of its command. -/
def Suits (handle : CE_HANDLE) (walking : Walking Client) (walker : Walker) : WalkPhase → Prop
  | .begun => walker.taken = none ∧ walker.sent = []
  | .checked => walker.taken = none ∧ walker.sent = [] ∧ walker.first = true
  | .rewound => walker.taken = none ∧ walker.sent = [] ∧
      (walker.first = true → walking.fresh walker.kind ≠ none)
  | .took entry => walker.taken = some (some entry) ∧ walker.sent = [] ∧ entry.handle = handle ∧
      entry.index < (walker.kind.snapshot walking.state handle).length
  | .replying rest => walker.sent ++ rest = walker.kind.reply
      (Walker.pointed walker (walker.kind.snapshot walking.state handle)) ∧
      (walker.taken = none → walker.kind.snapshot walking.state handle = [])

/-- The cursor of a list that has been reset stands at 0 exactly as long as
nobody takes an entry. -/
def Positioned (handle : CE_HANDLE) (walking : Walking Client) (kind : SnapshotKind) : Prop :=
  kind.snapshot walking.state handle ≠ [] → match walking.fresh kind with
    | none => True
    | some true => (kind.iter walking.state).lookup handle = some 0
    | some false => ∃ cursor ≠ 0, (kind.iter walking.state).lookup handle = some cursor

structure Invariant (handle : CE_HANDLE) (walking : Walking Client) : Prop where
  storable : ∀ kind : SnapshotKind,
    (kind.snapshot walking.state handle).length ≤ 2 ^ 64 - 2 ^ 31
  positioned : ∀ kind, walking.Positioned handle kind
  walks : ∀ client walker, walking.running client = some walker → ∃ phase,
    (walkProtocol walker.kind walker.first handle).Ends Replied phase walker.program ∧
      walking.Suits handle walker phase
  designates : ∀ client walker, walking.running client = some walker → walker.first = true →
    ∀ pointer, walker.taken = some pointer →
      pointer = (walker.kind.snapshot walking.state handle)[0]?.map fun _ => ⟨handle, 0⟩

theorem Invariant.listsFirst {walking : Walking Client} (invariant : walking.Invariant handle) :
    walking.ListsFirst handle := by
  refine ⟨invariant.designates, fun client walker running first returned => ?_⟩
  obtain ⟨phase, ends, suits⟩ := invariant.walks client walker running
  rw [returned] at ends
  obtain rfl : phase = .replying [] := ends
  obtain ⟨sent, absent⟩ := suits
  rw [List.append_nil] at sent
  rw [sent, Walker.pointed]
  congr 1
  cases taken : walker.taken with
  | none =>
      rw [absent taken]
      rfl
  | some pointer =>
      rw [invariant.designates client walker running first pointer taken]
      cases walker.kind.snapshot walking.state handle <;> rfl

section Cursor

variable {kind : SnapshotKind} {state : ClientState}

theorem cursorIndex_ne_zero {cursor : Int32} (moved : cursor ≠ 0) : cursorIndex cursor ≠ 0 := by
  intro zero
  have word : cursor.toInt64.toUInt64 = 0 := UInt64.toNat_inj.mp zero
  have signed : cursor.toInt64 = 0 := by
    rw [← Int64.toInt64_toUInt64 cursor.toInt64, word]
    rfl
  have value := congrArg Int64.toInt signed
  rw [Int32.toInt_toInt64] at value
  exact moved (Int32.toInt_inj.mp value)

theorem cursorNext_ne_zero {Entry : Type} {snapshot : List Entry} {cursor : Int32}
    (storable : snapshot.length ≤ 2 ^ 64 - 2 ^ 31) (nonempty : snapshot ≠ []) :
    cursorNext snapshot cursor ≠ 0 := by
  have positive := List.length_pos_iff.mpr nonempty
  unfold cursorNext
  split
  · rename_i past
    rintro rfl
    have zero : cursorIndex 0 = 0 := by decide
    omega
  · rename_i inside
    intro wraps
    have last : cursor = -1 := by
      have := congrArg (· - 1) wraps
      simpa using this
    subst last
    have index : cursorIndex (-1) = 2 ^ 64 - 1 := by decide
    omega

end Cursor

section Table

variable {begin : FirstEntry} {kind other : SnapshotKind} {state : ClientState}

theorem stored_of_listed (listed : kind.snapshot state handle ≠ []) :
    (kind.table state).lookup handle = some (kind.snapshot state handle) := by
  cases found : (kind.table state).lookup handle with
  | none => exact absurd (by rw [SnapshotKind.snapshot, found]; rfl) listed
  | some snapshot => rw [SnapshotKind.snapshot, found, Option.getD_some]

theorem table_reset (state : ClientState) :
    other.table ((kind.reset handle).apply begin state).2 = other.table state := by
  cases kind <;> cases other <;> rfl

theorem table_take (state : ClientState) :
    other.table ((kind.take handle).apply begin state).2 = other.table state := by
  cases kind <;> cases other <;> rfl

theorem iter_reset (state : ClientState) :
    other.iter ((kind.reset handle).apply begin state).2 =
      if other = kind then (kind.iter state).insert handle 0 else other.iter state := by
  cases kind <;> cases other <;> rfl

theorem iter_take (state : ClientState) :
    other.iter ((kind.take handle).apply begin state).2 =
      if other = kind then (ClientState.advance (kind.table state) (kind.iter state) handle).2
      else other.iter state := by
  cases kind <;> cases other <;> rfl

end Table

structure Kept (handle : CE_HANDLE) (before after : Walking Client) : Prop where
  tables : ∀ kind : SnapshotKind, kind.table after.state = kind.table before.state
  positioned : ∀ kind, after.Positioned handle kind
  fresh : ∀ kind, before.fresh kind ≠ none → after.fresh kind ≠ none

section Steps

variable {before after : Walking Client} {kind : SnapshotKind}

theorem Kept.snapshot (kept : Kept handle before after) (kind : SnapshotKind) :
    kind.snapshot after.state handle = kind.snapshot before.state handle := by
  rw [SnapshotKind.snapshot, kept.tables]
  rfl

theorem Kept.suits {walker : Walker} {phase : WalkPhase} (kept : Kept handle before after)
    (suits : before.Suits handle walker phase) : after.Suits handle walker phase := by
  cases phase with
  | begun => exact suits
  | checked => exact suits
  | rewound => exact ⟨suits.1, suits.2.1, fun first => kept.fresh _ (suits.2.2 first)⟩
  | took entry =>
      rw [Suits, kept.snapshot]
      exact suits
  | replying rest =>
      rw [Suits, kept.snapshot]
      exact suits

theorem kept_of_same (positioned : ∀ kind, before.Positioned handle kind)
    (state : after.state = before.state) (fresh : after.fresh = before.fresh) :
    Kept handle before after := by
  refine ⟨fun kind => by rw [state], fun kind => ?_, fun kind known => by rwa [fresh]⟩
  rw [Positioned, state, fresh]
  exact positioned kind

theorem kept_of_reset {begin : FirstEntry} (positioned : ∀ kind, before.Positioned handle kind)
    (state : after.state = ((kind.reset handle).apply begin before.state).2)
    (fresh : after.fresh = Function.update before.fresh kind (some true)) :
    Kept handle before after := by
  have tables (other : SnapshotKind) : other.table after.state = other.table before.state := by
    rw [state, table_reset]
  refine ⟨tables, fun other => ?_, fun other known => ?_⟩
  · intro nonempty
    rw [fresh]
    by_cases same : other = kind
    · subst same
      rw [Function.update_self, state, iter_reset, if_pos rfl]
      exact Finmap.lookup_insert _
    · rw [Function.update_of_ne same, state, iter_reset, if_neg same]
      refine positioned other fun none => nonempty ?_
      rw [SnapshotKind.snapshot, tables]
      exact none
  · rw [fresh]
    by_cases same : other = kind
    · subst same
      simp
    · rwa [Function.update_of_ne same]

theorem kept_of_take {begin : FirstEntry} (positioned : ∀ kind, before.Positioned handle kind)
    (storable : (kind.snapshot before.state handle).length ≤ 2 ^ 64 - 2 ^ 31)
    (state : after.state = ((kind.take handle).apply begin before.state).2)
    (fresh : after.fresh =
      Function.update before.fresh kind ((before.fresh kind).map fun _ => false)) :
    Kept handle before after := by
  have tables (other : SnapshotKind) : other.table after.state = other.table before.state := by
    rw [state, table_take]
  refine ⟨tables, fun other => ?_, fun other known => ?_⟩
  · intro nonempty
    have listed : other.snapshot before.state handle ≠ [] := by
      intro none
      apply nonempty
      rw [SnapshotKind.snapshot, tables]
      exact none
    rw [fresh]
    by_cases same : other = kind
    · subst same
      rw [Function.update_self, state, iter_take, if_pos rfl]
      have stood := positioned other listed
      cases known : before.fresh other with
      | none => exact trivial
      | some last =>
          rw [known] at stood
          obtain ⟨cursor, position⟩ :
              ∃ cursor, (other.iter before.state).lookup handle = some cursor := by
            cases last with
            | true => exact ⟨0, stood⟩
            | false => exact ⟨stood.choose, stood.choose_spec.2⟩
          exact ⟨_, cursorNext_ne_zero storable listed,
            advance_lookup_self (stored_of_listed listed) position⟩
    · rw [Function.update_of_ne same, state, iter_take, if_neg same]
      exact positioned other listed
  · rw [fresh]
    by_cases same : other = kind
    · subst same
      rw [Function.update_self]
      simpa using known
    · rwa [Function.update_of_ne same]

/-- What a call of a walker comes to, for the others and for itself. -/
structure Moved (handle : CE_HANDLE) (before after : Walking Client) (walker : Walker) : Prop where
  kept : Kept handle before after
  walks : ∃ phase, (walkProtocol walker.kind walker.first handle).Ends Replied phase
    walker.program ∧ after.Suits handle walker phase
  designates : walker.first = true → ∀ pointer, walker.taken = some pointer →
    pointer = (walker.kind.snapshot after.state handle)[0]?.map fun _ => ⟨handle, 0⟩

theorem suits_afterCheck {walker : Walker} {present : Bool} (untaken : walker.taken = none)
    (unsent : walker.sent = [])
    (absent : present = false → walker.kind.snapshot after.state handle = []) :
    after.Suits handle walker (WalkPhase.afterCheck walker.kind walker.first present) := by
  cases present with
  | false =>
      refine ⟨?_, fun _ => absent rfl⟩
      rw [unsent, Walker.pointed, untaken]
      rfl
  | true =>
      cases first : walker.first with
      | true => exact ⟨untaken, unsent, first⟩
      | false =>
          refine ⟨untaken, unsent, fun impossible => ?_⟩
          exact absurd (first.symm.trans impossible) (by decide)

theorem suits_afterTake {walker : Walker} {pointer : Option EntryPointer}
    (taken : walker.taken = some pointer) (unsent : walker.sent = [])
    (inside : ∀ entry, pointer = some entry → entry.handle = handle ∧
      entry.index < (walker.kind.snapshot after.state handle).length) :
    after.Suits handle walker (WalkPhase.afterTake walker.kind pointer) := by
  cases pointer with
  | none =>
      refine ⟨?_, fun untaken => absurd (taken.symm.trans untaken) nofun⟩
      rw [unsent, Walker.pointed, taken]
      rfl
  | some entry => exact ⟨taken, unsent, inside entry rfl⟩

theorem snapshot_of_missing {state : ClientState} (missing : handle ∉ kind.table state) :
    kind.snapshot state handle = [] := by
  rw [SnapshotKind.snapshot, Finmap.lookup_eq_none.mpr missing]
  rfl

theorem take_inside {state : ClientState} {entry : EntryPointer} :
    (match kind with
      | .processes => (state.nextProcessInfo handle).1 = some entry
      | .modules => (state.nextMemoryRegion handle).1 = some entry) →
    entry.handle = handle ∧ entry.index < (kind.snapshot state handle).length := by
  cases kind <;>
  · intro found
    obtain ⟨same, snapshot, stored, inside⟩ := Watching.advance_some found
    refine ⟨same, ?_⟩
    rw [SnapshotKind.snapshot, SnapshotKind.table, stored]
    exact inside

section Moves

variable {client : Client} {first : Bool} {op : Op} {rest : op.Response → Handler Unit}
  {taken : Option (Option EntryPointer)} {sent : List UInt8} {begin : FirstEntry}
  {outside : (op : Op) → op.Response} {response : op.Response}

theorem moved_begun (invariant : Invariant handle before)
    (ends : (walkProtocol kind first handle).Ends Replied .begun (.call op rest))
    (suits : before.Suits handle ⟨kind, first, .call op rest, taken, sent⟩ .begun)
    (answered : Serving.answer begin outside before.state op = some (response, after.state))
    (fresh : after.fresh = freshAfter before.fresh op) :
    Moved handle before after
      ⟨kind, first, rest response, takenAfter taken op response, sent ++ op.sent⟩ := by
  obtain ⟨asked, continues⟩ := ends
  obtain rfl : op = .state (kind.contains handle) := asked
  obtain ⟨rfl, rfl⟩ : taken = none ∧ sent = [] := suits
  cases kind <;>
  · obtain ⟨present, state⟩ := Prod.mk.inj (Option.some.inj answered)
    have kept : Kept handle before after := kept_of_same invariant.positioned state.symm fresh
    refine ⟨kept, ⟨_, continues response, ?_⟩, fun _ pointer taken => absurd taken nofun⟩
    refine suits_afterCheck rfl rfl fun absent => snapshot_of_missing fun member => ?_
    rw [← state] at member
    have found : response = true := present.symm.trans (decide_eq_true member)
    exact Bool.false_ne_true (absent.symm.trans found)

theorem moved_checked (invariant : Invariant handle before)
    (ends : (walkProtocol kind first handle).Ends Replied .checked (.call op rest))
    (suits : before.Suits handle ⟨kind, first, .call op rest, taken, sent⟩ .checked)
    (answered : Serving.answer begin outside before.state op = some (response, after.state))
    (fresh : after.fresh = freshAfter before.fresh op) :
    Moved handle before after
      ⟨kind, first, rest response, takenAfter taken op response, sent ++ op.sent⟩ := by
  obtain ⟨asked, continues⟩ := ends
  obtain rfl : op = .state (kind.reset handle) := asked
  obtain ⟨rfl, rfl, _⟩ : taken = none ∧ sent = [] ∧ first = true := suits
  have state : after.state = ((kind.reset handle).apply begin before.state).2 :=
    (congrArg Prod.snd (Option.some.inj answered)).symm
  cases kind <;>
  · have kept : Kept handle before after := kept_of_reset invariant.positioned state fresh
    refine ⟨kept, ⟨_, continues response, rfl, rfl, fun _ => ?_⟩,
      fun _ pointer taken => absurd taken nofun⟩
    rw [fresh]
    exact nofun

theorem take_first {state : ClientState} (listed : kind.snapshot state handle ≠ [] →
      (kind.iter state).lookup handle = some 0) :
    (ClientState.advance (kind.table state) (kind.iter state) handle).1 =
      (kind.snapshot state handle)[0]?.map fun _ => ⟨handle, 0⟩ := by
  cases stored : (kind.table state).lookup handle with
  | none => simp [ClientState.advance, SnapshotKind.snapshot, stored]
  | some snapshot =>
      have same : kind.snapshot state handle = snapshot := by
        rw [SnapshotKind.snapshot, stored, Option.getD_some]
      rw [same] at listed ⊢
      cases snapshot with
      | nil => simp [ClientState.advance, stored]
      | cons entry later =>
          rw [advance_entry fun _ => listed (List.cons_ne_nil _ _), stored, Option.bind_some,
            cursorEntry_eq]
          rfl

theorem moved_rewound (invariant : Invariant handle before)
    (ends : (walkProtocol kind first handle).Ends Replied .rewound (.call op rest))
    (suits : before.Suits handle ⟨kind, first, .call op rest, taken, sent⟩ .rewound)
    (answered : Serving.answer begin outside before.state op = some (response, after.state))
    (fresh : after.fresh = freshAfter before.fresh op)
    (unmoved : first = true → op = .state (kind.take handle) →
      before.fresh kind = some true ∨ kind.snapshot before.state handle = []) :
    Moved handle before after
      ⟨kind, first, rest response, takenAfter taken op response, sent ++ op.sent⟩ := by
  obtain ⟨asked, continues⟩ := ends
  obtain rfl : op = .state (kind.take handle) := asked
  obtain ⟨rfl, rfl, _⟩ : taken = none ∧ sent = [] ∧ _ := suits
  have rewound (isFirst : first = true) : kind.snapshot before.state handle ≠ [] →
      (kind.iter before.state).lookup handle = some 0 := by
    intro listed
    have stood := invariant.positioned kind listed
    rcases unmoved isFirst rfl with reset | none
    · rwa [reset] at stood
    · exact absurd none listed
  have state : after.state = ((kind.take handle).apply begin before.state).2 :=
    (congrArg Prod.snd (Option.some.inj answered)).symm
  cases kind <;>
  · have found := congrArg Prod.fst (Option.some.inj answered)
    have kept : Kept handle before after :=
      kept_of_take invariant.positioned (invariant.storable _) state fresh
    refine ⟨kept, ⟨_, continues response, ?_⟩, fun isFirst pointer taken => ?_⟩
    · refine suits_afterTake rfl rfl fun entry same => ?_
      rw [kept.snapshot]
      exact take_inside (found.trans same)
    · rw [kept.snapshot, ← take_first (rewound isFirst)]
      exact (Option.some.inj taken).symm.trans found.symm

theorem moved_took {entry : EntryPointer} (invariant : Invariant handle before)
    (ends : (walkProtocol kind first handle).Ends Replied (.took entry) (.call op rest))
    (suits : before.Suits handle ⟨kind, first, .call op rest, taken, sent⟩ (.took entry))
    (answered : Serving.answer begin outside before.state op = some (response, after.state))
    (fresh : after.fresh = freshAfter before.fresh op)
    (designates : first = true → ∀ pointer, taken = some pointer →
      pointer = (kind.snapshot before.state handle)[0]?.map fun _ => ⟨handle, 0⟩) :
    Moved handle before after
      ⟨kind, first, rest response, takenAfter taken op response, sent ++ op.sent⟩ := by
  obtain ⟨asked, continues⟩ := ends
  obtain rfl : op = kind.read entry := asked
  obtain ⟨rfl, rfl, rfl, inside⟩ : taken = some (some entry) ∧ sent = [] ∧ _ ∧ _ := suits
  have found := List.getElem?_eq_getElem inside
  have listed : kind.snapshot before.state entry.handle ≠ [] :=
    List.length_pos_iff.mp (Nat.zero_lt_of_lt inside)
  have read := Watching.answer_read (stored_of_listed listed) found begin outside
  obtain ⟨value, state⟩ := Prod.mk.inj (Option.some.inj (answered.symm.trans read))
  subst value
  have reply := congrArg kind.reply found.symm
  cases kind <;>
  · have kept : Kept entry.handle before after := kept_of_same invariant.positioned state fresh
    refine ⟨kept, ⟨_, continues _, ?_, fun untaken => absurd untaken nofun⟩,
      fun isFirst pointer taken => ?_⟩
    · rw [kept.snapshot]
      exact reply
    · rw [kept.snapshot]
      exact designates isFirst pointer taken

theorem moved_replying {left : List UInt8} (invariant : Invariant handle before)
    (ends : (walkProtocol kind first handle).Ends Replied (.replying left) (.call op rest))
    (suits : before.Suits handle ⟨kind, first, .call op rest, taken, sent⟩ (.replying left))
    (answered : Serving.answer begin outside before.state op = some (response, after.state))
    (fresh : after.fresh = freshAfter before.fresh op)
    (designates : first = true → ∀ pointer, taken = some pointer →
      pointer = (kind.snapshot before.state handle)[0]?.map fun _ => ⟨handle, 0⟩) :
    Moved handle before after
      ⟨kind, first, rest response, takenAfter taken op response, sent ++ op.sent⟩ := by
  obtain ⟨⟨bytes, rfl, later, rfl⟩, continues⟩ := ends
  obtain ⟨_, state⟩ := Prod.mk.inj (Option.some.inj answered)
  have kept : Kept handle before after := kept_of_same invariant.positioned state.symm fresh
  refine ⟨kept, ⟨.replying later, ?_, ?_⟩, fun isFirst pointer taken => ?_⟩
  · have left : WalkPhase.after kind first (.replying (bytes ++ later)) (.send bytes) response =
        .replying later := congrArg WalkPhase.replying List.drop_left
    rw [← left]
    exact continues response
  · obtain ⟨whole, absent⟩ := suits
    refine ⟨?_, fun untaken => by rw [kept.snapshot]; exact absent untaken⟩
    rw [kept.snapshot]
    exact (List.append_assoc ..).trans whole
  · rw [kept.snapshot]
    exact designates isFirst pointer taken

end Moves

theorem Moved.invariant [DecidableEq Client] {client : Client} {walker : Walker}
    (invariant : Invariant handle before) (moved : Moved handle before after walker)
    (running : after.running = Function.update before.running client (some walker)) :
    Invariant handle after := by
  refine ⟨fun kind => ?_, moved.kept.positioned, fun other body runs => ?_,
    fun other body runs isFirst pointer taken => ?_⟩
  · rw [moved.kept.snapshot]
    exact invariant.storable kind
  · rw [running] at runs
    by_cases same : other = client
    · subst same
      rw [Function.update_self] at runs
      obtain rfl := Option.some.inj runs
      exact moved.walks
    · rw [Function.update_of_ne same] at runs
      obtain ⟨phase, ends, suits⟩ := invariant.walks other body runs
      exact ⟨phase, ends, moved.kept.suits suits⟩
  · rw [running] at runs
    by_cases same : other = client
    · subst same
      rw [Function.update_self] at runs
      obtain rfl := Option.some.inj runs
      exact moved.designates isFirst pointer taken
    · rw [Function.update_of_ne same] at runs
      rw [moved.kept.snapshot]
      exact invariant.designates other body runs isFirst pointer taken

theorem Invariant.step [DecidableEq Client] {event : WalkEvent Client}
    (invariant : Invariant handle before)
    (taken : Restrict (Steps (next handle)) (Unmoved handle) before event after) :
    Invariant handle after := by
  obtain ⟨unmoved, step⟩ := taken
  have idle : Kept handle before before := kept_of_same invariant.positioned rfl rfl
  cases event with
  | issue client kind first =>
      simp only [Steps, next] at step
      split at step
      · simp at step
      · obtain rfl := Option.some.inj step
        refine Moved.invariant invariant ⟨kept_of_same invariant.positioned rfl rfl,
          ⟨.begun, iterateNext_walks kind first handle, rfl, rfl⟩, ?_⟩ rfl
        intro _ pointer taken
        cases taken
  | finish client =>
      simp only [Steps, next] at step
      split at step
      · obtain rfl := Option.some.inj step
        have earlier (other : Client) (body : Walker)
            (runs : Function.update before.running client none other = some body) :
            before.running other = some body := by
          by_cases same : other = client
          · subst same
            simp at runs
          · rwa [Function.update_of_ne same] at runs
        refine ⟨invariant.storable, invariant.positioned, fun other body runs => ?_,
          fun other body runs => ?_⟩
        · exact invariant.walks other body (earlier other body runs)
        · exact invariant.designates other body (earlier other body runs)
      · simp at step
  | respond client begin outside =>
      simp only [Steps, next] at step
      split at step
      · rename_i kind first op rest taken sent running
        obtain ⟨⟨response, state⟩, answered, rfl⟩ := Option.map_eq_some_iff.mp step
        obtain ⟨phase, ends, suits⟩ := invariant.walks client _ running
        have designates := invariant.designates client _ running
        refine Moved.invariant invariant ?_ rfl
        cases phase with
        | begun => exact moved_begun invariant ends suits answered rfl
        | checked => exact moved_checked invariant ends suits answered rfl
        | rewound =>
            refine moved_rewound invariant ends suits answered rfl fun isFirst takes => ?_
            subst takes isFirst
            exact unmoved kind (by simp [taking?, running])
        | took entry => exact moved_took invariant ends suits answered rfl designates
        | replying left => exact moved_replying invariant ends suits answered rfl designates
      · simp at step

theorem phase_of_take {phase : WalkPhase}
    (allowed : phase.allows kind handle (.state (kind.take handle))) : phase = .rewound := by
  cases phase with
  | rewound => rfl
  | begun => cases kind <;> exact absurd allowed nofun
  | checked => cases kind <;> exact absurd allowed nofun
  | took entry => cases kind <;> exact absurd allowed nofun
  | replying rest =>
      obtain ⟨bytes, impossible, _⟩ := allowed
      exact absurd impossible nofun

/-- A cursor that was moved since its reset gives another entry than the first. -/
theorem take_not_first {state : ClientState} {cursor : Int32} (moved : cursor ≠ 0)
    (listed : kind.snapshot state handle ≠ [])
    (position : (kind.iter state).lookup handle = some cursor) :
    (ClientState.advance (kind.table state) (kind.iter state) handle).1 ≠
      (kind.snapshot state handle)[0]?.map fun _ => ⟨handle, 0⟩ := by
  rw [advance_entry fun _ => position, stored_of_listed listed, Option.bind_some, cursorEntry_eq]
  intro same
  obtain ⟨entry, later, shape⟩ := List.exists_cons_of_ne_nil listed
  rw [shape, List.getElem?_cons_zero, Option.map_some, Option.map_eq_some_iff] at same
  obtain ⟨_, _, pointer⟩ := same
  exact cursorIndex_ne_zero moved (congrArg EntryPointer.index pointer)

theorem running_of_taking {client : Client} (takes : before.taking? handle client = some kind) :
    ∃ rest taken sent, before.running client =
      some ⟨kind, true, .call (.state (kind.take handle)) rest, taken, sent⟩ := by
  unfold taking? at takes
  split at takes
  · rename_i other op rest taken sent running
    split at takes
    · rename_i called
      subst called
      obtain rfl := Option.some.inj takes
      exact ⟨rest, taken, sent, running⟩
    · simp at takes
  · simp at takes

theorem unmoved_of_listsFirst [DecidableEq Client] {event : WalkEvent Client}
    (invariant : Invariant handle before) (step : Steps (next handle) before event after)
    (lists : after.ListsFirst handle) : before.Unmoved handle event := by
  cases event with
  | issue client kind first => exact trivial
  | finish client => exact trivial
  | respond client begin outside =>
      intro kind takes
      obtain ⟨rest, taken, sent, running⟩ := running_of_taking takes
      obtain ⟨phase, ends, suits⟩ := invariant.walks client _ running
      obtain rfl := phase_of_take ends.1
      have begun := suits.2.2 rfl
      by_cases listed : kind.snapshot before.state handle = []
      · exact Or.inr listed
      · left
        have stood := invariant.positioned kind listed
        dsimp only at begun ⊢
        cases known : before.fresh kind with
        | none => exact absurd known begun
        | some last =>
            cases last with
            | true => rfl
            | false =>
                rw [known] at stood
                obtain ⟨cursor, moved, position⟩ := stood
                have gets : (ClientState.advance (kind.table before.state)
                    (kind.iter before.state) handle).1 =
                      (kind.snapshot before.state handle)[0]?.map fun _ => ⟨handle, 0⟩ := by
                  simp only [Steps, next, running] at step
                  obtain ⟨⟨response, state⟩, answered, rfl⟩ := Option.map_eq_some_iff.mp step
                  have state' := congrArg Prod.snd (Option.some.inj answered)
                  dsimp only at state'
                  subst state'
                  cases kind <;>
                  · have found := congrArg Prod.fst (Option.some.inj answered)
                    have first := lists.designates client _ (Function.update_self ..) rfl
                      response rfl
                    exact found.trans first
                exact absurd gets (take_not_first moved listed position)

end Steps

theorem invariant_start {state : ClientState} (storable : ∀ kind : SnapshotKind,
    (kind.snapshot state handle).length ≤ 2 ^ 64 - 2 ^ 31) :
    Invariant handle ({ state } : Walking Client) :=
  ⟨storable, fun _ _ => trivial, fun _ _ running => absurd running nofun,
    fun _ _ running => absurd running nofun⟩

/-- Tables whose lists are no longer than a vector can be. -/
structure StoredLists (handle : CE_HANDLE) where
  state : ClientState
  storable : ∀ kind : SnapshotKind, (kind.snapshot state handle).length ≤ 2 ^ 64 - 2 ^ 31

/-- Every FIRST of a run gives the first entry exactly when each takes its entry
while the last move of the cursor is a reset. -/
theorem listsFirst_iff_unmoved [DecidableEq Client] (stored : StoredLists handle)
    {events : List (WalkEvent Client)} {walking : Walking Client}
    (run : Run (Steps (next handle)) { state := stored.state } events walking) :
    (∀ past middle, past.IsPrefix events →
        Run (Steps (next handle)) { state := stored.state } past middle →
        middle.ListsFirst handle) ↔
      Run (Restrict (Steps (next handle)) (Unmoved handle)) { state := stored.state } events
        walking :=
  run.restrict_iff (Invariant handle) (steps_deterministic (next handle))
    (invariant_start stored.storable) (fun _ _ _ holds taken => holds.step taken)
    (fun _ holds => holds.listsFirst)
    fun _ _ _ holds step lists => unmoved_of_listsFirst holds step lists

section Samples

def twoProcesses : StoredLists 1 where
  state := (ClientState.generateHandle {}).2.storeProcessSnapshot [⟨[97], 4⟩, ⟨[98], 8⟩] 1
  storable kind := by cases kind <;> decide

noncomputable def steps (client : Client) : WalkEvent Client :=
  .respond client .any fun op => (Environment.healthy.respond op ()).1

/-- A PROCESS32FIRST; `between` happens after it has reset the cursor. -/
noncomputable def listsFirst (between : List (WalkEvent Bool)) : List (WalkEvent Bool) :=
  [.issue false .processes true, steps false, steps false] ++ between ++ [steps false]

def quiet (walking : Walking Bool) : WalkEvent Bool → Bool
  | .respond client _ _ =>
      (walking.taking? 1 client).all fun kind => walking.fresh kind == some true
  | _ => true

theorem listsFirst_iff_unmoved_alone : ∃ walking : Walking Bool,
    Run (Restrict (Steps (next 1)) (Unmoved 1)) { state := twoProcesses.state } (listsFirst [])
      walking ∧
    (walking.running false).map Walker.taken = some (some (some ⟨1, 0⟩)) ∧
    walking.ListsFirst 1 := by
  have executed : ((execute (restricted (next 1) fun walking event => quiet walking event = true)
      { state := twoProcesses.state } (listsFirst [])).map fun walking =>
        (walking.running false).map Walker.taken) = some (some (some (some ⟨1, 0⟩))) := by
    rfl
  obtain ⟨walking, ran, taken⟩ := Option.map_eq_some_iff.mp executed
  have run : Run (Restrict (Steps (next 1)) (Unmoved 1)) { state := twoProcesses.state }
      (listsFirst []) walking := by
    refine (run_of_execute ran).mono fun before event after step => ?_
    obtain ⟨admitted, step⟩ := restrict_of_restricted step
    refine ⟨?_, step⟩
    cases event with
    | respond client begin outside =>
        intro kind takes
        left
        simpa [quiet, takes] using admitted
    | _ => exact trivial
  exact ⟨walking, run, taken, (listsFirst_iff_unmoved twoProcesses run.unrestrict).mpr run _ _
    List.prefix_rfl run.unrestrict⟩

/-- A NEXT of another client comes between the reset and the first entry. -/
theorem next_between_not_first :
    ¬∀ (events : List (WalkEvent Bool)) (walking : Walking Bool),
      Run (Steps (next 1)) { state := twoProcesses.state } events walking →
        walking.ListsFirst 1 := by
  intro lists
  have executed : ((execute (next 1) { state := twoProcesses.state }
      (listsFirst [.issue true .processes false, steps true, steps true])).map fun walking =>
        ((walking.running false).map fun walker => (walker.first, walker.taken))) =
          some (some (true, some (some ⟨1, 1⟩))) := by
    rfl
  obtain ⟨walking, ran, observed⟩ := Option.map_eq_some_iff.mp executed
  obtain ⟨walker, running, same⟩ := Option.map_eq_some_iff.mp observed
  obtain ⟨first, taken⟩ := Prod.mk.inj same
  have pointer := (lists _ walking (run_of_execute ran)).designates false walker running first _
    taken
  cases shape : (walker.kind.snapshot walking.state 1)[0]? with
  | none =>
      rw [shape] at pointer
      exact absurd pointer nofun
  | some entry =>
      rw [shape, Option.map_some] at pointer
      exact absurd (congrArg EntryPointer.index (Option.some.inj pointer)) (by decide)

end Samples

end Walking

end CeServer
