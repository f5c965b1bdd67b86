import CeServer.Library.Transition
import CeServer.Footprint

/-!
Connections that share the handle tables. A handler checks its handle under one
acquisition of the mutex and looks its process ID up under another one.
-/

namespace CeServer

open LittleEndian Interaction Transition

def Op.target? : Op → Option Int32
  | .memoryRead processID _ _ | .memoryWrite processID _ _ | .getModuleSnapshot processID
  | .getMemoryModel processID => some processID
  | _ => none

inductive CheckPhase
  | unchecked
  | checked (handle : CE_HANDLE)
  | resolved (handle : CE_HANDLE) (processID : Int32)

namespace CheckPhase

def allows : CheckPhase → Op → Prop
  | unchecked, _ => True
  | checked handle, .state (.getProcessID other) => other = handle
  | checked _, .state (.containsProcessIDHandle _) => False
  | checked _, op => op.target? = none
  | resolved _ _, .state (.containsProcessIDHandle _) => False
  | resolved _ processID, op => ∀ target, op.target? = some target → target = processID

def after : CheckPhase → (op : Op) → op.Response → CheckPhase
  | unchecked, .state (.containsProcessIDHandle handle), true => checked handle
  | checked handle, .state (.getProcessID _), processID => resolved handle processID
  | phase, _, _ => phase

end CheckPhase

/-- Check a handle, look its process ID up, act on that process only. -/
def checkProtocol : Protocol Op Op.Response where
  Phase := CheckPhase
  allows := CheckPhase.allows
  after := CheckPhase.after

def Op.Unchecking (op : Op) : Prop := ∀ handle, op ≠ .state (.containsProcessIDHandle handle)

theorem neutral_of_unchecking {op : Op} (unchecking : op.Unchecking) :
    checkProtocol.Neutral .unchecked op := by
  refine ⟨trivial, fun response => ?_⟩
  cases op with
  | state op =>
      cases op with
      | containsProcessIDHandle handle => exact absurd rfl (unchecking handle)
      | _ => rfl
  | _ => rfl

section Follows

variable {Value : Type}

theorem follows_ite {phase : CheckPhase} {condition : Prop} [Decidable condition]
    {first second : Handler Value} (yes : condition → checkProtocol.Follows phase first)
    (no : ¬condition → checkProtocol.Follows phase second) :
    checkProtocol.Follows phase (if condition then first else second) := by
  split
  · rename_i holds
    exact yes holds
  · rename_i fails
    exact no fails

theorem follows_of_unchecking {handler : Handler Value} (uses : handler.Uses Op.Unchecking) :
    checkProtocol.Follows .unchecked handler :=
  Protocol.follows_of_neutral (uses.mono fun _ => neutral_of_unchecking)

theorem follows_read {T : Type} [Word T] {rest : T → Handler Value}
    (each : ∀ value, checkProtocol.Follows .unchecked (rest value)) :
    checkProtocol.Follows .unchecked (read T >>= rest) := by
  refine Protocol.Ends.bind ?_ each
  exact ⟨neutral_of_unchecking (fun _ => nofun), fun _ => trivial⟩

theorem follows_sendBytes {phase : CheckPhase} {rest : Unit → Handler Value} (bytes : List UInt8)
    (each : checkProtocol.Follows phase (rest ())) :
    checkProtocol.Follows phase (sendBytes bytes >>= rest) := by
  refine Protocol.Ends.bind ⟨?_, fun _ => trivial⟩ fun _ => each
  cases phase with
  | unchecked => exact ⟨trivial, fun _ => rfl⟩
  | checked handle => exact ⟨rfl, fun _ => rfl⟩
  | resolved handle processID =>
      exact ⟨by simp [CheckPhase.allows, checkProtocol, Op.target?], fun _ => rfl⟩

theorem follows_check {handle : CE_HANDLE} {body : Handler Bool}
    (follows : checkProtocol.Follows (.checked handle) body) :
    checkProtocol.Follows .unchecked (do
      if !(← invoke (.state (.containsProcessIDHandle handle))) then
        return false
      else
        body) := by
  refine ⟨trivial, fun present => ?_⟩
  cases present with
  | false => exact trivial
  | true => exact follows

theorem follows_lookup {handle : CE_HANDLE} {rest : Int32 → Handler Value}
    (each : ∀ processID, checkProtocol.Follows (.resolved handle processID) (rest processID)) :
    checkProtocol.Follows (.checked handle)
      (invoke (.state (.getProcessID handle)) >>= rest) :=
  ⟨rfl, each⟩

theorem follows_target {handle : CE_HANDLE} {processID : Int32} {op : Op}
    {rest : op.Response → Handler Value} (target : op.target? = some processID)
    (each : ∀ response, checkProtocol.Follows (.resolved handle processID) (rest response)) :
    checkProtocol.Follows (.resolved handle processID) (invoke op >>= rest) := by
  refine ⟨?_, each⟩
  cases op <;> first
    | (simp [Op.target?] at target; done)
    | (intro found same; rw [target] at same; exact (Option.some.inj same).symm)

theorem readProcessMemory_follows (handle : CE_HANDLE) (address : UInt64) (size : UInt32)
    (compress : UInt8) :
    checkProtocol.Follows .unchecked (Client.readProcessMemory handle address size compress) := by
  refine follows_ite (fun _ => trivial) fun _ => follows_check ?_
  refine follows_ite (fun _ => follows_sendBytes _ trivial) fun _ => ?_
  refine follows_ite (fun _ => follows_sendBytes _ trivial) fun _ => ⟨rfl, fun contents => ?_⟩
  refine follows_lookup fun processID => follows_target rfl fun result => ?_
  refine follows_ite (fun _ => follows_sendBytes _ trivial) fun _ => ?_
  exact follows_sendBytes _ (follows_sendBytes _ trivial)

theorem writeProcessMemory_follows (handle : CE_HANDLE) (address : UInt64) (size : Int32)
    (buffer : List UInt8) :
    checkProtocol.Follows .unchecked (Client.writeProcessMemory handle address size buffer) := by
  refine follows_check (follows_lookup fun processID => follows_target rfl fun written => ?_)
  exact follows_ite (fun _ => follows_sendBytes _ trivial) fun _ => follows_sendBytes _ trivial

theorem regionInfo_follows (named : Bool) (handle : CE_HANDLE) (address : UInt64) :
    checkProtocol.Follows .unchecked (Client.regionInfo named handle address) := by
  refine follows_check (follows_ite (fun _ => follows_sendBytes _ trivial) fun _ => ?_)
  refine follows_lookup fun processID => follows_target rfl fun regions => ?_
  refine follows_sendBytes _ ?_
  cases named with
  | false => exact trivial
  | true =>
      refine follows_sendBytes _ (follows_ite (fun _ => ?_) fun _ => trivial)
      exact follows_sendBytes _ trivial

theorem virtualQueryExFull_follows (handle : CE_HANDLE) (flags : UInt8) :
    checkProtocol.Follows .unchecked (Client.virtualQueryExFull handle flags) := by
  refine follows_check (follows_lookup fun processID => follows_target rfl fun regions => ?_)
  refine follows_sendBytes _ (Protocol.Ends.bind ?_ fun _ => trivial)
  refine Program.Uses.forM fun region _ => ⟨⟨?_, fun _ => rfl⟩, fun _ => trivial⟩
  simp [CheckPhase.allows, checkProtocol, Op.target?]

theorem getArchitecture_follows (handle : CE_HANDLE) :
    checkProtocol.Follows .unchecked (Client.getArchitecture handle) := by
  refine follows_check (follows_lookup fun processID => follows_target rfl fun model => ?_)
  exact follows_sendBytes _ trivial

/-- The commands that work on the process a handle stands for. -/
def Command.checks (command : Command) : Bool :=
  (Op.state (.containsProcessIDHandle 0)).madeBy command

theorem unchecking_of_madeBy {op : Op} {command : Command} (made : op.madeBy command)
    (other : command.checks = false) : op.Unchecking := by
  rintro handle rfl
  exact Bool.false_ne_true (other.symm.trans made)

theorem unchecking_of_polls {op : Op} (polls : op.polls) : op.Unchecking := by
  rintro handle rfl
  cases polls

theorem handle_unchecking {command : Command} (other : command.checks = false) :
    (Client.handle command).Uses Op.Unchecking :=
  (Client.handle_stays (coversAll_within (fun _ made => unchecking_of_madeBy made other)
    (fun _ _ => by simp) (fun _ _ _ => by simp) fun _ _ => unchecking_of_polls)).uses

/-- Every handler checks a handle before it looks it up, and acts on no other
process than the one it found. -/
theorem handle_follows (command : Command) :
    checkProtocol.Follows .unchecked (Client.handle command) := by
  cases command with
  | virtualQueryEx | getRegionInfo =>
      exact follows_read fun handle => follows_read fun address =>
        regionInfo_follows _ handle address
  | virtualQueryExFull =>
      exact follows_read fun handle => follows_read fun flags =>
        virtualQueryExFull_follows handle flags
  | readProcessMemory =>
      exact follows_read fun handle => follows_read fun address => follows_read fun size =>
        follows_read fun compress => readProcessMemory_follows handle address size compress
  | writeProcessMemory =>
      refine follows_read fun handle => follows_read fun address => follows_read fun size => ?_
      refine ⟨trivial, fun contents => ⟨trivial, fun result => ?_⟩⟩
      exact writeProcessMemory_follows handle address size _
  | getArchitecture =>
      have selects : Client.selectHandle.Uses Op.Unchecking :=
        (Client.selectHandle_stays (fun _ => unchecking_of_polls) fun _ => False.elim).uses
      exact Protocol.Ends.bind (selects.mono fun _ => neutral_of_unchecking)
        getArchitecture_follows
  | _ => exact follows_of_unchecking (handle_unchecking rfl)

theorem dispatchCommand_follows (command : UInt8) :
    checkProtocol.Follows .unchecked (Client.dispatchCommand command) := by
  unfold Client.dispatchCommand
  cases Command.ofCode command with
  | none => exact trivial
  | some command => exact handle_follows command

end Follows

end CeServer
