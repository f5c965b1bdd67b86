import CeServer.Framing
import CeServer.ReplyFormats

/-!
The fields of the requests a client has sent, as the handlers of its connection
receive them: what arrives on a stream of requests is cut into their fields.
-/

namespace CeServer

open LittleEndian Interaction Program Formats Assembly

namespace Request

def fields : Request → List (List UInt8)
  | getVersion | closeConnection | terminateServer | getABI | getOptions => []
  | openProcess pid => [Word.toBytes pid]
  | createToolhelp32Snapshot flags procId | createToolhelp32SnapshotEx flags procId =>
      [Word.toBytes flags, Word.toBytes procId]
  | process32First handle | process32Next handle | closeHandle handle | startDebug handle
  | getArchitecture handle | module32First handle | module32Next handle => [Word.toBytes handle]
  | virtualQueryEx handle address | getRegionInfo handle address =>
      [Word.toBytes handle, Word.toBytes address]
  | readProcessMemory handle address size compress =>
      [Word.toBytes handle, Word.toBytes address, Word.toBytes size, Word.toBytes compress]
  | writeProcessMemory handle address contents =>
      [Word.toBytes handle, Word.toBytes address,
        Word.toBytes (Int32.ofNat contents.val.length), contents.val]
  | getSymbolListFromFile symbolPath =>
      [Word.toBytes (Int32.ofNat symbolPath.val.length), symbolPath.val]
  | virtualQueryExFull handle flags => [Word.toBytes handle, Word.toBytes flags]
  | setConnectionName name => [Word.toBytes (UInt32.ofNat name.val.length), name.val]

theorem flatten_fields (request : Request) : request.fields.flatten = request.payload := by
  cases request <;> simp [fields, payload]

/-- How the client that has sent the request reads the reply. -/
def format (request : Request) : Format UInt8 := replyFormat request.command request.fields

end Request

/-- The receives of a handler, where they are whole: these fields one after the other. -/
def Takes {Value : Type} : Handler Value → List (List UInt8) → Prop
  | .ret _, fields => fields = []
  | .call (.recv size) next, fields => ∃ field later, fields = field :: later ∧
      field.length = size ∧ ∀ count, Takes (next (count, field)) later
  | .call _ next, fields => ∀ response, Takes (next response) fields

/-- Every receive has got all the bytes it asked for. -/
def Filled (trace : List (Event Op Op.Response)) : Prop :=
  ∀ size arrived, ⟨.recv size, arrived⟩ ∈ trace → arrived.2.length = size

theorem Filled.tail {event : Event Op Op.Response} {trace : List (Event Op Op.Response)}
    (filled : Filled (event :: trace)) : Filled trace :=
  fun size arrived member => filled size arrived (List.mem_cons_of_mem _ member)

section Takes

variable {Value Result : Type} {value : Value} {handler : Handler Value}
  {fields : List (List UInt8)} {trace : List (Event Op Op.Response)} {more rest : List UInt8}

/-- On a stream that begins with its fields a handler receives these, and nothing more. -/
theorem Takes.arrivals_eq (takes : Takes handler fields) (performs : handler.Performs trace value)
    (filled : Filled trace) (stream : (arrivals trace).flatten ++ more = fields.flatten ++ rest) :
    arrivals trace = fields ∧ more = rest := by
  induction handler generalizing fields trace with
  | ret result =>
      obtain ⟨rfl, -⟩ := performs
      obtain rfl : fields = [] := takes
      exact ⟨rfl, stream⟩
  | call op next ih =>
      obtain ⟨response, later, rfl, following⟩ := performs
      cases op with
      | recv size =>
          obtain ⟨count, arrived⟩ := response
          obtain ⟨field, others, rfl, width, further⟩ := takes
          have whole : arrived.length = size := filled size (count, arrived) List.mem_cons_self
          have split : arrived ++ ((arrivals later).flatten ++ more) =
              field ++ (others.flatten ++ rest) := by
            simpa [arrivals] using stream
          obtain ⟨rfl, behind⟩ := List.append_inj split (whole.trans width.symm)
          obtain ⟨same, left⟩ := ih (count, arrived) (further count) following filled.tail behind
          exact ⟨congrArg (arrived :: ·) same, left⟩
      | _ =>
          have rest := ih response (takes response) following filled.tail stream
          exact rest

theorem takes_none {handler : Handler Value} (stays : handler.Stays (.within Op.Serves)) :
    Takes handler [] := by
  induction handler with
  | ret result => rfl
  | call op next ih =>
      have each (response : op.Response) : Takes (next response) [] :=
        ih response (stays.2.2 response trivial)
      cases op with
      | recv size => exact absurd stays.1 id
      | _ => exact each

theorem Takes.bind {later : Value → Handler Result} (takes : Takes handler fields)
    (each : ∀ value, Takes (later value) []) : Takes (handler >>= later) fields := by
  induction handler generalizing fields with
  | ret result =>
      obtain rfl : fields = [] := takes
      exact each result
  | call op next ih =>
      cases op with
      | recv size =>
          obtain ⟨field, others, rfl, width, further⟩ := takes
          exact ⟨field, others, rfl, width, fun count => ih (count, field) (further count)⟩
      | _ => exact fun response => ih response (takes response)

theorem takes_keepOpen {handler : Handler Unit} (takes : Takes handler fields) :
    Takes (Client.keepOpen handler) fields :=
  takes.bind fun _ => rfl

theorem takes_read {T : Type} [Word T] {field : T} {later : T → Handler Value}
    (takes : Takes (later field) fields) :
    Takes (read T >>= later) (Word.toBytes field :: fields) := by
  refine ⟨Word.toBytes field, fields, rfl, Word.length_toBytes field, fun count => ?_⟩
  change Takes (later (Word.ofBytes (Word.toBytes field))) fields
  rwa [Word.ofBytes_toBytes]

/-- An array and the bytes received into it. -/
theorem takes_body {size : Int} {count : Nat} {body : List UInt8}
    {later : List UInt8 → Handler Value}
    (sized : body.length = count) (each : ∀ buffer, Takes (later buffer) []) :
    Takes (invoke (.newCharArray size) >>= fun array => readBuffer array count >>= later) [body] :=
  fun _ => ⟨body, [], rfl, sized, fun _ => each _⟩

end Takes

open Client in
theorem Request.takes (request : Request) (framed : request.Framed) :
    Takes (handle request.command) request.fields := by
  have covers (command : Command) : Covers (.within Op.Serves) command :=
    covers_within fun _ => serves_of_madeBy
  have sends (bytes : List UInt8) : (Op.send bytes).Serves := trivial
  cases request with
  | getVersion =>
      refine takes_keepOpen (takes_none ?_)
      exact (sendBytes_stays sends _).bind fun _ => sendBytes_stays sends _
  | closeConnection | terminateServer => rfl
  | getABI | getOptions => exact takes_keepOpen (takes_none (send_stays sends _))
  | getArchitecture handle => exact absurd rfl framed
  | openProcess pid =>
      exact takes_keepOpen (takes_read (takes_none (openProcess_stays (covers _) pid)))
  | createToolhelp32Snapshot flags procId =>
      exact takes_keepOpen (takes_read (takes_read
        (takes_none (toolHelp32Snapshot_stays (covers _) flags procId))))
  | createToolhelp32SnapshotEx flags procId =>
      exact takes_keepOpen (takes_read (takes_read
        (takes_none (toolHelp32SnapshotEx_stays (covers _) flags procId))))
  | process32First handle | process32Next handle =>
      exact takes_keepOpen (takes_read
        (takes_none (iterateProcessesNext_stays _ (covers _) handle)))
  | module32First handle | module32Next handle =>
      exact takes_keepOpen (takes_read
        (takes_none (iterateModulesNext_stays _ (covers _) handle)))
  | closeHandle handle =>
      exact takes_keepOpen (takes_read (takes_none (closeHandle_stays (covers _) handle)))
  | startDebug handle =>
      exact takes_keepOpen (takes_read (takes_none (send_stays sends handle)))
  | virtualQueryEx handle address | getRegionInfo handle address =>
      exact takes_read (takes_read
        (takes_none (regionInfo_stays _ (covers _) handle address)))
  | virtualQueryExFull handle flags =>
      exact takes_read (takes_read
        (takes_none (virtualQueryExFull_stays (covers _) handle flags)))
  | readProcessMemory handle address size compress =>
      exact takes_read (takes_read (takes_read (takes_read
        (takes_none (readProcessMemory_stays (covers _) handle address size compress)))))
  | writeProcessMemory handle address contents =>
      have length : (Int32.ofNat contents.val.length).toInt.toNat = contents.val.length :=
        congrArg Int.toNat (Int32.toInt_ofNat_of_lt contents.property)
      refine takes_read (takes_read (takes_read (takes_body length.symm fun buffer => ?_)))
      exact takes_none (writeProcessMemory_stays (covers _) handle address _ buffer)
  | getSymbolListFromFile symbolPath =>
      have length : (Int32.ofNat symbolPath.val.length).toInt.toNat = symbolPath.val.length :=
        congrArg Int.toNat (Int32.toInt_ofNat_of_lt symbolPath.property)
      refine takes_keepOpen (takes_read (takes_body length.symm fun buffer => ?_))
      exact takes_none (send_stays sends _)
  | setConnectionName name =>
      have length : (UInt32.ofNat name.val.length).toNat = name.val.length :=
        UInt32.toNat_ofNat_of_lt (Nat.lt_trans name.property (by decide))
      refine takes_keepOpen (takes_read (takes_body length.symm fun buffer => ?_))
      exact takes_none ((covers .setConnectionName).call rfl trivial rfl fun _ _ => trivial)

namespace FinishedCommand

variable {Connection : Type}

/-- What the connection has received for the command. -/
def received (command : FinishedCommand Connection) : List UInt8 :=
  command.command :: (arrivals command.trace).flatten

/-- How the client reads the reply, by the fields that arrived. -/
def format (command : FinishedCommand Connection) : Format UInt8 :=
  match Command.ofCode command.command with
  | some known => replyFormat known (arrivals command.trace)
  | none => fixed 0

/-- Commands that were served from a stream of requests are these requests. -/
theorem formats_of_received {commands : List (FinishedCommand Connection)}
    (performs : ∀ command ∈ commands,
      (Client.dispatchCommand command.command).Performs command.trace command.keepSocketOpen)
    (filled : ∀ command ∈ commands, Filled command.trace) {requests : List Request}
    (framed : ∀ request ∈ requests, request.Framed) {more : List UInt8}
    (stream : commands.flatMap received ++ more = Request.encodeAll requests) :
    ∃ later, more = Request.encodeAll later ∧ requests = requests.take commands.length ++ later ∧
      commands.map FinishedCommand.command =
        (requests.take commands.length).map (fun request => request.command.code) ∧
      commands.map format = (requests.take commands.length).map Request.format := by
  induction commands generalizing requests with
  | nil => exact ⟨requests, stream, rfl, rfl, rfl⟩
  | cons command commands ih =>
      cases requests with
      | nil => simp [received, Request.encodeAll] at stream
      | cons request requests =>
          have split : command.command = request.command.code ∧
              (arrivals command.trace).flatten ++ (commands.flatMap received ++ more) =
                request.fields.flatten ++ Request.encodeAll requests := by
            simpa [received, Request.encodeAll, Request.encode, Request.flatten_fields]
              using stream
          obtain ⟨code, behind⟩ := split
          have served := performs_command code (performs command List.mem_cons_self)
          obtain ⟨same, left⟩ := (request.takes (framed request List.mem_cons_self)).arrivals_eq
            served (filled command List.mem_cons_self) behind
          obtain ⟨later, unread, parts, codes, formats⟩ :=
            ih (fun other member => performs other (List.mem_cons_of_mem _ member))
              (fun other member => filled other (List.mem_cons_of_mem _ member))
              (fun other member => framed other (List.mem_cons_of_mem _ member)) left
          have own : command.format = request.format := by
            rw [format, code, Command.ofCode_code, same]
            rfl
          refine ⟨later, unread, congrArg (request :: ·) parts, ?_, ?_⟩
          · exact congrArg₂ List.cons code codes
          · exact congrArg₂ List.cons own formats

end FinishedCommand

end CeServer
