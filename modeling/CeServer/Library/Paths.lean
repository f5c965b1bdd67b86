import CeServer.Library.Program

/-!
Programs taken apart call by call: what is left of a program after some of its
calls were answered, and what all its answered calls together say of it.
-/

namespace Interaction.Program

variable {Op : Type} {Response : Op → Type} {Value Result : Type}

/-- Answered so, the calls lead from the first program to the second. -/
inductive Reaches : Program Op Response Value → List (Event Op Response) →
    Program Op Response Value → Prop
  | here {program : Program Op Response Value} : Reaches program [] program
  | step {op : Op} {next : Response op → Program Op Response Value}
      {trace : List (Event Op Response)} {later : Program Op Response Value}
      (response : Response op) (rest : Reaches (next response) trace later) :
      Reaches (call op next) (⟨op, response⟩ :: trace) later

/-- Answered so, these are all the calls of the program, and the value is what
it returns. -/
def Performs : Program Op Response Value → List (Event Op Response) → Value → Prop
  | ret result, trace, value => trace = [] ∧ value = result
  | call op next, trace, value =>
      ∃ response rest, trace = ⟨op, response⟩ :: rest ∧ (next response).Performs rest value

theorem Reaches.snoc {program : Program Op Response Value} {past : List (Event Op Response)}
    {op : Op} {next : Response op → Program Op Response Value}
    (reaches : program.Reaches past (call op next)) (response : Response op) :
    program.Reaches (past ++ [⟨op, response⟩]) (next response) := by
  generalize ended : call op next = later at reaches
  induction reaches with
  | here =>
      subst ended
      exact .step response .here
  | step earlier _ ih => exact .step earlier (ih ended)

theorem Reaches.performs {program : Program Op Response Value}
    {trace : List (Event Op Response)} {value : Value}
    (reaches : program.Reaches trace (ret value)) : program.Performs trace value := by
  generalize ended : (ret value : Program Op Response Value) = later at reaches
  induction reaches with
  | here =>
      subst ended
      exact ⟨rfl, rfl⟩
  | step response _ ih => exact ⟨response, _, rfl, ih ended⟩

/-- A program does not reach a call without passing the others before it. -/
theorem Reaches.passes {op target : Op} {next : Response op → Program Op Response Value}
    {rest : Response target → Program Op Response Value} {trace : List (Event Op Response)}
    (reaches : (call op next).Reaches trace (call target rest)) (apart : op ≠ target) :
    ∃ response later, trace = ⟨op, response⟩ :: later ∧
      (next response).Reaches later (call target rest) := by
  cases reaches with
  | here => exact absurd rfl apart
  | step response following => exact ⟨response, _, rfl, following⟩

section Performs

variable {trace : List (Event Op Response)} {value : Value}

@[simp] theorem performs_ret {result : Value} :
    (ret result : Program Op Response Value).Performs trace value ↔
      trace = [] ∧ value = result := Iff.rfl

@[simp] theorem performs_call {op : Op} {next : Response op → Program Op Response Value} :
    (call op next).Performs trace value ↔
      ∃ response rest, trace = ⟨op, response⟩ :: rest ∧ (next response).Performs rest value :=
  Iff.rfl

theorem performs_bind {program : Program Op Response Value}
    {rest : Value → Program Op Response Result} {result : Result} :
    (program >>= rest).Performs trace result ↔
      ∃ front back value, trace = front ++ back ∧ program.Performs front value ∧
        (rest value).Performs back result := by
  induction program generalizing trace with
  | ret value =>
      constructor
      · intro performs
        exact ⟨[], trace, value, rfl, ⟨rfl, rfl⟩, performs⟩
      · rintro ⟨front, back, value, rfl, ⟨rfl, rfl⟩, performs⟩
        exact performs
  | call op next ih =>
      rw [call_bind]
      constructor
      · rintro ⟨response, later, rfl, performs⟩
        obtain ⟨front, back, value, rfl, first, second⟩ := (ih response).mp performs
        exact ⟨⟨op, response⟩ :: front, back, value, rfl, ⟨response, front, rfl, first⟩, second⟩
      · rintro ⟨_, back, value, rfl, ⟨response, front, rfl, first⟩, second⟩
        exact ⟨response, front ++ back, rfl,
          (ih response).mpr ⟨front, back, value, rfl, first, second⟩⟩

theorem Uses.performs {allowed : Op → Prop} {program : Program Op Response Value}
    (uses : program.Uses allowed) (performs : program.Performs trace value) :
    ∀ event ∈ trace, allowed event.op := by
  induction program generalizing trace with
  | ret result =>
      rw [performs.1]
      exact nofun
  | call op next ih =>
      obtain ⟨response, rest, rfl, later⟩ := performs
      intro event member
      rcases List.mem_cons.mp member with rfl | behind
      · exact uses.1
      · exact ih response (uses.2 response) later event behind

theorem Uses.reaches {allowed : Op → Prop} {program later : Program Op Response Value}
    (uses : program.Uses allowed) (reaches : program.Reaches trace later) : later.Uses allowed := by
  induction reaches with
  | here => exact uses
  | step response _ ih => exact ih (uses.2 response)

theorem Emits.performs {Symbol : Type} {output : Op → List Symbol} {symbols : List Symbol}
    {program : Program Op Response Value} (emits : program.Emits output symbols)
    (performs : program.Performs trace value) :
    (trace.flatMap fun event => output event.op) = symbols := by
  induction program generalizing trace symbols with
  | ret result =>
      rw [performs.1]
      exact (show symbols = [] from emits).symm
  | call op next ih =>
      obtain ⟨response, rest, rfl, later⟩ := performs
      obtain ⟨remaining, rfl, following⟩ := emits
      rw [List.flatMap_cons, ih response (following response) later]

end Performs

/-- Every call the program can make, on admitted responses, is allowed. -/
def UsesGiven (admits : (op : Op) → Response op → Prop) (allowed : Op → Prop) :
    Program Op Response Value → Prop
  | ret _ => True
  | call op next => allowed op ∧
      ∀ response, admits op response → (next response).UsesGiven admits allowed

end Interaction.Program
