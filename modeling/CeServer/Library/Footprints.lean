import CeServer.Library.Paths

/-!
Footprints: the calls a program makes on the responses that are admitted, and the
calls it goes on after in the same way whatever they answer.
-/

namespace Interaction

variable {Op : Type} {Response : Op → Type} {Value Result : Type}

structure Footprint (Op : Type) (Response : Op → Type) where
  admits : (op : Op) → Response op → Prop
  allows : Op → Prop
  ignores : Op → Prop

/-- The footprint that only restricts the calls. -/
def Footprint.within (allowed : Op → Prop) : Footprint Op Response :=
  ⟨fun _ _ => True, allowed, fun _ => False⟩

namespace Program

def Stays (footprint : Footprint Op Response) : Program Op Response Value → Prop
  | ret _ => True
  | call op next => footprint.allows op ∧
      (footprint.ignores op → ∀ first second, next first = next second) ∧
      ∀ response, footprint.admits op response → (next response).Stays footprint

section Stays

variable {footprint : Footprint Op Response}

theorem stays_ite {condition : Prop} [Decidable condition]
    {first second : Program Op Response Value}
    (yes : condition → first.Stays footprint) (no : ¬condition → second.Stays footprint) :
    (if condition then first else second).Stays footprint := by
  split
  · rename_i holds
    exact yes holds
  · rename_i fails
    exact no fails

theorem Stays.bind {program : Program Op Response Value} {rest : Value → Program Op Response Result}
    (first : program.Stays footprint) (second : ∀ value, (rest value).Stays footprint) :
    (program >>= rest).Stays footprint := by
  induction program with
  | ret value => exact second value
  | call op next ih =>
      refine ⟨first.1, fun ignored one two => ?_, fun response admitted =>
        ih response (first.2.2 response admitted)⟩
      exact congrArg (· >>= rest) (first.2.1 ignored one two)

theorem Stays.forM {Item : Type} {body : Item → Program Op Response PUnit} {items : List Item}
    (each : ∀ item ∈ items, (body item).Stays footprint) : (items.forM body).Stays footprint := by
  induction items with
  | nil => exact trivial
  | cons item rest ih =>
      change (body item >>= fun _ => rest.forM body).Stays footprint
      exact (each item List.mem_cons_self).bind fun _ => ih fun later member =>
        each later (List.mem_cons_of_mem item member)

theorem Stays.given {program : Program Op Response Value} (stays : program.Stays footprint) :
    program.UsesGiven footprint.admits footprint.allows := by
  induction program with
  | ret value => exact trivial
  | call op next ih =>
      exact ⟨stays.1, fun response admitted => ih response (stays.2.2 response admitted)⟩

theorem Stays.uses {allowed : Op → Prop} {program : Program Op Response Value}
    (stays : program.Stays (.within allowed)) : program.Uses allowed := by
  induction program with
  | ret value => exact trivial
  | call op next ih => exact ⟨stays.1, fun response => ih response (stays.2.2 response trivial)⟩

theorem Stays.ignores {program : Program Op Response Value} (stays : program.Stays footprint)
    (admitted : ∀ op response, footprint.admits op response) :
    program.Ignores footprint.ignores := by
  induction program with
  | ret value => exact trivial
  | call op next ih =>
      exact ⟨stays.2.1, fun response => ih response (stays.2.2 response (admitted op response))⟩

end Stays

end Program

end Interaction
