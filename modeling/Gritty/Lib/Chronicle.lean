import Mathlib.Tactic
import Mathlib.Data.List.Basic

/-! What has happened, newest first, and what holds of each entry with what came before it. -/

namespace Gritty

universe u

variable {Entry : Type u}

/-- Every entry fits what had happened before it. -/
def EachFits (fits : Entry → List Entry → Prop) : List Entry → Prop
  | [] => True
  | entry :: earlier => fits entry earlier ∧ EachFits fits earlier

@[simp] theorem eachFits_nil (fits : Entry → List Entry → Prop) : EachFits fits [] := trivial

@[simp] theorem eachFits_cons {fits : Entry → List Entry → Prop} {entry : Entry}
    {earlier : List Entry} :
    EachFits fits (entry :: earlier) ↔ fits entry earlier ∧ EachFits fits earlier := Iff.rfl

end Gritty
