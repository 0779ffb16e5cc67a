/-! Traces in which every event is allowed by what came before it. -/

namespace Interleaving

variable {Event : Type}

def Lawful (allowed : List Event → Event → Prop) (trace : List Event) : Prop :=
  ∀ before event after, trace = before ++ event :: after → allowed before event

variable {allowed : List Event → Event → Prop} {trace : List Event} {event : Event}

theorem lawful_nil : Lawful allowed [] := by
  intro before event after split
  simp at split

theorem Lawful.snoc (lawful : Lawful allowed trace) (next : allowed trace event) :
    Lawful allowed (trace ++ [event]) := by
  intro before found after split
  rcases List.eq_nil_or_concat after with rfl | ⟨rest, last, rfl⟩
  · obtain ⟨rfl, same⟩ := List.append_inj' split rfl
    obtain rfl : event = found := by simpa using same
    exact next
  · have shorter : trace ++ [event] = (before ++ found :: rest) ++ [last] := by
      simpa using split
    exact lawful before found rest (List.append_inj' shorter rfl).1

end Interleaving
