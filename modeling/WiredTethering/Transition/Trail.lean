import WiredTethering.Transition.Core

/-!
# Values on their way

A label brings values in, they wait in the state, and a step may drop some of them.
What waits in a state, with what the labels to come bring, is a trail: each step leaves
a sublist of it, so the trail keeps every order that it had at the start.
-/

namespace WiredTethering.Transition

universe u v w x

variable {σ : Type u} {α : Type v} {β : Type w} {ι : Type x}

end WiredTethering.Transition
