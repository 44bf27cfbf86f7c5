import FleetDeploy.Program

/-!
# Faults in the way of a collaborator

Faults that are not a matter of one service are put in front of the collaborators: a handler that
answers as another one does, except where the fault strikes.
-/

namespace FleetDeploy.Handler

variable {σ : Type}

/-- Answers as `h` does, but fails status queries once a number of them has been answered. The
queries that may still be answered are counted beside the state. -/
def failingStatus (h : Handler σ) (e : DeployError) : Handler (σ × Nat)
  | .executionStatus kind reference, (state, left) =>
    match left with
    | 0 => (.answered (.error e), (state, 0))
    | left + 1 =>
      let (reply, state) := h (.executionStatus kind reference) state
      (reply, (state, left))
  | c, (state, left) =>
    let (reply, state) := h c state
    (reply, (state, left))

end FleetDeploy.Handler
