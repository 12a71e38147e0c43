import Curb.Multi.HttpOverrides
import Curb.Multi.HttpTerminates

/-!
# The requests of `Multi.http`

A handle is used again as it is, so the next configuration is merged into what the handle has been left with. What a
configuration does not name is that of an earlier one: a request without a method is sent as the `POST` before it.
-/

namespace Curb.Http
open Curb.Misc Curb.Ruby Curb.Easy
open Curb.Perform (Mode Point Transfer)

variable {state after : State} {urls : List Config} {maxConnects : Nat}

/-- The next configuration overrides what its handle has been left with. -/
def State.Recycles (state : State) : Prop :=
  ∀ easy config, state.freeHandles.getLast? = some easy → state.urlsWithConfig.getLast? = some config →
    config.Overrides (state.easies easy)

def StepOk (state : State) : Event → Prop
  | .block => state.Recycles
  | .performed => state.Recycles
  | _ => True

/-- Nothing but URLs, and handles that have been given nothing else. -/
structure Blank (urls : List Config) (state : State) : Prop where
  urls : ∀ config ∈ urls, ∃ url, config = .ofUrl url
  easies : ∀ easy, (state.easies easy).Blank

end Curb.Http
