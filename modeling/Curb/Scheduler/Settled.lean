import Curb.Scheduler.Driver

/-!
# Where `perform` returns

Where nothing holds up a completion before its handle is let go, no handle is attached any more when the driver's
`perform` returns, so that closing the multi then changes nothing.
-/

namespace Curb.Scheduler
open Curb.Misc Curb.Ruby
open Curb.Perform (RubyException Outcome Mode Point Completion Transfer Tables)

variable {stopIteration : ObjectId → Bool} {state after : State} {easy : ObjectId} {waiter : Waiter}
  {multi multi' : Perform.State}

/-- What is attached is counted among the running transfers and the messages. -/
structure Settled (multi : Perform.State) : Prop where
  tables : Tables multi
  block : ∀ mode final, multi.point = .block mode final → multi.messages = []
  returned : multi.point = .ended .returned → multi.attached = []

end Curb.Scheduler
