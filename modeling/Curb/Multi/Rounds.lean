import Curb.Multi.Readiness

/-!
# A round of the socket-action loop

A round looks the tracked descriptors up, waits in one of several ways, and tells libcurl of those it finds
ready (`ext/curb_multi.c:1560-1866`). While it waits other fibers and threads run, and the tables change: the
calls it makes are for the descriptors it has looked up before the wait and finds again after it.
-/

namespace Curb.SocketTables
open Curb.Misc

/-! ## Every way to wait -/

/-- The bits `RB_WAITFD_*`. -/
structure WaitEvents where
  waitfdIn : Bool
  waitfdPri : Bool
  waitfdOut : Bool
  deriving DecidableEq, Repr

/-- `multi_socket_wait_events_for_curl_poll` (`curb_multi.c:1312-1317`). -/
def multiSocketWaitEventsForCurlPoll (what : CurlPoll) : WaitEvents :=
  if what = .pollIn then ⟨true, false, false⟩
  else if what = .pollOut then ⟨false, false, true⟩
  else ⟨true, false, true⟩

/-- `multi_socket_cselect_flags_for_curl_poll` (`curb_multi.c:1319-1327`). -/
def multiSocketCselectFlagsForCurlPoll (what : CurlPoll) : CselectFlags :=
  let flags : CselectFlags :=
    ⟨what = .pollIn ∨ what = .pollInout, what = .pollOut ∨ what = .pollInout, false⟩
  if flags = .zero then ⟨true, true, false⟩ else flags

/-- `multi_socket_cselect_flags_for_wait_events` (`curb_multi.c:1329-1339`). -/
def multiSocketCselectFlagsForWaitEvents (events : WaitEvents) : CselectFlags :=
  ⟨events.waitfdIn, events.waitfdOut, events.waitfdPri⟩

/-- What the `io_wait` hook of a scheduler answers. -/
inductive IoWaitAnswer where
  /-- `false` or `nil`. -/
  | falsy
  | integer (events : WaitEvents)
  /-- `true`, or an object that is no `Integer`. -/
  | truthy
  deriving DecidableEq, Repr

/-- How a round waits, and what it is answered where the answer is not what `select` finds. -/
inductive Way where
  | select
  | ioSelect (valid : Int → Bool) (opens : Int → Option Nat)
  | ioWait (answer : IoWaitAnswer)
  | waitForSingleFd

/-- What is ready of what a wait for a single descriptor asks for. -/
def Readiness.events (ready : Readiness) (fd : Int) (asked : WaitEvents) : WaitEvents :=
  ⟨asked.waitfdIn && ready.readable fd, asked.waitfdPri && ready.exceptional fd,
    asked.waitfdOut && ready.writable fd⟩

/-- The flags that a wait for a single descriptor finds, or `none` where nothing is ready
(`curb_multi.c:1746-1838`). -/
def readyFlags (ready : Readiness) (fd : Int) (what : CurlPoll) : Way → Option CselectFlags
  | .ioWait .falsy => none
  | .ioWait .truthy => some (multiSocketCselectFlagsForCurlPoll what)
  | .ioWait (.integer events) =>
      if multiSocketCselectFlagsForWaitEvents events = .zero then none
      else some (multiSocketCselectFlagsForWaitEvents events)
  | .waitForSingleFd =>
      let rc := ready.events fd (multiSocketWaitEventsForCurlPoll what)
      if rc = ⟨false, false, false⟩ then none else some (multiSocketCselectFlagsForWaitEvents rc)
  | .select | .ioSelect .. =>
      let flags : CselectFlags := ⟨decide (what = .pollIn ∨ what = .pollInout) && ready.readable fd,
        decide (what = .pollOut ∨ what = .pollInout) && ready.writable fd, ready.exceptional fd⟩
      if flags = .zero then none else some flags

/-! ## A round -/

/-- The tables with which the wait begins. The arrays of `io_select` may have made objects, and before a
`select` a scheduler without `io_select` has been asked to wait for one of several descriptors by `io_wait`
(`curb_multi.c:1683-1703`); `hooked` are the tables after that. -/
def waitTables (ctx hooked : MultiSocketCtx) : Way → MultiSocketCtx
  | .ioSelect valid opens =>
      (buildIoSelectArrays valid opens ctx.sockMap.entries ⟨ctx, [], [], [], false⟩).ctx
  | .ioWait _ => if countTracked ctx = 1 then ctx else hooked
  | .select | .waitForSingleFd => ctx

/-- The calls of `curl_multi_socket_action` that a round makes for descriptors (`curb_multi.c:1597-1866`),
where none of them is invalid, the wait is not interrupted and no call fails. `ctx` are the tables as the round
looks them up, `after` those at the end of the wait. It makes the calls one after the other: libcurl may
remove a descriptor in one of them that a later one is for. -/
def roundActions (ctx hooked after : MultiSocketCtx) (ready : Readiness) (way : Way) (timerDue : Bool) :
    List ReadyFd :=
  if countTracked ctx = 1 then
    (stPickOne ctx).elim [] fun entry => ((readyFlags ready entry.1 entry.2 way).map fun flags =>
      ⟨entry.1, if flags = .zero then multiSocketCselectFlagsForCurlPoll entry.2 else flags⟩).toList
  else match way with
    | .ioSelect valid opens => (waitByIoSelectUntil (buildIoSelectArrays valid opens ctx.sockMap.entries
        ⟨ctx, [], [], [], false⟩) after ready timerDue).actions
    | _ => (waitBySelectUntil (countTracked ctx) (waitTables ctx hooked way) after ready timerDue).actions

/-- The hook tells what is ready of what it is asked for. -/
def IoWaitAnswer.Truthful (ready : Readiness) (fd : Int) (what : CurlPoll) : IoWaitAnswer → Prop
  | .falsy => ready.events fd (multiSocketWaitEventsForCurlPoll what) = ⟨false, false, false⟩
  | .integer events => events = ready.events fd (multiSocketWaitEventsForCurlPoll what)
  | .truthy => ready.events fd (multiSocketWaitEventsForCurlPoll what) ≠ ⟨false, false, false⟩

/-- What a round relies on, with the changes of the tables during its wait. -/
structure RoundOk (ctx hooked after : MultiSocketCtx) (meanwhile : List SocketEvent) (ready : Readiness)
    (way : Way) : Prop where
  /-- A hook does not lie of the only descriptor. -/
  truthful : ∀ answer, way = .ioWait answer → countTracked ctx = 1 →
    ∀ entry ∈ ctx.sockMap.entries, answer.Truthful ready entry.1 entry.2
  /-- The pass has found every descriptor valid. -/
  built : ∀ valid opens, way = .ioSelect valid opens →
    (buildIoSelectArrays valid opens ctx.sockMap.entries ⟨ctx, [], [], [], false⟩).failed = false
  /-- While a hook has waited for one of several, no more have come to be tracked than were counted. -/
  room : ∀ answer, way = .ioWait answer → countTracked hooked ≤ countTracked ctx
  lookUps : RunOk step LookUpOk (waitTables ctx hooked way) meanwhile
  ran : runSteps step (waitTables ctx hooked way) meanwhile = some after

/-- What libcurl waits for of the descriptor stays as it is until the calls are made. For a single descriptor
the table is not read again. -/
def Undisturbed (ctx : MultiSocketCtx) (meanwhile : List SocketEvent) (fd : Int) (what : CurlPoll) : Prop :=
  countTracked ctx = 1 ∨ ∀ event ∈ meanwhile, ¬event.Drops fd what

/-- libcurl hears of every direction it waits for that is ready, where its interest has stayed, and at most
once of a descriptor. It hears of none that has not been looked up. -/
structure HandsOn (entries : List (Int × CurlPoll)) (undisturbed : Int → CurlPoll → Prop) (ready : Readiness)
    (actions : List ReadyFd) : Prop where
  reads : ∀ fd what, (fd, what) ∈ entries → undisturbed fd what → what.hasIn = true → ready.readable fd = true →
    ∃ action ∈ actions, action.fd = fd ∧ action.flags.cselectIn = true
  writes : ∀ fd what, (fd, what) ∈ entries → undisturbed fd what → what.hasOut = true → ready.writable fd = true →
    ∃ action ∈ actions, action.fd = fd ∧ action.flags.cselectOut = true
  tracked : ∀ action ∈ actions, action.flags ≠ .zero ∧ ∃ what, (action.fd, what) ∈ entries
  once : (actions.map ReadyFd.fd).Nodup

variable {ctx ctx' hooked after : MultiSocketCtx} {ready : Readiness} {fd : Int} {what : CurlPoll} {way : Way}
  {event : SocketEvent} {meanwhile history : List SocketEvent} {undisturbed : Int → CurlPoll → Prop}

/-! ### What stays -/

/-- An event that does not drop a descriptor leaves it tracked, with its object. -/
theorem undropped_step (steps : step ctx event = some ctx') (stays : ¬event.Drops fd what)
    (waits : what ≠ .pollRemove) (tracked : ctx.sockMap.get fd = some what) :
    ctx'.sockMap.get fd = some what ∧ ∀ io, ctx.ioCache.get fd = some io → ctx'.ioCache.get fd = some io := by
  cases event with
  | lookUp fd' what' opened =>
    obtain rfl := Option.some.inj steps
    refine ⟨?_, fun io => multiSocketIoForFd_keeps⟩
    rw [multiSocketIoForFd_sockMap]
    exact tracked
  | forget fd' =>
    obtain rfl := Option.some.inj steps
    have differs : fd ≠ fd' := fun same => stays same.symm
    refine ⟨?_, fun io cached => ?_⟩
    · show (ctx.sockMap.erase fd').get fd = some what
      rw [Table.get_erase, if_neg differs, tracked]
    · show (ctx.ioCache.erase fd').get fd = some io
      rw [Table.get_erase, if_neg differs, cached]
  | callback fd' what' =>
    obtain rfl := Option.some.inj steps
    show (multiSocketCb ctx fd' what').sockMap.get fd = some what ∧
      ∀ io, ctx.ioCache.get fd = some io → (multiSocketCb ctx fd' what').ioCache.get fd = some io
    by_cases ignored : fd' < 0
    · rw [multiSocketCb, if_pos ignored]
      exact ⟨tracked, fun io cached => cached⟩
    by_cases same : fd' = fd
    · have again : what' = what := by
        by_contra other
        exact stays ⟨by omega, same, other⟩
      have kept : multiSocketCb ctx fd' what' = ⟨ctx.sockMap.insert fd what, ctx.ioCache⟩ := by
        rw [multiSocketCb, if_neg ignored, again, if_neg waits, same, tracked]
        simp
      rw [kept]
      refine ⟨?_, fun io cached => cached⟩
      show (ctx.sockMap.insert fd what).get fd = some what
      rw [Table.get_insert, if_pos rfl]
    · have differs : fd ≠ fd' := fun equal => same equal.symm
      obtain ⟨-, ignores⟩ | ⟨-, -, forgets⟩ | ⟨-, -, inserts⟩ | ⟨-, changes⟩ :=
        multiSocketCb_cases ctx fd' what'
      · rw [ignores]
        exact ⟨tracked, fun io cached => cached⟩
      · rw [forgets, multiSocketForgetFd]
        simp only [Table.get_erase, if_neg differs]
        exact ⟨tracked, fun io cached => cached⟩
      · rw [inserts]
        simp only [Table.get_insert, if_neg differs]
        exact ⟨tracked, fun io cached => cached⟩
      · rw [changes]
        simp only [Table.get_insert, Table.get_erase, if_neg differs]
        exact ⟨tracked, fun io cached => cached⟩

theorem undropped_run (ran : runSteps step ctx meanwhile = some after)
    (stays : ∀ event ∈ meanwhile, ¬event.Drops fd what) (waits : what ≠ .pollRemove)
    (tracked : ctx.sockMap.get fd = some what) :
    after.sockMap.get fd = some what ∧ ∀ io, ctx.ioCache.get fd = some io → after.ioCache.get fd = some io := by
  induction meanwhile generalizing ctx with
  | nil =>
    obtain rfl := Option.some.inj ran
    exact ⟨tracked, fun io cached => cached⟩
  | cons event rest ih =>
    obtain ⟨middle, steps, later⟩ := Option.bind_eq_some_iff.mp ran
    obtain ⟨still, keeps⟩ := undropped_step steps (stays event List.mem_cons_self) waits tracked
    obtain ⟨atLast, kept⟩ := ih later (fun event mem => stays event (List.mem_cons_of_mem _ mem)) still
    exact ⟨atLast, fun io cached => kept io (keeps io cached)⟩

/-! ### A wait for several descriptors -/

/-- Calls for those entries of a table that have flags, where these are right for what has stayed. -/
theorem handsOn_told {flags : Int × CurlPoll → CselectFlags} {entries looked : List (Int × CurlPoll)}
    (nodup : (entries.map Prod.fst).Nodup)
    (stays : ∀ fd what, (fd, what) ∈ looked → undisturbed fd what → what ≠ .pollRemove →
      (fd, what) ∈ entries ∧ flags (fd, what) = interestFlags ready fd what)
    (among : ∀ entry ∈ entries, flags entry ≠ .zero → ∃ what, (entry.1, what) ∈ looked) :
    HandsOn looked undisturbed ready (entries.filterMap (told flags)) := by
  have call {entry : Int × CurlPoll} (inside : entry ∈ entries) (some : flags entry ≠ .zero) :
      ⟨entry.1, flags entry⟩ ∈ entries.filterMap (told flags) :=
    List.mem_filterMap.mpr ⟨entry, inside, if_neg some⟩
  refine ⟨?_, ?_, ?_, nodup_told nodup⟩
  · intro fd what mem quiet wants is
    obtain ⟨inside, right⟩ := stays fd what mem quiet (by rintro rfl; cases wants)
    have bit : (flags (fd, what)).cselectIn = true := by rw [right, interestFlags, wants, is]; rfl
    refine ⟨_, call inside fun zero => ?_, rfl, bit⟩
    rw [zero] at bit
    cases bit
  · intro fd what mem quiet wants is
    obtain ⟨inside, right⟩ := stays fd what mem quiet (by rintro rfl; cases wants)
    have bit : (flags (fd, what)).cselectOut = true := by rw [right, interestFlags, wants, is]; rfl
    refine ⟨_, call inside fun zero => ?_, rfl, bit⟩
    rw [zero] at bit
    cases bit
  · intro action mem
    obtain ⟨entry, inside, made⟩ := List.mem_filterMap.mp mem
    rw [told] at made
    split at made
    · cases made
    · rename_i some
      obtain rfl := Option.some.inj made
      exact ⟨some, among entry inside some⟩

/-- The entry of a tracked descriptor. -/
theorem mem_entries_of_key (tracked : fd ∈ ctx.sockMap.keys) : ∃ what, (fd, what) ∈ ctx.sockMap.entries := by
  obtain ⟨what, found⟩ := Table.mem_keys.mp tracked
  exact ⟨what, (Table.mem_iff_lookup ctx.sockMap.nodup).mpr found⟩

/-- The calls after a `select`; where it finds nothing ready, there are none to make. -/
theorem waitBySelectUntil_actions {capacity : Nat} (room : countTracked ctx ≤ capacity) (after : MultiSocketCtx)
    (ready : Readiness) (timerDue : Bool) : (waitBySelectUntil capacity ctx after ready timerDue).actions =
      after.sockMap.entries.filterMap (told (selectFlags ctx ready)) := by
  simp only [waitBySelectUntil]
  split
  · exact selectReadyFds_eq room after ready
  · rename_i nothing
    refine (List.filterMap_eq_nil_iff.mpr fun entry _ => if_pos ?_).symm
    simp only [decide_eq_true_eq, Nat.pos_iff_ne_zero, ne_eq, not_not] at nothing
    have reads := List.length_eq_zero_iff.mp (by omega : (rbThreadFdSelect ((rbFdsetFromSockmap ctx).maxfd + 1)
      ready.readable (rbFdsetFromSockmap ctx).r).length = 0)
    have writes := List.length_eq_zero_iff.mp (by omega : (rbThreadFdSelect ((rbFdsetFromSockmap ctx).maxfd + 1)
      ready.writable (rbFdsetFromSockmap ctx).w).length = 0)
    have excepts := List.length_eq_zero_iff.mp (by omega : (rbThreadFdSelect ((rbFdsetFromSockmap ctx).maxfd + 1)
      ready.exceptional (rbFdsetFromSockmap ctx).e).length = 0)
    simp [selectFlags, reads, writes, excepts, CselectFlags.zero]

theorem handsOn_select {capacity : Nat} (room : countTracked ctx ≤ capacity)
    (ran : runSteps step ctx meanwhile = some after) (ready : Readiness) (timerDue : Bool) :
    HandsOn ctx.sockMap.entries (fun fd what => ∀ event ∈ meanwhile, ¬event.Drops fd what) ready
      (waitBySelectUntil capacity ctx after ready timerDue).actions := by
  rw [waitBySelectUntil_actions room]
  refine handsOn_told after.sockMap.nodup ?_ fun entry _ some => mem_entries_of_key (tracked_of_selectFlags some)
  intro fd what inside quiet waits
  have tracked := (Table.mem_iff_lookup ctx.sockMap.nodup).mp inside
  have still := (undropped_run ran quiet waits tracked).1
  exact ⟨(Table.mem_iff_lookup after.sockMap.nodup).mpr still, selectFlags_eq inside what⟩

/-- The calls after an `io_select`. -/
theorem waitByIoSelectUntil_actions {args : BuildIoSelectArraysArgs} (agree : Agree history args.ctx)
    (selected : Selected args) (own : ∀ fd io, after.ioCache.get fd = some io → io.fd = fd) (ready : Readiness)
    (timerDue : Bool) : (waitByIoSelectUntil args after ready timerDue).actions =
      after.sockMap.entries.filterMap (told (ioSelectFlags args after ready)) := by
  simp only [waitByIoSelectUntil]
  split
  · exact ioSelectReadyFds_eq agree selected own ready
  · rename_i nothing
    refine (List.filterMap_eq_nil_iff.mpr fun entry _ => if_pos ?_).symm
    rw [Bool.not_eq_true, Bool.or_eq_false_iff, Bool.or_eq_false_iff] at nothing
    have none {ios : List Io} {ready : Int → Bool} (quiet : (ios.any fun io => ready io.fd) = false) :
        ios.filter (fun io => ready io.fd) = [] := by
      rw [List.filter_eq_nil_iff]
      exact fun io mem => List.any_eq_false.mp quiet io mem
    rw [ioSelectFlags, none nothing.1.1, none nothing.1.2, none nothing.2]
    cases after.ioCache.get entry.1 <;> rfl

theorem handsOn_ioSelect {args : BuildIoSelectArraysArgs} (agree : Agree history args.ctx)
    (selected : Selected args) (complete : Complete args.ctx.sockMap.entries args)
    (own : ∀ fd io, after.ioCache.get fd = some io → io.fd = fd)
    (ran : runSteps step args.ctx meanwhile = some after) (ready : Readiness) (timerDue : Bool) :
    HandsOn args.ctx.sockMap.entries (fun fd what => ∀ event ∈ meanwhile, ¬event.Drops fd what) ready
      (waitByIoSelectUntil args after ready timerDue).actions := by
  rw [waitByIoSelectUntil_actions agree selected own]
  refine handsOn_told after.sockMap.nodup ?_ fun entry _ some =>
    mem_entries_of_key (tracked_of_ioSelectFlags agree selected (own entry.1) some)
  intro fd what inside quiet waits
  have tracked := (Table.mem_iff_lookup args.ctx.sockMap.nodup).mp inside
  obtain ⟨still, keeps⟩ := undropped_run ran quiet waits tracked
  obtain ⟨io, cached, -⟩ := complete.wrapped fd what inside
  refine ⟨(Table.mem_iff_lookup after.sockMap.nodup).mpr still, ?_⟩
  exact ioSelectFlags_eq agree selected complete inside ((keeps io cached).trans cached.symm) what

/-! ### A wait for a single descriptor -/

/-- What one descriptor may be handed on with. -/
structure Tells (ready : Readiness) (fd : Int) (what : CurlPoll) (flags : Option CselectFlags) : Prop where
  reads : what.hasIn = true → ready.readable fd = true → ∃ told ∈ flags, told.cselectIn = true
  writes : what.hasOut = true → ready.writable fd = true → ∃ told ∈ flags, told.cselectOut = true
  some : ∀ told ∈ flags, told ≠ .zero

theorem Tells.handsOn {flags : Option CselectFlags} (tells : Tells ready fd what flags) :
    HandsOn [(fd, what)] undisturbed ready (flags.map fun told => (⟨fd, told⟩ : ReadyFd)).toList := by
  have mem {told : CselectFlags} (is : told ∈ flags) :
      (⟨fd, told⟩ : ReadyFd) ∈ (flags.map fun told => (⟨fd, told⟩ : ReadyFd)).toList :=
    Option.mem_toList.mpr (Option.mem_map_of_mem _ is)
  refine ⟨?_, ?_, ?_, ?_⟩
  · intro other interest inside _ wants is
    obtain ⟨rfl, rfl⟩ := Prod.mk.inj (List.mem_singleton.mp inside)
    obtain ⟨told, found, bit⟩ := tells.reads wants is
    exact ⟨_, mem found, rfl, bit⟩
  · intro other interest inside _ wants is
    obtain ⟨rfl, rfl⟩ := Prod.mk.inj (List.mem_singleton.mp inside)
    obtain ⟨told, found, bit⟩ := tells.writes wants is
    exact ⟨_, mem found, rfl, bit⟩
  · intro action inside
    obtain ⟨told, found, rfl⟩ := Option.mem_map.mp (Option.mem_toList.mp inside)
    exact ⟨tells.some told found, what, List.mem_singleton.mpr rfl⟩
  · cases flags with
    | none => exact List.nodup_nil
    | some told => exact List.nodup_singleton _

theorem multiSocketCselectFlagsForCurlPoll_ne_zero (what : CurlPoll) :
    multiSocketCselectFlagsForCurlPoll what ≠ .zero := by
  cases what <;> decide

/-- What libcurl waits for is asked of the kernel, and nothing is asked for exceptions. -/
theorem multiSocketWaitEventsForCurlPoll_asks (what : CurlPoll) :
    (what.hasIn = true → (multiSocketWaitEventsForCurlPoll what).waitfdIn = true) ∧
    (what.hasOut = true → (multiSocketWaitEventsForCurlPoll what).waitfdOut = true) ∧
    (multiSocketWaitEventsForCurlPoll what).waitfdPri = false := by
  cases what <;> decide

/-- A kernel that is asked tells. -/
theorem tells_events (ready : Readiness) (fd : Int) (what : CurlPoll) :
    Tells ready fd what
      (if ready.events fd (multiSocketWaitEventsForCurlPoll what) = ⟨false, false, false⟩ then none
        else some (multiSocketCselectFlagsForWaitEvents
          (ready.events fd (multiSocketWaitEventsForCurlPoll what)))) := by
  obtain ⟨asksIn, asksOut, -⟩ := multiSocketWaitEventsForCurlPoll_asks what
  split
  · rename_i nothing
    obtain ⟨quietIn, -, quietOut⟩ := WaitEvents.mk.inj nothing
    refine ⟨fun wants is => ?_, fun wants is => ?_, fun _ none => (Option.not_mem_none _ none).elim⟩
    · rw [asksIn wants, is] at quietIn
      cases quietIn
    · rw [asksOut wants, is] at quietOut
      cases quietOut
  · rename_i something
    refine ⟨fun wants is => ⟨_, rfl, ?_⟩, fun wants is => ⟨_, rfl, ?_⟩, ?_⟩
    · show ((multiSocketWaitEventsForCurlPoll what).waitfdIn && ready.readable fd) = true
      rw [asksIn wants, is]
      rfl
    · show ((multiSocketWaitEventsForCurlPoll what).waitfdOut && ready.writable fd) = true
      rw [asksOut wants, is]
      rfl
    · intro told is zero
      obtain rfl := Option.some.inj is
      obtain ⟨quietIn, quietOut, quietPri⟩ := CselectFlags.mk.inj zero
      exact something (WaitEvents.mk.injEq .. ▸ ⟨quietIn, quietPri, quietOut⟩)

theorem multiSocketCselectFlagsForWaitEvents_eq_zero {events : WaitEvents} :
    multiSocketCselectFlagsForWaitEvents events = .zero ↔ events = ⟨false, false, false⟩ := by
  obtain ⟨waitfdIn, waitfdPri, waitfdOut⟩ := events
  cases waitfdIn <;> cases waitfdPri <;> cases waitfdOut <;> decide

/-- The flags that `select` leaves are the ones of the directions libcurl waits for. -/
theorem tells_selected (ready : Readiness) (fd : Int) (what : CurlPoll) :
    Tells ready fd what (readyFlags ready fd what .select) := by
  have same : (⟨decide (what = .pollIn ∨ what = .pollInout) && ready.readable fd,
      decide (what = .pollOut ∨ what = .pollInout) && ready.writable fd,
      ready.exceptional fd⟩ : CselectFlags) = interestFlags ready fd what := by
    cases what <;> rfl
  simp only [readyFlags, same]
  split
  · rename_i nothing
    obtain ⟨quietIn, quietOut, -⟩ := CselectFlags.mk.inj nothing
    refine ⟨fun wants is => ?_, fun wants is => ?_, fun _ none => (Option.not_mem_none _ none).elim⟩
    · rw [wants, is] at quietIn
      cases quietIn
    · rw [wants, is] at quietOut
      cases quietOut
  · rename_i something
    refine ⟨fun wants is => ⟨_, rfl, ?_⟩, fun wants is => ⟨_, rfl, ?_⟩, ?_⟩
    · rw [interestFlags, wants, is]
      rfl
    · rw [interestFlags, wants, is]
      rfl
    · intro told is zero
      exact something ((Option.some.inj is).trans zero)

/-- Whichever way a single descriptor is waited for, its directions are told. -/
theorem tells_readyFlags {way : Way} (truthful : ∀ answer, way = .ioWait answer →
    answer.Truthful ready fd what) : Tells ready fd what (readyFlags ready fd what way) := by
  cases way with
  | waitForSingleFd => exact tells_events ready fd what
  | ioWait answer =>
    have said := truthful answer rfl
    cases answer with
    | falsy =>
      have quiet : ready.events fd (multiSocketWaitEventsForCurlPoll what) = ⟨false, false, false⟩ := said
      have told := tells_events ready fd what
      rw [if_pos quiet] at told
      exact told
    | integer events =>
      have told := tells_events ready fd what
      rw [← said] at told
      simp only [readyFlags, multiSocketCselectFlagsForWaitEvents_eq_zero]
      exact told
    | truthy =>
      refine ⟨fun wants _ => ⟨_, rfl, ?_⟩, fun wants _ => ⟨_, rfl, ?_⟩, ?_⟩
      · revert wants
        cases what <;> decide
      · revert wants
        cases what <;> decide
      · intro told is
        rw [← Option.some.inj is]
        exact multiSocketCselectFlagsForCurlPoll_ne_zero what
  | select => exact tells_selected ready fd what
  | ioSelect valid opens => exact tells_selected ready fd what

/-- A wait for a single descriptor. -/
theorem handsOn_single {way : Way} (ready : Readiness) (truthful : ∀ answer, way = .ioWait answer →
    answer.Truthful ready fd what) :
    HandsOn [(fd, what)] undisturbed ready ((readyFlags ready fd what way).map fun flags => (⟨fd,
      if flags = .zero then multiSocketCselectFlagsForCurlPoll what else flags⟩ : ReadyFd)).toList := by
  have tells := tells_readyFlags truthful
  have same : ((readyFlags ready fd what way).map fun flags => (⟨fd,
      if flags = .zero then multiSocketCselectFlagsForCurlPoll what else flags⟩ : ReadyFd)) =
      (readyFlags ready fd what way).map fun flags => ⟨fd, flags⟩ :=
    Option.map_congr fun flags is => by rw [if_neg (tells.some flags is)]
  rw [same]
  exact tells.handsOn

/-- With a single descriptor the wait is for what has been looked up. -/
theorem waitTables_single (single : countTracked ctx = 1) :
    (waitTables ctx hooked way).sockMap = ctx.sockMap := by
  cases way with
  | ioSelect valid opens => exact buildIoSelectArrays_sockMap _ _
  | ioWait answer => rw [waitTables, if_pos single]
  | select => rfl
  | waitForSingleFd => rfl

theorem HandsOn.mono {entries : List (Int × CurlPoll)} {actions : List ReadyFd}
    {undisturbed' : Int → CurlPoll → Prop} (hands : HandsOn entries undisturbed ready actions)
    (less : ∀ fd what, undisturbed' fd what → undisturbed fd what) :
    HandsOn entries undisturbed' ready actions where
  reads fd what inside quiet := hands.reads fd what inside (less fd what quiet)
  writes fd what inside quiet := hands.writes fd what inside (less fd what quiet)
  tracked := hands.tracked
  once := hands.once

/-- Whichever way a round waits, and whatever happens to the tables meanwhile, libcurl hears of all that is
ready of what the round has looked up and has stayed, and of nothing else. -/
theorem round_handsOn (lookUps : RunOk step LookUpOk freshCtx history)
    (ran : runSteps step freshCtx history = some ctx) (ok : RoundOk ctx hooked after meanwhile ready way)
    (timerDue : Bool) :
    HandsOn (waitTables ctx hooked way).sockMap.entries (Undisturbed ctx meanwhile) ready
      (roundActions ctx hooked after ready way timerDue) := by
  unfold roundActions
  split
  · rename_i single
    rw [waitTables_single single]
    have truthful := fun answer isWay => ok.truthful answer isWay single
    rw [countTracked_eq, List.length_eq_one_iff] at single
    obtain ⟨⟨fd, what⟩, only⟩ := single
    rw [stPickOne, only, List.head?_cons, Option.elim_some]
    refine handsOn_single ready fun answer isWay => ?_
    exact truthful answer isWay (fd, what) (by rw [only]; exact List.mem_singleton.mpr rfl)
  · rename_i several
    have quiet (fd : Int) (what : CurlPoll) (undisturbed : Undisturbed ctx meanwhile fd what) :
        ∀ event ∈ meanwhile, ¬event.Drops fd what := undisturbed.resolve_left several
    cases way with
    | select => exact (handsOn_select le_rfl ok.ran ready timerDue).mono quiet
    | waitForSingleFd => exact (handsOn_select le_rfl ok.ran ready timerDue).mono quiet
    | ioWait answer =>
      have room : countTracked (waitTables ctx hooked (.ioWait answer)) ≤ countTracked ctx := by
        rw [waitTables, if_neg several]
        exact ok.room answer rfl
      exact (handsOn_select room ok.ran ready timerDue).mono quiet
    | ioSelect valid opens =>
      refine HandsOn.mono ?_ quiet
      have complete := complete_buildIoSelectArrays
        (⟨fun _ _ => List.not_mem_nil.elim⟩ : Complete [] ⟨ctx, [], [], [], false⟩) (ok.built valid opens rfl)
      obtain ⟨selected, passed, meets, passes⟩ := buildIoSelectArrays_lookUps valid opens
        (fun _ _ => (Table.mem_iff_lookup ctx.sockMap.nodup).mp)
        (⟨nofun, nofun, nofun⟩ : Selected ⟨ctx, [], [], [], false⟩)
      have fresh := fresh_run (fresh_run (Cached.empty : Fresh [] freshCtx) lookUps ran) meets passes
      have later := fresh_run fresh ok.lookUps ok.ran
      have same := congrArg Table.entries
        (@buildIoSelectArrays_sockMap valid opens ctx.sockMap.entries ⟨ctx, [], [], [], false⟩)
      refine handsOn_ioSelect fresh.agree selected ?_ ?_ ok.ran ready timerDue
      · rw [same]
        exact complete
      · intro fd io cached
        obtain ⟨what, -, notStale⟩ := later fd io cached
        exact notStale.fd_eq

/-- Two descriptors are waited for; meanwhile one of them is removed and another one comes. -/
theorem round_handsOn_removed :
    let ctx := multiSocketCb (multiSocketCb freshCtx 7 .pollIn) 9 .pollInout
    let meanwhile : List SocketEvent := [.callback 9 .pollRemove, .callback 8 .pollIn]
    let after := multiSocketCb (multiSocketCb ctx 9 .pollRemove) 8 .pollIn
    let ready : Readiness := ⟨fun _ => true, fun _ => false, fun _ => false⟩
    HandsOn ctx.sockMap.entries (Undisturbed ctx meanwhile) ready (roundActions ctx ctx after ready .select false) ∧
      roundActions ctx ctx after ready .select false = [⟨7, ⟨true, false, false⟩⟩] := by
  intro ctx meanwhile after ready
  have lookUps : RunOk step LookUpOk freshCtx [.callback 7 .pollIn, .callback 9 .pollInout] :=
    .cons trivial rfl (.cons trivial rfl trivial)
  have ok : RoundOk ctx ctx after meanwhile ready .select :=
    ⟨nofun, nofun, nofun, .cons trivial rfl (.cons trivial rfl trivial), rfl⟩
  exact ⟨round_handsOn lookUps rfl ok false, by decide⟩

end Curb.SocketTables
