import Curb.Misc.Cached
import Curb.Misc.Runs

/-!
# The socket table and its wrappers

The socket-action loop keeps the descriptors that libcurl waits for, each with its interest, in
`sock_map`, and the `IO` objects it has made for them in `io_cache` (`ext/curb_multi.c:1341-1389`,
`1467-1527`). The tables change from libcurl's socket callback, from the waits and where a descriptor
turns out invalid.
-/

namespace Curb.SocketTables
open Curb.Misc

/-- `CURL_POLL_*`. -/
inductive CurlPoll where
  | pollNone
  | pollIn
  | pollOut
  | pollInout
  | pollRemove
  deriving DecidableEq, Repr

/-- An `IO` object, of the descriptor and the mode it has been opened with. -/
structure Io where
  object : Nat
  fd : Int
  mode : String
  deriving DecidableEq, Repr

/-- The tables of a `multi_socket_ctx`. -/
structure MultiSocketCtx where
  sockMap : Table Int CurlPoll
  ioCache : Table Int Io

/-- A loop that begins (`curb_multi.c:1925-1928`). -/
def freshCtx : MultiSocketCtx := ⟨.empty, .empty⟩

/-- `multi_socket_forget_fd` (`curb_multi.c:1341-1348`). -/
def multiSocketForgetFd (ctx : MultiSocketCtx) (fd : Int) : MultiSocketCtx :=
  ⟨ctx.sockMap.erase fd, ctx.ioCache.erase fd⟩

/-- `multi_socket_cb` (`curb_multi.c:1357-1389`). -/
def multiSocketCb (ctx : MultiSocketCtx) (fd : Int) (what : CurlPoll) : MultiSocketCtx :=
  if fd < 0 then ctx
  else if what = .pollRemove then multiSocketForgetFd ctx fd
  else
    let changed : Bool := match ctx.sockMap.get fd with
      | some oldWhat => oldWhat ≠ what
      | none => false
    ⟨ctx.sockMap.insert fd what, if changed then ctx.ioCache.erase fd else ctx.ioCache⟩

/-- `multi_socket_io_mode_for_curl_poll` (`curb_multi.c:1467-1471`). -/
def multiSocketIoModeForCurlPoll (what : CurlPoll) : String :=
  if what = .pollIn then "r" else if what = .pollOut then "w" else "r+"

/-- `multi_socket_io_for_fd` (`curb_multi.c:1473-1482`); `opened` is the object that `IO.for_fd` makes
if it is asked to, or `none` where it raises. -/
def multiSocketIoForFd (ctx : MultiSocketCtx) (fd : Int) (what : CurlPoll) (opened : Option Nat) :
    Option Io × MultiSocketCtx :=
  match ctx.ioCache.get fd, opened with
  | some io, _ => (some io, ctx)
  | none, none => (none, ctx)
  | none, some object =>
      let io : Io := ⟨object, fd, multiSocketIoModeForCurlPoll what⟩
      (some io, { ctx with ioCache := ctx.ioCache.insert fd io })

/-! ## The waits -/

/-- `struct build_io_select_arrays_args`. -/
structure BuildIoSelectArraysArgs where
  ctx : MultiSocketCtx
  readables : List Io
  writables : List Io
  exceptables : List Io
  failed : Bool

/-- `build_io_select_arrays_i` (`curb_multi.c:1500-1527`); `valid` is `multi_socket_fd_valid_p`. -/
def buildIoSelectArraysI (valid : Int → Bool) (opened : Int → Option Nat) (args : BuildIoSelectArraysArgs)
    (fd : Int) (what : CurlPoll) : BuildIoSelectArraysArgs :=
  if !valid fd then { args with failed := true }
  else match multiSocketIoForFd args.ctx fd what (opened fd) with
    | (none, ctx) => { args with ctx := ctx, failed := true }
    | (some io, ctx) =>
        { ctx := ctx
          readables := if what = .pollIn ∨ what = .pollInout then args.readables ++ [io] else args.readables
          writables := if what = .pollOut ∨ what = .pollInout then args.writables ++ [io] else args.writables
          exceptables := args.exceptables ++ [io]
          failed := args.failed }

/-- `st_foreach`, which a failure stops. -/
def buildIoSelectArrays (valid : Int → Bool) (opened : Int → Option Nat) :
    List (Int × CurlPoll) → BuildIoSelectArraysArgs → BuildIoSelectArraysArgs
  | [], args => args
  | (fd, what) :: rest, args =>
      let args' := buildIoSelectArraysI valid opened args fd what
      if args'.failed then args' else buildIoSelectArrays valid opened rest args'

/-- `st_pick_one_i`: the descriptor to wait for where a single one is waited for (`curb_multi.c:1452-1458`). -/
def stPickOne (ctx : MultiSocketCtx) : Option (Int × CurlPoll) := ctx.sockMap.entries.head?

/-! ## Runs -/

/-- What changes the tables. -/
inductive SocketEvent where
  | callback (fd : Int) (what : CurlPoll)
  | forget (fd : Int)
  | lookUp (fd : Int) (what : CurlPoll) (opened : Option Nat)
  deriving DecidableEq, Repr

def step (ctx : MultiSocketCtx) : SocketEvent → Option MultiSocketCtx
  | .callback fd what => some (multiSocketCb ctx fd what)
  | .forget fd => some (multiSocketForgetFd ctx fd)
  | .lookUp fd what opened => some (multiSocketIoForFd ctx fd what opened).2

/-- A look-up is made with a tracked descriptor and its current interest. -/
def LookUpOk (ctx : MultiSocketCtx) : SocketEvent → Prop
  | .lookUp fd what _ => ctx.sockMap.get fd = some what
  | _ => True

/-- The event ends the interest in the descriptor, or replaces it. -/
def SocketEvent.Drops (fd : Int) (what : CurlPoll) : SocketEvent → Prop
  | .callback fd' what' => 0 ≤ fd' ∧ fd' = fd ∧ what' ≠ what
  | .forget fd' => fd' = fd
  | .lookUp _ _ _ => False

/-- The object has been made for the descriptor and this interest, and no event has dropped it since. -/
def NotStale (history : List SocketEvent) (fd : Int) (what : CurlPoll) (io : Io) : Prop :=
  ∃ before object after, history = before ++ .lookUp fd what (some object) :: after ∧
    io = ⟨object, fd, multiSocketIoModeForCurlPoll what⟩ ∧ ∀ event ∈ after, ¬event.Drops fd what

/-- Every cached object is the one for what libcurl now waits for. -/
abbrev Fresh (history : List SocketEvent) (ctx : MultiSocketCtx) : Prop :=
  Cached (NotStale history) ctx.sockMap ctx.ioCache

variable {ctx ctx' : MultiSocketCtx} {fd : Int} {what : CurlPoll} {io : Io} {opened : Option Nat}
  {history : List SocketEvent} {event : SocketEvent}

theorem NotStale.append (fresh : NotStale history fd what io) (stays : ¬event.Drops fd what) :
    NotStale (history ++ [event]) fd what io := by
  obtain ⟨before, object, after, rfl, made, undisturbed⟩ := fresh
  refine ⟨before, object, after ++ [event], by simp, made, ?_⟩
  intro later member
  rcases List.mem_append.mp member with earlier | last
  · exact undisturbed later earlier
  · rw [List.mem_singleton.mp last]
    exact stays

theorem NotStale.mode (fresh : NotStale history fd what io) : io.mode = multiSocketIoModeForCurlPoll what := by
  obtain ⟨_, _, _, -, rfl, -⟩ := fresh
  rfl

/-! ### The operations -/

/-- What a look-up does: it returns what is cached, or caches what it returns, or raises. -/
theorem multiSocketIoForFd_cases (ctx : MultiSocketCtx) (fd : Int) (what : CurlPoll) (opened : Option Nat) :
    (∃ io, ctx.ioCache.get fd = some io ∧ multiSocketIoForFd ctx fd what opened = (some io, ctx)) ∨
    (∃ object, opened = some object ∧ ctx.ioCache.get fd = none ∧
      multiSocketIoForFd ctx fd what opened =
        (some ⟨object, fd, multiSocketIoModeForCurlPoll what⟩,
          { ctx with ioCache := ctx.ioCache.insert fd ⟨object, fd, multiSocketIoModeForCurlPoll what⟩ })) ∨
    (opened = none ∧ multiSocketIoForFd ctx fd what opened = (none, ctx)) := by
  unfold multiSocketIoForFd
  cases cached : ctx.ioCache.get fd with
  | some io => exact .inl ⟨io, rfl, rfl⟩
  | none =>
      cases opened with
      | some object => exact .inr (.inl ⟨object, rfl, rfl, rfl⟩)
      | none => exact .inr (.inr ⟨rfl, rfl⟩)

theorem multiSocketIoForFd_sockMap : (multiSocketIoForFd ctx fd what opened).2.sockMap = ctx.sockMap := by
  obtain ⟨_, -, same⟩ | ⟨_, -, -, made⟩ | ⟨-, raised⟩ := multiSocketIoForFd_cases ctx fd what opened
  · rw [same]
  · rw [made]
  · rw [raised]

/-- What a look-up returns is cached from then on. -/
theorem multiSocketIoForFd_get (returns : (multiSocketIoForFd ctx fd what opened).1 = some io) :
    (multiSocketIoForFd ctx fd what opened).2.ioCache.get fd = some io := by
  obtain ⟨_, cached, same⟩ | ⟨_, -, -, made⟩ | ⟨-, raised⟩ := multiSocketIoForFd_cases ctx fd what opened
  · rw [same] at returns ⊢
    rw [cached]
    exact returns
  · rw [made] at returns ⊢
    rw [Table.get_insert, if_pos rfl]
    exact returns
  · rw [raised] at returns
    cases returns

/-- What `multi_socket_cb` does: it ignores the descriptor, forgets it, or keeps its interest, with the
wrapper where the interest is new or stays what it is. -/
theorem multiSocketCb_cases (ctx : MultiSocketCtx) (fd : Int) (what : CurlPoll) :
    (fd < 0 ∧ multiSocketCb ctx fd what = ctx) ∨
    (0 ≤ fd ∧ what = .pollRemove ∧ multiSocketCb ctx fd what = multiSocketForgetFd ctx fd) ∨
    (0 ≤ fd ∧ (ctx.sockMap.get fd = none ∨ ctx.sockMap.get fd = some what) ∧
      multiSocketCb ctx fd what = ⟨ctx.sockMap.insert fd what, ctx.ioCache⟩) ∨
    (0 ≤ fd ∧ multiSocketCb ctx fd what = ⟨ctx.sockMap.insert fd what, ctx.ioCache.erase fd⟩) := by
  unfold multiSocketCb
  by_cases negative : fd < 0
  · exact .inl ⟨negative, if_pos negative⟩
  rw [if_neg negative]
  have nonneg : 0 ≤ fd := by omega
  by_cases removes : what = .pollRemove
  · exact .inr (.inl ⟨nonneg, removes, if_pos removes⟩)
  rw [if_neg removes]
  cases tracked : ctx.sockMap.get fd with
  | none => exact .inr (.inr (.inl ⟨nonneg, .inl rfl, rfl⟩))
  | some oldWhat =>
      by_cases same : oldWhat = what
      · exact .inr (.inr (.inl ⟨nonneg, .inr (by rw [same]), by simp [same]⟩))
      · exact .inr (.inr (.inr ⟨nonneg, by simp [same]⟩))

theorem multiSocketForgetFd_get : (multiSocketForgetFd ctx fd).sockMap.get fd = none := by
  show (ctx.sockMap.erase fd).get fd = none
  rw [Table.get_erase, if_pos rfl]

theorem multiSocketCb_get (nonneg : 0 ≤ fd) :
    (multiSocketCb ctx fd what).sockMap.get fd = if what = .pollRemove then none else some what := by
  unfold multiSocketCb
  rw [if_neg (not_lt.mpr nonneg)]
  by_cases removes : what = .pollRemove
  · rw [if_pos removes, if_pos removes, multiSocketForgetFd_get]
  · rw [if_neg removes, if_neg removes]
    show (ctx.sockMap.insert fd what).get fd = some what
    rw [Table.get_insert, if_pos rfl]

/-! ### One step -/

/-- What is tracked after an event has not been dropped by it. -/
theorem not_drops_of_get (steps : step ctx event = some ctx') (tracked : ctx'.sockMap.get fd = some what) :
    ¬event.Drops fd what := by
  cases event with
  | lookUp fd' what' opened => exact id
  | forget fd' =>
      rintro rfl
      obtain rfl := Option.some.inj steps
      rw [multiSocketForgetFd_get] at tracked
      cases tracked
  | callback fd' what' =>
      rintro ⟨nonneg, rfl, other⟩
      obtain rfl := Option.some.inj steps
      rw [multiSocketCb_get nonneg] at tracked
      split_ifs at tracked
      exact other (Option.some.inj tracked)

/-- The event becomes part of the history of what is cached. -/
theorem Fresh.later (cached : Cached (NotStale history) ctx'.sockMap ctx'.ioCache)
    (steps : step ctx event = some ctx') : Fresh (history ++ [event]) ctx' :=
  cached.imp fun _ _ _ tracked fresh => fresh.append (not_drops_of_get steps tracked)

theorem fresh_forget (fresh : Fresh history ctx) (fd : Int) : Fresh history (multiSocketForgetFd ctx fd) :=
  Cached.erase fresh fd

theorem fresh_callback (fresh : Fresh history ctx) (fd : Int) (what : CurlPoll) :
    Fresh history (multiSocketCb ctx fd what) := by
  obtain ⟨-, ignores⟩ | ⟨-, -, forgets⟩ | ⟨-, keeps, inserts⟩ | ⟨-, changes⟩ := multiSocketCb_cases ctx fd what
  · rw [ignores]
    exact fresh
  · rw [forgets]
    exact fresh_forget fresh fd
  · rw [inserts]
    exact Cached.insert fresh keeps
  · rw [changes]
    exact Cached.change fresh fd what

theorem fresh_step (fresh : Fresh history ctx) (ok : LookUpOk ctx event) (steps : step ctx event = some ctx') :
    Fresh (history ++ [event]) ctx' := by
  cases event with
  | callback fd what =>
      obtain rfl := Option.some.inj steps
      exact Fresh.later (fresh_callback fresh fd what) steps
  | forget fd =>
      obtain rfl := Option.some.inj steps
      exact Fresh.later (fresh_forget fresh fd) steps
  | lookUp fd what opened =>
      have before : Fresh (history ++ [.lookUp fd what opened]) ctx := Cached.imp fresh fun _ _ _ _ old => old.append id
      obtain rfl := Option.some.inj steps
      obtain ⟨_, -, same⟩ | ⟨object, rfl, -, made⟩ | ⟨-, raised⟩ := multiSocketIoForFd_cases ctx fd what opened
      · rw [same]
        exact before
      · rw [made]
        exact Cached.store before ok ⟨history, object, [], rfl, rfl, by simp⟩
      · rw [raised]
        exact before

/-! ### Runs of the loop -/

theorem fresh_run {events : List SocketEvent} (fresh : Fresh history ctx)
    (lookUps : RunOk step LookUpOk ctx events) (ran : runSteps step ctx events = some ctx') :
    Fresh (history ++ events) ctx' := by
  induction events generalizing ctx history with
  | nil =>
      obtain rfl := Option.some.inj ran
      rw [List.append_nil]
      exact fresh
  | cons event events ih =>
      obtain ⟨middle, steps, rest⟩ := Option.bind_eq_some_iff.mp ran
      have later := ih (fresh_step fresh lookUps.1 steps) (lookUps.2 middle steps) rest
      rw [List.append_assoc] at later
      exact later

/-- The tables agree: what is cached is tracked, opened as the interest asks, and as new as it. So is what
a look-up returns. -/
structure Agree (history : List SocketEvent) (ctx : MultiSocketCtx) : Prop where
  keys : ∀ fd ∈ ctx.ioCache.keys, fd ∈ ctx.sockMap.keys
  cached : ∀ fd io what, ctx.ioCache.get fd = some io → ctx.sockMap.get fd = some what →
    io.mode = multiSocketIoModeForCurlPoll what ∧ NotStale history fd what io
  returned : ∀ fd what opened io, ctx.sockMap.get fd = some what →
    (multiSocketIoForFd ctx fd what opened).1 = some io →
    io.mode = multiSocketIoModeForCurlPoll what ∧ NotStale (history ++ [.lookUp fd what opened]) fd what io

theorem Fresh.cached (fresh : Fresh history ctx) (found : ctx.ioCache.get fd = some io)
    (tracked : ctx.sockMap.get fd = some what) :
    io.mode = multiSocketIoModeForCurlPoll what ∧ NotStale history fd what io := by
  obtain ⟨current, same, notStale⟩ := fresh fd io found
  obtain rfl := Option.some.inj (same.symm.trans tracked)
  exact ⟨notStale.mode, notStale⟩

theorem Fresh.agree (fresh : Fresh history ctx) : Agree history ctx where
  keys := by
    intro fd member
    obtain ⟨io, found⟩ := Table.mem_keys.mp member
    obtain ⟨what, tracked, -⟩ := fresh fd io found
    exact Table.mem_keys.mpr ⟨what, tracked⟩
  cached := fun _ _ _ found tracked => Fresh.cached fresh found tracked
  returned := by
    intro fd what opened io tracked returns
    have after : Fresh (history ++ [.lookUp fd what opened]) (multiSocketIoForFd ctx fd what opened).2 :=
      fresh_step fresh tracked rfl
    refine Fresh.cached after (multiSocketIoForFd_get returns) ?_
    rw [multiSocketIoForFd_sockMap, tracked]

/-- After each step of any run the tables agree. -/
theorem agree_run {events before after : List SocketEvent} (ctx : MultiSocketCtx)
    (lookUps : RunOk step LookUpOk freshCtx events) (sofar : events = before ++ after)
    (ran : runSteps step freshCtx before = some ctx) : Agree before ctx := by
  rw [sofar] at lookUps
  have start : Fresh [] freshCtx := Cached.empty
  exact (fresh_run start lookUps.of_append ran).agree

/-- The interest in a descriptor changes after a look-up. -/
def interestChanges : List SocketEvent :=
  [.callback 5 .pollIn, .lookUp 5 .pollIn (some 1), .callback 5 .pollOut, .lookUp 5 .pollOut (some 2)]

theorem agree_interestChanges : ∃ ctx, runSteps step freshCtx interestChanges = some ctx ∧
    ctx.ioCache.get 5 = some ⟨2, 5, "w"⟩ ∧ Agree interestChanges ctx := by
  have lookUps : RunOk step LookUpOk freshCtx interestChanges :=
    .cons trivial rfl (.cons rfl rfl (.cons trivial rfl (.cons rfl rfl trivial)))
  exact ⟨_, rfl, rfl, agree_run _ lookUps (List.append_nil _).symm rfl⟩

/-! ### The look-ups of the waits -/

/-- Objects that the cache has for descriptors of such an interest. -/
def Selects (ctx : MultiSocketCtx) (wanted : CurlPoll → Prop) (ios : List Io) : Prop :=
  ∀ io ∈ ios, ∃ fd what, ctx.sockMap.get fd = some what ∧ wanted what ∧ ctx.ioCache.get fd = some io

structure Selected (args : BuildIoSelectArraysArgs) : Prop where
  readables : Selects args.ctx (fun what => what = .pollIn ∨ what = .pollInout) args.readables
  writables : Selects args.ctx (fun what => what = .pollOut ∨ what = .pollInout) args.writables
  exceptables : Selects args.ctx (fun _ => True) args.exceptables

/-- A look-up drops nothing. -/
theorem multiSocketIoForFd_keeps {other : Int} (cached : ctx.ioCache.get other = some io) :
    (multiSocketIoForFd ctx fd what opened).2.ioCache.get other = some io := by
  obtain ⟨_, -, same⟩ | ⟨_, -, absent, made⟩ | ⟨-, raised⟩ := multiSocketIoForFd_cases ctx fd what opened
  · rw [same]
    exact cached
  · rw [made]
    have differs : other ≠ fd := by
      rintro rfl
      rw [absent] at cached
      cases cached
    rw [Table.get_insert, if_neg differs, cached]
  · rw [raised]
    exact cached

theorem Selects.lookUp {wanted : CurlPoll → Prop} {ios : List Io} (selects : Selects ctx wanted ios) :
    Selects (multiSocketIoForFd ctx fd what opened).2 wanted ios := by
  intro io member
  obtain ⟨other, interest, tracked, wants, cached⟩ := selects io member
  exact ⟨other, interest, by rw [multiSocketIoForFd_sockMap, tracked], wants, multiSocketIoForFd_keeps cached⟩

/-- What a look-up returns joins the objects of its interest. -/
theorem Selects.append {wanted : CurlPoll → Prop} [DecidablePred wanted] {ios : List Io}
    (selects : Selects ctx wanted ios) (tracked : ctx.sockMap.get fd = some what)
    (returns : (multiSocketIoForFd ctx fd what opened).1 = some io) :
    Selects (multiSocketIoForFd ctx fd what opened).2 wanted (if wanted what then ios ++ [io] else ios) := by
  split_ifs with wants
  · intro other member
    rcases List.mem_append.mp member with earlier | last
    · exact selects.lookUp other earlier
    · obtain rfl := List.mem_singleton.mp last
      exact ⟨fd, what, by rw [multiSocketIoForFd_sockMap, tracked], wants, multiSocketIoForFd_get returns⟩
  · exact selects.lookUp

section Pass

variable {valid : Int → Bool} {opens : Int → Option Nat} {args : BuildIoSelectArraysArgs}

/-- What the pass does with a descriptor: it stops, or looks its object up and adds it. -/
theorem buildIoSelectArraysI_cases (valid : Int → Bool) (opens : Int → Option Nat) (args : BuildIoSelectArraysArgs)
    (fd : Int) (what : CurlPoll) :
    buildIoSelectArraysI valid opens args fd what = { args with failed := true } ∨
    (multiSocketIoForFd args.ctx fd what (opens fd)).1 = none ∧
      buildIoSelectArraysI valid opens args fd what =
        { args with ctx := (multiSocketIoForFd args.ctx fd what (opens fd)).2, failed := true } ∨
    ∃ io, (multiSocketIoForFd args.ctx fd what (opens fd)).1 = some io ∧
      buildIoSelectArraysI valid opens args fd what =
        { ctx := (multiSocketIoForFd args.ctx fd what (opens fd)).2
          readables := if what = .pollIn ∨ what = .pollInout then args.readables ++ [io] else args.readables
          writables := if what = .pollOut ∨ what = .pollInout then args.writables ++ [io] else args.writables
          exceptables := args.exceptables ++ [io]
          failed := args.failed } := by
  unfold buildIoSelectArraysI
  by_cases invalid : (!valid fd) = true
  · exact .inl (if_pos invalid)
  rw [if_neg invalid]
  match multiSocketIoForFd args.ctx fd what (opens fd) with
  | (none, ctx) => exact .inr (.inl ⟨rfl, rfl⟩)
  | (some io, ctx) => exact .inr (.inr ⟨io, rfl, rfl⟩)

theorem buildIoSelectArraysI_ctx :
    (buildIoSelectArraysI valid opens args fd what).ctx = args.ctx ∨
      (buildIoSelectArraysI valid opens args fd what).ctx = (multiSocketIoForFd args.ctx fd what (opens fd)).2 := by
  obtain stops | ⟨-, raises⟩ | ⟨io, -, adds⟩ := buildIoSelectArraysI_cases valid opens args fd what
  · exact .inl (by rw [stops])
  · exact .inr (by rw [raises])
  · exact .inr (by rw [adds])

theorem Selected.entry (selected : Selected args) (tracked : args.ctx.sockMap.get fd = some what) :
    Selected (buildIoSelectArraysI valid opens args fd what) := by
  obtain ⟨readables, writables, exceptables⟩ := selected
  obtain stops | ⟨-, raises⟩ | ⟨io, returns, adds⟩ := buildIoSelectArraysI_cases valid opens args fd what
  · rw [stops]
    exact ⟨readables, writables, exceptables⟩
  · rw [raises]
    exact ⟨readables.lookUp, writables.lookUp, exceptables.lookUp⟩
  · rw [adds]
    refine ⟨readables.append tracked returns, writables.append tracked returns, ?_⟩
    simpa using exceptables.append tracked returns

/-- With one descriptor the pass makes at most one look-up, of what is tracked. -/
theorem buildIoSelectArraysI_lookUps (valid : Int → Bool) (opens : Int → Option Nat)
    (tracked : args.ctx.sockMap.get fd = some what) :
    ∃ lookUps, RunOk step LookUpOk args.ctx lookUps ∧
      runSteps step args.ctx lookUps = some (buildIoSelectArraysI valid opens args fd what).ctx := by
  rcases buildIoSelectArraysI_ctx with same | lookedUp
  · rw [same]
    exact ⟨[], trivial, rfl⟩
  · rw [lookedUp]
    exact ⟨[.lookUp fd what (opens fd)], .cons tracked rfl trivial, rfl⟩

theorem buildIoSelectArraysI_sockMap :
    (buildIoSelectArraysI valid opens args fd what).ctx.sockMap = args.ctx.sockMap := by
  rcases buildIoSelectArraysI_ctx with same | lookedUp
  · rw [same]
  · rw [lookedUp, multiSocketIoForFd_sockMap]

/-- The pass is a run of such look-ups, and selects what they return. -/
theorem buildIoSelectArrays_lookUps (valid : Int → Bool) (opens : Int → Option Nat)
    {entries : List (Int × CurlPoll)}
    (tracked : ∀ fd what, (fd, what) ∈ entries → args.ctx.sockMap.get fd = some what) (selected : Selected args) :
    Selected (buildIoSelectArrays valid opens entries args) ∧
      ∃ lookUps, RunOk step LookUpOk args.ctx lookUps ∧
        runSteps step args.ctx lookUps = some (buildIoSelectArrays valid opens entries args).ctx := by
  induction entries generalizing args with
  | nil => exact ⟨selected, [], trivial, rfl⟩
  | cons entry rest ih =>
      obtain ⟨fd, what⟩ := entry
      have here := tracked fd what List.mem_cons_self
      have selected' : Selected (buildIoSelectArraysI valid opens args fd what) := selected.entry here
      obtain ⟨first, meets, ran⟩ := buildIoSelectArraysI_lookUps valid opens here
      by_cases fails : (buildIoSelectArraysI valid opens args fd what).failed = true
      · rw [buildIoSelectArrays, if_pos fails]
        exact ⟨selected', first, meets, ran⟩
      · rw [buildIoSelectArrays, if_neg fails]
        have others : ∀ fd' what', (fd', what') ∈ rest →
            (buildIoSelectArraysI valid opens args fd what).ctx.sockMap.get fd' = some what' := by
          intro fd' what' member
          rw [buildIoSelectArraysI_sockMap]
          exact tracked fd' what' (List.mem_cons_of_mem _ member)
        obtain ⟨selects, later, meets', ran'⟩ := ih others selected'
        refine ⟨selects, first ++ later, meets.append ran meets', ?_⟩
        rw [runSteps_append, ran]
        exact ran'

/-- A wait selects only objects that are not stale. -/
theorem agree_buildIoSelectArrays (lookUps : RunOk step LookUpOk freshCtx history)
    (ran : runSteps step freshCtx history = some ctx) :
    let args := buildIoSelectArrays valid opens ctx.sockMap.entries ⟨ctx, [], [], [], false⟩
    ∃ passed, Agree (history ++ passed) args.ctx ∧ Selected args := by
  have tracked : ∀ fd what, (fd, what) ∈ ctx.sockMap.entries → ctx.sockMap.get fd = some what :=
    fun _ _ => (Table.mem_iff_lookup ctx.sockMap.nodup).mp
  have start : Selected ⟨ctx, [], [], [], false⟩ := ⟨nofun, nofun, nofun⟩
  obtain ⟨selected, passed, meets, passes⟩ := buildIoSelectArrays_lookUps valid opens tracked start
  have before : Fresh [] freshCtx := Cached.empty
  exact ⟨passed, (fresh_run (fresh_run before lookUps ran) meets passes).agree, selected⟩

end Pass

end Curb.SocketTables
