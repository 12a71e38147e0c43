import Mathlib.Data.List.Perm.Subperm
import Curb.Multi.SocketTables

/-!
# What a wait hands to libcurl

The socket-action loop waits for the tracked descriptors in one of several ways: `select` over sets of
descriptors, the `io_select` hook of a fiber scheduler over arrays of their `IO` objects, and for a single
descriptor the `io_wait` hook or `rb_wait_for_single_fd` (`ext/curb_multi.c:1402-1465`, `1500-1557`,
`1620-1744`). What was found ready is then handed to libcurl descriptor by descriptor. While
a wait goes on other fibers and threads run, and the table it is collected from is the one of then.
-/

namespace Curb.SocketTables
open Curb.Misc

/-- The value of `CURL_POLL_*`. -/
def CurlPoll.value : CurlPoll → Nat
  | .pollNone => 0
  | .pollIn => 1
  | .pollOut => 2
  | .pollInout => 3
  | .pollRemove => 4

/-- `what & CURL_POLL_IN`. -/
def CurlPoll.hasIn (what : CurlPoll) : Bool := what.value &&& 1 ≠ 0

/-- `what & CURL_POLL_OUT`. -/
def CurlPoll.hasOut (what : CurlPoll) : Bool := what.value &&& 2 ≠ 0

/-- The bits `CURL_CSELECT_*`. -/
structure CselectFlags where
  cselectIn : Bool
  cselectOut : Bool
  cselectErr : Bool
  deriving DecidableEq, Repr

/-- No bit is set. -/
def CselectFlags.zero : CselectFlags := ⟨false, false, false⟩

/-- `struct ready_fd`. -/
structure ReadyFd where
  fd : Int
  flags : CselectFlags
  deriving DecidableEq, Repr

/-- What the kernel finds ready, of all descriptors. -/
structure Readiness where
  readable : Int → Bool
  writable : Int → Bool
  exceptional : Int → Bool

/-! ## `select` -/

/-- `struct build_fdset_args`; a set of descriptors is a list here. -/
structure BuildFdsetArgs where
  r : List Int
  w : List Int
  e : List Int
  maxfd : Int

/-- `rb_fdset_from_sockmap_i` (`curb_multi.c:1402-1411`). -/
def rbFdsetFromSockmapI (args : BuildFdsetArgs) (entry : Int × CurlPoll) : BuildFdsetArgs where
  r := if entry.2.hasIn then entry.1 :: args.r else args.r
  w := if entry.2.hasOut then entry.1 :: args.w else args.w
  e := entry.1 :: args.e
  maxfd := if args.maxfd < entry.1 then entry.1 else args.maxfd

/-- `rb_fdset_from_sockmap` (`curb_multi.c:1413-1418`). -/
def rbFdsetFromSockmap (ctx : MultiSocketCtx) : BuildFdsetArgs :=
  ctx.sockMap.entries.foldl rbFdsetFromSockmapI ⟨[], [], [], -1⟩

/-- `select` leaves in a set what is ready, of the descriptors below its first argument. -/
def rbThreadFdSelect (nfds : Int) (ready : Int → Bool) (set : List Int) : List Int :=
  set.filter fun fd => fd < nfds ∧ ready fd

/-- `st_count_i`: the number of tracked descriptors. -/
def countTracked (ctx : MultiSocketCtx) : Nat := ctx.sockMap.entries.foldl (fun count _ => count + 1) 0

/-- A descriptor with flags joins the array while there is room. -/
def collectReady (capacity : Nat) (fds : List ReadyFd) (fd : Int) (flags : CselectFlags) : List ReadyFd :=
  if flags ≠ .zero ∧ fds.length < capacity then fds ++ [⟨fd, flags⟩] else fds

/-- `collect_ready_fd_i` (`curb_multi.c:1434-1448`). -/
def collectReadyFdI (r w e : List Int) (capacity : Nat) (fds : List ReadyFd) (entry : Int × CurlPoll) :
    List ReadyFd :=
  collectReady capacity fds entry.1 ⟨entry.1 ∈ r, entry.1 ∈ w, entry.1 ∈ e⟩

/-- What a `select` for the descriptors of `ctx` finds (`curb_multi.c:1709-1735`), collected from the table
`after` it; there is room for as many as the round has counted. -/
def selectReadyFds (countTracked : Nat) (ctx after : MultiSocketCtx) (ready : Readiness) : List ReadyFd :=
  let args := rbFdsetFromSockmap ctx
  let nfds := args.maxfd + 1
  after.sockMap.entries.foldl (collectReadyFdI (rbThreadFdSelect nfds ready.readable args.r)
    (rbThreadFdSelect nfds ready.writable args.w) (rbThreadFdSelect nfds ready.exceptional args.e)
    countTracked) []

/-! ## `io_select` -/

/-- `collect_io_select_ready_i` (`curb_multi.c:1539-1557`). -/
def collectIoSelectReadyI (ctx : MultiSocketCtx) (readables writables exceptables : List Io) (capacity : Nat)
    (fds : List ReadyFd) (entry : Int × CurlPoll) : List ReadyFd :=
  (ctx.ioCache.get entry.1).elim fds fun io =>
    collectReady capacity fds entry.1 ⟨io ∈ readables, io ∈ writables, io ∈ exceptables⟩

/-- What `io_select` finds (`curb_multi.c:1645-1663`), collected from the tables `after` it: the hook
answers with those objects of its arrays that are ready. -/
def ioSelectReadyFds (args : BuildIoSelectArraysArgs) (after : MultiSocketCtx) (ready : Readiness) :
    List ReadyFd :=
  after.sockMap.entries.foldl (collectIoSelectReadyI after
    (args.readables.filter fun io => ready.readable io.fd)
    (args.writables.filter fun io => ready.writable io.fd)
    (args.exceptables.filter fun io => ready.exceptional io.fd) (countTracked args.ctx)) []

/-! ## The rest of the round -/

/-- What a wait for several descriptors leaves for the rest of the round. -/
structure Waited where
  /-- The calls of `curl_multi_socket_action`. -/
  actions : List ReadyFd
  anyReady : Bool
  didTimeout : Bool
  deriving DecidableEq, Repr

/-- The round with `rb_thread_fd_select` (`curb_multi.c:1705-1745`) where it is not interrupted; `timerDue`
is `multi_socket_timer_due` after the wait. -/
def waitBySelectUntil (countTracked : Nat) (ctx after : MultiSocketCtx) (ready : Readiness) (timerDue : Bool) :
    Waited :=
  let args := rbFdsetFromSockmap ctx
  let nfds := args.maxfd + 1
  let rc := (rbThreadFdSelect nfds ready.readable args.r).length +
    (rbThreadFdSelect nfds ready.writable args.w).length +
    (rbThreadFdSelect nfds ready.exceptional args.e).length
  let anyReady : Bool := 0 < rc
  { actions := if anyReady then selectReadyFds countTracked ctx after ready else []
    anyReady := anyReady
    didTimeout := rc = 0 ∧ timerDue }

/-- The round with `rb_fiber_scheduler_io_select` (`curb_multi.c:1622-1677`), which answers with arrays where
something is ready in time and with `nil` else. -/
def waitByIoSelectUntil (args : BuildIoSelectArraysArgs) (after : MultiSocketCtx) (ready : Readiness)
    (timerDue : Bool) : Waited :=
  let answers : Bool := (args.readables.any fun io => ready.readable io.fd) ||
    (args.writables.any fun io => ready.writable io.fd) ||
    (args.exceptables.any fun io => ready.exceptional io.fd)
  let fds := if answers then ioSelectReadyFds args after ready else []
  { actions := fds
    anyReady := 0 < fds.length
    didTimeout := fds.length = 0 ∧ timerDue }

/-- A round with `select` during which the tables stay as they are. -/
def waitBySelect (ctx : MultiSocketCtx) (ready : Readiness) (timerDue : Bool) : Waited :=
  waitBySelectUntil (countTracked ctx) ctx ctx ready timerDue

/-- A round with `io_select` during which the tables stay as they are. -/
def waitByIoSelect (args : BuildIoSelectArraysArgs) (ready : Readiness) (timerDue : Bool) : Waited :=
  waitByIoSelectUntil args args.ctx ready timerDue

/-! ## What is ready of what libcurl waits for -/

/-- The bits for a descriptor: the directions libcurl waits for that are ready, and an exception. -/
def interestFlags (ready : Readiness) (fd : Int) (what : CurlPoll) : CselectFlags where
  cselectIn := what.hasIn && ready.readable fd
  cselectOut := what.hasOut && ready.writable fd
  cselectErr := ready.exceptional fd

/-- The call for an entry of the table with these flags, if there are any. -/
def told (flags : Int × CurlPoll → CselectFlags) (entry : Int × CurlPoll) : Option ReadyFd :=
  if flags entry = .zero then none else some ⟨entry.1, flags entry⟩

/-- What libcurl is to be told of a tracked descriptor. -/
def readyEntry (ready : Readiness) (entry : Int × CurlPoll) : Option ReadyFd :=
  if interestFlags ready entry.1 entry.2 = .zero then none
  else some ⟨entry.1, interestFlags ready entry.1 entry.2⟩

variable {ctx : MultiSocketCtx} {ready : Readiness} {fd : Int} {what : CurlPoll}

/-! ### Collecting -/

theorem countTracked_eq (ctx : MultiSocketCtx) : countTracked ctx = ctx.sockMap.entries.length := by
  have counts (entries : List (Int × CurlPoll)) (start : Nat) :
      entries.foldl (fun count _ => count + 1) start = start + entries.length := by
    induction entries generalizing start with
    | nil => rfl
    | cons entry rest ih =>
      rw [List.foldl_cons, ih, List.length_cons]
      omega
  rw [countTracked, counts, Nat.zero_add]

/-- A pass that finds the flags of each entry hands on the ones that have any, where there is room for
them. -/
theorem foldl_collects {collect : List ReadyFd → Int × CurlPoll → List ReadyFd} {capacity : Nat}
    {flags : Int × CurlPoll → CselectFlags} {entries : List (Int × CurlPoll)} {fds : List ReadyFd}
    (collects : ∀ entry ∈ entries, ∀ fds, collect fds entry = collectReady capacity fds entry.1 (flags entry))
    (room : fds.length + (entries.filterMap (told flags)).length ≤ capacity) :
    entries.foldl collect fds = fds ++ entries.filterMap (told flags) := by
  induction entries generalizing fds with
  | nil => simp
  | cons entry rest ih =>
    have others := fun other inside => collects other (List.mem_cons_of_mem entry inside)
    rw [List.foldl_cons, collects entry List.mem_cons_self, collectReady]
    by_cases nothing : flags entry = .zero
    · have skipped : told flags entry = none := if_pos nothing
      rw [List.filterMap_cons_none skipped] at room ⊢
      rw [if_neg (fun both => both.1 nothing)]
      exact ih others room
    · have kept : told flags entry = some ⟨entry.1, flags entry⟩ := if_neg nothing
      rw [List.filterMap_cons_some kept] at room ⊢
      rw [List.length_cons] at room
      rw [if_pos ⟨nothing, by omega⟩]
      have later := @ih (fds ++ [⟨entry.1, flags entry⟩]) others (by
        rw [List.length_append, List.length_singleton]
        omega)
      rw [later, List.append_assoc, List.singleton_append]

/-- The descriptors that are handed on are those with flags. -/
theorem map_fd_told (flags : Int × CurlPoll → CselectFlags) (entries : List (Int × CurlPoll)) :
    (entries.filterMap (told flags)).map ReadyFd.fd =
      (entries.filter fun entry => flags entry ≠ .zero).map Prod.fst := by
  induction entries with
  | nil => rfl
  | cons entry rest ih =>
    by_cases nothing : flags entry = .zero
    · have skipped : told flags entry = none := if_pos nothing
      rw [List.filterMap_cons_none skipped, List.filter_cons_of_neg (by simp [nothing])]
      exact ih
    · have kept : told flags entry = some ⟨entry.1, flags entry⟩ := if_neg nothing
      rw [List.filterMap_cons_some kept, List.filter_cons_of_pos (by simp [nothing]), List.map_cons,
        List.map_cons, ih]

/-- Each is handed on once. -/
theorem nodup_told {flags : Int × CurlPoll → CselectFlags} {entries : List (Int × CurlPoll)}
    (nodup : (entries.map Prod.fst).Nodup) : ((entries.filterMap (told flags)).map ReadyFd.fd).Nodup := by
  rw [map_fd_told]
  exact nodup.sublist (List.filter_sublist.map Prod.fst)

/-- There are not more of them than of the keys they are among. -/
theorem length_told_le {flags : Int × CurlPoll → CselectFlags} {entries : List (Int × CurlPoll)} {keys : List Int}
    (nodup : (entries.map Prod.fst).Nodup) (among : ∀ entry ∈ entries, flags entry ≠ .zero → entry.1 ∈ keys) :
    (entries.filterMap (told flags)).length ≤ keys.length := by
  have within : (entries.filterMap (told flags)).map ReadyFd.fd ⊆ keys := by
    rw [map_fd_told]
    intro fd mem
    obtain ⟨entry, inside, rfl⟩ := List.mem_map.mp mem
    obtain ⟨inside, some⟩ := List.mem_filter.mp inside
    exact among entry inside (of_decide_eq_true some)
  have le := (List.subperm_of_subset (nodup_told nodup) within).length_le
  rw [List.length_map] at le
  exact le

/-! ### The sets of `select` -/

/-- What the sets hold: the entries that are in before, and those of the pass. -/
theorem mem_rbFdsetFromSockmap (entries : List (Int × CurlPoll)) (args : BuildFdsetArgs) (fd : Int) :
    (fd ∈ (entries.foldl rbFdsetFromSockmapI args).r ↔
      fd ∈ args.r ∨ ∃ what, (fd, what) ∈ entries ∧ what.hasIn = true) ∧
    (fd ∈ (entries.foldl rbFdsetFromSockmapI args).w ↔
      fd ∈ args.w ∨ ∃ what, (fd, what) ∈ entries ∧ what.hasOut = true) ∧
    (fd ∈ (entries.foldl rbFdsetFromSockmapI args).e ↔ fd ∈ args.e ∨ ∃ what, (fd, what) ∈ entries) := by
  induction entries generalizing args with
  | nil => simp
  | cons entry rest ih =>
    obtain ⟨other, interest⟩ := entry
    obtain ⟨r, w, e⟩ := ih (rbFdsetFromSockmapI args (other, interest))
    rw [List.foldl_cons]
    refine ⟨r.trans ?_, w.trans ?_, e.trans ?_⟩
    · by_cases wanted : interest.hasIn = true
      · simp only [rbFdsetFromSockmapI, if_pos wanted, List.mem_cons, Prod.mk.injEq]
        grind
      · simp only [rbFdsetFromSockmapI, if_neg wanted, List.mem_cons, Prod.mk.injEq]
        grind
    · by_cases wanted : interest.hasOut = true
      · simp only [rbFdsetFromSockmapI, if_pos wanted, List.mem_cons, Prod.mk.injEq]
        grind
      · simp only [rbFdsetFromSockmapI, if_neg wanted, List.mem_cons, Prod.mk.injEq]
        grind
    · simp only [rbFdsetFromSockmapI, List.mem_cons, Prod.mk.injEq]
      grind

/-- `select` looks at every tracked descriptor. -/
theorem le_maxfd (entries : List (Int × CurlPoll)) (args : BuildFdsetArgs) :
    args.maxfd ≤ (entries.foldl rbFdsetFromSockmapI args).maxfd ∧
      ∀ entry ∈ entries, entry.1 ≤ (entries.foldl rbFdsetFromSockmapI args).maxfd := by
  induction entries generalizing args with
  | nil => exact ⟨le_rfl, fun _ => List.not_mem_nil.elim⟩
  | cons entry rest ih =>
    obtain ⟨grows, others⟩ := ih (rbFdsetFromSockmapI args entry)
    have here : args.maxfd ≤ (rbFdsetFromSockmapI args entry).maxfd ∧
        entry.1 ≤ (rbFdsetFromSockmapI args entry).maxfd := by
      simp only [rbFdsetFromSockmapI]
      split <;> omega
    rw [List.foldl_cons]
    refine ⟨here.1.trans grows, fun other mem => ?_⟩
    rcases List.mem_cons.mp mem with rfl | inside
    · exact here.2.trans grows
    · exact others other inside

/-- A descriptor is tracked with one interest. -/
theorem interest_unique {other : CurlPoll} (tracked : (fd, what) ∈ ctx.sockMap.entries)
    (also : (fd, other) ∈ ctx.sockMap.entries) : other = what := by
  have first := (Table.mem_iff_lookup ctx.sockMap.nodup).mp tracked
  have second := (Table.mem_iff_lookup ctx.sockMap.nodup).mp also
  exact Option.some.inj (second.symm.trans first)

/-- Some tracked descriptor of this number is of a kind where the one is. -/
theorem exists_interest_iff (wanted : CurlPoll → Bool) (tracked : (fd, what) ∈ ctx.sockMap.entries) :
    (∃ other, (fd, other) ∈ ctx.sockMap.entries ∧ wanted other = true) ↔ wanted what = true := by
  constructor
  · rintro ⟨other, also, wants⟩
    rw [interest_unique tracked also] at wants
    exact wants
  · intro wants
    exact ⟨what, tracked, wants⟩

/-- The flags a `select` for the descriptors of `ctx` leaves for an entry. -/
def selectFlags (ctx : MultiSocketCtx) (ready : Readiness) (entry : Int × CurlPoll) : CselectFlags :=
  let args := rbFdsetFromSockmap ctx
  let nfds := args.maxfd + 1
  ⟨entry.1 ∈ rbThreadFdSelect nfds ready.readable args.r, entry.1 ∈ rbThreadFdSelect nfds ready.writable args.w,
    entry.1 ∈ rbThreadFdSelect nfds ready.exceptional args.e⟩

/-- Of a descriptor the sets hold, they are the ones of the interest it was put in with. -/
theorem selectFlags_eq (tracked : (fd, what) ∈ ctx.sockMap.entries) (interest : CurlPoll) :
    selectFlags ctx ready (fd, interest) = interestFlags ready fd what := by
  obtain ⟨r, w, e⟩ := mem_rbFdsetFromSockmap ctx.sockMap.entries ⟨[], [], [], -1⟩ fd
  have below : fd < (rbFdsetFromSockmap ctx).maxfd + 1 :=
    Int.lt_add_one_of_le ((le_maxfd ctx.sockMap.entries ⟨[], [], [], -1⟩).2 _ tracked)
  have inside (ready : Int → Bool) (set : List Int) :
      decide (fd ∈ rbThreadFdSelect ((rbFdsetFromSockmap ctx).maxfd + 1) ready set) =
        (decide (fd ∈ set) && ready fd) := by
    rw [Bool.eq_iff_iff, Bool.and_eq_true, decide_eq_true_iff, decide_eq_true_iff, rbThreadFdSelect,
      List.mem_filter, decide_eq_true_iff]
    exact and_congr_right fun _ => and_iff_right below
  have reads : decide (fd ∈ (rbFdsetFromSockmap ctx).r) = what.hasIn := by
    rw [Bool.eq_iff_iff, decide_eq_true_iff, rbFdsetFromSockmap, r]
    simp only [List.not_mem_nil, false_or]
    exact exists_interest_iff CurlPoll.hasIn tracked
  have writes : decide (fd ∈ (rbFdsetFromSockmap ctx).w) = what.hasOut := by
    rw [Bool.eq_iff_iff, decide_eq_true_iff, rbFdsetFromSockmap, w]
    simp only [List.not_mem_nil, false_or]
    exact exists_interest_iff CurlPoll.hasOut tracked
  have excepts : decide (fd ∈ (rbFdsetFromSockmap ctx).e) = true := by
    rw [decide_eq_true_iff, rbFdsetFromSockmap, e]
    exact Or.inr ⟨what, tracked⟩
  simp only [selectFlags, interestFlags, inside, reads, writes, excepts, Bool.true_and]

/-- A descriptor with flags is in one of the sets. -/
theorem tracked_of_selectFlags {entry : Int × CurlPoll} (some : selectFlags ctx ready entry ≠ .zero) :
    entry.1 ∈ ctx.sockMap.keys := by
  obtain ⟨r, w, e⟩ := mem_rbFdsetFromSockmap ctx.sockMap.entries ⟨[], [], [], -1⟩ entry.1
  have key {what : CurlPoll} (inside : (entry.1, what) ∈ ctx.sockMap.entries) : entry.1 ∈ ctx.sockMap.keys :=
    Table.mem_keys.mpr ⟨what, (Table.mem_iff_lookup ctx.sockMap.nodup).mp inside⟩
  by_contra absent
  refine some ?_
  rw [selectFlags, CselectFlags.zero, CselectFlags.mk.injEq]
  refine ⟨decide_eq_false fun mem => ?_, decide_eq_false fun mem => ?_, decide_eq_false fun mem => ?_⟩
  · obtain none | ⟨what, inside, -⟩ := r.mp (List.mem_filter.mp mem).1
    · exact List.not_mem_nil none
    · exact absent (key inside)
  · obtain none | ⟨what, inside, -⟩ := w.mp (List.mem_filter.mp mem).1
    · exact List.not_mem_nil none
    · exact absent (key inside)
  · obtain none | ⟨what, inside⟩ := e.mp (List.mem_filter.mp mem).1
    · exact List.not_mem_nil none
    · exact absent (key inside)

/-- There is room for all that a `select` finds, where no more descriptors are in its sets than were
counted. -/
theorem selectReadyFds_eq {capacity : Nat} (room : countTracked ctx ≤ capacity) (after : MultiSocketCtx)
    (ready : Readiness) :
    selectReadyFds capacity ctx after ready = after.sockMap.entries.filterMap (told (selectFlags ctx ready)) := by
  have few := @length_told_le (selectFlags ctx ready) _ _ after.sockMap.nodup
    fun entry _ some => tracked_of_selectFlags some
  have counted : ctx.sockMap.keys.length = countTracked ctx := by
    rw [countTracked_eq]
    exact List.length_map _
  refine foldl_collects (fun entry _ fds => rfl) ?_
  rw [List.length_nil]
  omega

theorem selectReadyFds_unchanged (ctx : MultiSocketCtx) (ready : Readiness) :
    selectReadyFds (countTracked ctx) ctx ctx ready = ctx.sockMap.entries.filterMap (readyEntry ready) := by
  rw [selectReadyFds_eq le_rfl]
  refine List.filterMap_congr fun entry tracked => ?_
  rw [told, selectFlags_eq tracked]
  rfl

/-! ### The arrays of `io_select` -/

/-- The arrays have the object of every tracked descriptor, of the kinds they are for. -/
structure Complete (entries : List (Int × CurlPoll)) (args : BuildIoSelectArraysArgs) : Prop where
  wrapped : ∀ fd what, (fd, what) ∈ entries → ∃ io, args.ctx.ioCache.get fd = some io ∧
    (what = .pollIn ∨ what = .pollInout → io ∈ args.readables) ∧
    (what = .pollOut ∨ what = .pollInout → io ∈ args.writables) ∧ io ∈ args.exceptables

section Pass

variable {valid : Int → Bool} {opens : Int → Option Nat} {args : BuildIoSelectArraysArgs}

/-- A pass that goes on has looked the object of the descriptor up and added it. -/
theorem complete_entry {done : List (Int × CurlPoll)} (complete : Complete done args)
    (goes : (buildIoSelectArraysI valid opens args fd what).failed = false) :
    Complete (done ++ [(fd, what)]) (buildIoSelectArraysI valid opens args fd what) := by
  obtain stops | ⟨-, raises⟩ | ⟨io, returns, adds⟩ := buildIoSelectArraysI_cases valid opens args fd what
  · rw [stops] at goes
    cases goes
  · rw [raises] at goes
    cases goes
  · rw [adds]
    refine ⟨fun other interest mem => ?_⟩
    rcases List.mem_append.mp mem with old | new
    · obtain ⟨wrapper, cached, reads, writes, excepts⟩ := complete.wrapped other interest old
      refine ⟨wrapper, multiSocketIoForFd_keeps cached, fun wants => ?_, fun wants => ?_, ?_⟩
      · dsimp only
        split
        · exact List.mem_append_left _ (reads wants)
        · exact reads wants
      · dsimp only
        split
        · exact List.mem_append_left _ (writes wants)
        · exact writes wants
      · exact List.mem_append_left _ excepts
    · rw [List.mem_singleton, Prod.mk.injEq] at new
      obtain ⟨rfl, rfl⟩ := new
      have last (ios : List Io) : io ∈ ios ++ [io] := List.mem_append_right _ (List.mem_singleton.mpr rfl)
      refine ⟨io, multiSocketIoForFd_get returns, fun wants => ?_, fun wants => ?_, last _⟩
      · dsimp only
        rw [if_pos wants]
        exact last _
      · dsimp only
        rw [if_pos wants]
        exact last _

theorem complete_buildIoSelectArrays {done entries : List (Int × CurlPoll)} (complete : Complete done args)
    (goes : (buildIoSelectArrays valid opens entries args).failed = false) :
    Complete (done ++ entries) (buildIoSelectArrays valid opens entries args) := by
  induction entries generalizing done args with
  | nil =>
    rw [List.append_nil]
    exact complete
  | cons entry rest ih =>
    obtain ⟨fd, what⟩ := entry
    rw [buildIoSelectArrays] at goes ⊢
    by_cases fails : (buildIoSelectArraysI valid opens args fd what).failed = true
    · rw [if_pos fails, fails] at goes
      cases goes
    · rw [if_neg fails] at goes ⊢
      have later := ih (complete_entry complete ((Bool.not_eq_true _).mp fails)) goes
      rw [List.append_assoc] at later
      exact later

theorem buildIoSelectArrays_sockMap (entries : List (Int × CurlPoll)) (args : BuildIoSelectArraysArgs) :
    (buildIoSelectArrays valid opens entries args).ctx.sockMap = args.ctx.sockMap := by
  induction entries generalizing args with
  | nil => rfl
  | cons entry rest ih =>
    obtain ⟨fd, what⟩ := entry
    rw [buildIoSelectArrays]
    split
    · exact buildIoSelectArraysI_sockMap
    · rw [ih, buildIoSelectArraysI_sockMap]

end Pass

/-! ### The two ways agree -/

theorem NotStale.fd_eq {history : List SocketEvent} {io : Io} (fresh : NotStale history fd what io) :
    io.fd = fd := by
  obtain ⟨_, _, _, -, rfl, -⟩ := fresh
  rfl

theorem hasIn_iff : what.hasIn = true ↔ what = .pollIn ∨ what = .pollInout := by
  cases what <;> decide

theorem hasOut_iff : what.hasOut = true ↔ what = .pollOut ∨ what = .pollInout := by
  cases what <;> decide

/-- An object is in an array where its own descriptor is waited for so. -/
theorem mem_array_iff {wanted : CurlPoll → Prop} {ios : List Io} {io : Io} {history : List SocketEvent}
    (agree : Agree history ctx) (selects : Selects ctx wanted ios)
    (tracked : ctx.sockMap.get fd = some what) (cached : ctx.ioCache.get fd = some io)
    (complete : wanted what → io ∈ ios) : io ∈ ios ↔ wanted what := by
  refine ⟨fun inside => ?_, complete⟩
  obtain ⟨other, interest, tracked', wants, cached'⟩ := selects io inside
  have here := (agree.cached fd io what cached tracked).2.fd_eq
  have there := (agree.cached other io interest cached' tracked').2.fd_eq
  rw [← there, here, tracked] at tracked'
  rw [Option.some.inj tracked']
  exact wants

/-- The flags an answer of `io_select` has for an entry of the tables after it. -/
def ioSelectFlags (args : BuildIoSelectArraysArgs) (after : MultiSocketCtx) (ready : Readiness)
    (entry : Int × CurlPoll) : CselectFlags :=
  (after.ioCache.get entry.1).elim .zero fun io => ⟨io ∈ args.readables.filter fun io => ready.readable io.fd,
    io ∈ args.writables.filter fun io => ready.writable io.fd,
    io ∈ args.exceptables.filter fun io => ready.exceptional io.fd⟩

section Answer

variable {args : BuildIoSelectArraysArgs} {history : List SocketEvent} {after : MultiSocketCtx}

/-- Of a descriptor whose object is still cached, they are the ones of the interest its object was put into
the arrays with. -/
theorem ioSelectFlags_eq (agree : Agree history args.ctx) (selected : Selected args)
    (complete : Complete args.ctx.sockMap.entries args) (inside : (fd, what) ∈ args.ctx.sockMap.entries)
    (kept : after.ioCache.get fd = args.ctx.ioCache.get fd) (interest : CurlPoll) :
    ioSelectFlags args after ready (fd, interest) = interestFlags ready fd what := by
  have tracked := (Table.mem_iff_lookup args.ctx.sockMap.nodup).mp inside
  obtain ⟨io, cached, reads, writes, excepts⟩ := complete.wrapped fd what inside
  have own := (agree.cached fd io what cached tracked).2.fd_eq
  have filtered (ready : Int → Bool) (ios : List Io) :
      decide (io ∈ ios.filter fun io => ready io.fd) = (decide (io ∈ ios) && ready fd) := by
    simp [own]
  have isReadable : decide (io ∈ args.readables) = what.hasIn := by
    rw [Bool.eq_iff_iff, decide_eq_true_iff, hasIn_iff]
    exact mem_array_iff agree selected.readables tracked cached reads
  have isWritable : decide (io ∈ args.writables) = what.hasOut := by
    rw [Bool.eq_iff_iff, decide_eq_true_iff, hasOut_iff]
    exact mem_array_iff agree selected.writables tracked cached writes
  have isExceptable : decide (io ∈ args.exceptables) = true := decide_eq_true excepts
  rw [ioSelectFlags, kept, cached, Option.elim_some, interestFlags, filtered, filtered, filtered, isReadable,
    isWritable, isExceptable, Bool.true_and]

/-- A descriptor with flags had its object put into the arrays. -/
theorem tracked_of_ioSelectFlags {entry : Int × CurlPoll} (agree : Agree history args.ctx)
    (selected : Selected args) (own : ∀ io, after.ioCache.get entry.1 = some io → io.fd = entry.1)
    (some : ioSelectFlags args after ready entry ≠ .zero) : entry.1 ∈ args.ctx.sockMap.keys := by
  rw [ioSelectFlags] at some
  cases cached : after.ioCache.get entry.1 with
  | none =>
    rw [cached] at some
    exact absurd rfl some
  | some io =>
    have key {wanted : CurlPoll → Prop} {ios : List Io} {ready : Int → Bool} (selects : Selects args.ctx wanted ios)
        (mem : io ∈ ios.filter fun io => ready io.fd) : entry.1 ∈ args.ctx.sockMap.keys := by
      obtain ⟨fd, what, tracked, -, holds⟩ := selects io (List.mem_filter.mp mem).1
      rw [← own io cached, (agree.cached fd io what holds tracked).2.fd_eq]
      exact Table.mem_keys.mpr ⟨what, tracked⟩
    by_contra absent
    refine some ?_
    rw [cached, Option.elim_some, CselectFlags.zero, CselectFlags.mk.injEq]
    exact ⟨decide_eq_false fun mem => absent (key selected.readables mem),
      decide_eq_false fun mem => absent (key selected.writables mem),
      decide_eq_false fun mem => absent (key selected.exceptables mem)⟩

/-- The pass over what `io_select` has found. -/
theorem ioSelectReadyFds_eq (agree : Agree history args.ctx) (selected : Selected args)
    (own : ∀ fd io, after.ioCache.get fd = some io → io.fd = fd) (ready : Readiness) :
    ioSelectReadyFds args after ready = after.sockMap.entries.filterMap (told (ioSelectFlags args after ready)) := by
  have few := @length_told_le (ioSelectFlags args after ready) _ _ after.sockMap.nodup
    fun entry _ some => tracked_of_ioSelectFlags agree selected (own entry.1) some
  have counted : args.ctx.sockMap.keys.length = countTracked args.ctx := by
    rw [countTracked_eq]
    exact List.length_map _
  refine @foldl_collects _ (countTracked args.ctx) _ _ [] (fun entry _ fds => ?_) ?_
  swap
  · rw [List.length_nil]
    omega
  rw [collectIoSelectReadyI, ioSelectFlags]
  cases after.ioCache.get entry.1 with
  | none =>
    rw [Option.elim_none, Option.elim_none, collectReady, if_neg (fun both => both.1 rfl)]
  | some io => rfl

end Answer

theorem ioSelectReadyFds_unchanged {args : BuildIoSelectArraysArgs} {history : List SocketEvent}
    (agree : Agree history args.ctx) (selected : Selected args)
    (complete : Complete args.ctx.sockMap.entries args) (ready : Readiness) :
    ioSelectReadyFds args args.ctx ready = args.ctx.sockMap.entries.filterMap (readyEntry ready) := by
  have own (fd : Int) (io : Io) (cached : args.ctx.ioCache.get fd = some io) : io.fd = fd := by
    obtain ⟨what, tracked⟩ := Table.mem_keys.mp (agree.keys fd (Table.mem_keys.mpr ⟨io, cached⟩))
    exact (agree.cached fd io what cached tracked).2.fd_eq
  rw [ioSelectReadyFds_eq agree selected own]
  refine List.filterMap_congr fun entry tracked => ?_
  rw [told, ioSelectFlags_eq agree selected complete tracked rfl]
  rfl

/-- Something is handed to libcurl where a bit is set for some descriptor. -/
theorem filterMap_readyEntry_ne_nil {entries : List (Int × CurlPoll)} :
    entries.filterMap (readyEntry ready) ≠ [] ↔
      ∃ fd what, (fd, what) ∈ entries ∧ (what.hasIn = true ∧ ready.readable fd = true ∨
        what.hasOut = true ∧ ready.writable fd = true ∨ ready.exceptional fd = true) := by
  rw [ne_eq, List.filterMap_eq_nil_iff, not_forall]
  constructor
  · rintro ⟨⟨fd, what⟩, some⟩
    rw [Classical.not_imp] at some
    refine ⟨fd, what, some.1, ?_⟩
    by_contra none
    simp only [not_or, not_and, Bool.not_eq_true] at none
    refine some.2 (if_pos ?_)
    rw [interestFlags, CselectFlags.zero, CselectFlags.mk.injEq]
    refine ⟨?_, ?_, none.2.2⟩
    · rw [Bool.and_eq_false_imp]
      exact none.1
    · rw [Bool.and_eq_false_imp]
      exact none.2.1
  · rintro ⟨fd, what, inside, some⟩
    refine ⟨(fd, what), fun none => ?_⟩
    have flags := none inside
    rw [readyEntry] at flags
    split at flags
    · rename_i zero
      rw [interestFlags, CselectFlags.zero, CselectFlags.mk.injEq] at zero
      simp only [Bool.and_eq_false_imp] at zero
      rcases some with ⟨wants, is⟩ | ⟨wants, is⟩ | is
      · exact absurd is (Bool.eq_false_iff.mp (zero.1 wants))
      · exact absurd is (Bool.eq_false_iff.mp (zero.2.1 wants))
      · exact absurd is (Bool.eq_false_iff.mp zero.2.2)
    · cases flags

theorem select_length_ne_zero {nfds : Int} {ready : Int → Bool} {set : List Int} :
    (rbThreadFdSelect nfds ready set).length ≠ 0 ↔ ∃ fd ∈ set, fd < nfds ∧ ready fd = true := by
  rw [ne_eq, List.length_eq_zero_iff, rbThreadFdSelect, List.filter_eq_nil_iff]
  simp

/-- What a wait comes to, from what is handed to libcurl. -/
def Waited.of (fds : List ReadyFd) (timerDue : Bool) : Waited :=
  ⟨fds, 0 < fds.length, fds.length = 0 ∧ timerDue⟩

theorem waitBySelect_eq (ctx : MultiSocketCtx) (ready : Readiness) (timerDue : Bool) :
    waitBySelect ctx ready timerDue = .of (ctx.sockMap.entries.filterMap (readyEntry ready)) timerDue := by
  have below {fd : Int} {what : CurlPoll} (inside : (fd, what) ∈ ctx.sockMap.entries) :
      fd < (rbFdsetFromSockmap ctx).maxfd + 1 :=
    Int.lt_add_one_of_le ((le_maxfd ctx.sockMap.entries ⟨[], [], [], -1⟩).2 _ inside)
  have rc : (rbThreadFdSelect ((rbFdsetFromSockmap ctx).maxfd + 1) ready.readable
        (rbFdsetFromSockmap ctx).r).length +
      (rbThreadFdSelect ((rbFdsetFromSockmap ctx).maxfd + 1) ready.writable
        (rbFdsetFromSockmap ctx).w).length +
      (rbThreadFdSelect ((rbFdsetFromSockmap ctx).maxfd + 1) ready.exceptional
        (rbFdsetFromSockmap ctx).e).length = 0 ↔ ctx.sockMap.entries.filterMap (readyEntry ready) = [] := by
    have some_left (a b c : Nat) : ¬a + b + c = 0 ↔ (a ≠ 0 ∨ b ≠ 0) ∨ c ≠ 0 := by omega
    rw [← not_iff_not, some_left, select_length_ne_zero, select_length_ne_zero, select_length_ne_zero]
    refine Iff.trans ?_ filterMap_readyEntry_ne_nil.symm
    constructor
    · rintro ((⟨fd, mem, -, is⟩ | ⟨fd, mem, -, is⟩) | ⟨fd, mem, -, is⟩)
      · obtain none | ⟨what, inside, wants⟩ := (mem_rbFdsetFromSockmap _ _ fd).1.mp mem
        · exact (List.not_mem_nil none).elim
        · exact ⟨fd, what, inside, Or.inl ⟨wants, is⟩⟩
      · obtain none | ⟨what, inside, wants⟩ := (mem_rbFdsetFromSockmap _ _ fd).2.1.mp mem
        · exact (List.not_mem_nil none).elim
        · exact ⟨fd, what, inside, Or.inr (Or.inl ⟨wants, is⟩)⟩
      · obtain none | ⟨what, inside⟩ := (mem_rbFdsetFromSockmap _ _ fd).2.2.mp mem
        · exact (List.not_mem_nil none).elim
        · exact ⟨fd, what, inside, Or.inr (Or.inr is)⟩
    · rintro ⟨fd, what, inside, ⟨wants, is⟩ | ⟨wants, is⟩ | is⟩
      · exact Or.inl (Or.inl ⟨fd, (mem_rbFdsetFromSockmap _ _ fd).1.mpr (Or.inr ⟨what, inside, wants⟩),
          below inside, is⟩)
      · exact Or.inl (Or.inr ⟨fd, (mem_rbFdsetFromSockmap _ _ fd).2.1.mpr (Or.inr ⟨what, inside, wants⟩),
          below inside, is⟩)
      · exact Or.inr ⟨fd, (mem_rbFdsetFromSockmap _ _ fd).2.2.mpr (Or.inr ⟨what, inside⟩), below inside, is⟩
  rw [← List.length_eq_zero_iff] at rc
  simp only [waitBySelect, waitBySelectUntil, Waited.of, selectReadyFds_unchanged, Nat.pos_iff_ne_zero, ne_eq, rc]
  by_cases nothing : ctx.sockMap.entries.filterMap (readyEntry ready) = []
  · simp [nothing]
  · simp [nothing]

theorem waitByIoSelect_eq {args : BuildIoSelectArraysArgs} {history : List SocketEvent}
    (agree : Agree history args.ctx) (selected : Selected args)
    (complete : Complete args.ctx.sockMap.entries args) (ready : Readiness) (timerDue : Bool) :
    waitByIoSelect args ready timerDue =
      .of (args.ctx.sockMap.entries.filterMap (readyEntry ready)) timerDue := by
  have own {fd : Int} {what : CurlPoll} {io : Io} (tracked : args.ctx.sockMap.get fd = some what)
      (cached : args.ctx.ioCache.get fd = some io) : io.fd = fd :=
    (agree.cached fd io what cached tracked).2.fd_eq
  have entry {fd : Int} {what : CurlPoll} : args.ctx.sockMap.get fd = some what →
      (fd, what) ∈ args.ctx.sockMap.entries := (Table.mem_iff_lookup args.ctx.sockMap.nodup).mpr
  have answers : ((args.readables.any fun io => ready.readable io.fd) ||
      (args.writables.any fun io => ready.writable io.fd) ||
      (args.exceptables.any fun io => ready.exceptional io.fd)) = true ↔
        args.ctx.sockMap.entries.filterMap (readyEntry ready) ≠ [] := by
    rw [filterMap_readyEntry_ne_nil]
    simp only [Bool.or_eq_true, List.any_eq_true]
    constructor
    · rintro ((⟨io, mem, is⟩ | ⟨io, mem, is⟩) | ⟨io, mem, is⟩)
      · obtain ⟨fd, what, tracked, wants, cached⟩ := selected.readables io mem
        rw [own tracked cached] at is
        exact ⟨fd, what, entry tracked, Or.inl ⟨hasIn_iff.mpr wants, is⟩⟩
      · obtain ⟨fd, what, tracked, wants, cached⟩ := selected.writables io mem
        rw [own tracked cached] at is
        exact ⟨fd, what, entry tracked, Or.inr (Or.inl ⟨hasOut_iff.mpr wants, is⟩)⟩
      · obtain ⟨fd, what, tracked, -, cached⟩ := selected.exceptables io mem
        rw [own tracked cached] at is
        exact ⟨fd, what, entry tracked, Or.inr (Or.inr is)⟩
    · rintro ⟨fd, what, inside, some⟩
      have tracked := (Table.mem_iff_lookup args.ctx.sockMap.nodup).mp inside
      obtain ⟨io, cached, reads, writes, excepts⟩ := complete.wrapped fd what inside
      rw [← own tracked cached] at some
      rcases some with ⟨wants, is⟩ | ⟨wants, is⟩ | is
      · exact Or.inl (Or.inl ⟨io, reads (hasIn_iff.mp wants), is⟩)
      · exact Or.inl (Or.inr ⟨io, writes (hasOut_iff.mp wants), is⟩)
      · exact Or.inr ⟨io, excepts, is⟩
  rw [waitByIoSelect, waitByIoSelectUntil, ioSelectReadyFds_unchanged agree selected complete, Waited.of]
  by_cases nothing : args.ctx.sockMap.entries.filterMap (readyEntry ready) = []
  · simp [nothing]
  · simp only [answers.mpr nothing, if_true]

/-- After any run of the loop: where the pass over the tracked descriptors finds each of them valid and
makes its object, a wait by `io_select` comes to what a wait by `select` comes to. Both hand libcurl every
descriptor that is ready in a direction it waits for, once, with just those directions. -/
theorem waits_agree {history : List SocketEvent} (lookUps : RunOk step LookUpOk freshCtx history)
    (ran : runSteps step freshCtx history = some ctx) (valid : Int → Bool) (opens : Int → Option Nat)
    (built : (buildIoSelectArrays valid opens ctx.sockMap.entries ⟨ctx, [], [], [], false⟩).failed = false)
    (ready : Readiness) (timerDue : Bool) :
    waitByIoSelect (buildIoSelectArrays valid opens ctx.sockMap.entries ⟨ctx, [], [], [], false⟩) ready
        timerDue = waitBySelect ctx ready timerDue ∧
      (waitBySelect ctx ready timerDue).actions = ctx.sockMap.entries.filterMap (readyEntry ready) := by
  obtain ⟨passed, agree, selected⟩ := @agree_buildIoSelectArrays ctx history valid opens lookUps ran
  have start : Complete [] ⟨ctx, [], [], [], false⟩ := ⟨fun _ _ => List.not_mem_nil.elim⟩
  have complete := complete_buildIoSelectArrays start built
  have same := @buildIoSelectArrays_sockMap valid opens ctx.sockMap.entries ⟨ctx, [], [], [], false⟩
  have entries : (buildIoSelectArrays valid opens ctx.sockMap.entries
      ⟨ctx, [], [], [], false⟩).ctx.sockMap.entries = ctx.sockMap.entries := congrArg Table.entries same
  rw [List.nil_append] at complete
  have waited := @waitByIoSelect_eq _ _ agree selected (by rw [entries]; exact complete) ready timerDue
  rw [waited, waitBySelect_eq, entries]
  exact ⟨rfl, rfl⟩

/-- Two descriptors are waited for, and one of them is ready for both directions. -/
theorem waits_agree_two : ∃ ctx, runSteps step freshCtx
      [.callback 7 .pollIn, .callback 9 .pollInout, .lookUp 9 .pollInout (some 2)] = some ctx ∧
    (waitByIoSelect (buildIoSelectArrays (fun _ => true) (fun _ => some 3) ctx.sockMap.entries
      ⟨ctx, [], [], [], false⟩) ⟨fun _ => true, fun _ => true, fun _ => false⟩ false).actions =
        [⟨7, ⟨true, false, false⟩⟩, ⟨9, ⟨true, true, false⟩⟩] := by
  have lookUps : RunOk step LookUpOk freshCtx
      [.callback 7 .pollIn, .callback 9 .pollInout, .lookUp 9 .pollInout (some 2)] :=
    .cons trivial rfl (.cons trivial rfl (.cons rfl rfl trivial))
  refine ⟨_, rfl, ?_⟩
  rw [(waits_agree lookUps rfl (fun _ => true) (fun _ => some 3) (by decide)
    ⟨fun _ => true, fun _ => true, fun _ => false⟩ false).1]
  decide

end Curb.SocketTables
