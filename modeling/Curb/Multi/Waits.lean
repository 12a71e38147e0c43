import Curb.Misc.CInt

/-!
# The waits of the perform loops

How long a loop waits for its sockets: libcurl's timeout, or the default one where that is less or
libcurl has none. The fdset loop asks libcurl before each wait (`ext/curb_multi.c:2062-2143`); the
socket-action loop keeps a deadline from libcurl's timer callback (`curb_multi.c:1391-1399`,
`1571-1594`). A fiber scheduler that waits in their place gets no `timeval`. A `long` and a `long long`
have 64 bits here, an `int` 32.
-/

namespace Curb.Waits
open Curb.Misc

/-- `ruby_curl_multi_set_default_timeout` (`curb_multi.c:603-611`) for an Integer: what is stored, or
`none` for a `RangeError` (`NUM2LONG`). -/
def setDefaultTimeout (timeout : Int) : Option Int := if Fits 64 timeout then some timeout else none

/-- A `struct timeval`. -/
structure Timeval where
  tvSec : CInt
  tvUsec : CInt
  deriving DecidableEq, Repr

/-! ## The fdset loop -/

/-- The milliseconds to wait, for what `curl_multi_timeout` reports (`curb_multi.c:2084-2087`). -/
def legacyTimeout (defaultTimeout reported : Int) : Int :=
  if reported < 0 ∨ reported > defaultTimeout then defaultTimeout else reported

/-- `(int)(timeout_milliseconds * 1000)`, with no seconds (`curb_multi.c:2123-2124`). -/
def legacyTimeval (timeoutMilliseconds : Int) : Timeval where
  tvSec := .of 0
  tvUsec := ((CInt.of (timeoutMilliseconds * 1000)).fit 64).fit 32

/-- `tv_100ms` (`curb_multi.c:2030`). -/
def tv100ms : Timeval := ⟨.of 0, .of 100000⟩

/-- `curb_multi_scheduler_sleep` (`curb_multi.c:141-155`): what is passed to `rb_thread_fd_select`. -/
def schedulerSleep (scheduler : Bool) (wait : Timeval) : Option Timeval := if scheduler then none else some wait

/-- The wait of a round; there is none where libcurl wants no delay (`curb_multi.c:2074-2082`), and without a
descriptor to wait for it is the one libcurl recommends (`curb_multi.c:2136-2143`). -/
def legacyWait (scheduler : Bool) (maxfd defaultTimeout reported : Int) : Option Timeval :=
  if reported = 0 then none
  else if maxfd = -1 then schedulerSleep scheduler tv100ms
  else some (legacyTimeval (legacyTimeout defaultTimeout reported))

/-! ## The socket-action loop -/

/-- The `timeout_deadline_ms` of the loop, and when the timer runs out that libcurl has reported last. -/
structure Timer where
  timeoutDeadlineMs : CInt
  pending : Option Int
  deriving DecidableEq, Repr

/-- A loop that begins (`curb_multi.c:1927`). -/
def freshTimer : Timer := ⟨.of (-1), none⟩

/-- `multi_socket_timer_due` (`curb_multi.c:1266-1269`). -/
def Timer.due (timer : Timer) (now : Int) : Bool :=
  0 ≤ timer.timeoutDeadlineMs.value && timer.timeoutDeadlineMs.value ≤ now

/-- What the timer depends on. -/
inductive TimerEvent where
  /-- libcurl calls `multi_timer_cb`. -/
  | report (now timeoutMs : Int)
  /-- The loop drives libcurl's timeouts where the timer is due. With no socket, or an invalid one, it
  is `forced` to (`did_timeout`). Driven, libcurl reports the timer it then has, be it the one it had. -/
  | drive (now : Int) (forced : Bool)
  deriving DecidableEq, Repr

/-- `multi_timer_cb` (`curb_multi.c:1391-1399`), or the drive of the timeouts (`curb_multi.c:1575-1577`,
`1850-1852`). -/
def Timer.step (timer : Timer) : TimerEvent → Timer
  | .report now timeoutMs =>
      if timeoutMs < 0 then ⟨.of (-1), none⟩
      else ⟨(CInt.of (now + timeoutMs)).fit 64, some (now + timeoutMs)⟩
  | .drive now forced => if forced || timer.due now then ⟨.of (-1), none⟩ else timer

/-- The timer after these events. -/
def timerAfter (events : List TimerEvent) : Timer := events.foldl Timer.step freshTimer

/-- The milliseconds to wait (`curb_multi.c:1573`, `1589-1592`). -/
def socketWaitMs (defaultTimeout : Int) (timer : Timer) (now : Int) : CInt :=
  let deadline := timer.timeoutDeadlineMs
  if deadline.value ≥ 0 then
    let remaining := CInt.fit 64 ⟨deadline.value - now, deadline.exact⟩
    if remaining.value < defaultTimeout then
      if remaining.value < 0 then ⟨0, remaining.exact⟩ else remaining.fit 64
    else ⟨defaultTimeout, remaining.exact⟩
  else ⟨defaultTimeout, deadline.exact⟩

/-- Seconds and microseconds (`curb_multi.c:1593-1594`). -/
def socketTimeval (waitMs : CInt) : Timeval where
  tvSec := ⟨waitMs.value.tdiv 1000, waitMs.exact⟩
  tvUsec := CInt.fit 64 ⟨waitMs.value.tmod 1000 * 1000, waitMs.exact⟩

/-- How a round waits (`curb_multi.c:1619-1848`). -/
inductive WaitMode where
  /-- `rb_thread_fd_select` or `rb_wait_for_single_fd`, with the time that was computed. -/
  | select
  /-- The fiber scheduler waits: `io_select`, `io_wait` of a single descriptor, or `kernel_sleep`. -/
  | scheduler
  /-- The scheduler has waited for one of several descriptors, all of them are polled then
  (`curb_multi.c:1679-1733`). -/
  | poll
  deriving DecidableEq, Repr

/-- `tv.tv_sec = 0; tv.tv_usec = 0` (`curb_multi.c:1699-1700`). -/
def Timeval.cleared (wait : Timeval) : Timeval := ⟨⟨0, wait.tvSec.exact⟩, ⟨0, wait.tvUsec.exact⟩⟩

/-- What a round that finds the timer not due at `checked` passes to its wait. -/
def socketWait (mode : WaitMode) (defaultTimeout : Int) (timer : Timer) (checked now : Int) : Option Timeval :=
  if timer.due checked then none
  else
    let wait := socketTimeval (socketWaitMs defaultTimeout timer now)
    match mode with
    | .select => some wait
    | .scheduler => none
    | .poll => some wait.cleared

/-! ## Valid waits -/

/-- The smaller of what remains of libcurl's timeout and the default, or the default. -/
def smaller (defaultTimeout : Int) (remaining : Option Int) : Int :=
  remaining.elim defaultTimeout fun remaining => min remaining defaultTimeout

/-- A timeval in range that denotes these milliseconds, computed without an overflow. -/
structure Valid (wait : Timeval) (milliseconds : Int) : Prop where
  usec : 0 ≤ wait.tvUsec.value ∧ wait.tvUsec.value < 1000000
  sec : 0 ≤ wait.tvSec.value
  denotes : wait.tvSec.value * 1000000 + wait.tvUsec.value = milliseconds * 1000
  exact : wait.tvSec.exact = true ∧ wait.tvUsec.exact = true

/-- The timeout libcurl reports, if it has one. -/
def reportedTimeout (reported : Int) : Option Int := if reported < 0 then none else some reported

/-- What remains of libcurl's timer. -/
def Timer.remaining (timer : Timer) (now : Int) : Option Int :=
  timer.pending.map fun expiry => max 0 (expiry - now)

def LegacyValid (scheduler : Bool) (maxfd defaultTimeout reported : Int) : Prop :=
  ∀ wait ∈ legacyWait scheduler maxfd defaultTimeout reported,
    Valid wait (smaller defaultTimeout (reportedTimeout reported))

def SocketValid (mode : WaitMode) (defaultTimeout : Int) (timer : Timer) (checked now : Int) : Prop :=
  ∀ wait ∈ socketWait mode defaultTimeout timer checked now,
    Valid wait (smaller defaultTimeout (timer.remaining now))

@[simp] theorem smaller_none (defaultTimeout : Int) : smaller defaultTimeout none = defaultTimeout := rfl

@[simp] theorem smaller_some (defaultTimeout remaining : Int) :
    smaller defaultTimeout (some remaining) = min remaining defaultTimeout := rfl

theorem Valid.of {wait : Timeval} {sec usec milliseconds : Int} (tvSec : wait.tvSec = .of sec)
    (tvUsec : wait.tvUsec = .of usec) (range : 0 ≤ usec ∧ usec < 1000000) (nonneg : 0 ≤ sec)
    (sum : sec * 1000000 + usec = milliseconds * 1000) : Valid wait milliseconds := by
  refine ⟨?_, ?_, ?_, ?_⟩
  · rw [tvUsec, CInt.of_value]
    exact range
  · rw [tvSec, CInt.of_value]
    exact nonneg
  · rw [tvSec, tvUsec, CInt.of_value, CInt.of_value]
    exact sum
  · rw [tvSec, tvUsec]
    exact ⟨CInt.of_exact sec, CInt.of_exact usec⟩

variable {defaultTimeout reported : Int}

/-! ### The fdset loop -/

theorem legacyTimeout_eq :
    legacyTimeout defaultTimeout reported = smaller defaultTimeout (reportedTimeout reported) := by
  unfold legacyTimeout reportedTimeout
  split_ifs <;> simp only [smaller_none, smaller_some] <;> omega

/-- The microseconds alone hold less than a second. -/
theorem legacyTimeval_valid_iff {milliseconds : Int} (nonneg : 0 ≤ milliseconds) :
    Valid (legacyTimeval milliseconds) milliseconds ↔ milliseconds < 1000 := by
  constructor
  · rintro ⟨usec, -, denotes, -⟩
    have sec : (legacyTimeval milliseconds).tvSec.value = 0 := rfl
    omega
  · intro small
    have usec : (legacyTimeval milliseconds).tvUsec = .of (milliseconds * 1000) := by
      unfold legacyTimeval
      rw [CInt.fit_of _ (by omega), CInt.fit_of _ (by omega)]
      all_goals exact ⟨by norm_num; omega, by norm_num; omega⟩
    have sec : (legacyTimeval milliseconds).tvSec = .of 0 := rfl
    exact .of sec usec (by omega) (by omega) (by omega)

/-- The sleep of 100 ms is the wait only where that is the smaller of the two. -/
theorem tv100ms_valid_iff {milliseconds : Int} : Valid tv100ms milliseconds ↔ milliseconds = 100 := by
  constructor
  · rintro ⟨-, -, denotes, -⟩
    have usec : tv100ms.tvUsec.value = 100000 := rfl
    have sec : tv100ms.tvSec.value = 0 := rfl
    omega
  · rintro rfl
    exact @Valid.of _ 0 100000 _ rfl rfl (by decide) (by decide) (by decide)

/-- Libcurl wants no delay; there is a descriptor and less than a second to wait; or there is none, and a
fiber scheduler sleeps or 100 ms are to be waited. -/
def LegacyOk (scheduler : Bool) (maxfd defaultTimeout reported : Int) : Prop :=
  reported = 0 ∨ if maxfd = -1 then
      scheduler = true ∨ smaller defaultTimeout (reportedTimeout reported) = 100
    else smaller defaultTimeout (reportedTimeout reported) < 1000

instance (scheduler : Bool) (maxfd defaultTimeout reported : Int) :
    Decidable (LegacyOk scheduler maxfd defaultTimeout reported) :=
  inferInstanceAs (Decidable (_ ∨ ite _ (_ ∨ _) _))

theorem legacyValid_iff {scheduler : Bool} {maxfd : Int} (nonneg : 0 ≤ defaultTimeout) :
    LegacyValid scheduler maxfd defaultTimeout reported ↔ LegacyOk scheduler maxfd defaultTimeout reported := by
  have reported_nonneg : 0 ≤ smaller defaultTimeout (reportedTimeout reported) := by
    unfold reportedTimeout
    split_ifs <;> simp only [smaller_none, smaller_some] <;> omega
  unfold LegacyValid legacyWait LegacyOk
  by_cases noDelay : reported = 0
  · simp [noDelay]
  rw [if_neg noDelay, or_iff_right noDelay]
  by_cases noSocket : maxfd = -1
  · rw [if_pos noSocket, if_pos noSocket]
    cases scheduler with
    | true => simp [schedulerSleep]
    | false =>
      simp only [schedulerSleep, Bool.false_eq_true, if_false, Option.mem_some_iff, forall_eq', false_or]
      exact tv100ms_valid_iff
  · rw [if_neg noSocket, if_neg noSocket, legacyTimeout_eq]
    simp only [Option.mem_some_iff, forall_eq']
    exact legacyTimeval_valid_iff reported_nonneg

/-! ### The socket-action loop -/

/-- A time of the clock. -/
def Clock (now : Int) : Prop := 0 ≤ now ∧ Fits 64 now

instance (now : Int) : Decidable (Clock now) := inferInstanceAs (Decidable (_ ∧ _))

/-- An event with a time of the clock and a timeout that is a `long`. -/
def TimerEvent.Ranged : TimerEvent → Prop
  | .report now timeoutMs => Clock now ∧ Fits 64 timeoutMs
  | .drive now _ => Clock now

instance : (event : TimerEvent) → Decidable event.Ranged
  | .report now timeoutMs => inferInstanceAs (Decidable (Clock now ∧ Fits 64 timeoutMs))
  | .drive now _ => inferInstanceAs (Decidable (Clock now))

/-- The deadline is the end of libcurl's timer, as a `long long`. -/
inductive Timer.Tracks : Timer → Prop where
  | idle : Tracks ⟨.of (-1), none⟩
  | set (expiry : Int) (nonneg : 0 ≤ expiry) (below : expiry < 2 ^ 64 - 1) :
      Tracks ⟨(CInt.of expiry).fit 64, some expiry⟩

theorem Timer.Tracks.step {timer : Timer} {event : TimerEvent} (tracks : timer.Tracks) (ranged : event.Ranged) :
    (timer.step event).Tracks := by
  cases event with
  | report now timeoutMs =>
      obtain ⟨⟨nonneg, -, nowBelow⟩, -, timeoutBelow⟩ := ranged
      simp only [Timer.step]
      split_ifs with none
      · exact .idle
      · exact .set _ (by omega) (by omega)
  | drive now forced =>
      simp only [Timer.step]
      split_ifs with driven
      · exact .idle
      · exact tracks

theorem tracks_timerAfter {events : List TimerEvent} (ranged : ∀ event ∈ events, event.Ranged) :
    (timerAfter events).Tracks := by
  unfold timerAfter
  have start : freshTimer.Tracks := .idle
  generalize freshTimer = timer at start
  induction events generalizing timer with
  | nil => exact start
  | cons event events ih =>
      exact ih (fun later member => ranged later (List.mem_cons_of_mem _ member)) _
        (start.step (ranged event List.mem_cons_self))

/-- Seconds and microseconds together are the milliseconds, whatever their number. -/
theorem socketTimeval_valid {milliseconds : Int} (nonneg : 0 ≤ milliseconds) :
    Valid (socketTimeval (.of milliseconds)) milliseconds := by
  have seconds := Int.tdiv_eq_ediv_of_nonneg nonneg (b := 1000)
  have rest := Int.tmod_eq_emod_of_nonneg nonneg (b := 1000)
  have usec : (socketTimeval (.of milliseconds)).tvUsec = .of (milliseconds % 1000 * 1000) := by
    have fits : Fits 64 (milliseconds % 1000 * 1000) := ⟨by norm_num; omega, by norm_num; omega⟩
    rw [← CInt.fit_of fits (by omega), ← rest]
    rfl
  have sec : (socketTimeval (.of milliseconds)).tvSec = .of (milliseconds / 1000) := by
    rw [← seconds]
    rfl
  exact .of sec usec (by omega) (by omega) (by omega)

/-- With a deadline in range the loop waits the smaller of what remains and the default. -/
theorem socketWaitMs_set {expiry now : Int} (nonneg : 0 ≤ expiry) (fits : Fits 64 expiry) (clock : Clock now)
    (default_nonneg : 0 ≤ defaultTimeout) :
    socketWaitMs defaultTimeout ⟨.of expiry, some expiry⟩ now =
      .of (smaller defaultTimeout (some (max 0 (expiry - now)))) := by
  obtain ⟨-, below⟩ := fits
  obtain ⟨now_nonneg, -, now_below⟩ := clock
  have remaining : CInt.fit 64 ⟨expiry - now, true⟩ = .of (expiry - now) :=
    CInt.fit_of ⟨by norm_num; omega, by omega⟩ (by omega)
  simp only [socketWaitMs, CInt.of_value, CInt.of_exact, ge_iff_le, nonneg, if_true, remaining, smaller_some]
  split_ifs with less past
  · rw [max_eq_left (by omega), min_eq_left (by omega)]
    rfl
  · rw [max_eq_right (by omega), min_eq_left (by omega)]
    exact remaining
  · rw [min_eq_right (by omega)]
    rfl

theorem deadline_neg {expiry : Int} (large : ¬Fits 64 expiry) (nonneg : 0 ≤ expiry) (below : expiry < 2 ^ 64 - 1) :
    ((CInt.of expiry).fit 64).value < 0 := by
  have least : (2 : Int) ^ (64 - 1) ≤ expiry := by
    by_contra small
    exact large ⟨by norm_num; omega, by omega⟩
  refine CInt.fit_value_neg least ?_ (by omega)
  rw [CInt.of_value]
  omega

/-- A deadline that overflows comes out negative: the loop takes it for none, and waits the default. -/
theorem socketWaitMs_overflow {expiry now : Int} (large : ¬Fits 64 expiry) (nonneg : 0 ≤ expiry)
    (below : expiry < 2 ^ 64 - 1) :
    socketWaitMs defaultTimeout ⟨(CInt.of expiry).fit 64, some expiry⟩ now = ⟨defaultTimeout, false⟩ := by
  have negative := deadline_neg large nonneg below
  have inexact : ((CInt.of expiry).fit 64).exact = false := by
    simpa [← Bool.not_eq_true] using large
  simp only [socketWaitMs, ge_iff_le, if_neg (not_le.mpr negative), inexact]

/-- libcurl's timer runs out at a time that the loop can hold. -/
def Timer.InRange (timer : Timer) : Prop := ∀ expiry ∈ timer.pending, Fits 64 expiry

instance (timer : Timer) : Decidable timer.InRange :=
  inferInstanceAs (Decidable (∀ expiry ∈ timer.pending, Fits 64 expiry))

/-- Where the timer is not due, the time that is computed is valid just if libcurl's timer is in range. -/
theorem socketTimeval_valid_iff {timer : Timer} {now : Int} (tracks : timer.Tracks) (clock : Clock now)
    (nonneg : 0 ≤ defaultTimeout) :
    Valid (socketTimeval (socketWaitMs defaultTimeout timer now))
      (smaller defaultTimeout (timer.remaining now)) ↔ timer.InRange := by
  unfold Timer.InRange
  cases tracks with
  | idle =>
      have wait : socketWaitMs defaultTimeout ⟨.of (-1), none⟩ now = .of defaultTimeout := rfl
      simp only [wait, Timer.remaining, Option.map_none, smaller_none]
      simpa using socketTimeval_valid nonneg
  | set expiry expiry_nonneg below =>
      simp only [Option.mem_some_iff, forall_eq']
      by_cases fits : Fits 64 expiry
      · rw [CInt.fit_of fits (by omega), socketWaitMs_set expiry_nonneg fits clock nonneg]
        refine iff_of_true (socketTimeval_valid ?_) fits
        rw [smaller_some]
        omega
      · rw [socketWaitMs_overflow fits expiry_nonneg below]
        refine iff_of_false (fun valid => ?_) fits
        exact absurd valid.exact.1 Bool.false_ne_true

/-- A timer that is due is in range: a deadline that overflows is none. -/
theorem inRange_of_due {timer : Timer} {checked : Int} (tracks : timer.Tracks)
    (due : timer.due checked = true) : timer.InRange := by
  unfold Timer.InRange
  cases tracks with
  | idle =>
      intro expiry pending
      cases pending
  | set expiry nonneg below =>
      simp only [Option.mem_some_iff, forall_eq']
      by_contra large
      have negative := deadline_neg large nonneg below
      simp [Timer.due, not_le.mpr negative] at due

/-- A poll waits for nothing, and what has been computed before was in range. -/
theorem cleared_valid_iff {timer : Timer} {now : Int} (tracks : timer.Tracks) (clock : Clock now)
    (nonneg : 0 ≤ defaultTimeout) :
    Valid (socketTimeval (socketWaitMs defaultTimeout timer now)).cleared
        (smaller defaultTimeout (timer.remaining now)) ↔
      timer.InRange ∧ smaller defaultTimeout (timer.remaining now) = 0 := by
  rw [← socketTimeval_valid_iff tracks clock nonneg]
  constructor
  · intro valid
    have denotes := valid.denotes
    have none : smaller defaultTimeout (timer.remaining now) = 0 := by
      simp only [Timeval.cleared] at denotes
      omega
    refine ⟨?_, none⟩
    by_contra invalid
    rw [socketTimeval_valid_iff tracks clock nonneg] at invalid
    unfold Timer.InRange at invalid
    cases tracks with
    | idle => exact invalid (by simp)
    | set expiry expiry_nonneg below =>
      simp only [Option.mem_some_iff, forall_eq'] at invalid
      have exact' := valid.exact.1
      rw [socketWaitMs_overflow invalid expiry_nonneg below] at exact'
      exact absurd exact' Bool.false_ne_true
  · rintro ⟨valid, none⟩
    have usec : (socketTimeval (socketWaitMs defaultTimeout timer now)).cleared.tvUsec.value = 0 := rfl
    refine ⟨by rw [usec]; decide, le_rfl, ?_, valid.exact⟩
    rw [none]
    rfl

/-- The deadline is in range where a time is passed on, and a poll has nothing to wait for. -/
def SocketOk (mode : WaitMode) (defaultTimeout : Int) (timer : Timer) (checked now : Int) : Prop :=
  match mode with
  | .select => timer.InRange
  | .scheduler => True
  | .poll => timer.InRange ∧
      (timer.due checked = true ∨ smaller defaultTimeout (timer.remaining now) = 0)

instance (defaultTimeout : Int) (timer : Timer) (checked now : Int) :
    (mode : WaitMode) → Decidable (SocketOk mode defaultTimeout timer checked now)
  | .select => inferInstanceAs (Decidable timer.InRange)
  | .scheduler => inferInstanceAs (Decidable True)
  | .poll => inferInstanceAs (Decidable (_ ∧ (_ ∨ _)))

theorem socketValid_iff {mode : WaitMode} {timer : Timer} {checked now : Int} (tracks : timer.Tracks)
    (clock : Clock now) (nonneg : 0 ≤ defaultTimeout) :
    SocketValid mode defaultTimeout timer checked now ↔ SocketOk mode defaultTimeout timer checked now := by
  unfold SocketValid socketWait SocketOk
  cases due : timer.due checked with
  | true =>
    have inRange := inRange_of_due tracks due
    cases mode <;> simp [inRange]
  | false =>
    cases mode with
    | select => simpa using socketTimeval_valid_iff tracks clock nonneg
    | scheduler => simp
    | poll => simpa using cleared_valid_iff tracks clock nonneg

/-! ### Both loops -/

/-- Which waits are valid: those of the fdset loop below a second, and of exactly 100 ms without a descriptor;
and those of the socket-action loop whose deadline is in range, and that are no poll. -/
theorem waits_valid_iff {timeout defaultTimeout checked now : Int} {events : List TimerEvent}
    (accepted : setDefaultTimeout timeout = some defaultTimeout) (nonneg : 0 ≤ timeout)
    (ranged : ∀ event ∈ events, event.Ranged) (clock : Clock now) (reported : Int) (scheduler : Bool)
    (maxfd : Int) (mode : WaitMode) :
    LegacyValid scheduler maxfd defaultTimeout reported ∧
        SocketValid mode defaultTimeout (timerAfter events) checked now ↔
      LegacyOk scheduler maxfd defaultTimeout reported ∧
        SocketOk mode defaultTimeout (timerAfter events) checked now := by
  have stored : timeout = defaultTimeout := by
    unfold setDefaultTimeout at accepted
    split_ifs at accepted
    exact Option.some.inj accepted
  subst stored
  exact and_congr (legacyValid_iff nonneg) (socketValid_iff (tracks_timerAfter ranged) clock nonneg)

/-- With a default of 100 ms, and 40 ms and 90 ms left. -/
theorem waits_valid_hundred : LegacyValid false 5 100 40 ∧
    SocketValid .select 100 (timerAfter [.report 0 150, .drive 50 false]) 60 60 := by
  have accepted : setDefaultTimeout 100 = some 100 := by decide
  have ranged : ∀ event ∈ [TimerEvent.report 0 150, .drive 50 false], event.Ranged := by decide
  exact (waits_valid_iff accepted (by decide) ranged (by decide) 40 false 5 .select).mpr (by decide)

/-- Five seconds by default are five million microseconds in a `tv_usec`. -/
theorem legacyWait_fiveSeconds :
    setDefaultTimeout 5000 = some 5000 ∧
      legacyWait false 5 5000 (-1) = some ⟨.of 0, .of 5000000⟩ ∧ ¬LegacyValid false 5 5000 (-1) := by
  refine ⟨by decide, by decide, fun valid => ?_⟩
  have usec := (valid ⟨.of 0, .of 5000000⟩ (by decide)).usec
  exact absurd usec.2 (by decide)

end Curb.Waits
