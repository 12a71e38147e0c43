import Curb.Misc.Runs
import Curb.Safety.Apply

/-!
# The limit on body bytes

`ruby_curl_easy_body_limit_exceeded` (`ext/curb_easy.c:858-880`) and the two write callbacks that ask it, over
the chunks of a transfer and what comes between them: changes of `max_body_bytes`, and setups of the attached
handle, which `Multi#perform` runs again where its safety signature has changed (`lib/curl/multi.rb:428-440`).
It counts what it lets through under a limit, and not what it lets through while there is none; a setup starts
the count again.
-/

namespace Curb
open Curb.Misc Curb.Ruby Curb.Net

/-- A value of a `curl_off_t` computation; `none` where the signed 64-bit arithmetic overflows. -/
def curlOff (value : Int) : Option Int := if longMin ≤ value ∧ value ≤ longMax then some value else none

theorem curlOff_eq_some {value : Int} (low : longMin ≤ value) (high : value ≤ longMax) :
    curlOff value = some value := if_pos ⟨low, high⟩

/-- What libcurl hands to a write callback. -/
structure BodyChunk where
  size : Nat
  nmemb : Nat
  stream : Text
  length : stream.length = size * nmemb
  small : size * nmemb < 9223372036854775808

/-- `size * nmemb`. -/
def BodyChunk.total (chunk : BodyChunk) : Nat := chunk.size * chunk.nmemb

/-- What a call of the `on_body` handler does. -/
inductive ProcOutcome where
  | integer (value : Int)
  | other
  | raises (error : RubyError)

/-- The write callback the setup has installed. -/
inductive BodyHandler where
  | defaultBody
  | bodyProc
  deriving DecidableEq

/-- A chunk that has been let through: its bytes, the limit that was in force, and whether the counter still
has it. -/
structure Accepted where
  limit : Option Nat
  size : Nat
  counted : Bool
  deriving DecidableEq, Repr

/-- The part of a handle the write callbacks work on. -/
structure BodyTransfer where
  easy : Easy
  handler : BodyHandler
  downloadedBodyBytes : Int
  callbackError : Option RubyError
  bodyData : Option Text
  /-- What the `on_body` handler has been called with. -/
  yielded : List Text
  /-- A history variable: the bytes of the buffers that setups have replaced. -/
  replacedBytes : Nat
  /-- A history variable, newest first: the chunks of the transfer let through. -/
  accepted : List Accepted

namespace BodyTransfer

/-- The limit in force: a stored limit of zero is none. -/
def limit (transfer : BodyTransfer) : Option Nat := transfer.easy.maxBodyBytes.filter (0 < ·)

/-- `callback_exception_store_on_easy` (`curb_easy.c:725-733`). -/
def storeCallbackError (transfer : BodyTransfer) (error : RubyError) : BodyTransfer :=
  { transfer with callbackError := transfer.callbackError.or (some error) }

def limitError : RubyError := ⟨.curlError, "Maximum body size exceeded".toList⟩

/-- `ruby_curl_easy_body_limit_exceeded` (`curb_easy.c:858-880`). -/
def bodyLimitExceeded (transfer : BodyTransfer) (total : Nat) : Option (Bool × BodyTransfer) :=
  match transfer.limit with
  | none => some (false, { transfer with accepted := ⟨none, total, false⟩ :: transfer.accepted })
  | some limit => do
      let size ← curlOff total
      let room ← curlOff (limit - transfer.downloadedBodyBytes)
      if room < size then some (true, transfer.storeCallbackError limitError)
      else
        let sum ← curlOff (transfer.downloadedBodyBytes + size)
        some (false, { transfer with
          downloadedBodyBytes := sum
          accepted := ⟨some limit, total, true⟩ :: transfer.accepted })

/-- `default_body_handler` (`curb_easy.c:883-900`). -/
def defaultBodyHandler (transfer : BodyTransfer) (chunk : BodyChunk) : Option (Nat × BodyTransfer) := do
  let (exceeded, transfer) ← transfer.bodyLimitExceeded chunk.total
  if exceeded then some (0, transfer)
  else some (chunk.total, { transfer with bodyData := some (transfer.bodyData.getD [] ++ chunk.stream) })

/-- `proc_data_handler` (`curb_easy.c:1031-1048`) and the conversion of what it returns. -/
def procDataHandler (chunk : BodyChunk) : ProcOutcome → Except RubyError Nat
  | .integer value =>
      if longMin ≤ value ∧ value ≤ longMax then .ok (value % 18446744073709551616).toNat
      else rbRaise .rangeError "bignum too big to convert into 'long'".toList
  | .other => .ok chunk.total
  | .raises error => .error error

/-- `proc_data_handler_body` (`curb_easy.c:1050-1073`). -/
def procDataHandlerBody (transfer : BodyTransfer) (chunk : BodyChunk) (outcome : ProcOutcome) :
    Option (Nat × BodyTransfer) := do
  let (exceeded, transfer) ← transfer.bodyLimitExceeded chunk.total
  if exceeded then some (0, transfer)
  else
    let transfer := { transfer with yielded := transfer.yielded ++ [chunk.stream] }
    match procDataHandler chunk outcome with
    | .ok returned => some (returned, transfer)
    | .error error => some (0, transfer.storeCallbackError error)

/-- A chunk, as the installed callback takes it. -/
def receive (transfer : BodyTransfer) (chunk : BodyChunk) (outcome : ProcOutcome) :
    Option (Nat × BodyTransfer) :=
  match transfer.handler with
  | .defaultBody => transfer.defaultBodyHandler chunk
  | .bodyProc => transfer.procDataHandlerBody chunk outcome

/-- The buffer a setup starts with. -/
def startBuffer : BodyHandler → Option Text
  | .defaultBody => some []
  | .bodyProc => none

/-- `ruby_curl_easy_setup_body` on a handle whose transfer is going on (`curb_easy.c:3875`, `3995-4007`). A
setup that raises before it gets to the body has only cleared the callback error. -/
def setUpAgain (transfer : BodyTransfer) (reachesBody : Bool) (handler : BodyHandler) : BodyTransfer :=
  if reachesBody then
    { transfer with
      handler := handler
      callbackError := none
      downloadedBodyBytes := 0
      bodyData := startBuffer handler
      replacedBytes := transfer.replacedBytes + (transfer.bodyData.getD []).length
      accepted := transfer.accepted.map fun chunk => { chunk with counted := false } }
  else { transfer with callbackError := none }

/-- What happens during a transfer. -/
inductive Event where
  | maxBodyBytesSet (bytes : Option Int)
  | setup (reachesBody : Bool) (handler : BodyHandler)
  | chunk (chunk : BodyChunk) (outcome : ProcOutcome)

/-- One event; `none` where the accounting overflows. -/
def step (transfer : BodyTransfer) : Event → Option BodyTransfer
  | .maxBodyBytesSet bytes =>
      some { transfer with easy := finalState (Easy.maxBodyBytesSet bytes) transfer.easy }
  | .setup reachesBody handler => some (transfer.setUpAgain reachesBody handler)
  | .chunk chunk outcome => (transfer.receive chunk outcome).map (·.2)

/-- What the setup of a transfer leaves (`curb_easy.c:3875`, `3995-4007`). -/
def setup (handler : BodyHandler) (easy : Easy) : BodyTransfer where
  easy := easy
  handler := handler
  downloadedBodyBytes := 0
  callbackError := none
  bodyData := startBuffer handler
  yielded := []
  replacedBytes := 0
  accepted := []

/-! ## What a chunk does -/

/-- A chunk in the buffer, or handed to the handler. -/
def deliver (transfer : BodyTransfer) (chunk : BodyChunk) : BodyTransfer :=
  match transfer.handler with
  | .defaultBody => { transfer with bodyData := some (transfer.bodyData.getD [] ++ chunk.stream) }
  | .bodyProc => { transfer with yielded := transfer.yielded ++ [chunk.stream] }

/-- The bytes in the buffers of the transfer and handed to the handler. -/
def deliveredBytes (transfer : BodyTransfer) : Nat :=
  transfer.replacedBytes + (transfer.bodyData.getD []).length + transfer.yielded.flatten.length

/-- The bytes of these chunks. -/
def totalBytes : List Accepted → Nat
  | [] => 0
  | chunk :: rest => chunk.size + totalBytes rest

/-- The bytes let through so far. -/
def acceptedBytes (transfer : BodyTransfer) : Nat := totalBytes transfer.accepted

/-- The bytes let through while no limit was in force, or before the last setup. -/
def uncountedBytes (transfer : BodyTransfer) : Nat :=
  totalBytes (transfer.accepted.filter fun chunk => !chunk.counted)

/-- No limit is in force, or the chunk fits within it. -/
def Fits (transfer : BodyTransfer) (chunk : BodyChunk) : Prop :=
  ∀ limit ∈ transfer.limit, transfer.acceptedBytes + chunk.total ≤ limit

/-- A chunk that fits is delivered, and counts as let through; another one is not, and leaves an error
behind. -/
structure ChunkLaw (before : BodyTransfer) (chunk : BodyChunk) (returned : Nat) (after : BodyTransfer) :
    Prop where
  accepts : before.Fits chunk →
    after.bodyData = (before.deliver chunk).bodyData ∧ after.yielded = (before.deliver chunk).yielded ∧
      after.accepted = ⟨before.limit, chunk.total, before.limit.isSome⟩ :: before.accepted
  refuses : ¬before.Fits chunk → returned = 0 ∧ after.bodyData = before.bodyData ∧
    after.yielded = before.yielded ∧ after.accepted = before.accepted ∧ after.callbackError.isSome

/-- The bytes let through are within the limit that was in force when the last chunk was. -/
def WithinLimit (transfer : BodyTransfer) : Prop :=
  ∀ last rest limit, transfer.accepted = last :: rest → last.limit = some limit →
    transfer.acceptedBytes ≤ limit

/-- A chunk does not find a limit in force after bytes have been let through without one or before the last
setup. -/
def CountsAll (transfer : BodyTransfer) : Event → Prop
  | .maxBodyBytesSet _ | .setup _ _ => True
  | .chunk _ _ => transfer.limit = none ∨ transfer.uncountedBytes = 0

/-- What holds of every transfer: the counter has the bytes let through under a limit since the last setup. -/
structure Counted (transfer : BodyTransfer) : Prop where
  counter : transfer.downloadedBodyBytes + transfer.uncountedBytes = transfer.acceptedBytes
  low : 0 ≤ transfer.downloadedBodyBytes
  high : transfer.downloadedBodyBytes ≤ longMax
  stored : ∀ limit ∈ transfer.easy.maxBodyBytes, (limit : Int) ≤ longMax
  delivered : transfer.deliveredBytes = transfer.acceptedBytes

variable {transfer after : BodyTransfer} {chunk : BodyChunk} {outcome : ProcOutcome} {total returned : Nat}

@[simp] theorem acceptedBytes_cons {last : Accepted} {rest : List Accepted}
    (accepted : transfer.accepted = last :: rest) :
    transfer.acceptedBytes = last.size + totalBytes rest := by
  rw [acceptedBytes, accepted, totalBytes]

/-- After a setup the counter has none of the chunks, and they are as many bytes. -/
theorem totalBytes_uncounted (accepted : List Accepted) :
    totalBytes (accepted.map fun chunk => { chunk with counted := false }) = totalBytes accepted ∧
    totalBytes ((accepted.map fun chunk => { chunk with counted := false }).filter
      fun chunk => !chunk.counted) = totalBytes accepted := by
  induction accepted with
  | nil => exact ⟨rfl, rfl⟩
  | cons chunk rest ih => simp [totalBytes, ih.1, ih.2]

theorem limit_le (stored : ∀ limit ∈ transfer.easy.maxBodyBytes, (limit : Int) ≤ longMax) {limit : Nat}
    (inForce : transfer.limit = some limit) : (limit : Int) ≤ longMax := by
  obtain ⟨given, -⟩ := Option.filter_eq_some_iff.mp inForce
  exact stored limit given

/-- The three ends of the limit check. -/
theorem bodyLimitExceeded_cases (counted : Counted transfer) (small : total < 9223372036854775808) :
    (transfer.limit = none ∧ transfer.bodyLimitExceeded total =
      some (false, { transfer with accepted := ⟨none, total, false⟩ :: transfer.accepted })) ∨
    (∃ limit, transfer.limit = some limit ∧ transfer.downloadedBodyBytes + total ≤ limit ∧
      transfer.bodyLimitExceeded total = some (false, { transfer with
        downloadedBodyBytes := transfer.downloadedBodyBytes + total
        accepted := ⟨some limit, total, true⟩ :: transfer.accepted })) ∨
    ∃ limit, transfer.limit = some limit ∧ limit < transfer.downloadedBodyBytes + total ∧
      transfer.bodyLimitExceeded total = some (true, transfer.storeCallbackError limitError) := by
  unfold bodyLimitExceeded
  cases inForce : transfer.limit with
  | none => exact Or.inl ⟨rfl, rfl⟩
  | some limit =>
    right
    have bound := limit_le counted.stored inForce
    have low := counted.low
    have high := counted.high
    have size : curlOff total = some (total : Int) :=
      curlOff_eq_some (by simp only [longMin]; omega) (by simp only [longMax]; omega)
    have room : curlOff (limit - transfer.downloadedBodyBytes) = some (limit - transfer.downloadedBodyBytes) :=
      curlOff_eq_some (by simp only [longMin, longMax] at *; omega) (by omega)
    simp only [size, room, Option.bind_eq_bind, Option.bind_some]
    by_cases exceeds : (limit : Int) - transfer.downloadedBodyBytes < total
    · rw [if_pos exceeds]
      exact Or.inr ⟨limit, rfl, by omega, rfl⟩
    · have sum : curlOff (transfer.downloadedBodyBytes + total) = some (transfer.downloadedBodyBytes + total) :=
        curlOff_eq_some (by simp only [longMin]; omega) (by omega)
      rw [if_neg exceeds, sum]
      exact Or.inl ⟨limit, rfl, by omega, rfl⟩

/-! ## The callbacks -/

theorem deliver_default (handler : transfer.handler = .defaultBody) : transfer.deliver chunk =
    { transfer with bodyData := some (transfer.bodyData.getD [] ++ chunk.stream) } := by
  rw [deliver, handler]

theorem deliver_proc (handler : transfer.handler = .bodyProc) : transfer.deliver chunk =
    { transfer with yielded := transfer.yielded ++ [chunk.stream] } := by
  rw [deliver, handler]

/-- The counter and the history have no part in a delivery. -/
theorem deliver_with (chunk : BodyChunk) (transfer : BodyTransfer) (counter : Int)
    (accepted : List Accepted) :
    { transfer with downloadedBodyBytes := counter, accepted := accepted }.deliver chunk =
      { transfer.deliver chunk with downloadedBodyBytes := counter, accepted := accepted } := by
  obtain ⟨easy, handler, _, _, _, _, _, _⟩ := transfer
  cases handler with
  | defaultBody => rfl
  | bodyProc => rfl

theorem receive_of_exceeded {middle : BodyTransfer}
    (exceeded : transfer.bodyLimitExceeded chunk.total = some (true, middle)) :
    transfer.receive chunk outcome = some (0, middle) := by
  unfold receive defaultBodyHandler procDataHandlerBody
  rw [exceeded]
  cases transfer.handler with
  | defaultBody => rfl
  | bodyProc => rfl

/-- Under the limit, a callback delivers the chunk; only the handler may then leave an error. -/
theorem receive_of_accepted {middle : BodyTransfer}
    (accepted : transfer.bodyLimitExceeded chunk.total = some (false, middle))
    (sameHandler : middle.handler = transfer.handler) :
    ∃ returned error, transfer.receive chunk outcome =
      some (returned, { middle.deliver chunk with callbackError := error }) := by
  unfold receive defaultBodyHandler procDataHandlerBody
  rw [accepted]
  cases handler : transfer.handler with
  | defaultBody =>
    rw [deliver_default (sameHandler.trans handler)]
    exact ⟨chunk.total, middle.callbackError, rfl⟩
  | bodyProc =>
    rw [deliver_proc (sameHandler.trans handler)]
    simp only [Option.bind_eq_bind, Option.bind_some]
    cases procDataHandler chunk outcome with
    | ok returned => exact ⟨returned, middle.callbackError, rfl⟩
    | error error => exact ⟨0, middle.callbackError.or (some error), rfl⟩

/-- The two ends of a callback. -/
theorem receive_cases (counted : Counted transfer) (chunk : BodyChunk) (outcome : ProcOutcome) :
    (∃ returned error counter, transfer.receive chunk outcome = some (returned,
        { transfer.deliver chunk with
          callbackError := error
          downloadedBodyBytes := counter
          accepted := ⟨transfer.limit, chunk.total, transfer.limit.isSome⟩ :: transfer.accepted }) ∧
      (transfer.limit = none ∧ counter = transfer.downloadedBodyBytes ∨
        ∃ limit, transfer.limit = some limit ∧ counter = transfer.downloadedBodyBytes + chunk.total ∧
          counter ≤ limit)) ∨
    (transfer.receive chunk outcome = some (0, transfer.storeCallbackError limitError) ∧
      ∃ limit, transfer.limit = some limit ∧ limit < transfer.downloadedBodyBytes + chunk.total) := by
  rcases @bodyLimitExceeded_cases transfer chunk.total counted chunk.small with
    ⟨noLimit, verdict⟩ | ⟨limit, inForce, fits, verdict⟩ | ⟨limit, inForce, exceeds, verdict⟩
  · left
    obtain ⟨returned, error, received⟩ := @receive_of_accepted transfer chunk outcome _ verdict rfl
    have same := deliver_with chunk transfer transfer.downloadedBodyBytes
      (⟨none, chunk.total, false⟩ :: transfer.accepted)
    rw [same] at received
    rw [noLimit]
    exact ⟨returned, error, _, received, Or.inl ⟨rfl, rfl⟩⟩
  · left
    obtain ⟨returned, error, received⟩ := @receive_of_accepted transfer chunk outcome _ verdict rfl
    rw [deliver_with] at received
    rw [inForce]
    exact ⟨returned, error, _, received, Or.inr ⟨limit, rfl, rfl, fits⟩⟩
  · right
    exact ⟨receive_of_exceeded verdict, limit, inForce, exceeds⟩

/-! ## Every run -/

theorem deliver_easy (transfer : BodyTransfer) (chunk : BodyChunk) :
    (transfer.deliver chunk).easy = transfer.easy := by
  unfold deliver
  cases transfer.handler with
  | defaultBody => rfl
  | bodyProc => rfl

theorem deliver_deliveredBytes (transfer : BodyTransfer) (chunk : BodyChunk) :
    (transfer.deliver chunk).deliveredBytes = chunk.total + transfer.deliveredBytes := by
  have length := chunk.length
  unfold deliver deliveredBytes BodyChunk.total
  cases transfer.handler with
  | defaultBody =>
    simp only [Option.getD_some, List.length_append]
    omega
  | bodyProc =>
    simp only [List.flatten_append, List.flatten_cons, List.flatten_nil, List.append_nil, List.length_append]
    omega

/-- What `max_body_bytes=` stores fits into a `curl_off_t`. -/
theorem maxBodyBytesSet_stored {easy : Easy} (stored : ∀ limit ∈ easy.maxBodyBytes, (limit : Int) ≤ longMax)
    (bytes : Option Int) :
    ∀ limit ∈ (finalState (Easy.maxBodyBytesSet bytes) easy).maxBodyBytes, (limit : Int) ≤ longMax := by
  cases bytes with
  | none => exact nofun
  | some bytes =>
    unfold Easy.maxBodyBytesSet
    dsimp only
    split
    · exact stored
    · rename_i small
      split
      · exact stored
      · rename_i notNegative
        split
        · exact nofun
        · intro limit given
          rw [← Option.some.inj given]
          omega

theorem counted_setup {easy : Easy} (stored : ∀ limit ∈ easy.maxBodyBytes, (limit : Int) ≤ longMax)
    (handler : BodyHandler) : Counted (setup handler easy) where
  counter := rfl
  low := le_refl _
  high := show (0 : Int) ≤ longMax by decide
  stored := stored
  delivered := by
    cases handler with
    | defaultBody => rfl
    | bodyProc => rfl

theorem Counted.setUpAgain (counted : Counted transfer) (handler : BodyHandler) :
    Counted (transfer.setUpAgain true handler) where
  counter := by
    obtain ⟨total, uncounted⟩ := totalBytes_uncounted transfer.accepted
    simp only [BodyTransfer.setUpAgain, if_true, uncountedBytes, acceptedBytes, uncounted, total]
    omega
  low := le_refl _
  high := show (0 : Int) ≤ longMax by decide
  stored := counted.stored
  delivered := by
    have delivered := counted.delivered
    have total := (totalBytes_uncounted transfer.accepted).1
    have empty : ((startBuffer handler).getD []).length = 0 := by cases handler <;> rfl
    simp only [deliveredBytes, acceptedBytes, BodyTransfer.setUpAgain, if_true] at delivered ⊢
    omega

/-- Every event keeps the counter right. -/
theorem Counted.step (counted : Counted transfer) {event : Event} (steps : transfer.step event = some after) :
    Counted after := by
  cases event with
  | maxBodyBytesSet bytes =>
    cases steps
    exact ⟨counted.counter, counted.low, counted.high, maxBodyBytesSet_stored counted.stored bytes,
      counted.delivered⟩
  | setup reachesBody handler =>
    cases steps
    cases reachesBody with
    | false => exact ⟨counted.counter, counted.low, counted.high, counted.stored, counted.delivered⟩
    | true => exact counted.setUpAgain handler
  | chunk chunk outcome =>
    obtain ⟨result, received, rfl⟩ := Option.map_eq_some_iff.mp steps
    have counter := counted.counter
    have low := counted.low
    have high := counted.high
    rcases receive_cases counted chunk outcome with ⟨returned, error, sum, same, judged⟩ | ⟨same, -⟩
    · cases same.symm.trans received
      have stored : ∀ limit ∈ (transfer.deliver chunk).easy.maxBodyBytes, (limit : Int) ≤ longMax := by
        rw [deliver_easy]
        exact counted.stored
      have delivered := deliver_deliveredBytes transfer chunk
      rw [counted.delivered] at delivered
      rcases judged with ⟨noLimit, rfl⟩ | ⟨limit, inForce, rfl, fits⟩
      · refine ⟨?_, low, high, stored, delivered⟩
        simp only [uncountedBytes, acceptedBytes, noLimit, List.filter_cons, Option.isSome_none, Bool.not_false,
          if_true, totalBytes] at counter ⊢
        omega
      · have bound := limit_le counted.stored inForce
        refine ⟨?_, by simp only; omega, by simp only; omega, stored, delivered⟩
        simp only [uncountedBytes, acceptedBytes, inForce, List.filter_cons, Option.isSome_some, Bool.not_true,
          Bool.false_eq_true, if_false, totalBytes] at counter ⊢
        omega
    · cases same.symm.trans received
      exact ⟨counter, low, high, counted.stored, counted.delivered⟩

/-- No step of the accounting overflows. -/
theorem Counted.exists_step (counted : Counted transfer) (event : Event) :
    ∃ after, transfer.step event = some after := by
  cases event with
  | maxBodyBytesSet bytes => exact ⟨_, rfl⟩
  | setup reachesBody handler => exact ⟨_, rfl⟩
  | chunk chunk outcome =>
    rcases receive_cases counted chunk outcome with ⟨returned, error, sum, same, -⟩ | ⟨same, -⟩
    · exact ⟨_, Option.map_eq_some_iff.mpr ⟨_, same, rfl⟩⟩
    · exact ⟨_, Option.map_eq_some_iff.mpr ⟨_, same, rfl⟩⟩

/-- Where all bytes have been counted, a chunk is let through exactly if it fits. -/
theorem Counted.chunkLaw (counted : Counted transfer)
    (countsAll : transfer.limit = none ∨ transfer.uncountedBytes = 0)
    (received : transfer.receive chunk outcome = some (returned, after)) :
    ChunkLaw transfer chunk returned after := by
  have counter := counted.counter
  rcases receive_cases counted chunk outcome with ⟨_, error, sum, same, judged⟩ | ⟨same, limit, inForce, exceeds⟩
  · cases same.symm.trans received
    refine ⟨fun _ => ⟨rfl, rfl, rfl⟩, fun unfit => absurd ?_ unfit⟩
    intro limit inForce
    rcases judged with ⟨noLimit, -⟩ | ⟨other, isLimit, rfl, fits⟩
    · rw [noLimit] at inForce
      cases inForce
    · rw [isLimit] at inForce countsAll
      cases inForce
      have all := countsAll.resolve_left nofun
      omega
  · cases same.symm.trans received
    refine ⟨fun fits => ?_, fun _ => ⟨rfl, rfl, rfl, rfl, ?_⟩⟩
    · have within := fits limit inForce
      rw [inForce] at countsAll
      have all := countsAll.resolve_left nofun
      omega
    · unfold storeCallbackError
      cases transfer.callbackError with
      | none => rfl
      | some error => rfl

/-- A setup changes neither the bytes let through nor the limit of the last chunk. -/
theorem WithinLimit.setUpAgain (within : WithinLimit transfer) (handler : BodyHandler) :
    WithinLimit (transfer.setUpAgain true handler) := by
  intro last rest limit same inForce
  have total : (transfer.setUpAgain true handler).acceptedBytes = transfer.acceptedBytes :=
    (totalBytes_uncounted transfer.accepted).1
  rw [total]
  cases accepted : transfer.accepted with
  | nil =>
    simp only [BodyTransfer.setUpAgain, if_true, accepted, List.map_nil] at same
    exact absurd same.symm (List.cons_ne_nil last rest)
  | cons chunk chunks =>
    simp only [BodyTransfer.setUpAgain, if_true, accepted, List.map_cons] at same
    rw [← (List.cons.inj same).1] at inForce
    exact within chunk chunks limit accepted inForce

theorem WithinLimit.step (counted : Counted transfer) (within : WithinLimit transfer) {event : Event}
    (countsAll : CountsAll transfer event) (steps : transfer.step event = some after) : WithinLimit after := by
  cases event with
  | maxBodyBytesSet bytes =>
    cases steps
    exact within
  | setup reachesBody handler =>
    cases steps
    cases reachesBody with
    | false => exact within
    | true => exact within.setUpAgain handler
  | chunk chunk outcome =>
    obtain ⟨⟨returned, after'⟩, received, rfl⟩ := Option.map_eq_some_iff.mp steps
    have law := counted.chunkLaw countsAll received
    by_cases fits : transfer.Fits chunk
    · obtain ⟨-, -, accepted⟩ := law.accepts fits
      intro last rest limit same inForce
      rw [acceptedBytes_cons accepted, Nat.add_comm]
      rw [accepted] at same
      rw [← (List.cons.inj same).1] at inForce
      exact fits limit inForce
    · obtain ⟨-, -, -, accepted, -⟩ := law.refuses fits
      unfold WithinLimit acceptedBytes
      rw [accepted]
      exact within

/-- In every run in which no chunk finds a limit in force after bytes were let through without one or before
the last setup, the bytes let through stay within the limit, chunks are let through exactly if they fit, and nothing overflows. -/
theorem bodyLimit_run {easy : Easy} {handler : BodyHandler}
    (stored : ∀ limit ∈ easy.maxBodyBytes, (limit : Int) ≤ longMax)
    (reached : Reached BodyTransfer.step CountsAll (setup handler easy) transfer) :
    WithinLimit transfer ∧ transfer.deliveredBytes = transfer.acceptedBytes ∧
    (∀ event, ∃ after, transfer.step event = some after) ∧
    ∀ chunk outcome returned after, CountsAll transfer (.chunk chunk outcome) →
      transfer.receive chunk outcome = some (returned, after) → ChunkLaw transfer chunk returned after := by
  have counted {transfer : BodyTransfer}
      (reached : Reached BodyTransfer.step CountsAll (setup handler easy) transfer) : Counted transfer :=
    reached.invariant (counted_setup stored handler) fun _ _ _ before _ steps => before.step steps
  have within : WithinLimit transfer :=
    reached.invariant_of (fun _ => counted) nofun fun _ _ _ known before ok steps => before.step known ok steps
  have now := counted reached
  exact ⟨within, now.delivered, now.exists_step, fun _ _ _ _ countsAll received => now.chunkLaw countsAll received⟩

def threeBytes : BodyChunk := ⟨1, 3, "abc".toList, rfl, by decide⟩

theorem bodyLimit_run_example : ∃ transfer,
    runSteps BodyTransfer.step (setup .defaultBody (Easy.new none))
      [.maxBodyBytesSet (some 4), .chunk threeBytes .other, .chunk threeBytes .other] = some transfer ∧
    WithinLimit transfer := by
  have meets : RunOk BodyTransfer.step CountsAll (setup .defaultBody (Easy.new none))
      [.maxBodyBytesSet (some 4), .chunk threeBytes .other, .chunk threeBytes .other] := by
    refine ⟨trivial, ?_⟩
    rintro _ ⟨⟩
    refine ⟨Or.inr rfl, ?_⟩
    rintro _ ⟨⟩
    refine ⟨Or.inr rfl, ?_⟩
    rintro _ ⟨⟩
    trivial
  have stored : ∀ limit ∈ (Easy.new none).maxBodyBytes, (limit : Int) ≤ longMax := nofun
  exact ⟨_, rfl, (bodyLimit_run stored (Reached.start.run meets rfl)).1⟩

/-- After these events three more bytes are let through, and no error is stored. -/
def ExceedsFour (between : List Event) : Prop :=
  ∃ transfer, runSteps BodyTransfer.step (setup .defaultBody (Easy.new none))
      (between ++ [.chunk threeBytes .other]) = some transfer ∧
    transfer.limit = some 4 ∧ transfer.deliveredBytes = 6 ∧ transfer.callbackError = none ∧
    ¬WithinLimit transfer

/-- With a limit of four bytes set after three have been let through, three more are; and so they are after a
setup, where the limit was there from the start. -/
theorem lateLimit_isExceeded :
    ExceedsFour [.chunk threeBytes .other, .maxBodyBytesSet (some 4)] ∧
    ExceedsFour [.maxBodyBytesSet (some 4), .chunk threeBytes .other, .setup true .defaultBody] := by
  constructor
  · refine ⟨_, rfl, rfl, rfl, rfl, ?_⟩
    intro within
    exact absurd (within _ _ 4 rfl rfl) (by decide)
  · refine ⟨_, rfl, rfl, rfl, rfl, ?_⟩
    intro within
    exact absurd (within _ _ 4 rfl rfl) (by decide)

end BodyTransfer
end Curb
