import Curb.Misc.Runs
import Curb.Multi.Attachment

/-!
# Handles and multis under the collector

The mark functions of a handle and of a multi (`curb_easy.c:1198-1206`, `curb_multi.c:2335-2348`) and the
free functions (`curb_easy.c:1282-1366`, `curb_multi.c:490-504`), between the operations of the program.
The collector sweeps lazily: what it has found to be garbage is freed piece by piece, in any order, while
the program goes on.
-/

namespace Curb.Attachment
open Curb.Misc Curb.Ruby

/-- What the collector frees. -/
inductive Object where
  | easy (easy : ObjectId)
  | multi (multi : ObjectId)
  deriving DecidableEq, Repr

/-- The handles a multi is to keep alive: `curl_multi_mark` marks the attached ones, `@requests` holds the
requested ones, and the callbacks of a completion run on a stack that holds its handle. -/
def Multi.members (state : Multi) : List ObjectId :=
  state.attached ++ state.requests ++ state.completions.map Completion.easy

/-- What marking an object marks. -/
def System.marks (system : System) : Object → List Object
  | .easy easy => (system.easies easy).multi.toList.map .multi
  | .multi multi => (system.multis multi).members.map .easy

/-- The objects an operation is called with. -/
def Operation.objects : Operation → List Object
  | .add multi easy .. | .remove multi easy _ | .completeBegin multi easy .. => [.multi multi, .easy easy]
  | .cancel multi _ | .close _ multi _ | .performBegin multi | .performReturn multi .. | .performRaise multi _
  | .completeEnd multi _ => [.multi multi]
  | .easyMultiSet easy multi _ => .easy easy :: multi.toList.map .multi
  | .easyClose easy _ | .nativeState easy .. => [.easy easy]

/-- The handles and multis, those that are garbage, and those whose free function has run. -/
structure Heap where
  system : System
  garbage : List Object
  freed : List Object

namespace Heap

/-- `ruby_curl_multi_pointer_if_compatible` (`curb_easy.c:1282-1304`). A multi that has been freed has left
a slot with nothing in it, something else, or another multi. -/
def multiPointer (heap : Heap) (reused : Option ObjectId) (multi : ObjectId) : Option ObjectId :=
  if .multi multi ∈ heap.freed then reused else some multi

/-- The multi the free function of a handle finds. -/
def found (heap : Heap) (easy : ObjectId) (reused : Option ObjectId) : Option ObjectId :=
  (heap.system.easies easy).multi.bind (heap.multiPointer reused)

/-- `ruby_curl_easy_free` (`curb_easy.c:1306-1357`). -/
def easyFree (heap : Heap) (easy : ObjectId) (reused : Option ObjectId) (reply : Reply) : SystemM Unit := do
  freeFromMulti (heap.found easy reused) easy reply
  modifyEasy easy fun state => { state with multi := none }

/-- `curl_multi_free` (`curb_multi.c:490-504`). -/
def multiFree (multi : ObjectId) : SystemM Unit := do
  detachAll multi
  modifyMulti multi fun state => { state with
    handle := false
    held := [] }

/-- What happens to the heap. -/
inductive Event where
  | operation (operation : Operation)
  /-- A mark phase ends and has not come by these objects. -/
  | marked (dead : List Object)
  | freeEasy (easy : ObjectId) (reused : Option ObjectId) (reply : Reply)
  | freeMulti (multi : ObjectId)

/-- The references to idle handles are weak ones: they go with their handles. -/
def forgetIdle (dead : List Object) (system : System) : System :=
  { system with multis := fun multi => { system.multis multi with
      idleEasyReferences :=
        (system.multis multi).idleEasyReferences.filter fun easy => .easy easy ∉ dead } }

/-- One event. -/
def step (heap : Heap) : Event → Option Heap
  | .operation operation => some { heap with system := Attachment.step heap.system operation }
  | .marked dead => some { heap with
      system := forgetIdle dead heap.system
      garbage := heap.garbage ++ dead }
  | .freeEasy easy reused reply => some { heap with
      system := finalState (heap.easyFree easy reused reply) heap.system
      freed := .easy easy :: heap.freed }
  | .freeMulti multi => some { heap with
      system := finalState (multiFree multi) heap.system
      freed := .multi multi :: heap.freed }

/-- New handles and new multis. -/
def fresh : Heap := ⟨Attachment.fresh, [], []⟩

/-! ## What the collector and libcurl answer for -/

/-- libcurl does not take a handle off a multi when another multi has it. -/
def RefusesOthers (system : System) (multi easy : ObjectId) (reply : Reply) : Prop :=
  ∀ other, other ≠ multi → easy ∈ (system.multis other).attached → reply ≠ .ok ()

/-- libcurl takes the handle off the multi that has it. In a callback of a transfer of this multi it does not
(`CURLM_RECURSIVE_API_CALL`). -/
def Grants (system : System) (easy : ObjectId) (reply : Reply) : Prop :=
  ∀ multi, easy ∈ (system.multis multi).attached → reply = .ok ()

/-- What libcurl answers to an operation that takes handles off. `Easy#multi=` and `Easy#close` have taken
the handle out of the native table by the time libcurl is asked, and a refusal does not bring it back: they are
to be called where libcurl lets the handle go. -/
def Answered (system : System) : Operation → Prop
  | .remove multi easy reply => RefusesOthers system multi easy reply
  | .cancel multi replies =>
      ∀ easy ∈ (system.multis multi).requests, RefusesOthers system multi easy (replies easy)
  | .close permanent multi replies =>
      (∀ easy ∈ (system.multis multi).requests, RefusesOthers system multi easy (replies easy)) ∧
        (permanent = true → ∀ easy ∈ (system.multis multi).idleEasyReferences,
          Grants system easy (replies easy))
  | .performReturn multi autoclose replies => autoclose = true →
      ∀ easy ∈ (system.multis multi).requests, RefusesOthers system multi easy (replies easy)
  | .easyMultiSet easy _ reply | .easyClose easy reply => Grants system easy reply
  | _ => True

/-- A mark phase comes by what it comes by marks, and by a handle whose callback runs. -/
structure Unmarked (heap : Heap) (dead : List Object) : Prop where
  closed : ∀ object, object ∉ heap.garbage → object ∉ dead →
    ∀ marked ∈ heap.system.marks object, marked ∉ dead
  running : ∀ easy, .easy easy ∈ dead → (heap.system.easies easy).callbackActive = false

/-- The program has no garbage, garbage is freed once, no handle is closed or gets another multi where libcurl
does not let it go, and when garbage is freed libcurl refuses a removal only while a callback of a transfer of
the multi runs or of a handle the multi does not hold. -/
def StepOk (heap : Heap) : Event → Prop
  | .operation operation =>
      (∀ object ∈ operation.objects, object ∉ heap.garbage) ∧ Answered heap.system operation
  | .marked dead => Unmarked heap dead
  | .freeEasy easy reused reply => .easy easy ∈ heap.garbage ∧ .easy easy ∉ heap.freed ∧
      (∀ multi ∈ reused, .multi multi ∉ heap.freed) ∧
      ∀ multi ∈ heap.found easy reused, reply = .ok () ∨
        heap.system.curlOf easy ∉ (heap.system.multis multi).held ∨
        ∃ other ∈ (heap.system.multis multi).attached, (heap.system.easies other).callbackActive = true
  | .freeMulti multi => .multi multi ∈ heap.garbage ∧ .multi multi ∉ heap.freed

end Heap

end Curb.Attachment
