import Mathlib.Logic.Function.Basic
import Curb.Safety.Apply

/-!
# The network policy of attached handles

`Curl::Multi` applies the safety settings to every handle again when it performs, and sets a
handle up again where its safety signature has changed since the last setup
(`lib/curl/multi.rb:339-484`). The world of this file is the handles, the multis' tables of
requests and signatures and the settings of the Ractor; the operations are those that touch
the policy, in any order.
-/

namespace Curb
open Curb.Misc Curb.Ruby Curb.Net

namespace Easy

/-- The part of `ruby_curl_easy_cleanup` that drops the prepared rules
(`curb_easy.c:4383-4384`). -/
def cleanupPolicy : EasyM Unit := do
  curbClearNetworkAllowedCidrRules
  curbClearNetworkAllowedHosts

/-- The attributes the policy checks but does not keep. -/
structure Attributes where
  url : Option Text
  resolve : Option OptionValue
  connectTo : Option OptionValue
  dohUrl : Option Text
  proxyUrl : Option Text
  noproxy : Option Text
  proxyTunnel : Bool
  maxBodyBytes : Option Nat

/-- Assignments to these attributes. -/
def attributesSet (attributes : Attributes) : EasyM Unit :=
  modify fun easy => { easy with
    url := attributes.url
    resolve := attributes.resolve
    connectTo := attributes.connectTo
    dohUrl := attributes.dohUrl
    proxyUrl := attributes.proxyUrl
    noproxy := attributes.noproxy
    proxyTunnel := attributes.proxyTunnel
    maxBodyBytes := attributes.maxBodyBytes }

end Easy

/-- `__curb_safety_signature_for` (`multi.rb:343-354`), with `safety_signature_for`
(`curl.rb:239-247`) as its first part. -/
structure SafetySignature where
  safety : Option (Nat × Nat)
  networkPolicy : NetworkPolicy
  allowedHosts : Option (List Text)
  allowedCidrs : Option (List Text)
  deriving DecidableEq

/-- The handles, the multis and the safety settings. -/
structure World where
  safetyConfig : Option SafetyConfig
  safetyGeneration : Nat
  easies : ObjectId → Easy
  /-- The multi whose native table holds the handle. -/
  attachedTo : ObjectId → Option ObjectId
  /-- `Curl::Multi#requests`, in the order of the additions. -/
  requests : ObjectId → List ObjectId
  /-- `__curb_native_safety_signatures` of a multi. -/
  safetySignatures : ObjectId → ObjectId → Option SafetySignature

namespace World

/-- An operation on the world; a raise keeps what it has written so far. -/
abbrev WorldM := EStateM RubyError World

/-- No settings, no handle attached, every handle a new one. -/
def fresh : World where
  safetyConfig := none
  safetyGeneration := 0
  easies := fun _ => Easy.new none
  attachedTo := fun _ => none
  requests := fun _ => []
  safetySignatures := fun _ _ => none

/-- The world with another state of one handle. -/
def setEasy (world : World) (easy : ObjectId) (state : Easy) : World :=
  { world with easies := Function.update world.easies easy state }

/-- The world with the handle in or out of a native table. -/
def setAttached (world : World) (easy : ObjectId) (multi : Option ObjectId) : World :=
  { world with attachedTo := Function.update world.attachedTo easy multi }

/-- The world with other requests of one multi. -/
def setRequests (world : World) (multi : ObjectId) (requests : List ObjectId) : World :=
  { world with requests := Function.update world.requests multi requests }

/-- The world with another signature of one handle in one multi. -/
def setSignature (world : World) (multi easy : ObjectId) (signature : Option SafetySignature) :
    World :=
  let ofMulti := Function.update (world.safetySignatures multi) easy signature
  { world with safetySignatures := Function.update world.safetySignatures multi ofMulti }

@[simp] theorem setEasy_easies_self (world : World) (easy : ObjectId) (state : Easy) :
    (world.setEasy easy state).easies easy = state := Function.update_self ..

theorem setEasy_easies_of_ne (world : World) {easy other : ObjectId} (state : Easy)
    (ne : other ≠ easy) : (world.setEasy easy state).easies other = world.easies other :=
  Function.update_of_ne ne ..

@[simp] theorem setAttached_attachedTo_self (world : World) (easy : ObjectId)
    (multi : Option ObjectId) : (world.setAttached easy multi).attachedTo easy = multi :=
  Function.update_self ..

theorem setAttached_attachedTo_of_ne (world : World) {easy other : ObjectId}
    (multi : Option ObjectId) (ne : other ≠ easy) :
    (world.setAttached easy multi).attachedTo other = world.attachedTo other :=
  Function.update_of_ne ne ..

@[simp] theorem setRequests_requests_self (world : World) (multi : ObjectId)
    (requests : List ObjectId) : (world.setRequests multi requests).requests multi = requests :=
  Function.update_self ..

theorem setRequests_requests_of_ne (world : World) {multi other : ObjectId}
    (requests : List ObjectId) (ne : other ≠ multi) :
    (world.setRequests multi requests).requests other = world.requests other :=
  Function.update_of_ne ne ..

theorem setSignature_of_ne (world : World) (multi other : ObjectId) {easy otherEasy : ObjectId}
    (signature : Option SafetySignature) (ne : otherEasy ≠ easy) :
    (world.setSignature multi easy signature).safetySignatures other otherEasy =
      world.safetySignatures other otherEasy := by
  by_cases same : other = multi
  · rw [same]
    simp [setSignature, Function.update_of_ne ne]
  · simp [setSignature, Function.update_of_ne same]

/-- An operation on one of the handles. -/
def onEasy (easy : ObjectId) (operation : EasyM Unit) : WorldM Unit := fun world =>
  match operation (world.easies easy) with
  | .ok () state => .ok () (world.setEasy easy state)
  | .error error state => .error error (world.setEasy easy state)

/-- `safety_active_for?` (`curl.rb:235-237`). -/
def safetyActiveFor (config : Option SafetyConfig) (easy : Easy) : Bool :=
  config.isSome || easy.safetyOverride.isSome

/-- `__curb_safety_signature_for` (`multi.rb:343-354`). -/
def safetySignatureFor (world : World) (easy : Easy) : SafetySignature where
  safety :=
    if safetyActiveFor world.safetyConfig easy then
      some (world.safetyGeneration, easy.safetyOverrideGeneration)
    else none
  networkPolicy := easy.networkPolicy
  allowedHosts := easy.allowedHosts
  allowedCidrs := easy.allowedCidrs

/-- `bump_safety_generation!` after `safety_config` is replaced: `safe!` and `clear_safe!`
(`curl.rb:189-194`, `230-233`). -/
def safetyConfigSet (config : Option SafetyConfig) : WorldM Unit :=
  modify fun world => { world with
    safetyConfig := config
    safetyGeneration := world.safetyGeneration + 1 }

/-- `Easy#safe_http!`. -/
def safeHttp (ruby : RubyLibrary) (net : InetPton) (easy : ObjectId) : WorldM Unit := do
  let world ← get
  onEasy easy (Easy.safeHttp ruby net world.safetyConfig)

/-- `ruby_curl_multi_add` (`curb_multi.c:742-793`); `reply` is what comes of libcurl's answer
to `curl_multi_add_handle`. -/
def nativeAdd (net : InetPton) (multi easy : ObjectId) (setup : Easy.SetupReplies)
    (reply : Except RubyError Unit) : WorldM Unit := do
  let world ← get
  match world.attachedTo easy with
  | some owner =>
      if owner = multi then pure ()
      else
        throw ⟨.runtimeError,
          "Cannot add an active Curl::Easy handle to another Curl::Multi".toList⟩
  | none => do
      onEasy easy (Easy.setup net setup)
      match reply with
      | .ok () => modify fun world => world.setAttached easy (some multi)
      | .error error => do
          onEasy easy Easy.cleanupPolicy
          throw error

/-- `Multi#add` (`multi.rb:442-453`). While a callback's exception is pending it does nothing,
which is no operation here. -/
def add (ruby : RubyLibrary) (net : InetPton) (multi easy : ObjectId) (setup : Easy.SetupReplies)
    (reply : Except RubyError Unit) : WorldM Unit := do
  let world ← get
  if easy ∈ world.requests multi then pure ()
  else
    onEasy easy (Easy.applySafety ruby net world.safetyConfig)
    nativeAdd net multi easy setup reply
    modify fun world => world.setRequests multi (world.requests multi ++ [easy])
    modify fun world =>
      world.setSignature multi easy (some (world.safetySignatureFor (world.easies easy)))

/-- Takes the handle out of both Ruby tables. -/
def removeRequestReference (multi easy : ObjectId) : WorldM Unit := do
  modify fun world => world.setRequests multi ((world.requests multi).erase easy)
  modify fun world => world.setSignature multi easy none

/-- `rb_curl_multi_remove` (`curb_multi.c:819-837`); `reply` is what comes of libcurl's answer to
`curl_multi_remove_handle`. -/
def nativeRemove (easy : ObjectId) : Except RubyError Unit → WorldM Unit
  | .error error => throw error
  | .ok () => do
      onEasy easy Easy.cleanupPolicy
      modify fun world => world.setAttached easy none

/-- `Multi#remove` (`multi.rb:455-461`). -/
def remove (multi easy : ObjectId) (reply : Except RubyError Unit) : WorldM Unit := do
  let world ← get
  if easy ∈ world.requests multi then
    removeRequestReference multi easy
    nativeRemove easy reply

/-- What the completion of a transfer does to the same tables
(`rb_curl_mutli_handle_complete`, `curb_multi.c:1141-1154`): libcurl is asked first. -/
def completed (multi easy : ObjectId) : Except RubyError Unit → WorldM Unit
  | .error error => throw error
  | .ok () => do
      let world ← get
      if world.attachedTo easy = some multi then
        removeRequestReference multi easy
        nativeRemove easy (.ok ())

/-- `Multi#perform` for one request (`multi.rb:430-436`). A setup that raises leaves the recorded
signature. -/
def performEach (ruby : RubyLibrary) (net : InetPton) (multi : ObjectId)
    (setups : ObjectId → Easy.SetupReplies) (easy : ObjectId) : WorldM Unit := do
  let world ← get
  onEasy easy (Easy.applySafety ruby net world.safetyConfig)
  let world ← get
  let signature := world.safetySignatureFor (world.easies easy)
  if world.safetySignatures multi easy ≠ some signature then
    onEasy easy (Easy.setup net (setups easy))
    modify fun world => world.setSignature multi easy (some signature)

/-- `Multi#perform` up to the native loop (`multi.rb:429-437`): it enters the loop exactly when
this returns. -/
def perform (ruby : RubyLibrary) (net : InetPton) (multi : ObjectId)
    (setups : ObjectId → Easy.SetupReplies) : WorldM Unit := do
  let world ← get
  (world.requests multi).forM (performEach ruby net multi setups)

/-- The operations, with what they are given. -/
inductive Operation where
  | safe (config : SafetyConfig)
  | clearSafe
  | safeHttp (easy : ObjectId)
  | attributesSet (easy : ObjectId) (attributes : Easy.Attributes)
  | networkPolicySet (easy : ObjectId) (policy : PolicyArgument)
  | allowedHostsSet (easy : ObjectId) (hosts : ListArgument)
  | allowedCidrsSet (easy : ObjectId) (cidrs : ListArgument)
  | setUnixSocketPath (easy : ObjectId) (path : Option Text)
  | setDnsServers (easy : ObjectId) (servers : Option Text) (accepted : Bool)
  | add (multi easy : ObjectId) (setup : Easy.SetupReplies) (reply : Except RubyError Unit)
  | remove (multi easy : ObjectId) (reply : Except RubyError Unit)
  | completed (multi easy : ObjectId) (reply : Except RubyError Unit)
  | perform (multi : ObjectId) (setups : ObjectId → Easy.SetupReplies)

/-- What an operation does. -/
def execute (ruby : RubyLibrary) (net : InetPton) : Operation → WorldM Unit
  | .safe config => safetyConfigSet (some config)
  | .clearSafe => safetyConfigSet none
  | .safeHttp easy => safeHttp ruby net easy
  | .attributesSet easy attributes => onEasy easy (Easy.attributesSet attributes)
  | .networkPolicySet easy policy => onEasy easy (Easy.networkPolicySet policy)
  | .allowedHostsSet easy hosts => onEasy easy (Easy.allowedHostsSet hosts)
  | .allowedCidrsSet easy cidrs => onEasy easy (Easy.allowedCidrsSet net cidrs)
  | .setUnixSocketPath easy path => onEasy easy (Easy.setUnixSocketPath path)
  | .setDnsServers easy servers accepted => onEasy easy (Easy.setDnsServers servers accepted)
  | .add multi easy setup reply => add ruby net multi easy setup reply
  | .remove multi easy reply => remove multi easy reply
  | .completed multi easy reply => completed multi easy reply
  | .perform multi setups => perform ruby net multi setups

/-- The world after these operations; one that raises is rescued by the caller. -/
def run (ruby : RubyLibrary) (net : InetPton) (operations : List Operation) (world : World) : World :=
  operations.foldl (fun world operation => finalState (execute ruby net operation) world) world

end World
end Curb
