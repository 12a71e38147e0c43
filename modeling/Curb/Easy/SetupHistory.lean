import Curb.Easy.Setup

/-!
# What a setup keeps of the past

A setup gives libcurl most options whatever their attributes are, and some only where the attribute is
not `nil` or is positive. `branches` says for every option which values a setup has for it and when,
`leftBy` what a history has left under it. The result is where the two make the options after a setup
those of a new handle with the same attributes.
-/

namespace Curb.Setup
open Curb.Misc Curb.Ruby

section
variable (libcurl : Libcurl) (build : Build) (attributes : Attributes)

/-- A value for an option, and whether the branch that gives it is taken. -/
structure Branch where
  taken : Bool
  value : Value

def Branch.call (option : NativeOption) (branch : Branch) : Call :=
  ⟨option, branch.value, branch.taken⟩

def always (value : Value) : List Branch := [⟨true, value⟩]

def only (taken : Bool) (value : Value) : List Branch := [⟨taken, value⟩]

/-- A string that is given where it is not `nil`. -/
def given (key : OptsKey) : List Branch :=
  only (attributes.opts key).isSome (text (attributes.opts key))

/-- What `USERPWD` is given, if it is. -/
def givesUserpwd : Bool :=
  (attributes.opts .userpwd).isSome ||
    (attributes.opts .username).isNone && (attributes.opts .password).isNone

/-- The halves of the string for `USERPWD`. -/
def userpwdHalves : Option Text × Option Text :=
  ((attributes.opts .userpwd).map fun str => libcurl.userpwd (cString str)).getD (none, none)

/-- The values of a setup for an option, in the order it gives them. -/
def branches : NativeOption → List Branch
  | .url => always (text (attributes.opts .url))
  | .dohUrl => always (text (attributes.opts .dohUrl))
  | .dnsServers => always (text attributes.dnsServers)
  | .prereqFunction =>
      always (if attributes.allowedHosts.isSome then .function .hostAllowlistPrereq else .null)
  | .prereqData => always (if attributes.allowedHosts.isSome then .rbce else .null)
  | .openSocketFunction =>
      always (if isPublic attributes then .function .publicNetworkOpensocket
        else .null)
  | .openSocketData => always (if isPublic attributes then .rbce else .null)
  | .freshConnect => always (flag (isPublic attributes))
  | .forbidReuse =>
      always (.long (if isPublic attributes then 1
        else if attributes.forbidReuseSet then attributes.forbidReuse else 0))
  | .unixSocketPath =>
      only (isPublic attributes && !attributes.booleans .allowUnixSocket) .null
  | .interface => always (text (attributes.opts .interfaceHm))
  | .username =>
      always (text (attributes.opts .username)) ++
        only (givesUserpwd attributes) (text (userpwdHalves libcurl attributes).1)
  | .password =>
      always (text (attributes.opts .password)) ++
        only (givesUserpwd attributes) (text (userpwdHalves libcurl attributes).2)
  | .proxy =>
      always (if publicPolicyDisablesProxy attributes then .string []
        else text (attributes.opts .proxyUrl))
  | .proxyUserpwd =>
      always (if publicPolicyDisablesProxy attributes then .null
        else text (attributes.opts .proxypwd))
  | .noproxy => always (text (attributes.opts .noproxy))
  | .writeFunction =>
      always (.function (if attributes.procs .bodyProc then .procDataHandlerBody
        else .defaultBodyHandler))
  | .writeData | .headerData | .xferInfoData | .debugData => always .rbce
  | .headerFunction =>
      always (.function (if attributes.procs .headerProc then .procDataHandlerHeader
        else .defaultHeaderHandler))
  | .encoding => given attributes .encoding
  | .xferInfoFunction => only (attributes.procs .progressProc) (.function .procXferinfoHandler)
  | .noprogress => always (flag (!attributes.procs .progressProc))
  | .debugFunction =>
      always (if attributes.procs .debugProc then .function .procDebugHandler else .null)
  | .verbose => always (flag (attributes.procs .debugProc || attributes.booleans .verbose))
  | .header => always (flag (attributes.booleans .headerInBody))
  | .followLocation => always (flag (attributes.booleans .followLocation))
  | .maxRedirs =>
      only (!build.clampsMaxRedirs || 0 ≤ attributes.longs .maxRedirs)
        (.long (attributes.longs .maxRedirs))
  | .httpProxyTunnel =>
      always (flag (!publicPolicyDisablesProxy attributes && attributes.booleans .proxyTunnel))
  | .filetime => always (flag (attributes.booleans .fetchFileTime))
  | .sslVerifyPeer => always (flag (attributes.booleans .sslVerifyPeer))
  | .sslVerifyHost => always (.long (attributes.longs .sslVerifyHost))
  | .netrc => always (flag (attributes.booleans .useNetrc))
  | .unrestrictedAuth => always (flag (attributes.booleans .unrestrictedAuth))
  | .timeoutMs => always (.long attributes.timeoutMs)
  | .connectTimeoutMs =>
      always (.long (1000 * attributes.longs .connectTimeout)) ++
        always (.long (attributes.longs .connectTimeoutMs))
  | .dnsCacheTimeout => always (.long (attributes.longs .dnsCacheTimeout))
  | .ignoreContentLength => always (flag (attributes.booleans .ignoreContentLength))
  | .ipResolve => always (.long attributes.resolveMode)
  | .httpVersion => always (.long attributes.httpVersion)
  | .ftpResponseTimeout => always (.long (attributes.longs .ftpResponseTimeout))
  | .lowSpeedLimit => always (.long (attributes.longs .lowSpeedLimit))
  | .lowSpeedTime => always (.long (attributes.longs .lowSpeedTime))
  | .maxRecvSpeedLarge => always (.long (attributes.longs .maxRecvSpeedLarge))
  | .maxSendSpeedLarge => always (.long (attributes.longs .maxSendSpeedLarge))
  | .proxyPort => only (0 < attributes.ports .proxyPort) (.long (attributes.ports .proxyPort))
  | .localPort => only (0 < attributes.ports .localPort) (.long (attributes.ports .localPort))
  | .localPortRange =>
      only (0 < attributes.ports .localPort && 0 < attributes.ports .localPortRange)
        (.long (attributes.ports .localPortRange))
  | .proxyType =>
      only (attributes.longs .proxyType ≠ -2)
        (.long (if attributes.longs .proxyType = -1 then 0 else attributes.longs .proxyType))
  | .httpAuth => only (attributes.httpAuthTypes ≠ 0) (.long attributes.httpAuthTypes)
  | .proxyAuth =>
      only (attributes.longs .proxyAuthTypes ≠ 0) (.long (attributes.longs .proxyAuthTypes))
  | .sslCert => given attributes .cert
  | .sslCertType =>
      only ((attributes.opts .cert).isSome && (attributes.opts .certtype).isSome)
        (text (attributes.opts .certtype))
  | .sslCertPasswd =>
      only ((attributes.opts .cert).isSome && (attributes.opts .certpassword).isSome)
        (text (attributes.opts .certpassword))
  | .sslKey =>
      only ((attributes.opts .cert).isSome && (attributes.opts .certKey).isSome)
        (text (attributes.opts .certKey))
  | .caInfo =>
      only ((attributes.opts .cacert).isSome || build.curlConfigCa.isSome)
        (text ((attributes.opts .cacert).or build.curlConfigCa))
  | .sslVersion => only (0 < attributes.longs .sslVersion) (.long (attributes.longs .sslVersion))
  | .ftpSsl => only (0 < attributes.longs .useSsl) (.long (attributes.longs .useSsl))
  | .ftpFilemethod =>
      only (0 < attributes.longs .ftpFilemethod) (.long (attributes.longs .ftpFilemethod))
  | .userAgent => given attributes .useragent

/-- A setup gives an option a value that libcurl takes. -/
def Overwrites (option : NativeOption) : Prop :=
  ∃ branch ∈ branches libcurl build attributes option,
    branch.taken = true ∧ libcurl.accepts option branch.value = true

end

section
variable {libcurl : Libcurl} {build : Build} {attributes : Attributes}

/-- The calls of a setup for one option. -/
theorem calls_filter {url : Text} (hasUrl : attributes.opts .url = some url) (option : NativeOption) :
    (calls libcurl build attributes url).filter (·.option = option) =
      (branches libcurl build attributes option).map (Branch.call option) := by
  cases option with
  | url =>
    rw [branches, hasUrl]
    rfl
  | _ => rfl

/-- What a setup that returns gives to libcurl. -/
theorem setup_ok (returns : (setup libcurl build attributes).2 = .ok ()) :
    ∃ url, attributes.opts .url = some url ∧
      (setup libcurl build attributes).1 = writes (calls libcurl build attributes url) := by
  unfold setup at returns ⊢
  cases hasUrl : attributes.opts .url with
  | none =>
    rw [hasUrl] at returns
    cases returns
  | some url =>
    rw [hasUrl] at returns
    dsimp only at returns ⊢
    split at returns
    · cases returns
    · rename_i allowed
      rw [if_neg allowed]
      exact ⟨url, rfl, rfl⟩

/-- A setup that returns gives an option an accepted value where one of its branches does. -/
theorem setup_overwrites_iff (returns : (setup libcurl build attributes).2 = .ok ())
    (option : NativeOption) :
    (∃ write ∈ (setup libcurl build attributes).1,
        write.key = option ∧ libcurl.accepts option write.value = true) ↔
      Overwrites libcurl build attributes option := by
  obtain ⟨url, hasUrl, same⟩ := setup_ok returns
  have filtered := @calls_filter libcurl build attributes url hasUrl option
  rw [same]
  constructor
  · rintro ⟨write, written, here, accepted⟩
    obtain ⟨call, kept, rfl⟩ := List.mem_map.mp written
    obtain ⟨called, taken⟩ := List.mem_filter.mp kept
    have one : call ∈ (calls libcurl build attributes url).filter (·.option = option) :=
      List.mem_filter.mpr ⟨called, decide_eq_true here⟩
    rw [filtered] at one
    obtain ⟨branch, inside, rfl⟩ := List.mem_map.mp one
    exact ⟨branch, inside, taken, accepted⟩
  · rintro ⟨branch, inside, taken, accepted⟩
    have one := List.mem_map_of_mem (f := Branch.call option) inside
    rw [← filtered] at one
    obtain ⟨called, -⟩ := List.mem_filter.mp one
    have kept : Branch.call option branch ∈
        (calls libcurl build attributes url).filter (·.taken) :=
      List.mem_filter.mpr ⟨called, taken⟩
    exact ⟨_, List.mem_map_of_mem (f := Call.write) kept, rfl, accepted⟩

end

/-! ## Histories -/

section
variable (libcurl : Libcurl) (build : Build)

/-- The attributes a history ends with. -/
def attributesAfter (history : List Step) : Attributes := history.foldl Step.attributes .zero

/-- What a history gives to libcurl, from these attributes. -/
def historyWrites : Attributes → List Step → List NativeWrite
  | _, [] => []
  | attributes, step :: rest =>
      step.writes libcurl build attributes ++ historyWrites (step.attributes attributes) rest

/-- What a history leaves under an option: the last value for it that libcurl took, or its default. -/
def leftBy (history : List Step) (option : NativeOption) : Value :=
  (lastWrite libcurl.accepts option (historyWrites libcurl build .zero history)).getD
    (libcurl.default option)

/-- What a new handle with these attributes has under an option. -/
def leftFresh (attributes : Attributes) (option : NativeOption) : Value :=
  (Handle.fresh libcurl attributes).native option

/-- After a history and a setup, every option is what it is after a setup of a new handle with the same
attributes. -/
def HistoryIndependent (history : List Step) : Prop :=
  let handle := Handle.run libcurl build (.new libcurl) history
  ∀ option, (handle.step libcurl build (.setup none)).native option =
    ((Handle.fresh libcurl handle.attributes).step libcurl build (.setup none)).native option

end

section
variable {libcurl : Libcurl} {build : Build}

theorem run_attributes (handle : Handle) (history : List Step) :
    (handle.run libcurl build history).attributes =
      history.foldl Step.attributes handle.attributes := by
  induction history generalizing handle with
  | nil => rfl
  | cons step rest ih => exact ih (handle.step libcurl build step)

theorem run_native (handle : Handle) (history : List Step) :
    (handle.run libcurl build history).native =
      applyWrites libcurl.accepts handle.native
        (historyWrites libcurl build handle.attributes history) := by
  induction history generalizing handle with
  | nil => rfl
  | cons step rest ih =>
    rw [historyWrites, applyWrites_append]
    exact ih (handle.step libcurl build step)

theorem run_new_native (history : List Step) (option : NativeOption) :
    (Handle.run libcurl build (.new libcurl) history).native option =
      leftBy libcurl build history option := by
  rw [run_native, applyWrites_apply]
  rfl

/-- Under one option: the setup overwrites it, or the history has left what a new handle has. -/
theorem setup_agrees_iff {handle handle' : Handle} (same : handle'.attributes = handle.attributes)
    (returns : (setup libcurl build handle.attributes).2 = .ok ()) (option : NativeOption) :
    (handle.step libcurl build (.setup none)).native option =
        (handle'.step libcurl build (.setup none)).native option ↔
      Overwrites libcurl build handle.attributes option ∨
        handle.native option = handle'.native option := by
  rw [← setup_overwrites_iff returns, ← applyWrites_eq_iff]
  simp only [Handle.step, Step.writes, same]

/-- The options of a setup depend on the attributes alone exactly where every option is overwritten by it
or was left by the history as a new handle has it. -/
theorem setup_historyIndependent_iff (libcurl : Libcurl) (build : Build) (history : List Step)
    (returns : (setup libcurl build (attributesAfter history)).2 = .ok ()) :
    HistoryIndependent libcurl build history ↔
      ∀ option, Overwrites libcurl build (attributesAfter history) option ∨
        leftBy libcurl build history option =
          leftFresh libcurl (attributesAfter history) option := by
  have attributes : (Handle.run libcurl build (.new libcurl) history).attributes =
      attributesAfter history := run_attributes (.new libcurl) history
  rw [← attributes] at returns ⊢
  refine forall_congr' fun option => ?_
  rw [setup_agrees_iff ?_ returns, run_new_native]
  · rfl
  · rfl

end

/-! ## A port that stays -/

/-- A libcurl with its documented defaults, its own functions apart, which takes every value. -/
def documented : Libcurl where
  default
    | .header | .followLocation | .httpProxyTunnel | .filetime | .netrc | .unrestrictedAuth
    | .timeoutMs | .connectTimeoutMs | .ignoreContentLength | .ipResolve | .httpVersion
    | .ftpResponseTimeout | .lowSpeedLimit | .lowSpeedTime | .maxRecvSpeedLarge
    | .maxSendSpeedLarge | .proxyPort | .localPort | .localPortRange | .proxyType | .sslVersion
    | .ftpSsl | .ftpFilemethod | .freshConnect | .forbidReuse | .verbose => .long 0
    | .sslVerifyPeer | .noprogress | .httpAuth | .proxyAuth => .long 1
    | .sslVerifyHost => .long 2
    | .maxRedirs => .long 30
    | .dnsCacheTimeout => .long 60
    | _ => .null
  accepts := fun _ _ => true
  userpwd := fun str =>
    match cutAt ':' str with
    | none => (some str, none)
    | some halves => (some halves.1, some halves.2)

/-- A local port is set for one setup and taken back before the next. -/
def portTakenBack : List Step :=
  [.set (.object .url (some "http://127.0.0.1/".toList)), .set (.port .localPort (some 8080)),
    .setup none, .set (.port .localPort none)]

theorem setup_historyIndependent_iff_portTakenBack :
    HistoryIndependent documented ⟨none, false⟩ portTakenBack ↔
      ∀ option, Overwrites documented ⟨none, false⟩ (attributesAfter portTakenBack) option ∨
        leftBy documented ⟨none, false⟩ portTakenBack option =
          leftFresh documented (attributesAfter portTakenBack) option :=
  setup_historyIndependent_iff documented ⟨none, false⟩ portTakenBack rfl

/-- The setup returns, the attribute is back at `nil`, and libcurl still has the port. -/
theorem setup_keeps_localPort :
    let handle := Handle.run documented ⟨none, false⟩ (.new documented) portTakenBack
    let fresh := Handle.fresh documented handle.attributes
    (setup documented ⟨none, false⟩ handle.attributes).2 = .ok () ∧
      handle.attributes.ports .localPort = 0 ∧
      (handle.step documented ⟨none, false⟩ (.setup none)).native .localPort = .long 8080 ∧
      (fresh.step documented ⟨none, false⟩ (.setup none)).native .localPort = .long 0 ∧
      ¬HistoryIndependent documented ⟨none, false⟩ portTakenBack := by
  have kept : (Handle.step documented ⟨none, false⟩
      (Handle.run documented ⟨none, false⟩ (.new documented) portTakenBack)
      (.setup none)).native .localPort = .long 8080 := by
    decide +kernel
  have fresh : (Handle.step documented ⟨none, false⟩
      (Handle.fresh documented (Handle.run documented ⟨none, false⟩ (.new documented)
        portTakenBack).attributes) (.setup none)).native .localPort = .long 0 := by
    decide +kernel
  refine ⟨rfl, rfl, kept, fresh, fun independent => ?_⟩
  have same := independent .localPort
  rw [kept, fresh] at same
  cases same

end Curb.Setup
