import Curb.Easy.SetupHistory
import Curb.Easy.SetupLists

/-!
# One setup

`ruby_curl_easy_setup_body` is modelled by its parts: the network policy with what may raise between, the
options that hold one value, and the lists. What the first two both have comes out the same, and the lists
are the end of the first.
-/

namespace Curb.Setup
open Curb.Misc Curb.Ruby

variable {libcurl : Libcurl} {build : Build}

/-! ## The policy and the options -/

/-- The attributes that the two have are the same. -/
structure SameAttributes (easy : Curb.Easy) (attributes : Attributes) : Prop where
  url : attributes.opts .url = easy.url
  dohUrl : attributes.opts .dohUrl = easy.dohUrl
  dnsServers : attributes.dnsServers = easy.dnsServers
  allowedHosts : attributes.allowedHosts.isSome = easy.allowedHosts.isSome
  networkPolicy : attributes.networkPolicy = easy.networkPolicy
  allowProxy : attributes.booleans .allowProxy = easy.allowProxy
  allowUnixSocket : attributes.booleans .allowUnixSocket = easy.allowUnixSocket
  forbidReuseSet : attributes.forbidReuseSet = easy.forbidReuseSet
  forbidReuse : attributes.forbidReuse = easy.forbidReuse
  proxyUrl : attributes.opts .proxyUrl = easy.proxyUrl
  noproxy : attributes.opts .noproxy = easy.noproxy
  proxyTunnel : attributes.booleans .proxyTunnel = easy.proxyTunnel

/-- An option that the policy part has, as libcurl holds it. -/
def policyValue (native : NativeOptions) : NativeOption → Option Value
  | .dohUrl => some (text native.dohUrl)
  | .dnsServers => some (text native.dnsServers)
  | .unixSocketPath => some (text native.unixSocketPath)
  | .prereqFunction => some (if native.prereqFunction then .function .hostAllowlistPrereq else .null)
  | .openSocketFunction =>
      some (if native.opensocketFunction then .function .publicNetworkOpensocket else .null)
  | .freshConnect => some (flag native.freshConnect)
  | .forbidReuse => some (.long native.forbidReuse)
  | .proxy => some (text native.proxy)
  | .noproxy => some (text native.noproxy)
  | .httpProxyTunnel => some (flag native.httpProxyTunnel)
  | _ => none

/-- The options that the two have are the same. -/
def SameOptions (easy : NativeOptions) (native : NativeOption → Value) : Prop :=
  ∀ option value, policyValue easy option = some value → native option = value

/-- An option that a setup has one branch for. -/
theorem setup_single {attributes : Attributes} {native : NativeOption → Value} {option : NativeOption}
    {taken : Bool} {value : Value} (returns : (setup libcurl build attributes).2 = .ok ())
    (single : branches libcurl build attributes option = [⟨taken, value⟩]) :
    applyWrites libcurl.accepts native (setup libcurl build attributes).1 option =
      if taken && libcurl.accepts option value then value else native option := by
  obtain ⟨url, hasUrl, same⟩ := setup_ok returns
  have filtered := @calls_filter libcurl build attributes url hasUrl option
  have written : (writes (calls libcurl build attributes url)).filter (fun write => write.key = option) =
      writes ((calls libcurl build attributes url).filter (·.option = option)) := by
    rw [writes, writes, List.filter_map, List.filter_filter, List.filter_filter]
    exact congrArg _ (List.filter_congr fun call _ => Bool.and_comm _ _)
  rw [same, applyWrites_apply, ← lastWrite_filter, written, filtered, single]
  cases taken <;> cases accepted : libcurl.accepts option value <;>
    simp [writes, Branch.call, Call.write, lastWrite, accepted]

/-- The parts of a setup that returns agree: the policy part gives libcurl what the setup of the options does,
where libcurl takes it and the DNS servers as the policy part has it. -/
theorem setup_sameOptions {net : Net.InetPton} {replies : Easy.SetupReplies} {easy after : Curb.Easy}
    {handle : Handle} (same : SameAttributes easy handle.attributes)
    (options : SameOptions easy.native handle.native)
    (takes : ∀ option value, option ≠ .dnsServers → libcurl.accepts option value = true)
    (servers : libcurl.accepts .dnsServers (text easy.dnsServers) =
      (easy.dnsServers.isNone || replies.dnsAccepted))
    (run : Returns (Easy.setup net replies) easy () after) :
    (setup libcurl build handle.attributes).2 = .ok () ∧
      SameOptions after.native (handle.step libcurl build (.setup none)).native := by
  obtain ⟨hasUrl, hosts, rules, policy, rfl⟩ := Easy.setup_returns run
  obtain ⟨url, isUrl⟩ := Option.ne_none_iff_exists'.mp hasUrl
  have isPublic : isPublic handle.attributes = decide (easy.networkPolicy = .policyPublic) := by
    rw [Setup.isPublic, same.networkPolicy]
  have returns : (setup libcurl build handle.attributes).2 = .ok () := by
    have allowed : ¬(Setup.isPublic handle.attributes && handle.attributes.dnsServers.isSome) = true := by
      rw [isPublic, same.dnsServers, Bool.and_eq_true, decide_eq_true_eq]
      rintro ⟨public', some⟩
      rw [policy.noServers public'] at some
      cases some
    rw [setup, same.url, isUrl]
    dsimp only
    rw [if_neg allowed]
  have disabled : publicPolicyDisablesProxy handle.attributes = easy.publicPolicyDisablesProxy := by
    rw [publicPolicyDisablesProxy, isPublic, same.allowProxy]
    rfl
  refine ⟨returns, fun option value isValue => ?_⟩
  have given {option : NativeOption} {value : Value} (other : option ≠ .dnsServers)
      (single : branches libcurl build handle.attributes option = [⟨true, value⟩]) :
      applyWrites libcurl.accepts handle.native (setup libcurl build handle.attributes).1 option = value := by
    rw [setup_single returns single, takes option value other]
    rfl
  show applyWrites libcurl.accepts handle.native (setup libcurl build handle.attributes).1 option = value
  cases option with
  | dohUrl =>
    rw [given (by decide) rfl, same.dohUrl]
    exact Option.some.inj isValue
  | dnsServers =>
    have left : text (easy.dnsServersGiven replies.dnsAccepted) = value := Option.some.inj isValue
    rw [setup_single returns rfl, same.dnsServers, servers, ← left, Easy.dnsServersGiven]
    cases isServers : easy.dnsServers with
    | none => rfl
    | some text =>
      cases replies.dnsAccepted with
      | true => rfl
      | false => exact options .dnsServers _ rfl
  | unixSocketPath =>
    have left : text (if easy.networkPolicy = .policyPublic ∧ easy.allowUnixSocket = false then none
      else easy.native.unixSocketPath) = value := Option.some.inj isValue
    rw [setup_single returns rfl, isPublic, same.allowUnixSocket, takes _ _ (by decide), ← left,
      options .unixSocketPath _ rfl]
    by_cases public' : easy.networkPolicy = .policyPublic <;> cases easy.allowUnixSocket <;>
      simp [public', text]
  | prereqFunction =>
    rw [given (by decide) rfl, same.allowedHosts]
    exact Option.some.inj isValue
  | openSocketFunction =>
    rw [given (by decide) rfl, isPublic]
    exact Option.some.inj isValue
  | freshConnect =>
    rw [given (by decide) rfl, isPublic]
    exact Option.some.inj isValue
  | forbidReuse =>
    rw [given (by decide) rfl, isPublic, same.forbidReuseSet, same.forbidReuse]
    simp only [decide_eq_true_eq]
    exact Option.some.inj isValue
  | proxy =>
    have left : text (if easy.publicPolicyDisablesProxy then some [] else easy.proxyUrl) = value :=
      Option.some.inj isValue
    rw [given (by decide) rfl, disabled, same.proxyUrl, ← left]
    cases easy.publicPolicyDisablesProxy <;> rfl
  | noproxy =>
    rw [given (by decide) rfl, same.noproxy]
    exact Option.some.inj isValue
  | httpProxyTunnel =>
    have left : flag (if easy.publicPolicyDisablesProxy then false else easy.proxyTunnel) = value :=
      Option.some.inj isValue
    rw [given (by decide) rfl, disabled, same.proxyTunnel, ← left]
    cases easy.publicPolicyDisablesProxy <;> rfl
  | _ => cases isValue

/-- A setup of the options that raises, raises what the policy part does, if its URL can be converted. -/
theorem setup_sameError {net : Net.InetPton} {replies : Easy.SetupReplies} {easy : Curb.Easy}
    {attributes : Attributes} {error : RubyError} (same : SameAttributes easy attributes)
    (converts : replies.url = .ok ()) (raised : (setup libcurl build attributes).2 = .error error) :
    outcome (Easy.setup net replies) easy = .error error := by
  rw [setup, same.url] at raised
  cases isUrl : easy.url with
  | none =>
    rw [isUrl] at raised
    cases raised
    have raises : Raises (Easy.setupStart replies.url) easy ⟨.curlError, "No URL supplied".toList⟩
        { easy with unsafeDestinationBlocked := false, unsafeDestinationError := [] } := by
      show (ite (easy.url = none) _ _ : EasyM Unit) _ = _
      rw [if_pos isUrl]
      rfl
    exact (bind_raises_iff.mpr (Or.inl raises)).outcome_eq
  | some url =>
    rw [isUrl] at raised
    dsimp only at raised
    split at raised
    · rename_i disabled
      cases raised
      rw [isPublic, same.networkPolicy, same.dnsServers, Bool.and_eq_true, decide_eq_true_eq,
        Option.isSome_iff_ne_none] at disabled
      have starts : Returns (Easy.setupStart replies.url) easy () easy.setupBegun := by
        rw [converts]
        show (ite (easy.url = none) _ _ : EasyM Unit) _ = _
        rw [if_neg (by rw [isUrl]; exact Option.some_ne_none url)]
        rfl
      have raises : Raises (Easy.setupPolicy net replies.dnsAccepted) easy.setupBegun
          ⟨.unsafeDestinationError, "DNS server overrides are disabled by public network policy".toList⟩
            easy.setupBegun := by
        show (ite (easy.networkPolicy = .policyPublic ∧ easy.dnsServers ≠ none) _ _ : EasyM Unit) _ = _
        rw [if_pos disabled]
        rfl
      have ends : Raises (Easy.setup net replies) easy _ easy.setupBegun :=
        bind_raises_iff.mpr (Or.inr ⟨(), _, starts, bind_raises_iff.mpr (Or.inl raises)⟩)
      exact ends.outcome_eq
    · cases raised

/-! ## The lists -/

theorem outcome_bind_lift {x : EasyM Unit} {easy : Curb.Easy} (rest : Except RubyError Unit) :
    outcome (x >>= fun _ => lift rest) easy = (outcome x easy).bind fun _ => rest := by
  simp only [outcome, bind, EStateM.bind]
  cases x easy with
  | ok value after => cases rest <;> rfl
  | error error after => rfl

/-- The lists end a setup: it ends as they do, or as what comes before them. -/
theorem setup_lists {net : Net.InetPton} {replies : Easy.SetupReplies} {easy : Curb.Easy}
    {append : List Text → Text → Bool} {lists : SetupLists.Handle} :
    let before := outcome (Easy.setup net { replies with rest := .ok () }) easy
    outcome (SetupLists.setup append before) lists =
      outcome (Easy.setup net { replies with rest := outcome (SetupLists.setupLists append) lists }) easy := by
  intro before
  have parts : ∃ front : EasyM Unit, ∀ rest : Except RubyError Unit,
      Easy.setup net { replies with rest := rest } = front >>= fun _ => lift rest := by
    refine ⟨do
      Easy.setupStart replies.url
      Easy.setupPolicy net replies.dnsAccepted
      lift replies.credentials
      modify fun easy => { easy with native := { easy.native with
        proxy := if easy.publicPolicyDisablesProxy then some [] else easy.proxyUrl } }
      lift replies.proxy
      modify fun easy => { easy with native := { easy.native with
        noproxy := easy.noproxy
        httpProxyTunnel := if easy.publicPolicyDisablesProxy then false else easy.proxyTunnel } },
      fun rest => ?_⟩
    simp only [Easy.setup, Easy.setupRest, bind_assoc]
  obtain ⟨front, ends⟩ := parts
  have isBefore : before = (outcome front easy).bind fun _ => .ok () := by
    rw [← outcome_bind_lift, ← ends]
  rw [ends, outcome_bind_lift, isBefore]
  cases outcome front easy with
  | ok value => rfl
  | error error => rfl

end Curb.Setup
