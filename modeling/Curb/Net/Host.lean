import Curb.Ruby.Basic

/-!
# Host allowlist entries

The native normalisation of host names and of the lists given to `allowed_hosts=`
(`ext/curb_easy.c:324-454`), and the comparison of a request's host with the prepared
rules (`ext/curb_easy.c:502-512`).
-/

namespace Curb.Net
open Curb.Misc Curb.Ruby

/-- `curb_ascii_downcase` (`curb_easy.c:324-327`). -/
def curbAsciiDowncase (c : Char) : Char :=
  if 'A' ≤ c && c ≤ 'Z' then Char.ofNat (c.toNat - 'A'.toNat + 'a'.toNat) else c

/-- The white space the host parser trims. -/
def isHostBlank (c : Char) : Bool := c == ' ' || c == '\t' || c == '\r' || c == '\n'

/-- Drops from both ends what `isHostBlank` holds of. -/
def trimBlank (range : Text) : Text := (range.dropWhile isHostBlank).rdropWhile isHostBlank

/-- Why a host entry is refused. -/
inductive HostError where
  | blank
  | invalid
  deriving DecidableEq, Repr

/-- `curb_normalized_host_from_range` (`curb_easy.c:329-351`). -/
def curbNormalizedHostFromRange (range : Text) : Except HostError Text :=
  let host := (trimBlank range).rdropWhile (· == '.')
  if host = [] then .error .blank else .ok (host.map curbAsciiDowncase)

/-- What follows the first `://`, or the text itself where there is none. -/
def afterScheme : Text → Option Text
  | ':' :: '/' :: '/' :: rest => some rest
  | _ :: rest => afterScheme rest
  | [] => none

/-- The user information of an authority, up to the last `@`, dropped. -/
def afterLastAt (authority : Text) : Text := authority.rtakeWhile (· != '@')

/-- `curb_normalize_host_value_impl` (`curb_easy.c:353-418`). -/
def curbNormalizeHostValueImpl (value : Text) : Except HostError Text :=
  let trimmed := trimBlank value
  if trimmed = [] then .error .blank
  else
    let start := (afterScheme trimmed).getD trimmed
    let authority := afterLastAt (start.takeWhile fun c => c != '/' && c != '?' && c != '#')
    match authority with
    | '[' :: rest =>
        match cutAt ']' rest with
        | none => .error .invalid
        | some (host, _) => curbNormalizedHostFromRange host
    | _ =>
        if authority.count ':' ≤ 1 then
          curbNormalizedHostFromRange (authority.takeWhile (· != ':'))
        else curbNormalizedHostFromRange authority

/-- `curb_normalize_host_value` (`curb_easy.c:420-422`). -/
def curbNormalizeHostValue (value : Text) : Except RubyError Text :=
  match curbNormalizeHostValueImpl value with
  | .ok host => .ok host
  | .error .blank => rbRaise .argumentError "allowed_hosts cannot include blank entries".toList
  | .error .invalid => rbRaise .argumentError ("invalid allowed host: ".toList ++ value)

/-- One round of the loop of `curb_normalize_host_list` (`curb_easy.c:441-451`). -/
def curbNormalizeHostStep (normalized : List Text) (item : Text) : Except RubyError (List Text) := do
  let cstr ← stringValueCStr item
  let host ← curbNormalizeHostValue cstr
  if host ∈ normalized then .ok normalized else .ok (normalized ++ [host])

/-- `curb_normalize_host_list` (`curb_easy.c:428-454`). -/
def curbNormalizeHostList (hosts : ListArgument) : Except RubyError (Option (List Text)) :=
  match hosts.items with
  | none => .ok none
  | some list => do
      let normalized ← list.foldlM curbNormalizeHostStep []
      .ok (some normalized)

/-- The rules `curb_prepare_network_allowed_hosts` copies from the stored hosts
(`curb_easy.c:487-496`). -/
def curbHostRules (hosts : Option (List Text)) : Except RubyError (List Text) :=
  (hosts.getD []).mapM stringValueCStr

/-- `curb_host_rules_match` (`curb_easy.c:502-512`). -/
def curbHostRulesMatch (rules : List Text) (host : Text) : Bool :=
  rules.isEmpty || rules.contains host

/-! ## The list of hosts -/

/-- An entry the setter accepts and the host it is normalised to. -/
def HostEntry (item host : Text) : Prop :=
  Char.ofNat 0 ∉ item ∧ curbNormalizeHostValue item = .ok host

theorem curbNormalizeHostStep_ok_iff {normalized result : List Text} {item : Text} :
    curbNormalizeHostStep normalized item = .ok result ↔
      ∃ host, HostEntry item host ∧
        result = if host ∈ normalized then normalized else normalized ++ [host] := by
  unfold curbNormalizeHostStep HostEntry stringValueCStr rbRaise
  by_cases nul : Char.ofNat 0 ∈ item
  · simp [nul]
  · cases parsed : curbNormalizeHostValue item with
    | error e => simp [nul, parsed]
    | ok host =>
      by_cases known : host ∈ normalized
      · simp [nul, parsed, known, eq_comm]
      · simp [nul, parsed, known, eq_comm]

/-- The hosts normalised so far are those of the entries read so far. -/
def HostsFrom (done normalized : List Text) : Prop :=
  (∀ host, host ∈ normalized ↔ ∃ item ∈ done, HostEntry item host) ∧
    ∀ item ∈ done, ∃ host, HostEntry item host

theorem curbNormalizeHostStep_hostsFrom (done normalized : List Text) (item : Text)
    (result : List Text) (before : HostsFrom done normalized)
    (step : curbNormalizeHostStep normalized item = .ok result) :
    HostsFrom (done ++ [item]) result := by
  obtain ⟨same, accepted⟩ := before
  obtain ⟨host, entry, rfl⟩ := curbNormalizeHostStep_ok_iff.mp step
  have only : ∀ other, HostEntry item other ↔ other = host := by
    intro other
    rw [HostEntry, entry.2, Except.ok.injEq]
    exact ⟨fun h => h.2.symm, fun h => ⟨entry.1, h.symm⟩⟩
  refine ⟨?_, ?_⟩
  · intro other
    simp only [List.mem_append, List.mem_singleton, or_and_right, exists_or, exists_eq_left, only,
      ← same]
    split
    · rename_i known
      constructor
      · exact Or.inl
      · rintro (mem | rfl)
        · exact mem
        · exact known
    · rw [List.mem_append, List.mem_singleton]
  · intro other mem
    rcases List.mem_append.mp mem with old | new
    · exact accepted other old
    · rw [List.mem_singleton.mp new]
      exact ⟨host, entry⟩

/-- A normalised list has the hosts of the given entries, every one of them accepted. -/
theorem curbNormalizeHostList_ok {hosts : ListArgument} {stored : Option (List Text)}
    (ok : curbNormalizeHostList hosts = .ok stored) :
    (stored = none ↔ hosts.items = none) ∧
    (∀ host, host ∈ stored.getD [] ↔ ∃ item ∈ hosts.items.getD [], HostEntry item host) ∧
    ∀ item ∈ hosts.items.getD [], ∃ host, HostEntry item host := by
  unfold curbNormalizeHostList at ok
  cases items : hosts.items with
  | none =>
    rw [items] at ok
    cases ok
    simp
  | some list =>
    rw [items] at ok
    obtain ⟨normalized, run, same⟩ := except_bind_eq_ok_iff.mp ok
    cases same
    have kept := except_foldlM_induction (P := HostsFrom) curbNormalizeHostStep_hostsFrom
      (show HostsFrom [] [] by simp [HostsFrom]) run
    rw [List.nil_append] at kept
    exact ⟨by simp, kept.1, kept.2⟩

/-! ## The rules made of the stored hosts -/

theorem mem_trimBlank {c : Char} {range : Text} (mem : c ∈ trimBlank range) : c ∈ range :=
  (List.dropWhile_sublist _).subset ((List.rdropWhile_prefix _ _).subset mem)

theorem mem_afterScheme {c : Char} {text rest : Text} (found : afterScheme text = some rest)
    (mem : c ∈ rest) : c ∈ text := by
  induction text using afterScheme.induct with
  | case1 rest' =>
    rw [afterScheme] at found
    cases found
    exact List.mem_cons_of_mem _ (List.mem_cons_of_mem _ (List.mem_cons_of_mem _ mem))
  | case2 head tail notScheme ih =>
    rw [afterScheme] at found
    · exact List.mem_cons_of_mem _ (ih found)
    · exact notScheme
  | case3 => cases found

theorem curbNormalizedHostFromRange_mem {c : Char} {range host : Text}
    (ok : curbNormalizedHostFromRange range = .ok host) (mem : c ∈ host) :
    ∃ d ∈ range, curbAsciiDowncase d = c := by
  unfold curbNormalizedHostFromRange at ok
  dsimp only at ok
  split at ok
  · cases ok
  · cases ok
    obtain ⟨d, inside, same⟩ := List.mem_map.mp mem
    exact ⟨d, mem_trimBlank ((List.rdropWhile_prefix _ _).subset inside), same⟩

/-- The characters of a normalised host come from the value it was made of. -/
theorem curbNormalizeHostValueImpl_mem {c : Char} {value host : Text}
    (ok : curbNormalizeHostValueImpl value = .ok host) (mem : c ∈ host) :
    ∃ d ∈ value, curbAsciiDowncase d = c := by
  unfold curbNormalizeHostValueImpl at ok
  dsimp only at ok
  split at ok
  · cases ok
  have authority_mem : ∀ d ∈ afterLastAt (((afterScheme (trimBlank value)).getD
      (trimBlank value)).takeWhile fun c => c != '/' && c != '?' && c != '#'), d ∈ value := by
    intro d inside
    have started := (List.takeWhile_prefix _).subset ((List.rtakeWhile_suffix _ _).subset inside)
    cases scheme : afterScheme (trimBlank value) with
    | none =>
      rw [scheme] at started
      exact mem_trimBlank started
    | some rest =>
      rw [scheme] at started
      exact mem_trimBlank (mem_afterScheme scheme started)
  split at ok
  · rename_i rest bracketed
    split at ok
    · cases ok
    · rename_i inside outside closed
      obtain ⟨d, d_mem, same⟩ := curbNormalizedHostFromRange_mem ok mem
      obtain ⟨rfl, _⟩ := cutAt_eq_some_iff.mp closed
      refine ⟨d, authority_mem d ?_, same⟩
      rw [bracketed]
      exact List.mem_cons_of_mem _ (List.mem_append_left _ d_mem)
  · split at ok
    · obtain ⟨d, d_mem, same⟩ := curbNormalizedHostFromRange_mem ok mem
      exact ⟨d, authority_mem d ((List.takeWhile_prefix _).subset d_mem), same⟩
    · obtain ⟨d, d_mem, same⟩ := curbNormalizedHostFromRange_mem ok mem
      exact ⟨d, authority_mem d d_mem, same⟩

theorem curbAsciiDowncase_eq_nul {c : Char} (nul : curbAsciiDowncase c = Char.ofNat 0) :
    c = Char.ofNat 0 := by
  unfold curbAsciiDowncase at nul
  split at nul
  · rename_i upper
    simp only [Bool.and_eq_true, decide_eq_true_eq, Char.le_def, UInt32.le_iff_toNat_le] at upper
    have low : 65 ≤ c.toNat := upper.1
    have high : c.toNat ≤ 90 := upper.2
    have valid : (c.toNat - 65 + 97).isValidChar := Or.inl (by omega)
    have shifted : (Char.ofNat (c.toNat - 65 + 97)).toNat = c.toNat - 65 + 97 := by
      rw [Char.ofNat, dif_pos valid]
      rfl
    have zero : (Char.ofNat (c.toNat - 65 + 97)).toNat = 0 := congrArg Char.toNat nul
    omega
  · exact nul

/-- An accepted list is copied as it is stored. -/
theorem curbHostRules_ok {hosts : ListArgument} {stored : Option (List Text)}
    (ok : curbNormalizeHostList hosts = .ok stored) :
    curbHostRules stored = .ok (stored.getD []) := by
  obtain ⟨_, same, _⟩ := curbNormalizeHostList_ok ok
  refine except_mapM_eq_ok_iff.mpr (List.forall₂_same.mpr ?_)
  intro host inside
  obtain ⟨item, _, noNul, normalized⟩ := (same host).mp inside
  have hostNoNul : Char.ofNat 0 ∉ host := by
    intro nul
    unfold curbNormalizeHostValue at normalized
    split at normalized
    · rename_i host' impl
      cases normalized
      obtain ⟨c, c_mem, isNul⟩ := curbNormalizeHostValueImpl_mem impl nul
      exact noNul (curbAsciiDowncase_eq_nul isNul ▸ c_mem)
    · cases normalized
    · cases normalized
  rw [stringValueCStr, if_neg hostNoNul]

end Curb.Net
