import Shroud.SupervisorHandlers

namespace Shroud.VpnEndpoints

open KillSwitchRules AddressText Supervisor

/-!
# Server endpoints of VPN profiles

The kill switch lets the literal server addresses of all profiles through.  A
profile that names its servers by host name only cannot be let through in
advance, and a connect to it falls back to connecting first.
-/

/-- `VpnEndpoint`. -/
inductive VpnEndpoint where
  | ip (addr : IpAddr)
  | hostname (host : String)
  deriving Repr, DecidableEq

/-- The literal address of an endpoint. -/
def VpnEndpoint.addr? : VpnEndpoint → Option IpAddr
  | .ip addr => some addr
  | .hostname _ => none

/-- The addresses found so far, and what the current profile has. -/
structure ProfileScan where
  ips : List IpAddr
  hasIp : Bool
  hasHostname : Bool
  deriving Repr, DecidableEq

/-- IPv4 addresses are validated once more before they are used. -/
def isUsable : IpAddr → Bool
  | .v4 addr => isValidIpv4 (ipv4Text addr)
  | .v6 _ => true

/-- The inner loop of `aggregate_endpoint_scan`. -/
def addEndpoint (scan : ProfileScan) : VpnEndpoint → ProfileScan
  | .ip addr =>
    if isUsable addr then
      { scan with
        ips := if addr ∈ scan.ips then scan.ips else scan.ips ++ [addr]
        hasIp := true }
    else
      scan
  | .hostname _ => { scan with hasHostname := true }

/-- The outer loop of `aggregate_endpoint_scan`. -/
def addProfile (scan : VpnEndpointScan) (profile : String × List VpnEndpoint) :
    VpnEndpointScan :=
  let found := profile.2.foldl addEndpoint ⟨scan.ips, false, false⟩
  { ips := found.ips
    hostnameVpns :=
      if found.hasHostname && !found.hasIp && !scan.hostnameVpns.contains profile.1 then
        scan.hostnameVpns ++ [profile.1]
      else
        scan.hostnameVpns }

/-- `aggregate_endpoint_scan`. -/
def aggregateEndpointScan (profiles : List (String × List VpnEndpoint)) : VpnEndpointScan :=
  profiles.foldl addProfile ⟨[], []⟩

def literals (endpoints : List VpnEndpoint) : List IpAddr :=
  endpoints.filterMap VpnEndpoint.addr?

/-- Some endpoint is a host name and none is a literal address. -/
def hostnameOnly (endpoints : List VpnEndpoint) : Bool :=
  (endpoints.any fun endpoint => endpoint.addr?.isNone) && (literals endpoints).isEmpty

/-- The names of such profiles, profile by profile. -/
def hostnameOnlyNames (profiles : List (String × List VpnEndpoint)) : List String :=
  (profiles.filter fun profile => hostnameOnly profile.2).map (·.1)

theorem isUsable_eq_true (addr : IpAddr) :
    isUsable addr = true := by
  cases addr with
  | v4 addr => exact isValidIpv4_ipv4Text addr
  | v6 addr => rfl

theorem literals_append (first second : List VpnEndpoint) :
    literals (first ++ second) = literals first ++ literals second :=
  List.filterMap_append

theorem foldl_addEndpoint
    (known : List IpAddr)
    (endpoints : List VpnEndpoint) :
    endpoints.foldl addEndpoint ⟨known.eraseDups, false, false⟩ =
      ⟨(known ++ literals endpoints).eraseDups, !(literals endpoints).isEmpty,
        endpoints.any fun endpoint => endpoint.addr?.isNone⟩ := by
  induction endpoints using List.reverseRecOn with
  | nil => simp [literals]
  | append_singleton earlier last ih =>
    rw [List.foldl_append, ih, List.any_append, literals_append]
    cases last with
    | hostname host =>
      rw [show literals [VpnEndpoint.hostname host] = [] from rfl, List.append_nil]
      simp [addEndpoint, VpnEndpoint.addr?]
    | ip addr =>
      rw [show literals [VpnEndpoint.ip addr] = [addr] from rfl, ← List.append_assoc,
        eraseDups_concat]
      simp [addEndpoint, isUsable_eq_true, VpnEndpoint.addr?]

theorem aggregateEndpointScan_eq (profiles : List (String × List VpnEndpoint)) :
    aggregateEndpointScan profiles =
      ⟨(profiles.flatMap fun profile => literals profile.2).eraseDups,
        (hostnameOnlyNames profiles).eraseDups⟩ := by
  induction profiles using List.reverseRecOn with
  | nil => rfl
  | append_singleton earlier last ih =>
    rw [aggregateEndpointScan] at ih ⊢
    rw [List.foldl_append, ih, List.foldl_cons, List.foldl_nil, addProfile,
      foldl_addEndpoint]
    have names :
        hostnameOnlyNames (earlier ++ [last]) =
          hostnameOnlyNames earlier ++ if hostnameOnly last.2 then [last.1] else [] := by
      cases only : hostnameOnly last.2 <;> simp [hostnameOnlyNames, only]
    dsimp only
    rw [Bool.not_not, ← hostnameOnly, List.flatMap_append, List.flatMap_singleton, names]
    cases hostnameOnly last.2 with
    | false => simp
    | true =>
      rw [if_pos rfl, eraseDups_concat]
      generalize (hostnameOnlyNames earlier).eraseDups = known
      by_cases occurs : last.1 ∈ known
      · simp [occurs]
      · simp [occurs]

theorem hostnameOnly_iff {endpoints : List VpnEndpoint} :
    hostnameOnly endpoints = true ↔
      endpoints ≠ [] ∧ ∀ endpoint ∈ endpoints, endpoint.addr? = none := by
  rw [hostnameOnly, Bool.and_eq_true, List.isEmpty_iff, literals, List.filterMap_eq_nil_iff]
  refine and_congr_left fun none => ?_
  cases endpoints with
  | nil => simp
  | cons first rest => simp [none first List.mem_cons_self]

/--
The scan lists each literal address once, in order of first occurrence, and so
the names of the profiles that have endpoints but no literal address.  Exactly
these are connected before the kill switch when `pre_connect` asks for it first.
-/
theorem endpoints_aggregated (profiles : List (String × List VpnEndpoint)) :
    let scan := aggregateEndpointScan profiles
    scan.ips = (profiles.flatMap fun profile => literals profile.2).eraseDups ∧
      scan.hostnameVpns = (hostnameOnlyNames profiles).eraseDups ∧
      scan.ips.Nodup ∧ scan.hostnameVpns.Nodup ∧
      ∀ target,
        resolvePreConnect true target scan.hostnameVpns = false ↔
          ∃ endpoints,
            (target, endpoints) ∈ profiles ∧ endpoints ≠ [] ∧
              ∀ endpoint ∈ endpoints, endpoint.addr? = none := by
  rw [aggregateEndpointScan_eq]
  refine ⟨rfl, rfl, nodup_eraseDups _, nodup_eraseDups _, ?_⟩
  intro target
  simp [resolvePreConnect, hostnameOnlyNames, hostnameOnly_iff]

end Shroud.VpnEndpoints
