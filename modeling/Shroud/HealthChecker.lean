import Shroud.Text
import Shroud.AddressText

namespace Shroud

/-!
# Health checks

`HealthChecker::evaluate` turns the outcome of a probe into a verdict.  What
it reads of the system is the text of `/etc/resolv.conf`, which is a parameter
here.
-/

/-- `HealthResult`; suspension is filtered out before a probe. -/
inductive HealthResult where
  | healthy
  | degraded (latencyMs : Nat)
  | dead (reason : String)
  deriving Repr, DecidableEq

/-- `HealthConfig`. -/
structure HealthConfig where
  endpoints : List String
  timeoutSecs : Nat
  degradedThresholdMs : Nat
  failureThreshold : Nat
  degradedThreshold : Nat
  expectedExitIp : Option String
  dnsLeakCheck : Bool
  deriving Repr, DecidableEq

/-- `HealthConfig::default`. -/
def HealthConfig.default : HealthConfig where
  endpoints := [ "https://ifconfig.me/ip", "https://api.ipify.org", "https://icanhazip.com" ]
  timeoutSecs := 10
  degradedThresholdMs := 5000
  failureThreshold := 3
  degradedThreshold := 2
  expectedExitIp := none
  dnsLeakCheck := false

/-- `HealthChecker`; the end of a suspension is a time in milliseconds. -/
structure HealthChecker where
  config : HealthConfig
  consecutiveFailures : Nat
  consecutiveDegraded : Nat
  suspendedUntil : Option Nat
  deriving Repr, DecidableEq

/-- `EndpointHit`. -/
structure EndpointHit where
  endpoint : String
  latencyMs : Nat
  body : String
  deriving Repr, DecidableEq

/-- `ProbeOutcome`. -/
structure ProbeOutcome where
  hit : Option EndpointHit
  deriving Repr, DecidableEq

/-- `DnsLeakResult`. -/
inductive DnsLeakResult where
  | secure
  | leak (resolvers : List String)
  | unknown
  deriving Repr, DecidableEq

namespace HealthChecker

/-- `HealthChecker::with_config`. -/
def withConfig (config : HealthConfig) : HealthChecker where
  config := config
  consecutiveFailures := 0
  consecutiveDegraded := 0
  suspendedUntil := none

/-- `reset`. -/
def reset (checker : HealthChecker) : HealthChecker :=
  { checker with
    consecutiveFailures := 0
    consecutiveDegraded := 0
    suspendedUntil := none }

/-- `suspend`, with the times in milliseconds. -/
def suspend (checker : HealthChecker) (now millis : Nat) : HealthChecker :=
  { checker with suspendedUntil := some (now + millis) }

/-- `is_suspended`. -/
def isSuspended (checker : HealthChecker) (now : Nat) : Bool :=
  match checker.suspendedUntil with
  | some deadline => decide (now < deadline)
  | none => false

/-- The first line `ip=...` with an address, as Cloudflare reports it. -/
def traceIp? (lines : List (List Char)) : Option String :=
  lines.findSome? fun line =>
    (Text.strip? "ip=".toList line).bind fun rest =>
      if (Text.trim rest).isEmpty then none
      else some (String.ofList (Text.trim rest))

/-- `extract_ip_from_response`. -/
def extractIpFromResponse (body endpoint : String) : Option String :=
  let trimmed := Text.trim body.toList
  if trimmed.isEmpty then none
  else if Text.contains "cdn-cgi/trace".toList endpoint.toList then
    traceIp? (Text.lines trimmed)
  else
    (Text.lines trimmed).head?.bind fun line =>
      let first := String.ofList (Text.trim line)
      if (AddressText.parseIp? first).isSome then some first else none

/-- The resolver of one line of `resolv.conf`. -/
def nameserver? (line : List Char) : Option String :=
  let line := Text.trim line
  if line.isEmpty || line.head? == some '#' || line.head? == some ';' then
    none
  else
    (Text.strip? "nameserver".toList line).bind fun rest =>
      if (Text.trim rest).isEmpty then none
      else some (String.ofList (Text.trim rest))

/-- `parse_resolv_conf`. -/
def parseResolvConf (content : String) : List String :=
  (Text.lines content.toList).filterMap nameserver?

/-- `is_safe_resolver`. -/
def isSafeResolver (resolver : String) : Bool :=
  match AddressText.parseIp? resolver with
  | none => false
  | some (.v4 addr) =>
    addr.firstOctet == 127 || addr.firstOctet == 10 ||
      (addr.firstOctet == 172 &&
        (decide (16 ≤ addr.secondOctet) && decide (addr.secondOctet ≤ 31))) ||
      (addr.firstOctet == 192 && addr.secondOctet == 168) ||
      (addr.firstOctet == 169 && addr.secondOctet == 254)
  | some (.v6 addr) =>
    addr == Ipv6Addr.ofEnds 0 1 || addr.firstOctet == 0xfd ||
      (addr.firstOctet == 0xfe && addr.secondOctet / 64 == 2)

/-- `check_dns_leak_from_resolv_conf`. -/
def checkDnsLeakFromResolvConf (content : String) : DnsLeakResult :=
  let resolvers := parseResolvConf content
  if resolvers.isEmpty then .unknown
  else
    let leaking := resolvers.filter fun resolver => !isSafeResolver resolver
    if leaking.isEmpty then .secure else .leak leaking

/-- `check_dns_leak`, given what could be read. -/
def checkDnsLeak : Option String → DnsLeakResult
  | none => .unknown
  | some content => checkDnsLeakFromResolvConf content

/-- The reason of a verdict on an unexpected exit address. -/
def leakReason (expected actual : String) : String :=
  "IP leak detected: expected " ++ expected ++ ", got " ++ actual

/-- The address that a hit shows although another one is expected. -/
def wrongExitIp? (config : HealthConfig) (hit : EndpointHit) :
    Option (String × String) :=
  config.expectedExitIp.bind fun expected =>
    (extractIpFromResponse hit.body hit.endpoint).bind fun actual =>
      if actual = expected then none else some (expected, actual)

/-- Whether the check of the resolvers is on and finds a leak. -/
def leaksDns (config : HealthConfig) (resolvConf : Option String) : Bool :=
  config.dnsLeakCheck &&
    match checkDnsLeak resolvConf with
    | .leak _ => true
    | _ => false

/-- `evaluate`. -/
def evaluate
    (checker : HealthChecker)
    (resolvConf : Option String)
    (outcome : ProbeOutcome) :
    HealthResult × HealthChecker :=
  match outcome.hit with
  | some hit =>
    let checker := { checker with consecutiveFailures := 0 }
    match wrongExitIp? checker.config hit with
    | some (expected, actual) => (.dead (leakReason expected actual), checker)
    | none =>
      if leaksDns checker.config resolvConf then
        (.degraded hit.latencyMs, checker)
      else if checker.config.degradedThresholdMs < hit.latencyMs then
        let checker :=
          { checker with
            consecutiveDegraded := checker.consecutiveDegraded + 1 }
        if checker.config.degradedThreshold ≤
            checker.consecutiveDegraded then
          (.degraded hit.latencyMs, checker)
        else
          (.healthy, checker)
      else
        (.healthy, { checker with consecutiveDegraded := 0 })
  | none =>
    let checker :=
      { checker with
        consecutiveFailures := checker.consecutiveFailures + 1
        consecutiveDegraded := checker.consecutiveDegraded + 1 }
    if checker.config.failureThreshold ≤ checker.consecutiveFailures then
      (.dead (toString checker.consecutiveFailures ++
        " consecutive failures across all endpoints"), checker)
    else
      (.degraded (checker.config.timeoutSecs * 1000), checker)

end HealthChecker

end Shroud
