import Shroud.FirewallHost
import Shroud.FwWrapper

namespace Shroud.Verify

open StateProgram

/-!
# Kill switch verification

`run_verification` lists the live firewall rules and runs a fixed series of
checks over the listings.  Each check looks for lines or substrings and gives
a verdict; the overall verdict is the worst of them.
-/

/-- `Verdict` of a check. -/
inductive Verdict where
  | pass
  | warn
  | fail
  deriving Repr, DecidableEq

/-- `CheckResult`. -/
structure CheckResult where
  name : String
  description : String
  verdict : Verdict
  detail : String
  raw : Option (List Char)
  deriving Repr, DecidableEq

namespace CheckResult

/-- `CheckResult::pass`. -/
def pass (name description detail : String) (raw : Option (List Char)) :
    CheckResult :=
  ⟨name, description, .pass, detail, raw⟩

/-- `CheckResult::warn`. -/
def warn (name description detail : String) (raw : Option (List Char)) :
    CheckResult :=
  ⟨name, description, .warn, detail, raw⟩

/-- `CheckResult::fail`. -/
def fail (name description detail : String) (raw : Option (List Char)) :
    CheckResult :=
  ⟨name, description, .fail, detail, raw⟩

end CheckResult

/-- `aggregate_verdict`. -/
def aggregateVerdict (checks : List CheckResult) : Verdict :=
  if checks.any (·.verdict == .fail) then .fail
  else if checks.any (·.verdict == .warn) then .warn
  else .pass

/-- `summarize`. -/
def summarize (checks : List CheckResult) : String :=
  let count (verdict : Verdict) := (checks.filter (·.verdict == verdict)).length
  toString (count .pass) ++ "/" ++ toString checks.length ++
    " checks passed, " ++ toString (count .warn) ++ " warning(s), " ++
    toString (count .fail) ++ " failure(s)"

/-- `CHAIN_NAME`. -/
def chainName : String := "SHROUD_KILLSWITCH"

/-- `NFT_TABLE`. -/
def nftTable : String := "shroud_killswitch"

/-- `Backend`. -/
inductive Backend where
  | iptables
  | nftables
  deriving Repr, DecidableEq

/-- `IptablesSnapshot`. -/
structure IptablesSnapshot where
  ksChain : List Char
  outputChain : List Char
  ip6Output : List Char

/-- `NftSnapshot`. -/
structure NftSnapshot where
  tableOutput : List Char

/-- `str::contains`. -/
def mentions (text : List Char) (pattern : String) : Bool :=
  Text.contains pattern.toList text

/-- Some line of a listing satisfies a test. -/
def anyLine (text : List Char) (test : List Char → Bool) : Bool :=
  (Text.lines text).any test

/-- The listing, if it was asked for. -/
def verboseRaw (verbose : Bool) (text : List Char) : Option (List Char) :=
  if verbose then some text else none

/-- `check_chain_exists_iptables`. -/
def checkChainExistsIptables (snap : IptablesSnapshot) (verbose : Bool) :
    CheckResult :=
  if (Text.trim snap.ksChain).isEmpty then
    .fail "chain_exists" "SHROUD_KILLSWITCH chain exists" "Chain missing"
      (verboseRaw verbose snap.ksChain)
  else
    .pass "chain_exists" "SHROUD_KILLSWITCH chain exists"
      ("Chain found with " ++ toString (Text.lines snap.ksChain).length ++ " rules")
      (verboseRaw verbose snap.ksChain)

/-- `check_jump_rule_iptables`, on the answer to `-C`. -/
def checkJumpRuleIptables (present : Bool) : CheckResult :=
  if present then
    .pass "jump_rule_exists" "OUTPUT chain jumps to SHROUD_KILLSWITCH" "Jump rule present" none
  else
    .fail "jump_rule_exists" "OUTPUT chain jumps to SHROUD_KILLSWITCH" "Jump rule missing" none

/-- `check_default_drop_iptables`. -/
def checkDefaultDropIptables (snap : IptablesSnapshot) (verbose : Bool) :
    CheckResult :=
  if anyLine snap.ksChain
      (mentions · ("-A " ++ chainName ++ " -j DROP")) then
    .pass "default_drop" "Default policy is DROP" "Final rule is DROP"
      (verboseRaw verbose snap.ksChain)
  else
    .fail "default_drop" "Default policy is DROP" "No DROP rule found"
      (verboseRaw verbose snap.ksChain)

/-- `check_loopback_allowed_iptables`. -/
def checkLoopbackAllowedIptables (snap : IptablesSnapshot) (verbose : Bool) :
    CheckResult :=
  if anyLine snap.ksChain
      (mentions · ("-A " ++ chainName ++ " -o lo -j ACCEPT")) then
    .pass "loopback_allowed" "Loopback traffic allowed"
      "lo interface ACCEPT rule present" (verboseRaw verbose snap.ksChain)
  else
    .fail "loopback_allowed" "Loopback traffic allowed"
      "lo interface ACCEPT rule missing" (verboseRaw verbose snap.ksChain)

def vpnInterfacesResult
    (missing : List String)
    (present : String)
    (raw : Option (List Char)) :
    CheckResult :=
  if missing.isEmpty then
    .pass "vpn_interfaces_allowed" "VPN tunnel interfaces allowed" present raw
  else if missing.length < 3 then
    .warn "vpn_interfaces_allowed" "VPN tunnel interfaces allowed"
      ("Missing allow rules for: " ++ ", ".intercalate missing) raw
  else
    .fail "vpn_interfaces_allowed" "VPN tunnel interfaces allowed"
      "No VPN interface allow rules present" raw

/-- `check_vpn_interfaces_allowed_iptables`. -/
def checkVpnInterfacesAllowedIptables
    (snap : IptablesSnapshot)
    (verbose : Bool) :
    CheckResult :=
  vpnInterfacesResult
    (["tun+", "wg+", "tap+"].filter fun iface =>
      !anyLine snap.ksChain (mentions · ("-A " ++ chainName ++ " -o " ++ iface ++ " -j ACCEPT")))
    "tun+, wg+, tap+ all allowed" (verboseRaw verbose snap.ksChain)

def dhcpResult (allowed : Bool) (raw : Option (List Char)) : CheckResult :=
  if allowed then
    .pass "dhcp_allowed" "DHCP traffic allowed" "UDP 67/68 rules present" raw
  else
    .warn "dhcp_allowed" "DHCP traffic allowed" "Missing UDP 67/68 rules" raw

/-- `check_dhcp_allowed_iptables`. -/
def checkDhcpAllowedIptables (snap : IptablesSnapshot) (verbose : Bool) :
    CheckResult :=
  let allow67 := anyLine snap.ksChain fun line =>
    mentions line "--dport 67" && mentions line "ACCEPT"
  let allow68 := anyLine snap.ksChain fun line =>
    mentions line "--sport 68" && mentions line "ACCEPT"
  dhcpResult (allow67 && allow68) (verboseRaw verbose snap.ksChain)

/-- `check_ipv6_protection_iptables`. -/
def checkIpv6ProtectionIptables
    (snap : IptablesSnapshot)
    (mode : Ipv6Mode)
    (verbose : Bool) :
    CheckResult :=
  let raw := verboseRaw verbose snap.ip6Output
  let hasDrop := anyLine snap.ip6Output (mentions · "-A OUTPUT -j DROP")
  match mode with
  | .block =>
    if hasDrop then
      .pass "ipv6_protection" "IPv6 leak protection" "IPv6 DROP rule present" raw
    else
      .fail "ipv6_protection" "IPv6 leak protection" "IPv6 DROP rule missing" raw
  | .tunnel =>
    let hasTun := anyLine snap.ip6Output (mentions · "-A OUTPUT -o tun+ -j ACCEPT")
    if hasTun && hasDrop then
      .pass "ipv6_protection" "IPv6 leak protection" "IPv6 tunnel-only rules present" raw
    else
      .warn "ipv6_protection" "IPv6 leak protection" "IPv6 tunnel rules incomplete" raw
  | .off =>
    .warn "ipv6_protection" "IPv6 leak protection" "IPv6 protection disabled (off)" raw

/-- The description shared by the checks of the DNS mode. -/
def dnsModeDescription : String :=
  "DNS leak protection matches configured mode"

/-- `check_dns_mode_match_iptables`. -/
def checkDnsModeMatchIptables
    (snap : IptablesSnapshot)
    (mode : DnsMode)
    (verbose : Bool) :
    CheckResult :=
  let rules := snap.ksChain
  let raw := verboseRaw verbose rules
  match mode with
  | .tunnel | .strict =>
    let hasAllow := anyLine rules fun line =>
      mentions line "--dport 53" && mentions line "ACCEPT" &&
        (mentions line "-o tun+" || mentions line "-o wg+" || mentions line "-o tap+")
    let hasDrop53 := anyLine rules fun line =>
      mentions line "--dport 53" && mentions line "-j DROP"
    let hasDropDot := anyLine rules fun line =>
      mentions line "--dport 853" && mentions line "-j DROP"
    if hasAllow && hasDrop53 then
      .pass "dns_mode_match" dnsModeDescription
        (if mode = .strict ∧ ¬hasDropDot then
          "tunnel rules present (DoT drop missing)"
        else
          "tunnel/strict rules present")
        raw
    else
      .warn "dns_mode_match" dnsModeDescription "DNS tunnel/strict rules incomplete" raw
  | .localhost =>
    if mentions rules "127.0.0.0/8" || mentions rules "::1" then
      .pass "dns_mode_match" dnsModeDescription "localhost DNS rules present" raw
    else
      .warn "dns_mode_match" dnsModeDescription "localhost DNS rules missing" raw
  | .any =>
    .warn "dns_mode_match" dnsModeDescription "dns_mode=any (least secure)" raw

/-- The first line of a listing that is a rule of `OUTPUT`. -/
def firstOutputRule? (text : List Char) : Option (List Char) :=
  (Text.lines text).find? fun line =>
    "-A OUTPUT".toList.isPrefixOf line

/-- `check_no_rogue_rules_iptables`. -/
def checkNoRogueRulesIptables (snap : IptablesSnapshot) (verbose : Bool) :
    CheckResult :=
  let raw := verboseRaw verbose snap.outputChain
  match firstOutputRule? snap.outputChain with
  | some rule =>
    if mentions rule ("-A OUTPUT -j " ++ chainName) then
      .pass "no_rogue_rules" "No conflicting rules in OUTPUT" "OUTPUT chain clean" raw
    else
      .warn "no_rogue_rules" "No conflicting rules in OUTPUT"
        ("First OUTPUT rule is not jump to " ++ chainName ++ ": " ++ String.ofList rule)
        raw
  | none =>
    .warn "no_rogue_rules" "No conflicting rules in OUTPUT" "No OUTPUT rules found" raw

/-- `check_chain_exists_nft`. -/
def checkChainExistsNft (snap : NftSnapshot) (verbose : Bool) : CheckResult :=
  if (Text.trim snap.tableOutput).isEmpty then
    .fail "chain_exists" "shroud_killswitch table exists" "Table missing"
      (verboseRaw verbose snap.tableOutput)
  else
    .pass "chain_exists" "shroud_killswitch table exists" "Table found"
      (verboseRaw verbose snap.tableOutput)

/-- `check_jump_rule_nft`. -/
def checkJumpRuleNft (snap : NftSnapshot) (verbose : Bool) : CheckResult :=
  if mentions snap.tableOutput "chain output" &&
      mentions snap.tableOutput "hook output" then
    .pass "jump_rule_exists" "OUTPUT chain is hooked (nft)"
      "nft output chain with hook present" (verboseRaw verbose snap.tableOutput)
  else
    .fail "jump_rule_exists" "OUTPUT chain is hooked (nft)"
      "nft output chain missing hook" (verboseRaw verbose snap.tableOutput)

/-- `check_default_drop_nft`. -/
def checkDefaultDropNft (snap : NftSnapshot) (verbose : Bool) : CheckResult :=
  if mentions snap.tableOutput "policy drop" then
    .pass "default_drop" "Default policy is DROP" "policy drop present"
      (verboseRaw verbose snap.tableOutput)
  else
    .fail "default_drop" "Default policy is DROP" "policy drop missing"
      (verboseRaw verbose snap.tableOutput)

/-- `check_loopback_allowed_nft`. -/
def checkLoopbackAllowedNft (snap : NftSnapshot) (verbose : Bool) :
    CheckResult :=
  if mentions snap.tableOutput "oifname \"lo\" accept" then
    .pass "loopback_allowed" "Loopback traffic allowed"
      "lo interface accept present" (verboseRaw verbose snap.tableOutput)
  else
    .fail "loopback_allowed" "Loopback traffic allowed"
      "lo interface accept missing" (verboseRaw verbose snap.tableOutput)

/-- `check_vpn_interfaces_allowed_nft`. -/
def checkVpnInterfacesAllowedNft (snap : NftSnapshot) (verbose : Bool) :
    CheckResult :=
  vpnInterfacesResult
    (["tun*", "wg*", "tap*"].filter fun iface =>
      !mentions snap.tableOutput ("oifname \"" ++ iface ++ "\" accept"))
    "tun*, wg*, tap* all allowed" (verboseRaw verbose snap.tableOutput)

/-- `check_dhcp_allowed_nft`. -/
def checkDhcpAllowedNft (snap : NftSnapshot) (verbose : Bool) : CheckResult :=
  dhcpResult
    (mentions snap.tableOutput "udp dport 67 accept" &&
      mentions snap.tableOutput "udp sport 68 accept")
    (verboseRaw verbose snap.tableOutput)

/-- `check_ipv6_protection_nft`. -/
def checkIpv6ProtectionNft
    (snap : NftSnapshot)
    (mode : Ipv6Mode)
    (verbose : Bool) :
    CheckResult :=
  let raw := verboseRaw verbose snap.tableOutput
  match mode with
  | .block =>
    if mentions snap.tableOutput "meta nfproto ipv6 drop" then
      .pass "ipv6_protection" "IPv6 leak protection" "meta nfproto ipv6 drop present" raw
    else
      .fail "ipv6_protection" "IPv6 leak protection" "meta nfproto ipv6 drop missing" raw
  | .tunnel =>
    if mentions snap.tableOutput "ip6 daddr fe80::/10 accept" then
      .pass "ipv6_protection" "IPv6 leak protection" "IPv6 tunnel-only rules present" raw
    else
      .warn "ipv6_protection" "IPv6 leak protection" "IPv6 tunnel rules incomplete" raw
  | .off =>
    .warn "ipv6_protection" "IPv6 leak protection" "IPv6 protection disabled (off)" raw

/-- `check_dns_mode_match_nft`. -/
def checkDnsModeMatchNft
    (snap : NftSnapshot)
    (mode : DnsMode)
    (verbose : Bool) :
    CheckResult :=
  let raw := verboseRaw verbose snap.tableOutput
  match mode with
  | .tunnel | .strict =>
    if mentions snap.tableOutput "udp dport 53 drop" ||
        mentions snap.tableOutput "tcp dport 53 drop" then
      .pass "dns_mode_match" dnsModeDescription "tunnel/strict rules present" raw
    else
      .warn "dns_mode_match" dnsModeDescription "DNS tunnel/strict rules incomplete" raw
  | .localhost =>
    if mentions snap.tableOutput
        "ip daddr 127.0.0.0/8 udp dport 53 accept" then
      .pass "dns_mode_match" dnsModeDescription "localhost DNS rules present" raw
    else
      .warn "dns_mode_match" dnsModeDescription "localhost DNS rules missing" raw
  | .any =>
    .warn "dns_mode_match" dnsModeDescription "dns_mode=any (least secure)" raw

/-- `check_no_rogue_rules_nft`, which looks at nothing. -/
def checkNoRogueRulesNft (snap : NftSnapshot) (verbose : Bool) : CheckResult :=
  .pass "no_rogue_rules" "No conflicting rules in OUTPUT"
    "policy drop covers OUTPUT" (verboseRaw verbose snap.tableOutput)

section Passing

variable
  {snap : IptablesSnapshot}
  {table : NftSnapshot}
  {verbose : Bool}

theorem checkChainExistsIptables_pass :
    (checkChainExistsIptables snap verbose).verdict = .pass ↔ Text.trim snap.ksChain ≠ [] := by
  unfold checkChainExistsIptables
  split <;> simp_all [CheckResult.pass, CheckResult.fail]

theorem checkJumpRuleIptables_pass {present : Bool} :
    (checkJumpRuleIptables present).verdict = .pass ↔ present = true := by
  cases present <;> simp [checkJumpRuleIptables, CheckResult.pass, CheckResult.fail]

theorem checkDefaultDropIptables_pass :
    (checkDefaultDropIptables snap verbose).verdict = .pass ↔
      anyLine snap.ksChain (mentions · ("-A " ++ chainName ++ " -j DROP")) = true := by
  unfold checkDefaultDropIptables
  split <;> simp_all [CheckResult.pass, CheckResult.fail]

theorem checkLoopbackAllowedIptables_pass :
    (checkLoopbackAllowedIptables snap verbose).verdict = .pass ↔
      anyLine snap.ksChain (mentions · ("-A " ++ chainName ++ " -o lo -j ACCEPT")) = true := by
  unfold checkLoopbackAllowedIptables
  split <;> simp_all [CheckResult.pass, CheckResult.fail]

theorem vpnInterfacesResult_pass
    {missing : List String}
    {present : String}
    {raw : Option (List Char)} :
    (vpnInterfacesResult missing present raw).verdict = .pass ↔ missing = [] := by
  unfold vpnInterfacesResult
  split
  · simp_all [CheckResult.pass]
  · split <;> simp_all [CheckResult.warn, CheckResult.fail]

theorem dhcpResult_pass
    {allowed : Bool}
    {raw : Option (List Char)} :
    (dhcpResult allowed raw).verdict = .pass ↔ allowed = true := by
  cases allowed <;> simp [dhcpResult, CheckResult.pass, CheckResult.warn]

theorem checkIpv6ProtectionIptables_pass {mode : Ipv6Mode} :
    (checkIpv6ProtectionIptables snap mode verbose).verdict = .pass ↔
      anyLine snap.ip6Output (mentions · "-A OUTPUT -j DROP") = true ∧
        (mode = .block ∨
          mode = .tunnel ∧
            anyLine snap.ip6Output (mentions · "-A OUTPUT -o tun+ -j ACCEPT") = true) := by
  cases mode with
  | block =>
    simp only [checkIpv6ProtectionIptables]
    split <;> simp_all [CheckResult.pass, CheckResult.fail]
  | tunnel =>
    simp only [checkIpv6ProtectionIptables]
    cases anyLine snap.ip6Output (mentions · "-A OUTPUT -j DROP") <;>
      cases anyLine snap.ip6Output (mentions · "-A OUTPUT -o tun+ -j ACCEPT") <;>
      simp [CheckResult.pass, CheckResult.warn]
  | off => simp [checkIpv6ProtectionIptables, CheckResult.warn]

theorem checkDnsModeMatchIptables_pass {mode : DnsMode} :
    (checkDnsModeMatchIptables snap mode verbose).verdict = .pass ↔
      ((mode = .tunnel ∨ mode = .strict) ∧
        anyLine snap.ksChain
            (fun line =>
              mentions line "--dport 53" && mentions line "ACCEPT" &&
                (mentions line "-o tun+" || mentions line "-o wg+" ||
                  mentions line "-o tap+")) = true ∧
          anyLine snap.ksChain
            (fun line =>
              mentions line "--dport 53" && mentions line "-j DROP") =
            true) ∨
        (mode = .localhost ∧
          (mentions snap.ksChain "127.0.0.0/8" = true ∨ mentions snap.ksChain "::1" = true)) := by
  cases mode with
  | any => simp [checkDnsModeMatchIptables, CheckResult.warn]
  | _ =>
    simp only [checkDnsModeMatchIptables]
    split <;> simp_all [CheckResult.pass, CheckResult.warn]

theorem checkNoRogueRulesIptables_pass :
    (checkNoRogueRulesIptables snap verbose).verdict = .pass ↔
      ∃ rule, firstOutputRule? snap.outputChain = some rule ∧
        mentions rule ("-A OUTPUT -j " ++ chainName) = true := by
  simp only [checkNoRogueRulesIptables]
  split
  · next rule found =>
      split <;> simp_all [CheckResult.pass, CheckResult.warn]
  · simp_all [CheckResult.warn]

theorem checkChainExistsNft_pass :
    (checkChainExistsNft table verbose).verdict = .pass ↔ Text.trim table.tableOutput ≠ [] := by
  unfold checkChainExistsNft
  split <;> simp_all [CheckResult.pass, CheckResult.fail]

theorem checkJumpRuleNft_pass :
    (checkJumpRuleNft table verbose).verdict = .pass ↔
      mentions table.tableOutput "chain output" = true ∧
        mentions table.tableOutput "hook output" = true := by
  unfold checkJumpRuleNft
  split <;> simp_all [CheckResult.pass, CheckResult.fail]

theorem checkDefaultDropNft_pass :
    (checkDefaultDropNft table verbose).verdict = .pass ↔
      mentions table.tableOutput "policy drop" = true := by
  unfold checkDefaultDropNft
  split <;> simp_all [CheckResult.pass, CheckResult.fail]

theorem checkIpv6ProtectionNft_pass {mode : Ipv6Mode} :
    (checkIpv6ProtectionNft table mode verbose).verdict = .pass ↔
      (mode = .block ∧
          mentions table.tableOutput "meta nfproto ipv6 drop" = true) ∨
        (mode = .tunnel ∧ mentions table.tableOutput "ip6 daddr fe80::/10 accept" = true) := by
  cases mode with
  | block =>
    simp only [checkIpv6ProtectionNft]
    split <;> simp_all [CheckResult.pass, CheckResult.fail]
  | tunnel =>
    simp only [checkIpv6ProtectionNft]
    split <;> simp_all [CheckResult.pass, CheckResult.warn]
  | off => simp [checkIpv6ProtectionNft, CheckResult.warn]

theorem checkDnsModeMatchNft_pass {mode : DnsMode} :
    (checkDnsModeMatchNft table mode verbose).verdict = .pass ↔
      ((mode = .tunnel ∨ mode = .strict) ∧
        (mentions table.tableOutput "udp dport 53 drop" = true ∨
          mentions table.tableOutput "tcp dport 53 drop" = true)) ∨
        (mode = .localhost ∧
          mentions table.tableOutput "ip daddr 127.0.0.0/8 udp dport 53 accept" = true) := by
  cases mode with
  | any => simp [checkDnsModeMatchNft, CheckResult.warn]
  | _ =>
    simp only [checkDnsModeMatchNft]
    split <;> simp_all [CheckResult.pass, CheckResult.warn]

theorem checkLoopbackAllowedNft_pass :
    (checkLoopbackAllowedNft table verbose).verdict = .pass ↔
      mentions table.tableOutput "oifname \"lo\" accept" = true := by
  unfold checkLoopbackAllowedNft
  split <;> simp_all [CheckResult.pass, CheckResult.fail]

end Passing

def iptablesChecks
    (snap : IptablesSnapshot)
    (jumpPresent : Bool)
    (settings : KillSwitchSettings)
    (verbose : Bool) :
    List CheckResult :=
  [ checkChainExistsIptables snap verbose,
    checkJumpRuleIptables jumpPresent,
    checkDefaultDropIptables snap verbose,
    checkLoopbackAllowedIptables snap verbose,
    checkVpnInterfacesAllowedIptables snap verbose,
    checkDhcpAllowedIptables snap verbose,
    checkIpv6ProtectionIptables snap settings.ipv6Mode verbose,
    checkDnsModeMatchIptables snap settings.dnsMode verbose,
    checkNoRogueRulesIptables snap verbose ]

def nftChecks
    (snap : NftSnapshot)
    (settings : KillSwitchSettings)
    (verbose : Bool) :
    List CheckResult :=
  [ checkChainExistsNft snap verbose,
    checkJumpRuleNft snap verbose,
    checkDefaultDropNft snap verbose,
    checkLoopbackAllowedNft snap verbose,
    checkVpnInterfacesAllowedNft snap verbose,
    checkDhcpAllowedNft snap verbose,
    checkIpv6ProtectionNft snap settings.ipv6Mode verbose,
    checkDnsModeMatchNft snap settings.dnsMode verbose,
    checkNoRogueRulesNft snap verbose ]

/-- The commands that `run_verification` issues. -/
inductive Probe where
  | showKillSwitchChain
  | listNftTable
  | iptablesVersion
  | listOutput
  | listNftTables
  | showOutput
  | showOutput6
  | checkJump
  deriving Repr, DecidableEq

/-- The tool and the arguments of a command. -/
def Probe.call : Probe → FwWrapper.FwTool × List String
  | .showKillSwitchChain =>
    (.xtables .iptables, ["-t", "filter", "-S", chainName])
  | .listNftTable => (.nft, ["list", "table", "inet", nftTable])
  | .iptablesVersion => (.xtables .iptables, ["--version"])
  | .listOutput => (.xtables .iptables, ["-t", "filter", "-L", "OUTPUT"])
  | .listNftTables => (.nft, ["list", "tables"])
  | .showOutput => (.xtables .iptables, ["-t", "filter", "-S", "OUTPUT"])
  | .showOutput6 => (.xtables .ip6tables, ["-t", "filter", "-S", "OUTPUT"])
  | .checkJump =>
    (.xtables .iptables, ["-t", "filter", "-C", "OUTPUT", "-j", chainName])

/-- What comes back from a command. -/
inductive Answer where
  | notRun (reason : String)
  | exited (success : Bool) (stdout stderr : List Char)
  deriving Repr, DecidableEq

def Answer.succeeded : Answer → Bool
  | .notRun _ => false
  | .exited success _ _ => success

/-- The answer of the daemon to a status request. -/
inductive StatusAnswer where
  | status (enabled : Bool)
  | failed
  | unexpected
  deriving Repr, DecidableEq

/-- The answers of the outside world to one verification. -/
structure VerifyEnv where
  /-- By the number of commands asked before. -/
  answer : Nat → Probe → Answer
  path : FwWrapper.FwTool → String
  scan : VpnEndpointScan
  status : StatusAnswer
  timestamp : String

/-- `VerificationReport`. -/
structure VerificationReport where
  overall : Verdict
  checks : List CheckResult
  timestamp : String
  backend : String
  summary : String

/-- `Display` of a backend. -/
def Backend.text : Backend → String
  | .iptables => "iptables"
  | .nftables => "nftables"

variable (env : VerifyEnv)

/-- Run one command; the state is the list of commands so far. -/
def ask (probe : Probe) : StateM (List Probe) Answer :=
  fun asked => (env.answer asked.length probe, asked ++ [probe])

def succeeds (probe : Probe) : StateM (List Probe) Bool := do
  let answer ← ask env probe
  pure answer.succeeded

/-- `detect_backend`. -/
def detectBackend : StateM (List Probe) (Except String Backend) := do
  if ← succeeds env .showKillSwitchChain then pure (.ok .iptables)
  else if ← succeeds env .listNftTable then pure (.ok .nftables)
  else if ← succeeds env .iptablesVersion then pure (.ok .iptables)
  else
    pure (.error "Neither iptables nor nftables kill switch rules found")

/-- `ensure_sudo_access`; a result is the error it returns. -/
def ensureSudoAccess : Backend → StateM (List Probe) (Option String)
  | .iptables => do
      if ← succeeds env .listOutput then pure none
      else
        pure (some ("Permission denied (sudo iptables failed). " ++
          "Run ./setup.sh --install-sudoers"))
  | .nftables => do
      if ← succeeds env .listNftTables then pure none
      else
        pure (some ("Permission denied (sudo nft failed). " ++
          "Run ./setup.sh --install-sudoers"))

/-- `run_sudo_capture`. -/
def runSudoCapture (probe : Probe) :
    StateM (List Probe) (Except String (List Char)) := do
  match ← ask env probe with
  | .notRun reason =>
    pure (.error ("Failed to run " ++ env.path probe.call.1 ++ ": " ++ reason))
  | .exited true stdout _ => pure (.ok stdout)
  | .exited false _ stderr => pure (.error (String.ofList (Text.trim stderr)))

/-- `is_missing_chain_error`. -/
def isMissingChainError (stderr : String) : Bool :=
  mentions stderr.toList "No chain/target/match by that name" ||
    mentions stderr.toList "No such file or directory" ||
    mentions stderr.toList "does not exist"

/-- `run_sudo_capture_allow_missing_chain`. -/
def runSudoCaptureAllowMissingChain (probe : Probe) :
    StateM (List Probe) (Except String (List Char)) := do
  match ← runSudoCapture env probe with
  | .ok text => pure (.ok text)
  | .error error =>
    if isMissingChainError error then pure (.ok [])
    else pure (.error error)

/-- `fetch_iptables_snapshot`. -/
def fetchIptablesSnapshot :
    StateM (List Probe) (Except String IptablesSnapshot) := do
  match ← runSudoCaptureAllowMissingChain env .showKillSwitchChain with
  | .error error => pure (.error error)
  | .ok ksChain =>
    match ← runSudoCapture env .showOutput with
    | .error error => pure (.error error)
    | .ok outputChain => do
        let ip6Output ← runSudoCapture env .showOutput6
        pure (.ok {
          ksChain := ksChain
          outputChain := outputChain
          ip6Output := ip6Output.toOption.getD [] })

/-- `check_hostname_endpoints`. -/
def checkHostnameEndpoints (scan : VpnEndpointScan) : CheckResult :=
  if scan.hostnameVpns.isEmpty then
    .pass "hostname_endpoints" "VPN endpoints can be pre-whitelisted"
      "All VPN endpoints are IP literals (or no VPNs configured)" none
  else
    let list := ", ".intercalate scan.hostnameVpns
    .warn "hostname_endpoints" "VPN endpoints can be pre-whitelisted"
      ("VPN(s) [" ++ list ++ "] use a hostname endpoint; kill switch cannot " ++
        "pre-whitelist them. The handshake may be blocked — use an IP " ++
        "endpoint or connect before enabling. (No DNS resolution is " ++
        "performed here by design — SHROUD-VULN-041.)")
      (some list.toList)

/-- `check_state_agreement`. -/
def checkStateAgreement (status : StatusAnswer) (actualEnabled : Bool) :
    CheckResult :=
  let name := "state_agreement"
  let description := "State machine agrees kill switch is active"
  match status with
  | .status enabled =>
    if enabled = actualEnabled then
      .pass name description "Daemon state matches firewall" none
    else
      .fail name description
        ("Daemon reports enabled=" ++ toString enabled ++
          " but firewall enabled=" ++ toString actualEnabled)
        none
  | .failed => .warn name description "Daemon not running or IPC failed" none
  | .unexpected => .warn name description "Unexpected IPC response" none

/-- The chain and its jump, the first two checks, both pass. -/
def actualEnabled (checks : List CheckResult) : Bool :=
  (checks.take 2).all (·.verdict == .pass)

/-- The report on the firewall checks of a backend. -/
def report (backend : Backend) (firewallChecks : List CheckResult) :
    VerificationReport :=
  let checks := firewallChecks ++
    [ checkHostnameEndpoints env.scan,
      checkStateAgreement env.status (actualEnabled firewallChecks) ]
  { overall := aggregateVerdict checks
    checks := checks
    timestamp := env.timestamp
    backend := backend.text
    summary := summarize checks }

/-- The firewall checks of a backend, or the error that prevents them. -/
def firewallChecks
    (backend : Backend)
    (settings : KillSwitchSettings)
    (verbose : Bool) :
    StateM (List Probe) (Except String (List CheckResult)) := do
  match backend with
  | .iptables =>
    match ← fetchIptablesSnapshot env with
    | .error error => pure (.error error)
    | .ok snap => do
        let jumpPresent ← succeeds env .checkJump
        pure (.ok (iptablesChecks snap jumpPresent settings verbose))
  | .nftables =>
    match ← runSudoCapture env .listNftTable with
    | .error error => pure (.error error)
    | .ok tableOutput => pure (.ok (nftChecks ⟨tableOutput⟩ settings verbose))

/-- `run_verification`. -/
def runVerification (settings : KillSwitchSettings) (verbose : Bool) :
    StateM (List Probe) (Except String VerificationReport) := do
  match ← detectBackend env with
  | .error error => pure (.error error)
  | .ok backend =>
    match ← ensureSudoAccess env backend with
    | some error => pure (.error error)
    | none =>
      match ← firewallChecks env backend settings verbose with
      | .error error => pure (.error error)
      | .ok checks => pure (.ok (report env backend checks))

/-- A host on which the iptables chain is there, with these listings. -/
structure ShowsIptables
    (snap : IptablesSnapshot)
    (jumpPresent : Bool) : Prop where
  chain :
    ∀ number, ∃ stderr, env.answer number .showKillSwitchChain = .exited true snap.ksChain stderr
  output : ∀ number, ∃ stderr, env.answer number .showOutput = .exited true snap.outputChain stderr
  output6 : ∀ number, ∃ stderr, env.answer number .showOutput6 = .exited true snap.ip6Output stderr
  access : ∀ number, (env.answer number .listOutput).succeeded = true
  jump : ∀ number, (env.answer number .checkJump).succeeded = jumpPresent

/-- A host without that chain, on which the nft table has this listing. -/
structure ShowsNft (text : List Char) : Prop where
  noChain : ∀ number, (env.answer number .showKillSwitchChain).succeeded = false
  table : ∀ number, ∃ stderr, env.answer number .listNftTable = .exited true text stderr
  access : ∀ number, (env.answer number .listNftTables).succeeded = true

variable {env}

theorem runSudoCapture_run
    {probe : Probe}
    {text : List Char}
    (answers : ∀ number, ∃ stderr, env.answer number probe = .exited true text stderr)
    (asked : List Probe) :
    (runSudoCapture env probe).run asked = (.ok text, asked ++ [probe]) := by
  obtain ⟨stderr, answer⟩ := answers asked.length
  have asks : (ask env probe).run asked = (.exited true text stderr, asked ++ [probe]) := by
    rw [← answer]
    rfl
  rw [runSudoCapture, run_bind, asks]
  rfl

theorem succeeds_run
    (probe : Probe)
    (asked : List Probe) :
    (succeeds env probe).run asked =
      ((env.answer asked.length probe).succeeded, asked ++ [probe]) :=
  rfl

theorem Answer.succeeded_of_exited
    {answers : Nat → Answer}
    {text : List Char}
    (exits : ∀ number, ∃ stderr, answers number = .exited true text stderr)
    (number : Nat) :
    (answers number).succeeded = true := by
  obtain ⟨stderr, exited⟩ := exits number
  rw [exited]
  rfl

section

variable {snap : IptablesSnapshot} {jumpPresent : Bool} (shows : ShowsIptables env snap jumpPresent)

include shows

theorem fetchIptablesSnapshot_run (asked : List Probe) :
    ((fetchIptablesSnapshot env).run asked).1 = .ok snap := by
  have captured (before : List Probe) :
      (runSudoCaptureAllowMissingChain env .showKillSwitchChain).run before =
        (.ok snap.ksChain, before ++ [.showKillSwitchChain]) := by
    rw [runSudoCaptureAllowMissingChain, run_bind, runSudoCapture_run shows.chain]
    rfl
  rw [fetchIptablesSnapshot, run_bind, captured]
  dsimp only
  rw [run_bind, runSudoCapture_run shows.output]
  dsimp only
  rw [run_bind, runSudoCapture_run shows.output6]
  rfl

theorem runVerification_iptables
    (settings : KillSwitchSettings)
    (verbose : Bool)
    (asked : List Probe) :
    ((runVerification env settings verbose).run asked).1 =
      .ok (report env .iptables (iptablesChecks snap jumpPresent settings verbose)) := by
  have detected :
      (detectBackend env).run asked = (.ok .iptables, asked ++ [.showKillSwitchChain]) := by
    rw [detectBackend, run_bind, succeeds_run, Answer.succeeded_of_exited shows.chain]
    rfl
  have accessed (before : List Probe) :
      (ensureSudoAccess env .iptables).run before = (none, before ++ [.listOutput]) := by
    rw [ensureSudoAccess, run_bind, succeeds_run, shows.access]
    rfl
  have checked (before : List Probe) :
      ((firewallChecks env .iptables settings verbose).run before).1 =
        .ok (iptablesChecks snap jumpPresent settings verbose) := by
    rw [firewallChecks, run_bind, fetchIptablesSnapshot_run shows]
    dsimp only
    rw [run_bind, succeeds_run, shows.jump]
    rfl
  rw [runVerification, run_bind, detected]
  dsimp only
  rw [run_bind, accessed]
  dsimp only
  rw [run_bind, checked]
  rfl

end

theorem runVerification_nft
    {text : List Char}
    (shows : ShowsNft env text)
    (settings : KillSwitchSettings)
    (verbose : Bool)
    (asked : List Probe) :
    ((runVerification env settings verbose).run asked).1 =
      .ok (report env .nftables (nftChecks ⟨text⟩ settings verbose)) := by
  have detected :
      (detectBackend env).run asked =
        (.ok .nftables, asked ++ [.showKillSwitchChain] ++ [.listNftTable]) := by
    rw [detectBackend, run_bind, succeeds_run, shows.noChain]
    dsimp only
    rw [if_neg Bool.false_ne_true, run_bind, succeeds_run, Answer.succeeded_of_exited shows.table]
    rfl
  have accessed (before : List Probe) :
      (ensureSudoAccess env .nftables).run before = (none, before ++ [.listNftTables]) := by
    rw [ensureSudoAccess, run_bind, succeeds_run, shows.access]
    rfl
  have checked (before : List Probe) :
      ((firewallChecks env .nftables settings verbose).run before).1 =
        .ok (nftChecks ⟨text⟩ settings verbose) := by
    rw [firewallChecks, run_bind, runSudoCapture_run shows.table]
    rfl
  rw [runVerification, run_bind, detected]
  dsimp only
  rw [run_bind, accessed]
  dsimp only
  rw [run_bind, checked]
  rfl

/-- The firewall checks of a report are those in front of its last two. -/
def FirewallPasses (result : Except String VerificationReport) : Prop :=
  ∃ report, result = .ok report ∧ ∀ check ∈ report.checks.dropLast.dropLast, check.verdict = .pass

theorem firewallPasses_report
    {backend : Backend}
    {checks : List CheckResult} :
    FirewallPasses (.ok (report env backend checks)) ↔ ∀ check ∈ checks, check.verdict = .pass := by
  have front : (report env backend checks).checks.dropLast.dropLast = checks := by
    simp [report, List.dropLast_append_of_ne_nil]
  constructor
  · rintro ⟨other, same, passes⟩
    rw [← Except.ok.inj same, front] at passes
    exact passes
  · intro passes
    refine ⟨_, rfl, ?_⟩
    rw [front]
    exact passes

theorem admits_probe
    (probe : Probe)
    (stdin : List Char) :
    FwWrapper.admits probe.call.1 probe.call.2 stdin = true := by
  cases probe <;> rfl

end Shroud.Verify
