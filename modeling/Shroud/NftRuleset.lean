import Shroud.KillSwitchRules

namespace Shroud.NftRuleset

open Netfilter KillSwitchRules AddressText

/-!
# The nftables ruleset

`build_nft_ruleset` emits one `inet` table with a dropping output chain and an
empty input chain.  Section by section, the rule list below follows the text
the builder writes.
-/

/-- A rule without a log statement. -/
def nftRule (tests : List NftMatch) (verdict : Verdict) : NftRule where
  tests := tests
  log := none
  verdict := verdict

/-- `ip daddr addr`. -/
def daddr4 (addr : Ipv4Addr) : NftMatch :=
  .ipDaddr (Cidr.host addr)

/-- `ip6 daddr addr`. -/
def daddr6 (addr : Ipv6Addr) : NftMatch :=
  .ip6Daddr (Cidr.host addr)

def ipv6Rules : Ipv6Mode → List NftRule
  | .block => [nftRule [.nfprotoIpv6] .drop]
  | .tunnel => [nftRule [.ip6Daddr linkLocal6] .accept]
  | .off => [nftRule [.ip6Daddr linkLocal6] .accept]

def dhcpRules : List NftRule :=
  [ nftRule [.udpDport 67] .accept, nftRule [.udpSport 68] .accept ]

def dnsRules (dnsMode : DnsMode) (ipv6Mode : Ipv6Mode) : List NftRule :=
  match dnsMode with
  | .tunnel | .strict =>
    [ nftRule [.oifname tun, .udpDport 53] .accept,
      nftRule [.oifname tun, .tcpDport 53] .accept,
      nftRule [.oifname wg, .udpDport 53] .accept,
      nftRule [.oifname wg, .tcpDport 53] .accept,
      nftRule [.oifname tap, .udpDport 53] .accept,
      nftRule [.oifname tap, .tcpDport 53] .accept,
      nftRule [.udpDport 53] .drop,
      nftRule [.tcpDport 53] .drop,
      nftRule [.tcpDport 853] .drop ]
  | .localhost =>
    [ nftRule [daddr4 (.ofOctets 127 0 0 1), .udpDport 53] .accept,
      nftRule [daddr4 (.ofOctets 127 0 0 1), .tcpDport 53] .accept,
      nftRule [daddr4 (.ofOctets 127 0 0 53), .udpDport 53] .accept,
      nftRule [daddr4 (.ofOctets 127 0 0 53), .tcpDport 53] .accept ] ++
    (if ipv6Mode ≠ .block then
      [ nftRule [daddr6 loopback6, .udpDport 53] .accept,
        nftRule [daddr6 loopback6, .tcpDport 53] .accept ]
    else
      []) ++
    [ nftRule [.udpDport 53] .drop, nftRule [.tcpDport 53] .drop, nftRule [.tcpDport 853] .drop ]
  | .any => [ nftRule [.udpDport 53] .accept, nftRule [.tcpDport 53] .accept ]

def dohRules (settings : KillSwitchSettings) : List NftRule :=
  if settings.blockDoh && settings.dnsMode.isTunnelOrStrict then
    settings.dohAddresses.map fun addr =>
      nftRule [daddr4 addr, .tcpDport 443] .drop
  else
    []

def lanRules (lanSubnets : List Cidr4) : List NftRule :=
  (lanSubnets.filter isValidPrivateCidr).map fun net =>
    nftRule [.ipDaddr net] .accept

def tunnelRules : List NftRule :=
  [ nftRule [.oifname tun] .accept, nftRule [.oifname tap] .accept, nftRule [.oifname wg] .accept ]

def serverRules
    (ipv6Mode : Ipv6Mode)
    (vpnServerIps : List IpAddr) :
    List NftRule :=
  vpnServerIps.filterMap fun ip =>
    match ip with
    | .v4 addr =>
      if isValidIpv4 (ipv4Text addr) then
        some (nftRule [daddr4 addr] .accept)
      else
        none
    | .v6 addr =>
      if ipv6Mode ≠ .block then
        some (nftRule [daddr6 addr] .accept)
      else
        none

def explicitServerRules
    (ipv6Mode : Ipv6Mode) :
    Option IpAddr → List NftRule
  | none => []
  | some (.v4 addr) => [nftRule [daddr4 addr] .accept]
  | some (.v6 addr) =>
    if ipv6Mode ≠ .block then [nftRule [daddr6 addr] .accept] else []

/-- The rules of the output chain, section after section. -/
def outputRules
    (settings : KillSwitchSettings)
    (vpnServerIps : List IpAddr)
    (lanSubnets : List Cidr4) :
    List NftRule :=
  [ nftRule [.oifname lo] .accept, nftRule [.ctTracked] .accept ] ++
  ipv6Rules settings.ipv6Mode ++
  dhcpRules ++
  dnsRules settings.dnsMode settings.ipv6Mode ++
  dohRules settings ++
  lanRules lanSubnets ++
  tunnelRules ++
  serverRules settings.ipv6Mode vpnServerIps ++
  explicitServerRules settings.ipv6Mode settings.vpnServerIp ++
  [ { tests := [.limitRate]
      log := some "SHROUD-KS-DROP"
      verdict := .drop } ]

/-- `build_nft_ruleset`. -/
def buildNftRuleset
    (settings : KillSwitchSettings)
    (vpnServerIps : List IpAddr)
    (lanSubnets : List Cidr4) :
    NftTable where
  output := {
    policy := .drop
    rules := outputRules settings vpnServerIps lanSubnets }
  input := {
    policy := .accept
    rules := [] }

end Shroud.NftRuleset
