import Shroud.FirewallHost
import Shroud.TextSearch

namespace Shroud.NftText

open Netfilter KillSwitchRules AddressText NftRuleset

/-!
# The text of the nftables ruleset

`build_nft_ruleset` writes the text that `nft -f -` reads from its standard
input.  The lines below are those of the source, comments and blank lines
included; `NftRuleset` holds the rules that this text means.
-/

/-- The `*` of nft stands for any continuation of the name. -/
def ifaceText : IfacePattern → String
  | .exact name => "\"" ++ name ++ "\""
  | .startingWith stem => "\"" ++ stem ++ "*\""

def matchText : NftMatch → String
  | .oifname pattern => "oifname " ++ ifaceText pattern
  | .ctTracked => "ct state established,related"
  | .nfprotoIpv6 => "meta nfproto ipv6"
  | .ipDaddr net => "ip daddr " ++ CommandText.netText (.v4 net)
  | .ip6Daddr net => "ip6 daddr " ++ CommandText.netText (.v6 net)
  | .udpDport port => "udp dport " ++ toString port.toNat
  | .udpSport port => "udp sport " ++ toString port.toNat
  | .tcpDport port => "tcp dport " ++ toString port.toNat
  | .limitRate => "limit rate 1/second"

def verdictText : Verdict → String
  | .accept => "accept"
  | .drop => "drop"

/-- The opening of the table and of the output chain. -/
def openingLines : List String :=
  [ "",
    "table inet shroud_killswitch \x7b",
    "    chain output \x7b",
    "        type filter hook output priority 0; policy drop;",
    "",
    "        # === LOOPBACK ===",
    "        oifname \"lo\" accept",
    "",
    "        # === ESTABLISHED/RELATED ===",
    "        ct state established,related accept" ]

def ipv6Lines : Ipv6Mode → List String
  | .block =>
    [ "", "        # === IPv6 LEAK PROTECTION (block mode) ===", "        meta nfproto ipv6 drop" ]
  | .tunnel =>
    [ "",
      "        # === IPv6 LEAK PROTECTION (tunnel mode) ===",
      "        ip6 daddr fe80::/10 accept" ]
  | .off =>
    [ "",
      "        # === IPv6 (off - no special handling) ===",
      "        ip6 daddr fe80::/10 accept" ]

def dhcpLines : List String :=
  [ "", "        # === DHCP ===", "        udp dport 67 accept", "        udp sport 68 accept" ]

def dnsLines (dnsMode : DnsMode) (ipv6Mode : Ipv6Mode) : List String :=
  match dnsMode with
  | .tunnel | .strict =>
    [ "",
      "        # === DNS LEAK PROTECTION (tunnel/strict) ===",
      "        oifname \"tun*\" udp dport 53 accept",
      "        oifname \"tun*\" tcp dport 53 accept",
      "        oifname \"wg*\" udp dport 53 accept",
      "        oifname \"wg*\" tcp dport 53 accept",
      "        oifname \"tap*\" udp dport 53 accept",
      "        oifname \"tap*\" tcp dport 53 accept",
      "        udp dport 53 drop",
      "        tcp dport 53 drop",
      "        tcp dport 853 drop" ]
  | .localhost =>
    [ "",
      "        # === DNS LEAK PROTECTION (localhost) ===",
      "        ip daddr 127.0.0.1 udp dport 53 accept",
      "        ip daddr 127.0.0.1 tcp dport 53 accept",
      "        ip daddr 127.0.0.53 udp dport 53 accept",
      "        ip daddr 127.0.0.53 tcp dport 53 accept" ] ++
    (if ipv6Mode ≠ .block then
      [ "",
        "        ip6 daddr ::1 udp dport 53 accept",
        "        ip6 daddr ::1 tcp dport 53 accept" ]
    else
      []) ++
    [ "", "        udp dport 53 drop", "        tcp dport 53 drop", "        tcp dport 853 drop" ]
  | .any =>
    [ "",
      "        # === DNS (any mode - LEGACY/INSECURE) ===",
      "        udp dport 53 accept",
      "        tcp dport 53 accept" ]

/-- The section on DNS-over-HTTPS; entries are written as they were given. -/
def dohLines (settings : KillSwitchSettings) : List String :=
  if settings.blockDoh && settings.dnsMode.isTunnelOrStrict then
    [ "", "        # === Block DNS-over-HTTPS (DoH) ===" ] ++
    ((dohProviders ++ settings.customDohBlocklist).filter isValidIpv4).map
      fun ip => "        ip daddr " ++ ip ++ " tcp dport 443 drop"
  else
    []

/-- A subnet as it was detected, always with its length. -/
def subnetText (net : Cidr4) : String :=
  ipv4Text net.addr ++ "/" ++ toString net.prefixLen

def lanLines (lanSubnets : List Cidr4) : List String :=
  [ "", "        # === LOCAL NETWORK ===" ] ++
  (lanSubnets.filter isValidPrivateCidr).map fun net =>
    "        ip daddr " ++ subnetText net ++ " accept"

def tunnelLines : List String :=
  [ "",
    "        # === VPN TUNNEL INTERFACES ===",
    "        oifname \"tun*\" accept",
    "        oifname \"tap*\" accept",
    "        oifname \"wg*\" accept" ]

/-- The rule for one server, unless its family is blocked. -/
def serverLines (ipv6Mode : Ipv6Mode) : IpAddr → List String
  | .v4 addr => ["        ip daddr " ++ ipv4Text addr ++ " accept"]
  | .v6 addr =>
    if ipv6Mode ≠ .block then
      ["        ip6 daddr " ++ CommandText.ipv6Text addr ++ " accept"]
    else
      []

def allowlistLines
    (ipv6Mode : Ipv6Mode)
    (vpnServerIps : List IpAddr) :
    List String :=
  (if vpnServerIps.isEmpty then []
    else ["", "        # === VPN SERVER ALLOWLIST ==="]) ++
  (vpnServerIps.filter fun ip =>
      match ip with
      | .v4 addr => isValidIpv4 (ipv4Text addr)
      | .v6 _ => true).flatMap
    (serverLines ipv6Mode)

/-- The end of the output chain, and the input chain. -/
def closingLines : List String :=
  [ "",
    "        # === DEFAULT DROP ===",
    "        limit rate 1/second log prefix \"SHROUD-KS-DROP\" drop",
    "    \x7d",
    "",
    "    chain input \x7b",
    "        type filter hook input priority 0; policy accept;",
    "    \x7d",
    "\x7d" ]

def rulesetLines
    (settings : KillSwitchSettings)
    (vpnServerIps : List IpAddr)
    (lanSubnets : List Cidr4) :
    List String :=
  openingLines ++
  ipv6Lines settings.ipv6Mode ++
  dhcpLines ++
  dnsLines settings.dnsMode settings.ipv6Mode ++
  dohLines settings ++
  lanLines lanSubnets ++
  tunnelLines ++
  allowlistLines settings.ipv6Mode vpnServerIps ++
  settings.vpnServerIp.toList.flatMap (serverLines settings.ipv6Mode) ++
  closingLines

/-- `build_nft_ruleset`, as a text. -/
def buildNftText
    (settings : KillSwitchSettings)
    (vpnServerIps : List IpAddr)
    (lanSubnets : List Cidr4) :
    List Char :=
  Text.unlines ((rulesetLines settings vpnServerIps lanSubnets).map String.toList)

end Shroud.NftText
