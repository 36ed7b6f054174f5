import Shroud.NftText

namespace Shroud.RuleListing

open Netfilter AddressText

/-!
# How the tools list their rules

`iptables -S` and `nft list table` print one rule per line, in a form of their
own: addresses first and with their length, protocol modules spelled out,
defaults left out.  Where versions of `nft` differ, both ways are modelled.
-/

/-- A listing: its lines, each ended by a newline. -/
def listing (lines : List String) : List Char :=
  Text.unlines (lines.map String.toList)

/-- The address of a network without its host part. -/
def network {width : Nat} (net : Cidr width) : BitVec width :=
  (net.addr >>> (width - net.prefixLen)) <<< (width - net.prefixLen)

def protocolText : L4 → String
  | .udp => "udp"
  | .tcp => "tcp"

def protocol? (tests : List XMatch) : Option L4 :=
  tests.findSome? fun test =>
    match test with
    | .proto protocol => some protocol
    | _ => none

/-- The module behind a port option. -/
def portModule (protocol : Option L4) : List String :=
  match protocol with
  | some protocol => ["-m", protocolText protocol]
  | none => []

def matchWords (protocol : Option L4) : XMatch → List String
  | .dst (.v4 net) =>
    if net.prefixLen = 0 then []
    else ["-d", ipv4Text (network net) ++ "/" ++ toString net.prefixLen]
  | .dst (.v6 net) =>
    if net.prefixLen = 0 then []
    else
      ["-d", CommandText.ipv6Text (network net) ++ "/" ++ toString net.prefixLen]
  | .out pattern => ["-o", CommandText.ifaceText pattern]
  | .proto protocol => ["-p", protocolText protocol]
  | .dport port => portModule protocol ++ ["--dport", toString port.toNat]
  | .dportRange first last =>
    portModule protocol ++
      ["--dport", toString first.toNat ++ ":" ++ toString last.toNat]
  | .sport port => portModule protocol ++ ["--sport", toString port.toNat]
  | .ctTracked => ["-m", "conntrack", "--ctstate", "RELATED,ESTABLISHED"]
  | .stateTracked => ["-m", "state", "--state", "RELATED,ESTABLISHED"]
  | .limit => ["-m", "limit", "--limit", "1/sec"]

def targetWords : XTarget → List String
  | .accept => ["-j", "ACCEPT"]
  | .drop => ["-j", "DROP"]
  | .log logPrefix level =>
    ["-j", "LOG", "--log-prefix", logPrefix] ++
      (if level = 4 then [] else ["--log-level", toString level])
  | .jump chain => ["-j", CommandText.chainText chain]

/-- Addresses come before interfaces, protocols and modules. -/
def place : XMatch → Nat
  | .dst _ => 0
  | .out _ => 1
  | .proto _ => 2
  | _ => 3

/-- A rule behind `-A chain`, as it is listed. -/
def listedRule : XRule → String
  | .rule tests target =>
    " ".intercalate
      ((List.range 4).flatMap
          (fun number =>
            (tests.filter (place · == number)).flatMap (matchWords (protocol? tests))) ++
        targetWords target)
  | .foreign text => text

def ruleLine (chain text : String) : String :=
  "-A " ++ chain ++ " " ++ text

/-- `-S` of a user chain. -/
def chainListing (chain : String) (rules : List String) : List String :=
  ("-N " ++ chain) :: rules.map (ruleLine chain)

/-- `-S OUTPUT`. -/
def outputListing (policy : Verdict) (rules : List String) : List String :=
  (match policy with
    | .accept => "-P OUTPUT ACCEPT"
    | .drop => "-P OUTPUT DROP") ::
  rules.map (ruleLine "OUTPUT")

/-- The choices of different versions of `nft`. -/
structure NftStyle where
  /-- `priority filter` instead of `priority 0` -/
  namesPriority : Bool
  /-- `burst 5 packets` behind a rate limit -/
  showsBurst : Bool
  deriving Repr, DecidableEq

def NftStyle.priorityText (style : NftStyle) : String :=
  if style.namesPriority then "filter" else "0"

def NftStyle.limitText (style : NftStyle) : String :=
  if style.showsBurst then "limit rate 1/second burst 5 packets"
  else "limit rate 1/second"

def listedMatch (style : NftStyle) : NftMatch → String
  | .limitRate => style.limitText
  | .ipDaddr net =>
    "ip daddr " ++ CommandText.netText (.v4 { net with addr := network net })
  | .ip6Daddr net =>
    "ip6 daddr " ++ CommandText.netText (.v6 { net with addr := network net })
  | test => NftText.matchText test

def listedNftRule (style : NftStyle) (rule : NftRule) : String :=
  " ".intercalate
    (rule.tests.map (listedMatch style) ++
      (rule.log.map fun text => "log prefix \"" ++ text ++ "\"").toList ++
      [NftText.verdictText rule.verdict])

def hookLine (priority hook : String) (policy : Verdict) : String :=
  "\t\ttype filter hook " ++ hook ++ " priority " ++ priority ++
    "; policy " ++ NftText.verdictText policy ++ ";"

/-- A base chain that is named after its hook. -/
def nftChainLines
    (style : NftStyle)
    (name : String)
    (policy : Verdict)
    (rules : List String) :
    List String :=
  [ "\tchain " ++ name ++ " \x7b", hookLine style.priorityText name policy ] ++
  rules.map ("\t\t" ++ ·) ++
  ["\t\x7d"]

/-- The table of the kill switch. -/
def nftTableLines (style : NftStyle) (table : NftTable) : List String :=
  ["table inet shroud_killswitch \x7b"] ++
  nftChainLines style "output" table.output.policy (table.output.rules.map (listedNftRule style)) ++
  [""] ++
  nftChainLines style "input" table.input.policy (table.input.rules.map (listedNftRule style)) ++
  ["\x7d"]

theorem contains_listing
    {lines : List String}
    {line : String}
    {pattern : List Char}
    (member : line ∈ lines)
    (found : Text.contains pattern line.toList = true) :
    Text.contains pattern (listing lines) = true := by
  rw [Text.contains_iff_infix] at found ⊢
  exact found.trans (Text.infix_unlines (List.mem_map_of_mem member))

theorem contains_listing_eq_false
    {lines : List String}
    {pattern : List Char}
    (single : '\n' ∉ pattern)
    (nonempty : pattern ≠ [])
    (absent : ∀ line ∈ lines, ¬pattern <:+: line.toList) :
    Text.contains pattern (listing lines) = false := by
  rw [Bool.eq_false_iff, ne_eq, Text.contains_iff_infix]
  intro found
  obtain ⟨chars, member, inside⟩ := Text.infix_of_infix_unlines single nonempty found
  obtain ⟨line, listed, rfl⟩ := List.mem_map.mp member
  exact absent line listed inside

end Shroud.RuleListing
