import Shroud.IptablesScript
import Shroud.NftRuleset
import Shroud.StateProgram
import Shroud.Text

namespace Shroud

open Netfilter IptablesScript AddressText

/-!
# The host that runs firewall commands

Every privileged command is a process that may fail to start, hang, exit with
an error or be refused by the tool.  `FwEnv` is the oracle for all of this:
it answers by the running number of a command.  A command that fails has no
effect; a command that does not fail does what its tool does.
-/

namespace CommandText

/-- `char::from_digit` in lower-case hexadecimal. -/
def hexDigits (value : Nat) : List Char :=
  Nat.toDigits 16 value

/-- The eight groups of an IPv6 address. -/
def groups (addr : Ipv6Addr) : List Nat :=
  (List.range 8).map fun index =>
    (addr >>> (16 * (7 - index))).toNat % 65536

def zeroRun (list : List Nat) : Nat :=
  (list.takeWhile (· == 0)).length

/-- Start and length of the longest run of zero groups, the first on a tie. -/
def longestZeroRun (list : List Nat) : Nat × Nat :=
  (List.range list.length).foldl
    (fun best start =>
      let length := zeroRun (list.drop start)
      if best.2 < length then (start, length) else best)
    (0, 0)

def joinGroups (list : List Nat) : String :=
  ":".intercalate (list.map fun group => String.ofList (hexDigits group))

def ipv6Text (addr : Ipv6Addr) : String :=
  let list := groups addr
  if list.take 6 = [0, 0, 0, 0, 0, 0xffff] then
    "::ffff:" ++ ipv4Text (addr.setWidth 32)
  else
    let run := longestZeroRun list
    if 1 < run.2 then
      joinGroups (list.take run.1) ++ "::" ++ joinGroups (list.drop (run.1 + run.2))
    else
      joinGroups list

/-- A single address is printed without its length. -/
def netText : IpNet → String
  | .v4 net =>
    if net.prefixLen = 32 then ipv4Text net.addr
    else ipv4Text net.addr ++ "/" ++ toString net.prefixLen
  | .v6 net =>
    if net.prefixLen = 128 then ipv6Text net.addr
    else ipv6Text net.addr ++ "/" ++ toString net.prefixLen

/-- The `+` of xtables stands for any continuation of the name. -/
def ifaceText : IfacePattern → String
  | .exact name => name
  | .startingWith stem => stem ++ "+"

def chainText : Chain → String
  | .killSwitch => "SHROUD_KILLSWITCH"
  | .boot => "SHROUD_BOOT_KS"

def chainRefText : ChainRef → String
  | .output => "OUTPUT"
  | .user chain => chainText chain

def matchText : XMatch → String
  | .out pattern => "-o " ++ ifaceText pattern
  | .ctTracked => "-m conntrack --ctstate ESTABLISHED,RELATED"
  | .stateTracked => "-m state --state ESTABLISHED,RELATED"
  | .proto .udp => "-p udp"
  | .proto .tcp => "-p tcp"
  | .dport port => "--dport " ++ toString port.toNat
  | .dportRange first last =>
    "--dport " ++ toString first.toNat ++ ":" ++ toString last.toNat
  | .sport port => "--sport " ++ toString port.toNat
  | .dst net => "-d " ++ netText net
  | .limit => "-m limit --limit 1/sec"

def targetText : XTarget → String
  | .accept => "-j ACCEPT"
  | .drop => "-j DROP"
  | .log logPrefix level =>
    "-j LOG --log-prefix " ++ logPrefix ++ " --log-level " ++
      toString level
  | .jump chain => "-j " ++ chainText chain

def ruleText : XRule → String
  | .rule tests target =>
    " ".intercalate (tests.map matchText ++ [targetText target])
  | .foreign text => text

def commandText : XCommand → String
  | .newChain chain => "-N " ++ chainText chain
  | .append chain rule => "-A " ++ chainRefText chain ++ " " ++ ruleText rule
  | .insert chain position rule =>
    "-I " ++ chainRefText chain ++ " " ++ toString position ++ " " ++ ruleText rule
  | .delete chain rule => "-D " ++ chainRefText chain ++ " " ++ ruleText rule
  | .check chain rule => "-C " ++ chainRefText chain ++ " " ++ ruleText rule
  | .flush chain => "-F " ++ chainText chain
  | .deleteChain chain => "-X " ++ chainText chain
  | .list chain => "-L " ++ chainText chain ++ " -n"

end CommandText

/-- The commands that the kill switch issues. -/
inductive FwCommand where
  | xtables (tool : Tool) (variant : Variant) (command : XCommand)
  /-- `nft delete table inet shroud_killswitch` -/
  | nftDelete
  /-- `nft -f -` -/
  | nftLoad (table : NftTable)
  /-- `nft list table inet shroud_killswitch` -/
  | nftList
  /-- `nft --version`: by name, by path, and by path through `sudo` -/
  | nftVersion (attempt : Fin 3)
  /-- `iptables -L -n` -/
  | listAll (variant : Variant)
  /-- `iptables-legacy --version`: by name and by path -/
  | legacyVersion (tool : Tool) (attempt : Fin 2)
  deriving DecidableEq

variable {command : FwCommand}

namespace FwCommand

/-- The effect of a command, or nothing when its tool refuses it. -/
def exec (firewall : Firewall) : FwCommand → Option Firewall
  | .xtables tool variant command =>
    (command.exec tool (firewall.table tool variant)).map (firewall.setTable tool variant)
  | .nftDelete =>
    if firewall.nft.isSome then some { firewall with nft := none }
    else none
  | .nftLoad table =>
    some { firewall with nft := some (NftTable.load firewall.nft table) }
  | .nftList => if firewall.nft.isSome then some firewall else none
  | .nftVersion _ => some firewall
  | .listAll _ => some firewall
  | .legacyVersion _ _ => some firewall

/-- Commands that read the firewall only. -/
def observes : FwCommand → Bool
  | .xtables _ _ (.check _ _) => true
  | .xtables _ _ (.list _) => true
  | .nftList => true
  | .nftVersion _ => true
  | .listAll _ => true
  | .legacyVersion _ _ => true
  | _ => false

variable {before : Firewall}

theorem exec_of_observes
    (observes : command.observes = true)
    {after : Firewall}
    (executed : command.exec before = some after) :
    after = before := by
  cases command with
  | xtables tool variant command =>
    obtain ⟨table, ran, rfl⟩ := Option.map_eq_some_iff.mp executed
    have sameTable : table = before.table tool variant := by
      cases command with
      | check chain rule =>
        obtain ⟨rules, -, checked⟩ := Option.bind_eq_some_iff.mp ran
        by_cases present : rule ∈ rules
        · simpa [present] using checked.symm
        · simp [present] at checked
      | list chain =>
        obtain ⟨rules, -, same⟩ := Option.map_eq_some_iff.mp ran
        exact same.symm
      | _ => simp [FwCommand.observes] at observes
    rw [sameTable, Firewall.setTable_self]
  | nftList =>
    by_cases present : before.nft.isSome = true
    · simpa [exec, present] using executed.symm
    · simp [exec, present] at executed
  | nftDelete => simp [FwCommand.observes] at observes
  | nftLoad table => simp [FwCommand.observes] at observes
  | _ => exact (Option.some.inj executed).symm

/-- A command edits one filter table, or none. -/
theorem tables_of_exec
    {after : Firewall}
    (executed : command.exec before = some after) :
    (∃ tool variant edit table,
        command = .xtables tool variant edit ∧
          edit.exec tool (before.table tool variant) = some table ∧
          after = before.setTable tool variant table) ∨
      after.table = before.table := by
  cases command with
  | xtables tool variant edit =>
    obtain ⟨table, ran, rfl⟩ := Option.map_eq_some_iff.mp executed
    exact .inl ⟨tool, variant, edit, table, rfl, ran, rfl⟩
  | nftDelete | nftList =>
    obtain ⟨-, same⟩ := Option.ite_none_right_eq_some.mp executed
    exact .inr (by rw [← Option.some.inj same])
  | _ => exact .inr (by rw [← Option.some.inj executed])

/-- Commands that edit `OUTPUT` of the default `iptables`. -/
def editsOutput : FwCommand → Bool
  | .xtables .iptables .default command => command.editsOutput
  | _ => false

theorem output_of_exec
    (elsewhere : command.editsOutput = false)
    {after : Firewall}
    (executed : command.exec before = some after) :
    (after.table .iptables .default).output = (before.table .iptables .default).output := by
  rcases tables_of_exec executed with ⟨tool, variant, edit, table, rfl, ran, rfl⟩ | same
  · by_cases same : Tool.iptables = tool ∧ Variant.default = variant
    · obtain ⟨rfl, rfl⟩ := same
      rw [Firewall.setTable_same]
      exact XCommand.output_of_exec elsewhere ran
    · rw [Firewall.setTable_other _ same]
  · rw [same]

/-- Commands of another tool than `iptables`. -/
def sparesIptables : FwCommand → Bool
  | .xtables .iptables _ _ => false
  | _ => true

theorem iptables_of_exec
    (spares : command.sparesIptables = true)
    {after : Firewall}
    (executed : command.exec before = some after) :
    after.table .iptables = before.table .iptables := by
  rcases tables_of_exec executed with ⟨tool, variant, edit, table, rfl, -, rfl⟩ | same
  · cases tool with
    | iptables => exact Bool.noConfusion spares
    | ip6tables =>
      funext other
      exact Firewall.setTable_other _ (by simp) table
  · rw [same]

/-- The probes that find out whether nftables is installed. -/
def isNftProbe : FwCommand → Bool
  | .nftVersion _ => true
  | _ => false

end FwCommand

/-- Where the handling of a child process can fail. -/
inductive IoStage where
  | spawn
  | write
  | wait
  deriving Repr, DecidableEq

/-- The exit code of a failed process; `-1` stands for a signal. -/
def FailureCode := { code : Int // code ≠ 0 }

theorem one_isFailure :
    (1 : Int) ≠ 0 := by
  decide

/-- A reason for a command to fail before it takes effect. -/
inductive Fault where
  | io (stage : IoStage) (reason : String)
  | timeout
  | exit (code : FailureCode)

/-- What the daemon sees of a command. -/
inductive Outcome where
  | io (stage : IoStage) (reason : String)
  | timedOut
  | exited (code : Int) (stderr : String)
  deriving Repr, DecidableEq

def Outcome.succeeded : Outcome → Bool
  | .exited code _ => code == 0
  | _ => false

/-- What became of a command. -/
inductive Effect where
  | applied
  | refused
  | faulted
  deriving Repr, DecidableEq

/-- One entry of the command log. -/
structure LogEntry where
  command : FwCommand
  effect : Effect
  deriving DecidableEq

/-- `VpnEndpointScan`: server addresses, and VPNs known by host name only. -/
structure VpnEndpointScan where
  ips : List IpAddr
  hostnameVpns : List String
  deriving Repr, DecidableEq

/-- The answers of the outside world. -/
structure FwEnv where
  /-- Whether a command fails, by its running number. -/
  fault : Nat → FwCommand → Option Fault
  /-- The exit code of a refused command. -/
  refusal : Nat → FailureCode
  stderr : Nat → String
  /-- How long a command takes, in milliseconds. -/
  millis : Nat → Nat
  /-- The endpoint scans of NetworkManager profiles, by running number. -/
  scan : Nat → VpnEndpointScan
  scanMillis : Nat → Nat
  /-- The detected subnets, by the number of commands issued so far. -/
  lanSubnets : Nat → List Cidr4
  lanSubnets6 : Nat → List Cidr6
  /-- The paths of the binaries. -/
  path : Tool → String

/-- The host: its firewall, its clock and what was asked of it. -/
structure Host where
  firewall : Firewall
  /-- Milliseconds since some start. -/
  now : Nat
  issued : Nat
  scans : Nat
  log : List LogEntry

namespace Host

/-- What becomes of a command that is issued now. -/
def effectOf (env : FwEnv) (host : Host) (command : FwCommand) : Effect :=
  match command.exec host.firewall, env.fault host.issued command with
  | none, _ => .refused
  | some _, some _ => .faulted
  | some _, none => .applied

/-- What the daemon sees of a command that is issued now. -/
def outcomeOf (env : FwEnv) (host : Host) (command : FwCommand) : Outcome :=
  match env.fault host.issued command with
  | some (.io stage reason) => .io stage reason
  | some .timeout => .timedOut
  | some (.exit code) => .exited code.val (env.stderr host.issued)
  | none =>
    match command.exec host.firewall with
    | some _ => .exited 0 (env.stderr host.issued)
    | none => .exited (env.refusal host.issued).val (env.stderr host.issued)

def after (env : FwEnv) (host : Host) (command : FwCommand) : Host :=
  { host with
    firewall :=
      match env.fault host.issued command with
      | some _ => host.firewall
      | none => (command.exec host.firewall).getD host.firewall
    now := host.now + env.millis host.issued
    issued := host.issued + 1
    log := host.log ++ [⟨command, host.effectOf env command⟩] }

theorem succeeded_outcomeOf
    (env : FwEnv)
    (host : Host)
    (command : FwCommand) :
    (host.outcomeOf env command).succeeded = true ↔ host.effectOf env command = .applied := by
  unfold outcomeOf effectOf
  cases env.fault host.issued command with
  | none =>
    cases command.exec host.firewall with
    | none => simp [Outcome.succeeded, (env.refusal host.issued).property]
    | some firewall => simp [Outcome.succeeded]
  | some fault =>
    cases fault with
    | exit code =>
      cases command.exec host.firewall <;>
        simp [Outcome.succeeded, code.property]
    | _ => cases command.exec host.firewall <;> simp [Outcome.succeeded]

variable {env : FwEnv} {host : Host}

theorem exec_of_applied (applied : host.effectOf env command = .applied) :
    command.exec host.firewall = some (host.after env command).firewall := by
  unfold effectOf at applied
  cases result : command.exec host.firewall with
  | none => simp [result] at applied
  | some firewall =>
    cases fault : env.fault host.issued command with
    | some reason => simp [result, fault] at applied
    | none => simp [after, fault, result]

theorem not_applied_of_fault
    (faulty : (env.fault host.issued command).isSome = true) :
    host.effectOf env command ≠ .applied := by
  obtain ⟨reason, fault⟩ := Option.isSome_iff_exists.mp faulty
  unfold effectOf
  rw [fault]
  cases command.exec host.firewall <;> simp

theorem firewall_of_not_applied
    (notApplied : host.effectOf env command ≠ .applied) :
    (host.after env command).firewall = host.firewall := by
  unfold effectOf at notApplied
  cases fault : env.fault host.issued command with
  | some reason => simp [after, fault]
  | none =>
    cases result : command.exec host.firewall with
    | none => simp [after, fault, result]
    | some firewall => simp [result, fault] at notApplied

end Host

end Shroud
