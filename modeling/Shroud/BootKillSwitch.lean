import Shroud.KillSwitch

namespace Shroud.KillSwitch

open Netfilter IptablesScript KillSwitchRules StateProgram

/-!
# The boot kill switch

Before a headless daemon is up, `enable_boot_killswitch` fills a chain of its
own in both tools and makes `OUTPUT` jump to it.  The `iptables` part has to
work; the `ip6tables` part is tried only.  `disable_boot_killswitch` takes
both down again.
-/

def toolName : Tool → String
  | .iptables => "iptables"
  | .ip6tables => "ip6tables"

/-- How `run_iptables` and `run_ip6tables` read an outcome. -/
def bootError? (tool : Tool) (command : XCommand) :
    Outcome → Option KillSwitchError
  | .io _ reason =>
    some (.command ("Failed to run " ++ toolName tool ++ ": " ++ reason))
  -- These commands have no deadline of their own: something else ended them.
  | .timedOut =>
    some (.command (toolName tool ++ " " ++ CommandText.commandText command ++ " failed: "))
  | .exited code stderr =>
    if code = 0 then none
    else
      some (.command
        (toolName tool ++ " " ++ CommandText.commandText command ++ " failed: " ++ trimmed stderr))

variable (env : FwEnv)

/-- `run_iptables` and `run_ip6tables`. -/
def runBoot (tool : Tool) (command : XCommand) :
    StateM KsWorld (Option KillSwitchError) := do
  let outcome ← runCommand env (.xtables tool .default command)
  pure (bootError? tool command outcome)

/-- Create a chain, or empty the one that is there. -/
def createChain (tool : Tool) : StateM KsWorld (Option KillSwitchError) := do
  match ← runBoot env tool (.newChain .boot) with
  | none => pure none
  | some _ => runBoot env tool (.flush .boot)

/-- `create_boot_chain`. -/
def createBootChain : StateM KsWorld (Option KillSwitchError) := do
  match ← createChain env .iptables with
  | some error => pure (some error)
  | none => do
      let _ ← createChain env .ip6tables
      pure none

/-- `-A SHROUD_BOOT_KS ...`, required or only tried. -/
def bootRule
    (tool : Tool)
    (tests : List XMatch)
    (target : XTarget)
    (tried : Bool) :
    ScriptLine :=
  .command tool (.append (.user .boot) (.rule tests target)) tried

def bootRulesBeforeLan : List ScriptLine :=
  [ bootRule .iptables [.out lo] .accept false,
    bootRule .ip6tables [.out lo] .accept true,
    bootRule .iptables [.stateTracked] .accept false,
    bootRule .ip6tables [.stateTracked] .accept true,
    bootRule .iptables [.proto .udp, .dportRange 67 68] .accept false ]

def bootLanRules (lanSubnets : List Cidr4) : List ScriptLine :=
  (lanSubnets.filter isValidPrivateCidr).map
    (fun net => bootRule .iptables [.dst (.v4 net)] .accept false) ++
  [bootRule .ip6tables [.dst (.v6 linkLocal6)] .accept true]

def bootDropRules : List ScriptLine :=
  [ bootRule .iptables [] .drop false, bootRule .ip6tables [] .drop true ]

/-- One line of the boot rules; a result is the error that ends them. -/
def runBootLine : ScriptLine → StateM KsWorld (Option KillSwitchError)
  | .comment _ => pure none
  | .command tool command tried => do
      let result ← runBoot env tool command
      pure (if tried then none else result)

def addBootRulesFromLan (allowLan : Bool) :
    StateM KsWorld (Option KillSwitchError) := do
  let world ← get
  let lanRules :=
    if allowLan then bootLanRules (env.lanSubnets world.host.issued) else []
  (lanRules ++ bootDropRules).findSomeM? (runBootLine env)

/-- `add_boot_rules`. -/
def addBootRules (allowLan : Bool) :
    StateM KsWorld (Option KillSwitchError) := do
  match ← bootRulesBeforeLan.findSomeM? (runBootLine env) with
  | some error => pure (some error)
  | none => addBootRulesFromLan env allowLan

/-- The jump from `OUTPUT` into a chain of Shroud. -/
def jumpTo (chain : Chain) : XRule :=
  .rule [] (.jump chain)

def removeBootJumps (tool : Tool) : StateM KsWorld Unit :=
  repeatWhile (succeeds env (.xtables tool .default (.delete .output (jumpTo .boot)))) 10

def bootJumpLines : List ScriptLine :=
  [ .command .iptables (.insert .output 1 (jumpTo .boot)) false,
    .command .ip6tables (.insert .output 1 (jumpTo .boot)) true ]

/-- `insert_boot_chain_jump`. -/
def insertBootChainJump : StateM KsWorld (Option KillSwitchError) := do
  removeBootJumps env .iptables
  removeBootJumps env .ip6tables
  bootJumpLines.findSomeM? (runBootLine env)

/-- `enable_boot_killswitch`; a result is the error it returns. -/
def enableBootKillswitch (allowLan : Bool) :
    StateM KsWorld (Option KillSwitchError) := do
  match ← createBootChain env with
  | some error => pure (some error)
  | none =>
    match ← addBootRules env allowLan with
    | some error => pure (some error)
    | none => insertBootChainJump env

def removeAllBootJumps (tool : Tool) : StateM KsWorld Unit :=
  repeatWhile (succeeds env (.xtables tool .default (.delete .output (jumpTo .boot)))) 100

/-- `disable_boot_killswitch`, which reports no failure. -/
def disableBootKillswitch : StateM KsWorld Unit := do
  removeAllBootJumps env .iptables
  removeAllBootJumps env .ip6tables
  let _ ← runBoot env .iptables (.flush .boot)
  let _ ← runBoot env .iptables (.deleteChain .boot)
  let _ ← runBoot env .ip6tables (.flush .boot)
  let _ ← runBoot env .ip6tables (.deleteChain .boot)
  pure ()

end Shroud.KillSwitch
