import Shroud.KillSwitch

namespace Shroud.KillSwitch

open Netfilter StateProgram

/-!
# The cleanup on the way out

`cleanup_with_fallback` runs when the daemon quits.  It does not go through
the kill switch: it lists, removes jumps, flushes and deletes the two chains of
both tools, deletes the nft table, and looks again.  `cleanup_all` does the
same without the first look; a new daemon runs it when it finds a chain.
-/

/-- `CleanupError`; a process that overruns the deadline is killed. -/
inductive CleanupError where
  | timeout
  | commandFailed (message : String)
  deriving Repr, DecidableEq

/-- `CleanupResult`. -/
inductive CleanupResult where
  | cleaned
  | nothingToClean
  | failed (error : CleanupError)
  deriving Repr, DecidableEq

/-- `SHROUD_CHAINS`. -/
def shroudChains : List Chain := [.killSwitch, .boot]

def cleanupTools : List Tool := [.iptables, .ip6tables]

/-- `CLEANUP_TIMEOUT`, in milliseconds. -/
def cleanupTimeoutMs : Nat := 5000

variable (env : FwEnv)

/-- `rules_exist` and `rules_exist_ipv6`. -/
def chainExists (tool : Tool) : StateM KsWorld Bool :=
  succeeds env (.xtables tool .default (.list .killSwitch))

/-- Remove the jumps to a chain, one by one, up to a limit. -/
def removeJumps (tool : Tool) (chain : Chain) :
    Nat → StateM KsWorld (Option CleanupError)
  | 0 => pure none
  | limit + 1 => do
      let outcome ← runCommand env
        (.xtables tool .default (.delete .output (.rule [] (.jump chain))))
      if outcome = .timedOut then pure (some .timeout)
      else if outcome.succeeded then removeJumps tool chain limit
      else pure none

/-- The text of a process that could not be run. -/
def ioText : IoStage → String → String
  | .spawn, reason => "Cleanup command failed: spawn failed: " ++ reason
  | _, reason => "Cleanup command failed: wait failed: " ++ reason

/-- A step of the cleanup that goes on after failures and notes them. -/
def cleanupStep
    (label : String)
    (command : FwCommand)
    (failures : List String) :
    StateM KsWorld (Except CleanupError (List String)) := do
  match ← runCommand env command with
  | .timedOut => pure (.error .timeout)
  | .io stage reason =>
    pure (.ok (failures ++ [label ++ ": " ++ ioText stage reason]))
  | .exited _ _ => pure (.ok failures)

def chainCommands (chain : Chain) : List (Tool × XCommand) :=
  [.flush chain, .deleteChain chain].flatMap fun command =>
    cleanupTools.map fun tool => (tool, command)

/-- Run steps until one overruns the deadline. -/
def cleanupSteps :
    List (String × FwCommand) → List String → StateM KsWorld (Except CleanupError (List String))
  | [], failures => pure (.ok failures)
  | (label, command) :: rest, failures => do
      match ← cleanupStep env label command failures with
      | .error error => pure (.error error)
      | .ok failures => cleanupSteps rest failures

/-- The steps after the jumps are removed. -/
def cleanupScript : List (String × FwCommand) :=
  (shroudChains.flatMap chainCommands).map
    (fun (tool, command) =>
      ("sudo " ++ env.path tool ++ " " ++ CommandText.commandText command,
        FwCommand.xtables tool .default command)) ++
  [("nft delete table", .nftDelete)]

/-- `run_cleanup_command`. -/
def runCleanupCommand : StateM KsWorld (Option CleanupError) := do
  let jumps := shroudChains.flatMap fun chain =>
    cleanupTools.map fun tool => (tool, chain)
  match ← jumps.findSomeM? fun (tool, chain) =>
      removeJumps env tool chain 100 with
  | some error => pure (some error)
  | none =>
    match ← cleanupSteps env (cleanupScript env) [] with
    | .error error => pure (some error)
    | .ok [] => pure none
    | .ok failures => pure (some (.commandFailed ("; ".intercalate failures)))

/-- Whether a chain is left in either tool. -/
def chainsExist : StateM KsWorld Bool := do
  let ipv4Exists ← chainExists env .iptables
  let ipv6Exists ← chainExists env .ip6tables
  pure (ipv4Exists || ipv6Exists)

/-- The look after a cleanup that ran to its end. -/
def verifyCleanup : StateM KsWorld CleanupResult := do
  if ← chainExists env .iptables then
    pure (.failed (.commandFailed "Kill switch rules still present after cleanup"))
  else if ← chainExists env .ip6tables then
    pure (.failed (.commandFailed "Kill switch rules still present after cleanup"))
  else
    pure .cleaned

/-- `cleanup_with_timeout`, with the fallback that turns errors around. -/
def cleanupWithFallback : StateM KsWorld CleanupResult := do
  if ← chainsExist env then do
    let before ← get
    let error? ← runCleanupCommand env
    let after ← get
    if cleanupTimeoutMs < after.host.now - before.host.now then
      pure (.failed .timeout)
    else
      match error? with
      | some error => pure (.failed error)
      | none => verifyCleanup env
  else
    pure .nothingToClean

/-- `boot_chain_exists`. -/
def bootChainExists : StateM KsWorld Bool :=
  succeeds env (.xtables .iptables .default (.list .boot))

/-- The error that names what `cleanup_all` still finds. -/
def remainError (ipv4Remain ipv6Remain bootRemain : Bool) : CleanupError :=
  .commandFailed
    ("Rules still present after cleanup: " ++
      ", ".intercalate
        ((if ipv4Remain then ["iptables"] else []) ++
          (if ipv6Remain then ["ip6tables"] else []) ++
          (if bootRemain then ["boot chain"] else [])))

/-- `cleanup_all`; a result is the error it returns. -/
def cleanupAll : StateM KsWorld (Option CleanupError) := do
  -- Errors of the commands are only logged if nothing is found afterwards.
  let _ ← runCleanupCommand env
  let ipv4Remain ← chainExists env .iptables
  let ipv6Remain ← chainExists env .ip6tables
  let bootRemain ← bootChainExists env
  if ipv4Remain || ipv6Remain || bootRemain then
    pure (some (remainError ipv4Remain ipv6Remain bootRemain))
  else
    pure none

/-- `cleanup_stale_on_startup`. -/
def cleanupStaleOnStartup : StateM KsWorld Unit := do
  let ipv4Exists ← chainExists env .iptables
  let ipv6Exists ← chainExists env .ip6tables
  let bootExists ← bootChainExists env
  if ipv4Exists || ipv6Exists || bootExists then do
    let _ ← cleanupAll env
    pure ()
  else
    pure ()

end Shroud.KillSwitch
