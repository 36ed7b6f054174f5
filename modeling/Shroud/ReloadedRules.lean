import Shroud.ConfigReload
import Shroud.ForeignRules

namespace Shroud

open Netfilter IptablesScript NftRuleset KillSwitchRules StateProgram

/-!
# Reloads and the rules in the kernel

A reload stores settings for the next installation and leaves the rules alone.
So after any history of `enable` calls and reloads the rules are those of the
settings that the first `enable` found.  They are the rules of the settings in
use if the two differ in nothing that the backend looks at.
-/

/-- The modes that the builders treat alike. -/
def DnsMode.kind : DnsMode → DnsMode
  | .strict => .tunnel
  | mode => mode

/-- The nftables builder does not tell the other two modes apart. -/
def Ipv6Mode.nftKind : Ipv6Mode → Ipv6Mode
  | .off => .tunnel
  | mode => mode

/-- The addresses that are blocked for DNS-over-HTTPS. -/
def KillSwitchSettings.blockedDoh (settings : KillSwitchSettings) : List Ipv4Addr :=
  if settings.blocksDoh then settings.dohAddresses else []

/-- The settings differ in nothing that the backend looks at. -/
structure SameRules (nftInstalled : Bool) (built current : KillSwitchSettings) : Prop where
  dns : built.dnsMode.kind = current.dnsMode.kind
  doh : built.blockedDoh = current.blockedDoh
  ipv6 :
    if nftInstalled then built.ipv6Mode.nftKind = current.ipv6Mode.nftKind
    else built.ipv6Mode = current.ipv6Mode

section Builders

variable {built current : KillSwitchSettings}

theorem dohRules_blocked (settings : KillSwitchSettings) :
    dohRules settings =
      settings.blockedDoh.map fun addr => nftRule [daddr4 addr, .tcpDport 443] .drop := by
  rw [dohRules, KillSwitchSettings.blockedDoh, KillSwitchSettings.blocksDoh]
  split
  · rfl
  · rfl

/-- Every section of the ruleset is the same for such settings. -/
theorem SameRules.outputRules
    (same : SameRules true built current)
    (server : built.vpnServerIp = current.vpnServerIp)
    (vpnIps : List IpAddr)
    (lanSubnets : List Cidr4) :
    outputRules built vpnIps lanSubnets = outputRules current vpnIps lanSubnets := by
  have dns (settings : KillSwitchSettings) :
      dnsRules settings.dnsMode settings.ipv6Mode =
        dnsRules settings.dnsMode.kind settings.ipv6Mode.nftKind := by
    cases settings.dnsMode <;> cases settings.ipv6Mode <;> rfl
  have ipv6 (mode : Ipv6Mode) : ipv6Rules mode = ipv6Rules mode.nftKind := by
    cases mode <;> rfl
  have servers (mode : Ipv6Mode) : serverRules mode vpnIps = serverRules mode.nftKind vpnIps := by
    cases mode <;> rfl
  have explicit (mode : Ipv6Mode) (ip : Option IpAddr) :
      explicitServerRules mode ip = explicitServerRules mode.nftKind ip := by
    cases mode <;> rfl
  have kinds : built.ipv6Mode.nftKind = current.ipv6Mode.nftKind := same.ipv6
  rw [NftRuleset.outputRules, NftRuleset.outputRules, ipv6, dns built, dohRules_blocked built,
    servers, explicit, same.dns, same.doh, kinds, server, ← ipv6, ← dns current,
    ← dohRules_blocked, ← servers, ← explicit]

theorem appended_dohRules (settings : KillSwitchSettings) :
    (buildDohBlockingRules settings).filterMap ScriptLine.appended? =
      settings.blockedDoh.map fun addr => .rule [dst4 addr, .proto .tcp, .dport 443] .drop := by
  rw [buildDohBlockingRules, KillSwitchSettings.blockedDoh, KillSwitchSettings.blocksDoh]
  generalize settings.dohAddresses = addresses
  cases settings.blockDoh <;> cases settings.dnsMode.isTunnelOrStrict
  case true.true => exact appended_map addresses _ _
  all_goals rfl

/-- So are the rules of the chain. -/
theorem SameRules.chainRules
    (same : SameRules false built current)
    (vpnIps : List IpAddr)
    (lanSubnets : List Cidr4) :
    chainRules built vpnIps lanSubnets = chainRules current vpnIps lanSubnets := by
  have dns : buildDnsRules built = buildDnsRules current := by
    have kinds := same.dns
    rw [buildDnsRules, buildDnsRules]
    revert kinds
    cases built.dnsMode <;> cases current.dnsMode <;> simp [DnsMode.kind]
  simp only [IptablesScript.chainRules, buildChainRules, List.filterMap_append, dns,
    appended_dohRules, same.doh]

end Builders

namespace KillSwitch

variable
  {env : FwEnv}
  {nftInstalled : Bool}
  {lanSubnets6 : List Cidr6}
  {prior : Firewall}
  {built : KillSwitchSettings}
  {world : KsWorld}

/-- The rules of one of them are the rules of the other. -/
theorem EnabledOver.congr
    {current : KillSwitchSettings}
    {firewall : Firewall}
    (above : EnabledOver nftInstalled built lanSubnets6 prior firewall)
    (same : SameRules nftInstalled built current)
    (server : built.vpnServerIp = current.vpnServerIp) :
    EnabledOver nftInstalled current lanSubnets6 prior firewall := by
  cases nftInstalled with
  | true =>
    obtain ⟨tables, vpnIps, lanSubnets, loaded⟩ := above
    refine ⟨tables, vpnIps, lanSubnets, ?_⟩
    rw [loaded, buildNftRuleset, buildNftRuleset, same.outputRules server]
  | false =>
    obtain ⟨vpnIps, lanSubnets, installs⟩ := above
    have modes : built.ipv6Mode = current.ipv6Mode := same.ipv6
    refine ⟨vpnIps, lanSubnets, installs.trans ?_⟩
    congr 1
    funext tool
    cases tool with
    | iptables => rw [installed, installed, same.chainRules]
    | ip6tables => rw [installed, installed, modes]

/-- The look for the rules of the backend finds them. -/
theorem EnabledOver.seen
    (above : EnabledOver nftInstalled built lanSubnets6 prior (firewallOf world)) :
    RulesSeen world (backendFor nftInstalled) := by
  cases nftInstalled with
  | true =>
    obtain ⟨-, vpnIps, lanSubnets, loaded⟩ := above
    exact Option.isSome_of_eq_some loaded
  | false =>
    have present : jumpRule ∈ ((firewallOf world).table .iptables .default).output := by
      rw [above.output .iptables]
      exact List.mem_append_left _ (List.mem_singleton.mpr rfl)
    exact present

/-- What `enable` finds when it is to install rules where there are none. -/
structure ReadyToEnable (world : KsWorld) : Prop where
  disabled : world.ks.enabled = false
  idle : world.ks.toggleInProgress = false
  cooled : world.ks.inCooldown world.host.now = false
  usual : world.ks.useLegacy = false
  free : ¬Stuck world
  noKillSwitch : NoKillSwitch (firewallOf world)

/-- What happens to a switch that is on until it is disabled. -/
inductive UpkeepStep where
  | call (step : HistoryStep)
  | syncState

def UpkeepStep.after (env : FwEnv) (world : KsWorld) : UpkeepStep → KsWorld
  | .call step => step.after env world
  | .syncState => ((KillSwitch.syncState env).run world).2

/-- A switch that is on, with the rules of some settings. -/
structure OnWith
    (nftInstalled : Bool)
    (lanSubnets6 : List Cidr6)
    (prior : Firewall)
    (built : KillSwitchSettings)
    (world : KsWorld) : Prop where
  enabled : world.ks.enabled = true
  backend : world.ks.backend = backendFor nftInstalled
  server : built.vpnServerIp = world.ks.settings.vpnServerIp
  above : EnabledOver nftInstalled built lanSubnets6 prior (firewallOf world)

/-- `enable` installs the rules of the settings that it finds. -/
theorem ReadyToEnable.enable
    (ready : ReadyToEnable world)
    (working : AllSucceed env nftInstalled)
    (detected : ∀ number, env.lanSubnets6 number = lanSubnets6)
    (works : ScriptWorks nftInstalled world.ks.settings) :
    OnWith nftInstalled lanSubnets6 (firewallOf world) world.ks.settings
      ((enable env).run world).2 := by
  obtain ⟨ok, here⟩ :=
    enable_here working ready.noKillSwitch ready.free works detected ready.idle ready.cooled
      ready.disabled ready.usual
  have settings : ((KillSwitch.enable env).run world).2.ks.settings = world.ks.settings := by
    rcases enable_spec env world with ⟨skipped, -⟩ | ⟨-, -, ran⟩
    · rw [skipped.ks]
    · exact ran.settings
  refine ⟨enable_switchesOn ready.idle ready.cooled ok, here.backend, ?_, here.above⟩
  rw [settings]

theorem syncState_seen
    (found : ((rulesExist env world.ks.backend).run world).1 = true) :
    firewallOf ((syncState env).run world).2 = firewallOf world ∧
      ((syncState env).run world).2.ks = { world.ks with enabled := true } := by
  have detects :
      (detectActiveBackend env).run world =
        (some world.ks.backend, ((rulesExist env world.ks.backend).run world).2) := by
    obtain ⟨other, order⟩ : ∃ other, probeOrder world.ks = [world.ks.backend, other] := by
      rw [probeOrder]
      cases world.ks.backend with
      | nftables => exact ⟨_, rfl⟩
      | iptables => exact ⟨_, rfl⟩
    rw [detectActiveBackend, run_get_bind, order, List.findSomeM?, run_bind, run_bind, found]
    rfl
  rw [syncState, run_bind, detects]
  refine ⟨(rulesExist_observes env _ world).firewall, ?_⟩
  have sameKs := (rulesExist_keeps env world.ks.backend world).ks
  exact congrArg (fun ks => { ks with backend := world.ks.backend, enabled := true }) sameKs

/-- Nothing but a `disable` changes the rules of a switch that is on. -/
theorem OnWith.after
    (on : OnWith nftInstalled lanSubnets6 prior built world)
    (working : Working env nftInstalled)
    (step : UpkeepStep) :
    OnWith nftInstalled lanSubnets6 prior built (step.after env world) := by
  have seen : RulesSeen world world.ks.backend := on.backend ▸ on.above.seen
  match step with
  | .call .enable =>
    have rests : Rests env world :=
      .inr (.inr ⟨on.enabled, (working.rulesExist (entered world) world.ks.backend).mpr seen⟩)
    obtain ⟨firewall, ks⟩ := rests.enable
    refine ⟨?_, ?_, ?_, ?_⟩
    · exact (congrArg KillSwitch.enabled ks).trans on.enabled
    · exact (congrArg KillSwitch.backend ks).trans on.backend
    · exact on.server.trans (congrArg (·.settings.vpnServerIp) ks).symm
    · exact firewall.symm ▸ on.above
  | .syncState =>
    obtain ⟨firewall, ks⟩ := syncState_seen ((working.rulesExist world world.ks.backend).mpr seen)
    refine ⟨?_, ?_, ?_, ?_⟩
    · exact congrArg KillSwitch.enabled ks
    · exact (congrArg KillSwitch.backend ks).trans on.backend
    · exact on.server.trans (congrArg (·.settings.vpnServerIp) ks).symm
    · exact firewall.symm ▸ on.above
  | .call (.configure dnsMode ipv6Mode blockDoh customDohBlocklist) =>
    exact ⟨on.enabled, on.backend, on.server, on.above⟩
  | .call (.wait millis) => exact ⟨on.enabled, on.backend, on.server, on.above⟩

theorem OnWith.run
    (on : OnWith nftInstalled lanSubnets6 prior built world)
    (working : Working env nftInstalled)
    (steps : List UpkeepStep) :
    OnWith nftInstalled lanSubnets6 prior built (steps.foldl (UpkeepStep.after env) world) := by
  induction steps generalizing world with
  | nil => exact on
  | cons step rest ih => exact ih (on.after working step)

end KillSwitch

namespace Supervisor

open KillSwitch

/-- For the switch, a reload is a change of its configuration. -/
theorem reloadConfiguration_kill
    (env : FwEnv)
    (loaded : Config)
    (world : World) :
    ((reloadConfiguration loaded).run world).2.kill =
      (UpkeepStep.call
        (.configure loaded.dnsMode loaded.ipv6Mode loaded.blockDoh
          loaded.customDohBlocklist)).after env world.kill := by
  have applied :
      ((reloadConfiguration loaded).run world).2.kill =
        { world.kill with
          ks := world.kill.ks.setConfig (appliedDnsMode loaded loaded)
            (appliedIpv6Mode loaded loaded) (appliedFlag loaded.blockDoh loaded.blockDoh)
            loaded.customDohBlocklist } :=
    rfl
  rw [applied, appliedDnsMode_self, appliedIpv6Mode_self, appliedFlag_self]
  rfl

/--
On a host where every command works, whatever happened to the switch since the
`enable` that installed the rules: a reload leaves the switch on with the rules
of its new settings if the backend builds the same rules from them as from the
settings that this `enable` found.
-/
theorem reload_updates_rules
    {env : FwEnv}
    {nftInstalled : Bool}
    (working : AllSucceed env nftInstalled)
    {lanSubnets6 : List Cidr6}
    (detected : ∀ number, env.lanSubnets6 number = lanSubnets6)
    {start : KsWorld}
    (ready : ReadyToEnable start)
    (works : ScriptWorks nftInstalled start.ks.settings)
    (steps : List UpkeepStep)
    {world : World}
    (since :
      world.kill = steps.foldl (UpkeepStep.after env) ((KillSwitch.enable env).run start).2)
    (loaded : Config)
    (same :
      SameRules nftInstalled start.ks.settings
        (start.ks.setConfig loaded.dnsMode loaded.ipv6Mode loaded.blockDoh
          loaded.customDohBlocklist).settings) :
    ((reloadConfiguration loaded).run world).2.killSwitchIsEnabled = true ∧
      EnabledOver nftInstalled ((reloadConfiguration loaded).run world).2.kill.ks.settings
        lanSubnets6 (firewallOf start)
        (firewallOf ((reloadConfiguration loaded).run world).2.kill) := by
  have before := (ready.enable working detected works).run working.toWorking steps
  rw [← since] at before
  have on := before.after working.toWorking
    (.call (.configure loaded.dnsMode loaded.ipv6Mode loaded.blockDoh loaded.customDohBlocklist))
  rw [← reloadConfiguration_kill env loaded world] at on
  refine ⟨on.enabled, on.above.congr ?_ on.server⟩
  rw [reloadConfiguration_kill env loaded world]
  exact ⟨same.dns, same.doh, same.ipv6⟩

/-- A switch for strict DNS, on a host with a prior rule. -/
def strictStart : KsWorld :=
  ⟨.withConfig .strict .off true [], hostWith [pingRule]⟩

def strictSteps : List UpkeepStep :=
  [.syncState, .call (.wait 9000), .call .enable]

def strictWorld : World :=
  { restingWorld with
    kill :=
      strictSteps.foldl (UpkeepStep.after plainEnv)
        ((KillSwitch.enable plainEnv).run strictStart).2 }

/-- A file with the tunnel mode and an entry that is no address. -/
def tunnelFile : Config :=
  { Config.default with ipv6Mode := .off, customDohBlocklist := ["dns"] }

theorem reload_updates_rules_strict :
    ((reloadConfiguration tunnelFile).run strictWorld).2.killSwitchIsEnabled = true ∧
      EnabledOver false ((reloadConfiguration tunnelFile).run strictWorld).2.kill.ks.settings
        (detectLocalSubnetsV6 (some [])) (firewallOf strictStart)
        (firewallOf ((reloadConfiguration tunnelFile).run strictWorld).2.kill) := by
  have ready : ReadyToEnable strictStart :=
    ⟨rfl, rfl, rfl, rfl, by simp [Stuck, strictStart, hostWith, freshWorld],
      hostWith_noKillSwitch (by decide)⟩
  exact reload_updates_rules plainEnv_allSucceed (fun _ => rfl) ready (.inr nofun) strictSteps
    (by rw [strictWorld]) tunnelFile ⟨rfl, by decide +kernel, rfl⟩

/-- The kill switch is on, with rules that let every DNS query out. -/
def anyDnsWorld : World :=
  { restingWorld with
    kill := ((KillSwitch.enable KillSwitch.calmEnv).run
      ⟨.withConfig .any .block true [], freshWorld.host⟩).2 }

/-- The reload of a file with `dns_mode = "tunnel"` leaves them there. -/
theorem reload_keeps_open_rules :
    anyDnsWorld.kill.ks.enabled = true ∧
      ((reloadConfiguration .default).run anyDnsWorld).2.kill.ks.settings.dnsMode = .tunnel ∧
      ¬EnabledOver true ((reloadConfiguration .default).run anyDnsWorld).2.kill.ks.settings []
        freshWorld.host.firewall
        (firewallOf ((reloadConfiguration .default).run anyDnsWorld).2.kill) := by
  have computed :
      anyDnsWorld.kill.ks.enabled = true ∧
        ((firewallOf anyDnsWorld.kill).nft.bind fun table => table.output.rules[5]?) =
          some (nftRule [.udpDport 53] .accept) := by
    decide +kernel
  rw [reloadConfiguration_kill KillSwitch.calmEnv]
  refine ⟨computed.1, rfl, ?_⟩
  rintro ⟨-, vpnIps, lanSubnets, loaded⟩
  have installed : (firewallOf anyDnsWorld.kill).nft = _ := loaded
  have rule := computed.2
  rw [installed] at rule
  exact absurd (Option.some.inj rule) (by decide)

end Supervisor

end Shroud
