import Shroud.SupervisorHandlers
import Shroud.KillSwitchRun

namespace Shroud.Supervisor

open StateProgram

/-!
# Reloading the configuration

`reload_configuration` means to refuse a weaker configuration, but it reads the
old one after the store has been overwritten.  So it compares the new
configuration with itself, and whatever is in the file takes effect.
-/

/-- The settings that a reload must not weaken. -/
structure Protection where
  killSwitch : Bool
  autoReconnect : Bool
  dnsMode : DnsMode
  ipv6Mode : Ipv6Mode
  blockDoh : Bool

namespace Protection

def ofConfig (config : Config) : Protection where
  killSwitch := config.killSwitchEnabled
  autoReconnect := config.autoReconnect
  dnsMode := config.dnsMode
  ipv6Mode := config.ipv6Mode
  blockDoh := config.blockDoh

def live (world : World) : Protection where
  killSwitch := world.shared.killSwitch
  autoReconnect := world.shared.autoReconnect
  dnsMode := world.kill.ks.settings.dnsMode
  ipv6Mode := world.kill.ks.settings.ipv6Mode
  blockDoh := world.kill.ks.settings.blockDoh

def stored (world : World) : Protection :=
  ofConfig world.config

/-- None of the settings is weaker after than before. -/
structure KeptBy (before after : Protection) : Prop where
  killSwitch : before.killSwitch = true → after.killSwitch = true
  autoReconnect : before.autoReconnect = true → after.autoReconnect = true
  dnsMode : isSecureDns before.dnsMode = true → isSecureDns after.dnsMode = true
  ipv6Mode : before.ipv6Mode = .block → after.ipv6Mode = .block
  blockDoh : before.blockDoh = true → after.blockDoh = true

theorem KeptBy.refl (protection : Protection) :
    protection.KeptBy protection :=
  ⟨id, id, id, id, id⟩

end Protection

/-- Neither the live nor the stored settings are weaker after than before. -/
structure ProtectionKept (before after : World) : Prop where
  live : (Protection.live before).KeptBy (Protection.live after)
  stored : (Protection.stored before).KeptBy (Protection.stored after)

/-- A configuration that is not weaker than what is live and stored. -/
structure NotWeaker (world : World) (loaded : Config) : Prop where
  live : (Protection.live world).KeptBy (.ofConfig loaded)
  stored : (Protection.stored world).KeptBy (.ofConfig loaded)

/-- The world after reloading a sequence of configuration files. -/
def reloadAll (files : List Config) (world : World) : World :=
  files.foldl (fun world loaded => ((reloadConfiguration loaded).run world).2) world

theorem appliedFlag_self (flag : Bool) :
    appliedFlag flag flag = flag := by
  cases flag <;> rfl

theorem appliedDnsMode_self (config : Config) :
    appliedDnsMode config config = config.dnsMode :=
  ite_self _

theorem appliedIpv6Mode_self (config : Config) :
    appliedIpv6Mode config config = config.ipv6Mode :=
  ite_self _

theorem live_reloadConfiguration
    (loaded : Config)
    (world : World) :
    Protection.live ((reloadConfiguration loaded).run world).2 = .ofConfig loaded := by
  have applied :
      Protection.live ((reloadConfiguration loaded).run world).2 =
        { killSwitch :=
            appliedFlag loaded.killSwitchEnabled loaded.killSwitchEnabled
          autoReconnect := appliedFlag loaded.autoReconnect loaded.autoReconnect
          dnsMode := appliedDnsMode loaded loaded
          ipv6Mode := appliedIpv6Mode loaded loaded
          blockDoh := appliedFlag loaded.blockDoh loaded.blockDoh } :=
    rfl
  rw [applied, appliedFlag_self, appliedFlag_self, appliedFlag_self,
    appliedDnsMode_self, appliedIpv6Mode_self]
  rfl

theorem stored_reloadConfiguration
    (loaded : Config)
    (world : World) :
    Protection.stored ((reloadConfiguration loaded).run world).2 = .ofConfig loaded :=
  rfl

theorem reloadAll_concat
    (files : List Config)
    (loaded : Config)
    (world : World) :
    reloadAll (files ++ [loaded]) world =
      ((reloadConfiguration loaded).run (reloadAll files world)).2 := by
  simp [reloadAll]

/-- After a sequence of reloads only the last file counts. -/
theorem protectionKept_reloadAll_concat
    (world : World)
    (files : List Config)
    (loaded : Config) :
    ProtectionKept world (reloadAll (files ++ [loaded]) world) ↔ NotWeaker world loaded := by
  have live := live_reloadConfiguration loaded (reloadAll files world)
  have stored := stored_reloadConfiguration loaded (reloadAll files world)
  rw [← reloadAll_concat] at live stored
  constructor
  · rintro ⟨liveKept, storedKept⟩
    rw [live] at liveKept
    rw [stored] at storedKept
    exact ⟨liveKept, storedKept⟩
  · rintro ⟨liveKept, storedKept⟩
    refine ⟨?_, ?_⟩
    · rw [live]
      exact liveKept
    · rw [stored]
      exact storedKept

/--
Along a sequence of reloads the protection is kept after every reload exactly
when no file of the sequence is weaker than what was live and stored before
the first one.
-/
theorem reloads_keep_protection_iff
    (world : World)
    (files : List Config) :
    (∀ done, done <+: files →
        ProtectionKept world (reloadAll done world)) ↔
      ∀ loaded ∈ files, NotWeaker world loaded := by
  constructor
  · intro kept loaded member
    obtain ⟨earlier, later, rfl⟩ := List.append_of_mem member
    have reached : earlier ++ [loaded] <+: earlier ++ loaded :: later := ⟨later, by simp⟩
    exact (protectionKept_reloadAll_concat world earlier loaded).mp (kept _ reached)
  · intro notWeaker done reached
    rcases List.eq_nil_or_concat' done with rfl | ⟨earlier, loaded, rfl⟩
    · exact ⟨.refl _, .refl _⟩
    · have member : loaded ∈ files := reached.subset (by simp)
      exact (protectionKept_reloadAll_concat world earlier loaded).mpr (notWeaker loaded member)

def openConfig : Config :=
  { Config.default with
    autoReconnect := false
    dnsMode := .any
    blockDoh := false
    ipv6Mode := .off }

def restingWorld : World :=
  .new .default .default 10 KillSwitch.freshWorld.host

/-- One reload of the open configuration takes all protection away. -/
theorem reload_weakens_protection :
    Protection.live restingWorld =
        { killSwitch := false
          autoReconnect := true
          dnsMode := .tunnel
          ipv6Mode := .block
          blockDoh := true } ∧
      Protection.live (reloadAll [openConfig] restingWorld) =
        { killSwitch := false
          autoReconnect := false
          dnsMode := .any
          ipv6Mode := .off
          blockDoh := false } ∧
      ¬ProtectionKept restingWorld (reloadAll [openConfig] restingWorld) := by
  refine ⟨rfl, rfl, ?_⟩
  intro kept
  exact Bool.false_ne_true (kept.live.blockDoh rfl)

end Shroud.Supervisor
