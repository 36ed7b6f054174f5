import Shroud.TextSearch
import Shroud.IptablesScript
import Shroud.NftRuleset

namespace Shroud.DohConflicts

open Text AddressText KillSwitchRules IptablesScript NftRuleset

/-!
# Health endpoints and DoH providers

The kill switch drops HTTPS to the addresses of known DoH providers, and the
health checker warns of endpoints that it could not reach for that reason.  The
one compares texts and the other parses them.
-/

/-- `str::split_once` with a string. -/
def splitOnceText? (pattern : List Char) : List Char → Option (List Char × List Char)
  | [] => (strip? pattern []).map fun back => ([], back)
  | c :: text =>
    match strip? pattern (c :: text) with
    | some back => some ([], back)
    | none => (splitOnceText? pattern text).map fun (front, back) => (c :: front, back)

def endsAuthority (c : Char) : Bool :=
  c == '/' || c == '?' || c == '#'

/-- `endpoint_host` of the health checker. -/
def endpointHost (endpoint : List Char) : Option (List Char) := do
  let (_, afterScheme) ← splitOnceText? "://".toList endpoint
  let authority := afterScheme.takeWhile fun c => !endsAuthority c
  let hostPort := ((rsplitOnce? '@' authority).map Prod.snd).getD authority
  match strip? ['['] hostPort with
  | some rest => (splitOnce? ']' rest).map Prod.fst
  | none =>
    match splitOnce? ':' hostPort with
    | some (host, _) => if hostPort.count ':' = 1 then some host else some hostPort
    | none => some hostPort

/-- `is_doh_provider`. -/
def isDohProvider (ip : String) : Bool :=
  dohProviders.contains ip

/-- `doh_conflicts`. -/
def dohConflicts (endpoints customBlocklist : List String) : List String :=
  endpoints.filter fun endpoint =>
    (endpointHost endpoint.toList).any fun host =>
      (parseIp? (.ofList host)).isSome &&
        (isDohProvider (.ofList host) || customBlocklist.contains (.ofList host))

/-- What separates the parts of an authority does not stand in one of them. -/
def isPlain (c : Char) : Bool :=
  !endsAuthority c && c != ':' && c != '@' && c != '['

/-- A URL whose host is no IPv6 address. -/
structure Url where
  scheme : List Char
  userInfo : Option (List Char)
  host : List Char
  port : Option (List Char)
  tail : List Char
  schemePlain : ':' ∉ scheme
  userInfoEnds : ∀ info ∈ userInfo, ∀ c ∈ info, endsAuthority c = false
  hostPlain : ∀ c ∈ host, isPlain c = true
  portPlain : ∀ digits ∈ port, ∀ c ∈ digits, isPlain c = true
  tailEnds : ∀ c ∈ tail.head?, endsAuthority c = true

namespace Url

variable (url : Url)

def hostPort : List Char :=
  url.host ++ (url.port.map (':' :: ·)).getD []

def authority : List Char :=
  (url.userInfo.map (· ++ ['@'])).getD [] ++ url.hostPort

def text : List Char :=
  url.scheme ++ "://".toList ++ (url.authority ++ url.tail)

end Url

theorem splitOnceText?_scheme
    {scheme : List Char}
    (plain : ':' ∉ scheme)
    (back : List Char) :
    splitOnceText? "://".toList (scheme ++ "://".toList ++ back) = some (scheme, back) := by
  induction scheme with
  | nil => simp [splitOnceText?, strip?]
  | cons c rest ih =>
    simp only [List.mem_cons, not_or] at plain
    have later := ih plain.2
    simp_all [splitOnceText?, strip?]

theorem ne_of_isPlain
    {c : Char}
    (plain : isPlain c = true) :
    endsAuthority c = false ∧ c ≠ ':' ∧ c ≠ '@' ∧ c ≠ '[' := by
  simpa [isPlain, and_assoc] using plain

section Reading

variable (url : Url)

theorem mem_hostPort
    {c : Char}
    (member : c ∈ url.hostPort) :
    c = ':' ∨ isPlain c = true := by
  rcases List.mem_append.mp member with inHost | inPort
  · exact .inr (url.hostPlain c inHost)
  · cases port : url.port with
    | none => simp [port] at inPort
    | some digits =>
      rw [port] at inPort
      rcases List.mem_cons.mp inPort with colon | inDigits
      · exact .inl colon
      · exact .inr (url.portPlain digits port c inDigits)

theorem takeWhile_authority :
    (url.authority ++ url.tail).takeWhile (fun c => !endsAuthority c) = url.authority := by
  have inside : ∀ c ∈ url.authority, (!endsAuthority c) = true := by
    intro c member
    rcases List.mem_append.mp member with inUser | inHostPort
    · cases user : url.userInfo with
      | none => simp [user] at inUser
      | some info =>
        rw [user] at inUser
        rcases List.mem_append.mp inUser with inInfo | isAt
        · rw [url.userInfoEnds info user c inInfo]
          rfl
        · rw [List.mem_singleton.mp isAt]
          rfl
    · rcases mem_hostPort url inHostPort with rfl | plain
      · rfl
      · rw [(ne_of_isPlain plain).1]
        rfl
  have outside : url.tail.takeWhile (fun c => !endsAuthority c) = [] := by
    cases tail : url.tail with
    | nil => rfl
    | cons c rest =>
      have ends := url.tailEnds c (by rw [tail]; rfl)
      rw [List.takeWhile_cons, ends]
      rfl
  rw [List.takeWhile_append_of_pos inside, outside, List.append_nil]

theorem rsplitOnce?_authority :
    ((rsplitOnce? '@' url.authority).map Prod.snd).getD url.authority = url.hostPort := by
  have absent : '@' ∉ url.hostPort := by
    intro member
    rcases mem_hostPort url member with colon | plain
    · exact absurd colon (by decide)
    · exact (ne_of_isPlain plain).2.2.1 rfl
  cases user : url.userInfo with
  | none =>
    have whole : url.authority = url.hostPort := by rw [Url.authority, user]; rfl
    have others := others_of_notMem (mt List.mem_reverse.mp absent)
    rw [whole, rsplitOnce?, List.dropWhile_eq_nil_iff.mpr others]
    rfl
  | some info =>
    have whole : url.authority = info ++ '@' :: url.hostPort := by simp [Url.authority, user]
    rw [whole, rsplitOnce?_append absent]
    rfl

/-- The host is read off a URL that has one. -/
theorem endpointHost_text :
    endpointHost url.text = some url.host := by
  have noColon : ':' ∉ url.host := fun member => (ne_of_isPlain (url.hostPlain _ member)).2.1 rfl
  have noBracket : strip? ['['] url.hostPort = none := by
    cases split : url.hostPort with
    | nil => rfl
    | cons c rest =>
      have first := mem_hostPort url (split ▸ List.mem_cons_self)
      have other : '[' ≠ c := by
        rcases first with rfl | plain
        · decide
        · exact (ne_of_isPlain plain).2.2.2.symm
      rw [strip?, if_neg other]
  rw [endpointHost, Url.text, splitOnceText?_scheme url.schemePlain]
  simp only [Option.bind_eq_bind, Option.bind_some, takeWhile_authority, rsplitOnce?_authority,
    noBracket]
  cases port : url.port with
  | none =>
    have whole : url.hostPort = url.host := by simp [Url.hostPort, port]
    rw [whole, splitOnce?, List.dropWhile_eq_nil_iff.mpr (others_of_notMem noColon)]
  | some digits =>
    have whole : url.hostPort = url.host ++ ':' :: digits := by simp [Url.hostPort, port]
    have noMore : ':' ∉ digits :=
      fun member => (ne_of_isPlain (url.portPlain digits port _ member)).2.1 rfl
    have once : (url.host ++ ':' :: digits).count ':' = 1 := by
      simp [List.count_eq_zero.mpr noColon, List.count_eq_zero.mpr noMore]
    rw [whole, splitOnce?_append noColon]
    simp only [once, if_true]

end Reading

variable {settings : KillSwitchSettings} {host : String} {addr : Ipv4Addr}

theorem parseIp?_of_parseIpv4? (parsed : parseIpv4? host = some addr) :
    parseIp? host = some (.v4 addr) := by
  rw [parseIpv4?, parseWith] at parsed
  rw [parseIp?]
  obtain ⟨-, parsed⟩ := Option.ite_none_left_eq_some.mp parsed
  split at parsed
  next value read =>
    rw [read, ← Option.some.inj parsed]
    rfl
  next => exact absurd parsed (by simp)

/-- Comparing texts comes to the same as comparing addresses. -/
theorem mem_dohAddresses_iff (parsed : parseIpv4? host = some addr) :
    addr ∈ settings.dohAddresses ↔ host ∈ dohProviders ∨ host ∈ settings.customDohBlocklist := by
  rw [KillSwitchSettings.dohAddresses, List.mem_filterMap, ← List.mem_append]
  constructor
  · rintro ⟨entry, member, same⟩
    have spelling :=
      parseIp?_v4_unique (parseIp?_of_parseIpv4? same) (parseIp?_of_parseIpv4? parsed)
    exact spelling ▸ member
  · exact fun member => ⟨host, member, parsed⟩

/--
An endpoint at a literal IPv4 address is reported exactly when the builders
emit a rule that drops HTTPS to it, and one with a host name is never reported.
-/
theorem conflicts_are_blocked
    (blockDoh : settings.blockDoh = true)
    (tunnel : settings.dnsMode = .tunnel)
    {endpoints : List String}
    {url : Url}
    (listed : String.ofList url.text ∈ endpoints) :
    (∀ addr, parseIpv4? (.ofList url.host) = some addr →
        (String.ofList url.text ∈ dohConflicts endpoints settings.customDohBlocklist ↔
            appendRule [dst4 addr, .proto .tcp, .dport 443] .drop ∈
              buildDohBlockingRules settings) ∧
          (String.ofList url.text ∈ dohConflicts endpoints settings.customDohBlocklist ↔
            nftRule [daddr4 addr, .tcpDport 443] .drop ∈ dohRules settings)) ∧
      (parseIp? (.ofList url.host) = none →
        String.ofList url.text ∉ dohConflicts endpoints settings.customDohBlocklist) := by
  refine ⟨?_, ?_⟩
  · intro addr parsed
    have reported :
        String.ofList url.text ∈ dohConflicts endpoints settings.customDohBlocklist ↔
          addr ∈ settings.dohAddresses := by
      rw [mem_dohAddresses_iff parsed]
      simp [dohConflicts, isDohProvider, listed, endpointHost_text, parseIp?_of_parseIpv4? parsed]
    have active : settings.dnsMode.isTunnelOrStrict = true := by rw [tunnel]; rfl
    rw [reported]
    constructor
    · simp [buildDohBlockingRules, blockDoh, active, appendRule, dst4, Cidr.host]
    · simp [dohRules, blockDoh, active, nftRule, daddr4, Cidr.host]
  · intro noAddress
    simp [dohConflicts, endpointHost_text, noAddress]

/-- `https://me@1.1.1.1:443/dns-query`. -/
def cloudflareUrl : Url where
  scheme := "https".toList
  userInfo := some "me".toList
  host := "1.1.1.1".toList
  port := some "443".toList
  tail := "/dns-query".toList
  schemePlain := by simp
  userInfoEnds := by simp [endsAuthority]
  hostPlain := by simp [isPlain, endsAuthority]
  portPlain := by simp [isPlain, endsAuthority]
  tailEnds := by simp [endsAuthority]

theorem cloudflare_conflicts_are_blocked :
    String.ofList cloudflareUrl.text ∈ dohConflicts [.ofList cloudflareUrl.text] [] :=
  ((@conflicts_are_blocked .new rfl rfl [.ofList cloudflareUrl.text] cloudflareUrl
    (List.mem_singleton_self _)).1 (.ofOctets 1 1 1 1) (by decide +kernel)).1.mpr
      (by decide +kernel)

end Shroud.DohConflicts
