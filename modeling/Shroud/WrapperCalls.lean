import Shroud.AddressChars
import Shroud.FwWrapper

namespace Shroud

open Netfilter IptablesScript

/-!
# The calls of the daemon, as the wrapper sees them

Commands reach the wrapper as argument lists.  This module spells out the
arguments of every command of the daemon and says which of these calls the
wrapper passes on.
-/

namespace CommandText

def matchArgs : XMatch → List String
  | .out pattern => ["-o", ifaceText pattern]
  | .ctTracked => ["-m", "conntrack", "--ctstate", "ESTABLISHED,RELATED"]
  | .stateTracked => ["-m", "state", "--state", "ESTABLISHED,RELATED"]
  | .proto .udp => ["-p", "udp"]
  | .proto .tcp => ["-p", "tcp"]
  | .dport port => ["--dport", toString port.toNat]
  | .dportRange first last =>
    ["--dport", toString first.toNat ++ ":" ++ toString last.toNat]
  | .sport port => ["--sport", toString port.toNat]
  | .dst net => ["-d", netText net]
  | .limit => ["-m", "limit", "--limit", "1/sec"]

def targetArgs : XTarget → List String
  | .accept => ["-j", "ACCEPT"]
  | .drop => ["-j", "DROP"]
  | .log logPrefix level =>
    ["-j", "LOG", "--log-prefix", logPrefix, "--log-level", toString level]
  | .jump chain => ["-j", chainText chain]

def ruleArgs : XRule → List String
  | .rule tests target => tests.flatMap matchArgs ++ targetArgs target
  | .foreign text => [text]

def commandArgs : XCommand → List String
  | .newChain chain => ["-N", chainText chain]
  | .append chain rule => "-A" :: chainRefText chain :: ruleArgs rule
  | .insert chain position rule =>
    "-I" :: chainRefText chain :: toString position :: ruleArgs rule
  | .delete chain rule => "-D" :: chainRefText chain :: ruleArgs rule
  | .check chain rule => "-C" :: chainRefText chain :: ruleArgs rule
  | .flush chain => ["-F", chainText chain]
  | .deleteChain chain => ["-X", chainText chain]
  | .list chain => ["-L", chainText chain, "-n"]

theorem intercalate_flatMap
    {α : Type}
    (separator : String)
    (pieces : α → List String)
    {items : List α}
    (nonempty : ∀ item ∈ items, pieces item ≠ []) :
    separator.intercalate (items.flatMap pieces) =
      separator.intercalate (items.map fun item => separator.intercalate (pieces item)) := by
  induction items with
  | nil => rfl
  | cons first rest ih =>
    have firstOk := nonempty first List.mem_cons_self
    have later :=
      ih (fun item member => nonempty item (List.mem_cons_of_mem _ member))
    cases rest with
    | nil => simp
    | cons second rest =>
      have restOk : (second :: rest).flatMap pieces ≠ [] := by
        simp [nonempty second (by simp)]
      have mapped :
          (second :: rest).map (fun item => separator.intercalate (pieces item)) ≠ [] := by
        simp
      rw [List.flatMap_cons,
        String.intercalate_append_of_ne_nil firstOk restOk, later,
        ← String.intercalate_cons_of_ne_nil mapped]
      rfl

theorem matchText_args (test : XMatch) :
    matchText test = " ".intercalate (matchArgs test) := by
  cases test with
  | proto protocol => cases protocol <;> rfl
  | ctTracked => rfl
  | stateTracked => rfl
  | limit => rfl
  | dportRange first last => simp [matchText, matchArgs, ← String.toList_inj]
  | _ => simp [matchText, matchArgs]

theorem targetText_args (target : XTarget) :
    targetText target = " ".intercalate (targetArgs target) := by
  cases target with
  | accept => rfl
  | drop => rfl
  | log logPrefix level =>
    have front :
        "-j LOG --log-prefix " =
          "-j" ++ " " ++ ("LOG" ++ " " ++ ("--log-prefix" ++ " ")) := by
      decide
    have middle : " --log-level " = " " ++ ("--log-level" ++ " ") := by
      decide
    unfold targetText targetArgs
    rw [front, middle]
    simp only [String.intercalate_cons_cons, String.intercalate_singleton, String.append_assoc]
  | jump chain =>
    have front : "-j " = "-j" ++ " " := by decide
    unfold targetText targetArgs
    rw [front]
    simp only [String.intercalate_cons_cons, String.intercalate_singleton]

theorem matchArgs_ne_nil (test : XMatch) :
    matchArgs test ≠ [] := by
  cases test with
  | proto protocol => cases protocol <;> simp [matchArgs]
  | _ => simp [matchArgs]

theorem targetArgs_ne_nil (target : XTarget) :
    targetArgs target ≠ [] := by
  cases target <;> simp [targetArgs]

theorem ruleText_args (rule : XRule) :
    ruleText rule = " ".intercalate (ruleArgs rule) := by
  cases rule with
  | rule tests target =>
    have mapped : tests.map matchText = tests.map fun test => " ".intercalate (matchArgs test) :=
      List.map_congr_left fun test _ => matchText_args test
    rw [ruleText, ruleArgs, mapped, targetText_args]
    cases tests with
    | nil => simp
    | cons first rest =>
      rw [String.intercalate_append_of_ne_nil (by simp) (by simp),
        String.intercalate_append_of_ne_nil (by simp [matchArgs_ne_nil]) (targetArgs_ne_nil target),
        intercalate_flatMap " " matchArgs (fun test _ => matchArgs_ne_nil test),
        String.intercalate_singleton]
  | foreign text => simp [ruleText, ruleArgs]

end CommandText

namespace FwWrapper

open CommandText

theorem validateXtables_cons
    {operation : String}
    (noTable : operation ≠ "-t")
    (tool : Tool)
    (rest : List String) :
    validateXtables tool (operation :: rest) = validateOperation tool (operation :: rest) := by
  unfold validateXtables
  split
  · next opened => exact absurd (List.cons.inj opened).1 noTable
  · next opened => exact absurd (List.cons.inj opened).1 noTable
  · rfl

theorem isOurChain_chainText (chain : Chain) :
    isOurChain (chainText chain) = true := by
  cases chain <;> rfl

variable (tool : Tool)

theorem validateOperation_append (args : List String) :
    validateOperation tool ("-A" :: args) = validateAppend args := by
  simp [validateOperation, freeOperations, chainOperations]

theorem validateOperation_insert (args : List String) :
    validateOperation tool ("-I" :: args) = validateInsert tool args := by
  simp [validateOperation, freeOperations, chainOperations]

theorem validateOperation_delete (args : List String) :
    validateOperation tool ("-D" :: args) = validateDelete tool args := by
  simp [validateOperation, freeOperations, chainOperations]

theorem isPosition_toString (position : Nat) :
    isPosition (toString position) = true := by
  have nonempty : (toString position).toList ≠ [] := by
    rw [Nat.toString_eq_repr, Nat.toList_repr]
    exact Nat.toDigits_ne_nil
  have digits : (toString position).toList.all Char.isDigit = true := by
    rw [List.all_eq_true]
    intro c member
    rw [Nat.toString_eq_repr, Nat.toList_repr] at member
    exact Nat.isDigit_of_mem_toDigits (by decide) (by decide) member
  rw [isPosition, digits, Bool.and_true, Bool.not_eq_true', List.isEmpty_eq_false_iff]
  exact nonempty

def jumpArgs : List (List String) :=
  [["-j", ksChain], ["-j", bootChain]]

/-- The commands of the daemon's language that the wrapper passes on. -/
def admitsCommand (tool : Tool) : XCommand → Bool
  | .newChain _ => true
  | .flush _ => true
  | .deleteChain _ => true
  | .list _ => true
  | .append chain _ => decide (chain ≠ .output)
  | .insert chain _ rule =>
    decide (chain = .output ∧ ruleText rule ∈ outputBodies tool)
  | .delete chain rule =>
    decide (chain = .output ∧ ruleText rule ∈ outputBodies tool)
  | .check chain rule => decide (chain = .output ∧ ruleArgs rule ∈ jumpArgs)

theorem isOk_require
    (condition : Bool)
    (reason : String) :
    (require condition reason).isOk = condition := by
  cases condition <;> rfl

theorem chainRefText_eq_output {chain : ChainRef} :
    chainRefText chain = "OUTPUT" ↔ chain = .output := by
  cases chain with
  | output => simp [chainRefText]
  | user chain => cases chain <;> simp [chainRefText, chainText]

theorem validateCheck_isOk
    (output : String)
    (args : List String) :
    (validateCheck (output :: args)).isOk = decide (output = "OUTPUT" ∧ args ∈ jumpArgs) := by
  unfold validateCheck
  split
  · next first second third shape =>
      obtain ⟨rfl, rfl⟩ := List.cons.inj shape
      rw [isOk_require, Bool.eq_iff_iff]
      simp only [jumpArgs, isOurChain, Bool.and_eq_true, Bool.or_eq_true,
        beq_iff_eq, decide_eq_true_eq, List.mem_cons, List.cons.injEq,
        List.not_mem_nil, or_false, and_true]
      constructor
      · rintro ⟨⟨rfl, rfl⟩, rfl | rfl⟩
        · exact ⟨rfl, .inl ⟨rfl, rfl⟩⟩
        · exact ⟨rfl, .inr ⟨rfl, rfl⟩⟩
      · rintro ⟨rfl, ⟨rfl, rfl⟩ | ⟨rfl, rfl⟩⟩
        · exact ⟨⟨rfl, rfl⟩, .inl rfl⟩
        · exact ⟨⟨rfl, rfl⟩, .inr rfl⟩
  · next notThree =>
      have other : args ∉ jumpArgs := by
        intro member
        simp only [jumpArgs, List.mem_cons, List.not_mem_nil, or_false] at member
        rcases member with rfl | rfl
        · exact notThree _ _ _ rfl
        · exact notThree _ _ _ rfl
      simp [other, Except.isOk, Except.toBool]

theorem admits_commandArgs
    (command : XCommand)
    (stdin : List Char) :
    admits (.xtables tool) (commandArgs command) stdin = admitsCommand tool command := by
  cases command with
  | list chain =>
    rw [commandArgs, admits, validate, validateXtables_cons (by decide)]
    simp [validateOperation, freeOperations, admitsCommand, Except.isOk, Except.toBool]
  | append chain rule =>
    rw [commandArgs, admits, validate, validateXtables_cons (by decide),
      validateOperation_append, validateAppend, isOk_require]
    cases chain with
    | output => rfl
    | user chain => simp [chainRefText, isOurChain_chainText, admitsCommand]
  | insert chain position rule =>
    rw [commandArgs, admits, validate, validateXtables_cons (by decide), validateOperation_insert]
    cases chain with
    | output =>
      have opened :
          validateInsert tool (chainRefText .output :: toString position ::
                ruleArgs rule) =
            validateOutputBody tool (ruleArgs rule) := by
        change validateOutputBody tool (shiftPosition (toString position :: ruleArgs rule)) = _
        rw [shiftPosition, isPosition_toString, if_pos rfl]
      rw [opened, validateOutputBody, isOk_require, joined, ← ruleText_args]
      simp [admitsCommand]
    | user chain => cases chain <;> rfl
  | delete chain rule =>
    rw [commandArgs, admits, validate, validateXtables_cons (by decide), validateOperation_delete]
    cases chain with
    | output =>
      rw [chainRefText, validateDelete, validateOutputBody, isOk_require, joined, ← ruleText_args]
      simp [admitsCommand]
    | user chain => cases chain <;> rfl
  | check chain rule =>
    rw [commandArgs, admits, validate, validateXtables_cons (by decide)]
    have opened :
        validateOperation tool ("-C" :: chainRefText chain :: ruleArgs rule) =
          validateCheck (chainRefText chain :: ruleArgs rule) := by
      simp [validateOperation, freeOperations, chainOperations]
    rw [opened, validateCheck_isOk, admitsCommand]
    simp only [chainRefText_eq_output]
  | _ =>
    rw [commandArgs, admits, validate, validateXtables_cons (by decide)]
    simp [validateOperation, freeOperations, chainOperations,
      validateChainOperation, isOk_require, isOurChain_chainText,
      admitsCommand]

/-- The words that an nft script must not hold, or not in every place. -/
def watchedWords : List (List Char) :=
  ["table".toList, "include".toList, "flush".toList]

/-- A line that the scan of a script has nothing to say about. -/
def isPlain (line : List Char) : Bool :=
  watchedWords.all (fun word => !Text.contains word line) && line.all (· != '\n')

theorem isPlain_iff {line : List Char} :
    isPlain line = true ↔ (∀ word ∈ watchedWords, ¬word <:+: line) ∧ '\n' ∉ line := by
  simp only [isPlain, Bool.and_eq_true, List.all_eq_true, Bool.not_eq_true', bne_iff_ne, ne_eq]
  refine and_congr ?_ ?_
  · refine forall₂_congr fun word _ => ?_
    rw [← Text.contains_iff_infix, Bool.not_eq_true]
  · exact ⟨fun all member => all _ member rfl, fun absent c member same => absent (same ▸ member)⟩

theorem isPlain_append_blank
    {front back : List Char}
    (frontPlain : isPlain front = true)
    (backPlain : isPlain back = true) :
    isPlain (front ++ ' ' :: back) = true := by
  rw [isPlain_iff] at frontPlain backPlain ⊢
  refine ⟨?_, ?_⟩
  · intro word watched found
    have noBlank : ∀ word ∈ watchedWords, ' ' ∉ word := by decide
    rcases Text.infix_of_infix_append_cons (noBlank word watched) found with
      here | there
    · exact frontPlain.1 word watched here
    · exact backPlain.1 word watched there
  · intro member
    rcases List.mem_append.mp member with here | there
    · exact frontPlain.2 here
    · rcases List.mem_cons.mp there with blank | there
      · exact absurd blank (by decide)
      · exact backPlain.2 there

/-- Addresses are plain: every watched word has an l in it. -/
theorem isPlain_of_addressy
    {text : List Char}
    (addressy : AddressChars.Addressy text) :
    isPlain text = true := by
  rw [isPlain_iff]
  refine ⟨?_, ?_⟩
  · intro word watched
    have letter : ∀ word ∈ watchedWords, 'l' ∈ word := by decide
    exact addressy.not_infix (letter word watched) (by decide)
  · intro member
    exact absurd (addressy _ member) (by decide)

theorem isPlain_embedded
    {front back : List Char}
    (frontPlain : isPlain front = true)
    {text : String}
    (addressy : AddressChars.Addressy text.toList)
    (backPlain : isPlain back = true) :
    isPlain (front ++ ' ' :: (text.toList ++ ' ' :: back)) = true :=
  isPlain_append_blank frontPlain (isPlain_append_blank (isPlain_of_addressy addressy) backPlain)

open NftText KillSwitchRules AddressChars

def PlainLines (lines : List String) : Prop :=
  ∀ line ∈ lines, isPlain line.toList = true

theorem PlainLines.append
    {front back : List String}
    (first : PlainLines front)
    (second : PlainLines back) :
    PlainLines (front ++ back) := by
  intro line member
  rcases List.mem_append.mp member with inFront | inBack
  · exact first line inFront
  · exact second line inBack

theorem PlainLines.nil :
    PlainLines [] := by
  intro line member
  exact absurd member List.not_mem_nil

theorem isPlain_written
    {chars : List Char}
    (plain : isPlain chars = true) :
    isPlain (String.ofList chars).toList = true := by
  rw [String.toList_ofList]
  exact plain

theorem PlainLines.cons
    {chars : List Char}
    (plain : isPlain chars = true)
    {rest : List String}
    (later : PlainLines rest) :
    PlainLines (String.ofList chars :: rest) := by
  intro line member
  rcases List.mem_cons.mp member with rfl | inRest
  · exact isPlain_written plain
  · exact later line inRest

theorem openingLines_plain :
    PlainLines (openingLines.drop 2) := by
  simp only [openingLines, List.drop_succ_cons, List.drop_zero]
  repeat refine .cons (by decide) ?_
  exact .nil

theorem ipv6Lines_plain (ipv6Mode : Ipv6Mode) :
    PlainLines (ipv6Lines ipv6Mode) := by
  cases ipv6Mode with
  | _ =>
    repeat refine .cons (by decide) ?_
    exact .nil

theorem dnsLines_plain
    (dnsMode : DnsMode)
    (ipv6Mode : Ipv6Mode) :
    PlainLines (dnsLines dnsMode ipv6Mode) := by
  cases dnsMode with
  | localhost =>
    refine .append (.append ?_ ?_) ?_
    · repeat refine .cons (by decide) ?_
      exact .nil
    · split
      · repeat refine .cons (by decide) ?_
        exact .nil
      · exact .nil
    · repeat refine .cons (by decide) ?_
      exact .nil
  | _ =>
    repeat refine .cons (by decide) ?_
    exact .nil

theorem fixedLines_plain :
    PlainLines dhcpLines ∧ PlainLines tunnelLines ∧ PlainLines closingLines.dropLast := by
  refine ⟨?_, ?_, ?_⟩
  · repeat refine .cons (by decide) ?_
    exact .nil
  · repeat refine .cons (by decide) ?_
    exact .nil
  · repeat refine .cons (by decide) ?_
    exact .nil

theorem dohLines_plain (settings : KillSwitchSettings) :
    PlainLines (dohLines settings) := by
  rw [dohLines]
  split
  · refine .append (.cons (by decide) (.cons (by decide) .nil)) ?_
    intro line member
    obtain ⟨ip, listed, rfl⟩ := List.mem_map.mp member
    have addressy := addressy_of_isValidIpv4 (List.mem_filter.mp listed).2
    have spelled :
        ("        ip daddr " ++ ip ++ " tcp dport 443 drop").toList =
          "        ip daddr".toList ++
            ' ' :: (ip.toList ++ ' ' :: "tcp dport 443 drop".toList) := by
      simp [String.toList_append]
    rw [spelled]
    exact isPlain_embedded (isPlain_written (by decide)) addressy (isPlain_written (by decide))
  · exact .nil

theorem accept_plain
    {text : String}
    (addressy : Addressy text.toList) :
    isPlain ("        ip daddr " ++ text ++ " accept").toList = true ∧
      isPlain ("        ip6 daddr " ++ text ++ " accept").toList = true := by
  have spelled4 :
      ("        ip daddr " ++ text ++ " accept").toList =
        "        ip daddr".toList ++ ' ' :: (text.toList ++ ' ' :: "accept".toList) := by
    simp [String.toList_append]
  have spelled6 :
      ("        ip6 daddr " ++ text ++ " accept").toList =
        "        ip6 daddr".toList ++ ' ' :: (text.toList ++ ' ' :: "accept".toList) := by
    simp [String.toList_append]
  rw [spelled4, spelled6]
  have accept : isPlain "accept".toList = true := isPlain_written (by decide)
  exact ⟨
    isPlain_embedded (isPlain_written (by decide)) addressy accept,
    isPlain_embedded (isPlain_written (by decide)) addressy accept⟩

theorem lanLines_plain (lanSubnets : List Cidr4) :
    PlainLines (lanLines lanSubnets) := by
  refine .append (.cons (by decide) (.cons (by decide) .nil)) ?_
  intro line member
  obtain ⟨net, -, rfl⟩ := List.mem_map.mp member
  exact (accept_plain (subnetText_addressy net)).1

variable (ipv6Mode : Ipv6Mode)

theorem serverLines_plain (ip : IpAddr) :
    PlainLines (serverLines ipv6Mode ip) := by
  cases ip with
  | v4 addr =>
    intro line member
    rw [List.mem_singleton.mp member]
    exact (accept_plain (ipv4Text_addressy addr)).1
  | v6 addr =>
    rw [serverLines]
    split
    · intro line member
      rw [List.mem_singleton.mp member]
      exact (accept_plain (ipv6Text_addressy addr)).2
    · exact .nil

theorem flatMap_serverLines_plain (ips : List IpAddr) :
    PlainLines (ips.flatMap (serverLines ipv6Mode)) := by
  intro line member
  obtain ⟨ip, -, inServer⟩ := List.mem_flatMap.mp member
  exact serverLines_plain ipv6Mode ip line inServer

theorem allowlistLines_plain (vpnServerIps : List IpAddr) :
    PlainLines (allowlistLines ipv6Mode vpnServerIps) := by
  refine .append ?_ (flatMap_serverLines_plain ipv6Mode _)
  split
  · exact .nil
  · exact .cons (by decide) (.cons (by decide) .nil)

theorem rulesetLines_plain
    (settings : KillSwitchSettings)
    (vpnServerIps : List IpAddr)
    (lanSubnets : List Cidr4) :
    ∃ rest,
      rulesetLines settings vpnServerIps lanSubnets = openingLines.take 2 ++ rest ++ ["\x7d"] ∧
      PlainLines rest := by
  refine ⟨openingLines.drop 2 ++ ipv6Lines settings.ipv6Mode ++ dhcpLines ++
    dnsLines settings.dnsMode settings.ipv6Mode ++ dohLines settings ++
    lanLines lanSubnets ++ tunnelLines ++
    allowlistLines settings.ipv6Mode vpnServerIps ++
    settings.vpnServerIp.toList.flatMap (serverLines settings.ipv6Mode) ++
    closingLines.dropLast, ?_, ?_⟩
  · simp [rulesetLines, openingLines, closingLines]
  · obtain ⟨dhcp, tunnels, closing⟩ := fixedLines_plain
    exact ((((((((openingLines_plain.append (ipv6Lines_plain _)).append
      dhcp).append (dnsLines_plain _ _)).append (dohLines_plain _)).append
      (lanLines_plain _)).append tunnels).append
      (allowlistLines_plain _ _)).append
      (flatMap_serverLines_plain _ _)).append closing

theorem tableReferences_plain
    {line : List Char}
    (plain : ¬"table".toList <:+: line) :
    tableReferences 0 line = [] := by
  induction line with
  | nil => rfl
  | cons c rest ih =>
    have noMatch : TableReference.match? (c :: rest) = none := by
      have noWord : Text.strip? "table".toList (c :: rest) = none := by
        cases stripped : Text.strip? "table".toList (c :: rest) with
        | none => rfl
        | some behind => exact (plain (Text.infix_of_strip stripped)).elim
      rw [TableReference.match?, noWord]
      rfl
    rw [tableReferences, noMatch]
    exact ih fun found => plain (found.trans (List.suffix_cons c rest).isInfix)

theorem tableReferences_header :
    ∀ line ∈ openingLines.take 2,
      (tableReferences 0 line.toList).all TableReference.isOurs = true := by
  decide

theorem captured_append
    (text : List Char)
    {last : Char}
    (ends : last ≠ '\n') :
    captured (text ++ [last] ++ ['\n']) = text ++ [last] := by
  simp [captured, ends]

theorem foreignReferences_intercalate
    {lines : List (List Char)}
    (nonempty : lines ≠ [])
    (single : ∀ line ∈ lines, '\n' ∉ line)
    (ours : ∀ line ∈ lines, (tableReferences 0 line).all TableReference.isOurs = true) :
    foreignReferences (['\n'].intercalate lines) = [] := by
  rw [foreignReferences, Text.splitNewlines_intercalate nonempty single, List.filter_eq_nil_iff]
  intro reference member
  obtain ⟨line, inLines, inLine⟩ := List.mem_flatMap.mp member
  simp [List.all_eq_true.mp (ours line inLines) reference inLine]

theorem contains_intercalate_eq_false
    {word : List Char}
    (nonempty : word ≠ [])
    (single : '\n' ∉ word)
    {lines : List (List Char)}
    (absent : ∀ line ∈ lines, ¬word <:+: line) :
    Text.contains word (['\n'].intercalate lines) = false := by
  rw [Bool.eq_false_iff, ne_eq, Text.contains_iff_infix]
  intro found
  obtain ⟨line, member, inLine⟩ := Text.infix_of_infix_intercalate single nonempty found
  exact absent line member inLine

/-- What the scan of a script looks at, line by line. -/
structure Unobjectionable (line : List Char) : Prop where
  single : '\n' ∉ line
  noInclude : ¬"include".toList <:+: line
  noFlush : ¬"flush".toList <:+: line
  ours : (tableReferences 0 line).all TableReference.isOurs = true

theorem unobjectionable_of_isPlain
    {line : List Char}
    (plain : isPlain line = true) :
    Unobjectionable line := by
  obtain ⟨absent, single⟩ := isPlain_iff.mp plain
  refine ⟨single, absent _ (by decide), absent _ (by decide), ?_⟩
  rw [tableReferences_plain (absent _ (by decide))]
  rfl

theorem unobjectionable_header :
    ∀ line ∈ openingLines.take 2, Unobjectionable line.toList := by
  intro line member
  refine ⟨?_, ?_, ?_, tableReferences_header line member⟩
  · revert line
    decide
  · rw [← Text.contains_iff_infix]
    revert line
    decide
  · rw [← Text.contains_iff_infix]
    revert line
    decide

theorem validateNftStdin_unlines
    {lines : List (List Char)}
    {last : Char}
    (ends : last ≠ '\n')
    (fine : ∀ line ∈ lines ++ [[last]], Unobjectionable line) :
    validateNftStdin (Text.unlines (lines ++ [[last]])) = .ok () := by
  have script :
      captured (Text.unlines (lines ++ [[last]])) = ['\n'].intercalate (lines ++ [[last]]) := by
    have joined := @Text.unlines_eq_intercalate (lines ++ [[last]]) (by simp)
    have opened : Text.unlines (lines ++ [[last]]) = Text.unlines lines ++ [last] ++ ['\n'] := by
      simp [Text.unlines]
    rw [opened] at joined ⊢
    rw [captured_append _ ends]
    exact List.append_cancel_right joined
  have noFlush :
      Text.contains "flush ruleset".toList (['\n'].intercalate (lines ++ [[last]])) = false := by
    apply contains_intercalate_eq_false (by decide) (by decide)
    intro line member found
    have shorter : "flush".toList <:+: "flush ruleset".toList := by decide
    exact (fine line member).noFlush (shorter.trans found)
  have noInclude :
      Text.contains "include".toList (['\n'].intercalate (lines ++ [[last]])) = false :=
    contains_intercalate_eq_false (by decide) (by decide)
      (fun line member => (fine line member).noInclude)
  have references :=
    @foreignReferences_intercalate (lines ++ [[last]]) (by simp)
      (fun line member => (fine line member).single)
      (fun line member => (fine line member).ours)
  have nonempty : ['\n'].intercalate (lines ++ [[last]]) ≠ [] := by
    rw [← script, Text.unlines]
    simp [captured, ends]
  rw [validateNftStdin, script, if_neg nonempty, noFlush, if_neg Bool.false_ne_true, noInclude,
    if_neg Bool.false_ne_true, references]
  rfl

theorem admits_buildNftText
    (settings : KillSwitchSettings)
    (vpnServerIps : List IpAddr)
    (lanSubnets : List Cidr4) :
    admits .nft ["-f", "-"] (buildNftText settings vpnServerIps lanSubnets) = true := by
  obtain ⟨rest, shape, plain⟩ := rulesetLines_plain settings vpnServerIps lanSubnets
  have fine :
      ∀ line ∈ (openingLines.take 2 ++ rest).map String.toList ++ [['\x7d']],
        Unobjectionable line := by
    intro line member
    rcases List.mem_append.mp member with inLines | isLast
    · obtain ⟨text, inTexts, rfl⟩ := List.mem_map.mp inLines
      rcases List.mem_append.mp inTexts with inHeader | inRest
      · exact unobjectionable_header text inHeader
      · exact unobjectionable_of_isPlain (plain text inRest)
    · rw [List.mem_singleton.mp isLast]
      exact unobjectionable_of_isPlain (by decide)
  have passes := validateNftStdin_unlines (by decide) fine
  have text :
      buildNftText settings vpnServerIps lanSubnets =
        Text.unlines ((openingLines.take 2 ++ rest).map String.toList ++ [['\x7d']]) := by
    rw [buildNftText, shape, List.map_append]
    rfl
  rw [admits, validate, text]
  simp only [validateNft]
  rw [passes]
  rfl

end FwWrapper

end Shroud
