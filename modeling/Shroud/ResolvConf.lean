import Shroud.HealthChecker
import Shroud.Networks
import Shroud.TextSearch

namespace Shroud

/-!
# The verdict on `resolv.conf`

The check for leaking resolvers is a line parser, an address parser and a few
tests of octets.  Here it is compared with what it stands for: every line that
names a resolver names one in a range that stays within the tunnel.
-/

namespace Text

theorem lines_append
    {front : List Char}
    (back : List Char)
    (ends : ∃ text, front = text ++ ['\n']) :
    lines (front ++ back) = lines front ++ lines back := by
  obtain ⟨text, rfl⟩ := ends
  have nonempty := splitNewlines_ne_nil back
  have whole :
      splitNewlines (text ++ ['\n'] ++ back) = splitNewlines text ++ splitNewlines back := by
    rw [List.append_assoc]
    exact splitNewlines_append_cons text back
  have own : splitNewlines (text ++ ['\n']) = splitNewlines text ++ [[]] :=
    splitNewlines_append_cons text []
  have noLine : (some ([] : List Char)).toList.filter (· ≠ []) = [] := rfl
  rw [lines, lines, lines, whole, own, List.dropLast_concat, List.getLast?_concat, noLine,
    List.dropLast_append_of_ne_nil nonempty, List.getLast?_append_of_ne_nil _ nonempty,
    List.map_append, List.append_assoc, List.append_nil]

end Text

namespace HealthChecker

/-- A line that names a resolver, as `resolv.conf` is read. -/
def Names (line rest : List Char) : Prop :=
  ∃ tail, Text.trim line = "nameserver".toList ++ tail ∧ rest = Text.trim tail ∧ rest ≠ []

/-- The ranges of resolvers that cannot leak. -/
def safeRanges : List Cidr4 :=
  [⟨Ipv4Addr.ofOctets 127 0 0 0, 8⟩, ⟨Ipv4Addr.ofOctets 10 0 0 0, 8⟩,
    ⟨Ipv4Addr.ofOctets 172 16 0 0, 12⟩, ⟨Ipv4Addr.ofOctets 192 168 0 0, 16⟩,
    ⟨Ipv4Addr.ofOctets 169 254 0 0, 16⟩]

def safeRanges6 : List Cidr6 :=
  [⟨Ipv6Addr.ofEnds 0 1, 128⟩, ⟨Ipv6Addr.ofEnds 0xfd00 0, 8⟩, ⟨Ipv6Addr.ofEnds 0xfe80 0, 10⟩]

def InSafeRange : IpAddr → Prop
  | .v4 addr => ∃ range ∈ safeRanges, range.contains addr = true
  | .v6 addr => ∃ range ∈ safeRanges6, range.contains addr = true

def IsSafe (text : List Char) : Prop :=
  ∃ addr, AddressText.parseIp? (String.ofList text) = some addr ∧ InSafeRange addr

theorem nameserver?_eq_some_iff
    {line : List Char}
    {resolver : String} :
    nameserver? line = some resolver ↔ Names line resolver.toList := by
  have starts {tail : List Char} (same : Text.trim line = "nameserver".toList ++ tail) :
      ((Text.trim line).isEmpty || (Text.trim line).head? == some '#' ||
        (Text.trim line).head? == some ';') = false := by
    rw [same]
    rfl
  rw [nameserver?]
  constructor
  · intro found
    obtain ⟨-, found⟩ := Option.ite_none_left_eq_some.mp found
    obtain ⟨tail, stripped, found⟩ := Option.bind_eq_some_iff.mp found
    obtain ⟨nonempty, found⟩ := Option.ite_none_left_eq_some.mp found
    rw [← Option.some.inj found, String.toList_ofList]
    exact ⟨tail, Text.strip?_eq_some_iff.mp stripped, rfl,
      fun empty => nonempty (List.isEmpty_iff.mpr empty)⟩
  · rintro ⟨tail, same, isRest, nonempty⟩
    rw [isRest] at nonempty
    rw [starts same, if_neg Bool.false_ne_true, Text.strip?_eq_some_iff.mpr same,
      Option.bind_some, if_neg (fun empty => nonempty (List.isEmpty_iff.mp empty)), ← isRest,
      String.ofList_toList]

theorem isSafeResolver_iff {resolver : String} :
    isSafeResolver resolver = true ↔ IsSafe resolver.toList := by
  rw [isSafeResolver, IsSafe, String.ofList_toList]
  cases AddressText.parseIp? resolver with
  | none => simp
  | some addr =>
    simp only [Option.some.injEq, exists_eq_left']
    cases addr with
    | v4 addr =>
      have bound := addr.isLt
      have loop : (Ipv4Addr.ofOctets 127 0 0 0).toNat = 2130706432 := by decide
      have ten : (Ipv4Addr.ofOctets 10 0 0 0).toNat = 167772160 := by decide
      have large : (Ipv4Addr.ofOctets 172 16 0 0).toNat = 2886729728 := by decide
      have home : (Ipv4Addr.ofOctets 192 168 0 0).toNat = 3232235520 := by decide
      have link : (Ipv4Addr.ofOctets 169 254 0 0).toNat = 2851995648 := by decide
      simp only [InSafeRange, safeRanges, List.mem_cons, List.not_mem_nil, or_false,
        exists_eq_or_imp, exists_eq_left, Cidr.contains_iff, BitVec.toNat_eq,
        BitVec.toNat_ushiftRight, Nat.shiftRight_eq_div_pow, Ipv4Addr.firstOctet,
        Ipv4Addr.secondOctet, Bool.or_eq_true, Bool.and_eq_true, beq_iff_eq,
        decide_eq_true_eq]
      rw [loop, ten, large, home, link]
      omega
    | v6 addr =>
      have bound := addr.isLt
      have loop : (Ipv6Addr.ofEnds 0 1).toNat = 1 := by decide
      have ula : (Ipv6Addr.ofEnds 0xfd00 0).toNat = 0xfd00 * 2 ^ 112 := by decide
      have link : (Ipv6Addr.ofEnds 0xfe80 0).toNat = 0xfe80 * 2 ^ 112 := by decide
      simp only [InSafeRange, safeRanges6, List.mem_cons, List.not_mem_nil, or_false,
        exists_eq_or_imp, exists_eq_left, Cidr.contains_iff, BitVec.toNat_eq,
        BitVec.toNat_ushiftRight, Nat.shiftRight_eq_div_pow, Ipv6Addr.firstOctet,
        Ipv6Addr.secondOctet, Bool.or_eq_true, Bool.and_eq_true, beq_iff_eq]
      rw [loop, ula, link]
      omega

theorem mem_parseResolvConf {content resolver : String} :
    resolver ∈ parseResolvConf content ↔
      ∃ line ∈ Text.lines content.toList, Names line resolver.toList := by
  rw [parseResolvConf, List.mem_filterMap]
  simp only [nameserver?_eq_some_iff]

theorem checkDnsLeak_secure_iff {content : String} :
    checkDnsLeakFromResolvConf content = .secure ↔
      parseResolvConf content ≠ [] ∧
        ∀ resolver ∈ parseResolvConf content, IsSafe resolver.toList := by
  rw [checkDnsLeakFromResolvConf]
  cases found : parseResolvConf content with
  | nil => simp
  | cons first rest =>
    have allSafe :
        ((first :: rest).filter fun resolver => !isSafeResolver resolver).isEmpty = true ↔
          ∀ resolver ∈ first :: rest, IsSafe resolver.toList := by
      simp only [List.isEmpty_iff, List.filter_eq_nil_iff, Bool.not_eq_true', Bool.not_eq_false,
        isSafeResolver_iff]
    rw [← allSafe, List.isEmpty_cons, if_neg Bool.false_ne_true]
    dsimp only
    cases ((first :: rest).filter fun resolver => !isSafeResolver resolver).isEmpty <;> simp

/-- Some line names a resolver. -/
def NamesResolver (content : String) : Prop :=
  ∃ line ∈ Text.lines content.toList, ∃ rest, Names line rest

theorem namesResolver_iff {content : String} :
    NamesResolver content ↔ parseResolvConf content ≠ [] := by
  rw [Ne, List.eq_nil_iff_forall_not_mem, not_forall_not]
  constructor
  · rintro ⟨line, member, rest, named⟩
    refine ⟨String.ofList rest, mem_parseResolvConf.mpr ⟨line, member, ?_⟩⟩
    rw [String.toList_ofList]
    exact named
  · rintro ⟨resolver, found⟩
    obtain ⟨line, member, named⟩ := mem_parseResolvConf.mp found
    exact ⟨line, member, resolver.toList, named⟩

/--
The verdict is `Secure` exactly if some line names a resolver and every line
that does names one in a safe range; any other resolver is a leak; and files
that end in a newline can be judged one by one.
-/
theorem dns_verdict_spec (content front back : String) :
    (checkDnsLeakFromResolvConf content = .secure ↔
        NamesResolver content ∧
          ∀ line ∈ Text.lines content.toList, ∀ rest, Names line rest → IsSafe rest) ∧
      ((∃ line ∈ Text.lines content.toList, ∃ rest, Names line rest ∧ ¬IsSafe rest) →
        ∃ resolvers, checkDnsLeakFromResolvConf content = .leak resolvers) ∧
      ((∃ text, front.toList = text ++ ['\n']) → (∃ text, back.toList = text ++ ['\n']) →
        (checkDnsLeakFromResolvConf (front ++ back) = .secure ↔
          (checkDnsLeakFromResolvConf front = .secure ∨ ¬NamesResolver front) ∧
            (checkDnsLeakFromResolvConf back = .secure ∨ ¬NamesResolver back) ∧
            (checkDnsLeakFromResolvConf front = .secure ∨
              checkDnsLeakFromResolvConf back = .secure))) := by
  have everyLine (content : String) :
      (∀ resolver ∈ parseResolvConf content, IsSafe resolver.toList) ↔
        ∀ line ∈ Text.lines content.toList, ∀ rest, Names line rest → IsSafe rest := by
    constructor
    · intro safe line member rest named
      have isSafe :=
        safe (String.ofList rest)
          (mem_parseResolvConf.mpr ⟨line, member, by rwa [String.toList_ofList]⟩)
      rwa [String.toList_ofList] at isSafe
    · intro safe resolver found
      obtain ⟨line, member, named⟩ := mem_parseResolvConf.mp found
      exact safe line member _ named
  refine ⟨?_, ?_, ?_⟩
  · rw [checkDnsLeak_secure_iff, namesResolver_iff, everyLine]
  · rintro ⟨line, member, rest, named, unsafeRest⟩
    have names : parseResolvConf content ≠ [] := namesResolver_iff.mp ⟨line, member, rest, named⟩
    have notSecure : checkDnsLeakFromResolvConf content ≠ .secure := by
      rw [Ne, checkDnsLeak_secure_iff, everyLine]
      exact fun secure => unsafeRest (secure.2 line member rest named)
    rw [checkDnsLeakFromResolvConf, if_neg (fun empty => names (List.isEmpty_iff.mp empty))]
      at notSecure ⊢
    dsimp only at notSecure ⊢
    split_ifs at notSecure ⊢
    · exact absurd rfl notSecure
    · exact ⟨_, rfl⟩
  · rintro ends -
    have joined :
        parseResolvConf (front ++ back) = parseResolvConf front ++ parseResolvConf back := by
      rw [parseResolvConf, String.toList_append, Text.lines_append _ ends, List.filterMap_append]
      rfl
    simp only [checkDnsLeak_secure_iff, namesResolver_iff, joined, ne_eq, not_not,
      List.append_eq_nil_iff, List.forall_mem_append]
    by_cases noFront : parseResolvConf front = []
    · by_cases noBack : parseResolvConf back = []
      · simp [noFront, noBack]
      · simp [noFront, noBack]
    · by_cases noBack : parseResolvConf back = []
      · simp [noFront, noBack]
      · simp only [noFront, noBack, not_false_eq_true, false_and, or_false, true_and]
        exact ⟨fun safe => ⟨safe.1, safe.2, .inl safe.1⟩, fun safe => ⟨safe.1, safe.2.1⟩⟩

end HealthChecker

end Shroud
