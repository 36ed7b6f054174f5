import Shroud.NftText

namespace Shroud.AddressChars

open AddressText KillSwitchRules

/-!
# The characters of addresses

Whatever is interpolated into a firewall command is an address or a subnet.
Printed addresses, and texts that are accepted as addresses, are made of
hexadecimal digits, dots, colons and slashes.
-/

/-- Hexadecimal digits in lower case, and the separators of addresses. -/
def isAddressChar (c : Char) : Bool :=
  c.isDigit || (decide ('a' ≤ c) && decide (c ≤ 'f')) || c == '.' || c == ':' || c == '/'

def Addressy (text : List Char) : Prop :=
  ∀ c ∈ text, isAddressChar c = true

theorem Addressy.append
    {front back : List Char}
    (first : Addressy front)
    (second : Addressy back) :
    Addressy (front ++ back) := by
  intro c member
  rcases List.mem_append.mp member with inFront | inBack
  · exact first c inFront
  · exact second c inBack

theorem addressy_written
    {chars : List Char}
    (all : chars.all isAddressChar = true) :
    Addressy (String.ofList chars).toList := by
  rw [String.toList_ofList]
  exact List.all_eq_true.mp all

theorem isAddressChar_of_isDigit
    {c : Char}
    (digit : c.isDigit = true) :
    isAddressChar c = true := by
  simp [isAddressChar, digit]

theorem digits_addressy (value : Nat) :
    Addressy (toString value).toList := by
  intro c member
  rw [Nat.toString_eq_repr, Nat.toList_repr] at member
  exact isAddressChar_of_isDigit (Nat.isDigit_of_mem_toDigits (by decide) (by decide) member)

theorem hexDigits_addressy (value : Nat) :
    Addressy (CommandText.hexDigits value) := by
  have digit : ∀ n < 16, isAddressChar (Nat.digitChar n) = true := by decide
  rw [CommandText.hexDigits]
  induction value using Nat.strongRecOn with
  | ind value ih =>
    intro c member
    by_cases small : value < 16
    · rw [Nat.toDigits_of_lt_base small, List.mem_singleton] at member
      rw [member]
      exact digit value small
    · rw [Nat.toDigits_of_base_le (by decide) (by omega)] at member
      rcases List.mem_append.mp member with earlier | last
      · exact ih _ (by omega) c earlier
      · rw [List.mem_singleton.mp last]
        exact digit _ (Nat.mod_lt _ (by decide))

theorem ipv4Text_addressy (addr : Ipv4Addr) :
    Addressy (ipv4Text addr).toList := by
  have dot : Addressy ".".toList := addressy_written (by decide)
  simp only [ipv4Text, String.toList_append]
  exact ((((((digits_addressy _).append dot).append (digits_addressy _)).append
    dot).append (digits_addressy _)).append dot).append (digits_addressy _)

theorem Addressy.intercalate
    {separator : Char}
    (separates : isAddressChar separator = true)
    {pieces : List (List Char)}
    (all : ∀ piece ∈ pieces, Addressy piece) :
    Addressy ([separator].intercalate pieces) := by
  induction pieces with
  | nil =>
    intro c member
    exact absurd member List.not_mem_nil
  | cons first rest ih =>
    have firstOk := all first List.mem_cons_self
    cases rest with
    | nil =>
      rw [List.intercalate_singleton]
      exact firstOk
    | cons second rest =>
      have later :=
        ih (fun piece member => all piece (List.mem_cons_of_mem _ member))
      rw [List.intercalate_cons_cons]
      refine (firstOk.append ?_).append later
      intro c member
      rw [List.mem_singleton.mp member]
      exact separates

theorem joinGroups_addressy (groups : List Nat) :
    Addressy (CommandText.joinGroups groups).toList := by
  rw [CommandText.joinGroups, String.toList_intercalate]
  refine Addressy.intercalate (by decide) ?_
  intro piece member
  simp only [List.map_map, List.mem_map, Function.comp_apply, String.toList_ofList] at member
  obtain ⟨group, -, rfl⟩ := member
  exact hexDigits_addressy group

theorem ipv6Text_addressy (addr : Ipv6Addr) :
    Addressy (CommandText.ipv6Text addr).toList := by
  have colons : Addressy "::".toList := addressy_written (by decide)
  have mapped : Addressy "::ffff:".toList := addressy_written (by decide)
  rw [CommandText.ipv6Text]
  dsimp only
  split
  · rw [String.toList_append]
    exact mapped.append (ipv4Text_addressy _)
  · split
    · rw [String.toList_append, String.toList_append]
      exact ((joinGroups_addressy _).append colons).append (joinGroups_addressy _)
    · exact joinGroups_addressy _

theorem netText_addressy (net : IpNet) :
    Addressy (CommandText.netText net).toList := by
  have slash : Addressy "/".toList := addressy_written (by decide)
  cases net with
  | v4 net =>
    rw [CommandText.netText]
    split
    · exact ipv4Text_addressy _
    · rw [String.toList_append, String.toList_append]
      exact ((ipv4Text_addressy _).append slash).append (digits_addressy _)
  | v6 net =>
    rw [CommandText.netText]
    split
    · exact ipv6Text_addressy _
    · rw [String.toList_append, String.toList_append]
      exact ((ipv6Text_addressy _).append slash).append (digits_addressy _)

theorem subnetText_addressy (net : Cidr4) :
    Addressy (NftText.subnetText net).toList := by
  have slash : Addressy "/".toList := addressy_written (by decide)
  rw [NftText.subnetText, String.toList_append, String.toList_append]
  exact ((ipv4Text_addressy _).append slash).append (digits_addressy _)

/-- A reader that only consumes address characters. -/
def ConsumesAddress {α : Type} (reader : Reader α) : Prop :=
  ∀ text value rest,
    reader text = some (value, rest) → ∃ front, text = front ++ rest ∧ Addressy front

theorem isAddressChar_of_digitValue
    {c : Char}
    {value : Nat}
    (digit : digitValue? 10 c = some value) :
    isAddressChar c = true := by
  refine isAddressChar_of_isDigit ?_
  rw [digitValue?] at digit
  obtain ⟨found, small⟩ := Option.filter_eq_some_iff.mp digit
  have below : value < 10 := of_decide_eq_true small
  split at found
  · next decimal =>
      rw [Char.isDigit, Bool.and_eq_true, decide_eq_true_eq, decide_eq_true_eq]
      exact decimal
  · -- letters stand for ten and more
    split at found
    · have letter := Option.some.inj found
      omega
    · split at found
      · have letter := Option.some.inj found
        omega
      · exact absurd found (by simp)

theorem spanDigits_addressy (text : List Char) :
    ∃ front, text = front ++ (spanDigits 10 text).2 ∧ Addressy front := by
  induction text with
  | nil => exact ⟨[], rfl, fun c member => absurd member List.not_mem_nil⟩
  | cons c text ih =>
    obtain ⟨front, whole, addressy⟩ := ih
    cases shape : digitValue? 10 c with
    | none =>
      refine ⟨[], ?_, fun c member => absurd member List.not_mem_nil⟩
      simp [spanDigits, shape]
    | some value =>
      refine ⟨c :: front, ?_, ?_⟩
      · simp only [spanDigits, shape, List.cons_append]
        rw [← whole]
      · intro other member
        rcases List.mem_cons.mp member with rfl | later
        · exact isAddressChar_of_digitValue shape
        · exact addressy other later

theorem readNumber_consumes :
    ConsumesAddress (readNumber 10 3 256 false) := by
  intro text value rest read
  obtain ⟨front, whole, addressy⟩ := spanDigits_addressy text
  refine ⟨front, ?_, addressy⟩
  rw [readNumber] at read
  dsimp only at read
  obtain ⟨-, read⟩ := Option.ite_none_left_eq_some.mp read
  obtain ⟨-, read⟩ := Option.ite_none_left_eq_some.mp read
  obtain ⟨-, same⟩ := Option.ite_none_right_eq_some.mp read
  rw [← (Prod.mk.inj (Option.some.inj same)).2]
  exact whole

theorem ConsumesAddress.separated
    {α : Type}
    {inner : Reader α}
    (consumes : ConsumesAddress inner)
    (index : Nat) :
    ConsumesAddress (readSeparator '.' index inner) := by
  intro text value rest read
  rw [readSeparator] at read
  by_cases first : index = 0
  · rw [if_pos first] at read
    exact consumes text value rest read
  · rw [if_neg first] at read
    cases text with
    | nil => exact absurd read (by simp [readGivenChar])
    | cons c text =>
      by_cases dot : c = '.'
      · subst dot
        simp only [readGivenChar, ↓reduceIte] at read
        obtain ⟨front, rfl, addressy⟩ := consumes _ _ _ read
        refine ⟨'.' :: front, rfl, ?_⟩
        intro other member
        rcases List.mem_cons.mp member with rfl | later
        · decide
        · exact addressy other later
      · exact absurd read (by simp [readGivenChar, dot])

theorem readOctets_consumes (remaining : Nat) :
    ∀ index, ConsumesAddress (readOctets index remaining) := by
  induction remaining with
  | zero =>
    intro index text value rest read
    have same : text = rest := (Prod.mk.inj (Option.some.inj read)).2
    exact ⟨[], same, fun c member => absurd member List.not_mem_nil⟩
  | succ remaining ih =>
    intro index text value rest read
    rw [readOctets] at read
    obtain ⟨⟨octet, middle⟩, first, later⟩ := Option.bind_eq_some_iff.mp read
    obtain ⟨⟨octets, last⟩, others, same⟩ := Option.bind_eq_some_iff.mp later
    obtain ⟨-, rfl⟩ := Prod.mk.inj (Option.some.inj same)
    obtain ⟨front, rfl, frontOk⟩ := readNumber_consumes.separated index _ _ _ first
    obtain ⟨back, rfl, backOk⟩ := ih _ _ _ _ others
    exact ⟨front ++ back, by simp, frontOk.append backOk⟩

theorem addressy_of_isValidIpv4
    {text : String}
    (valid : isValidIpv4 text = true) :
    Addressy text.toList := by
  obtain ⟨addr, parsed⟩ := Option.isSome_iff_exists.mp valid
  rw [parseIpv4?] at parsed
  obtain ⟨-, parsed⟩ := Option.ite_none_left_eq_some.mp parsed
  rw [parseWith] at parsed
  cases read : readIpv4Addr text.toList with
  | none =>
    rw [read] at parsed
    exact absurd parsed (by simp)
  | some result =>
    obtain ⟨value, rest⟩ := result
    rw [readIpv4Addr] at read
    obtain ⟨⟨octets, last⟩, octetsRead, same⟩ := Option.bind_eq_some_iff.mp read
    obtain ⟨-, rfl⟩ := Prod.mk.inj (Option.some.inj same)
    obtain ⟨front, whole, addressy⟩ := readOctets_consumes 4 0 _ _ _ octetsRead
    cases last with
    | nil =>
      rw [whole, List.append_nil]
      exact addressy
    | cons c last =>
      rw [readIpv4Addr, octetsRead] at parsed
      exact absurd parsed (by simp)

theorem Addressy.not_infix
    {text pattern : List Char}
    (addressy : Addressy text)
    {c : Char}
    (member : c ∈ pattern)
    (other : isAddressChar c = false) :
    ¬pattern <:+: text := by
  intro found
  have inText := addressy c (found.subset member)
  rw [other] at inText
  exact Bool.noConfusion inText

end Shroud.AddressChars
