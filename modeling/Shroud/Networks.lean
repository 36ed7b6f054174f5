import Shroud.Packet

namespace Shroud.Cidr

/-!
# Networks and the addresses they hold

A network holds the addresses that share its leading bits.  The check of a
network usually looks at one address and a length; what it says about all
addresses of the network is settled here for networks of any width.
-/

variable
  {width : Nat}
  {net other range : Cidr width}
  {addr : BitVec width}

theorem contains_iff :
    net.contains addr = true ↔
      net.addr >>> (width - net.prefixLen) = addr >>> (width - net.prefixLen) := by
  rw [contains, beq_iff_eq]

theorem ushiftRight_eq_of_le
    {first second : BitVec width}
    {few many : Nat}
    (fewer : few ≤ many)
    (agree : first >>> few = second >>> few) :
    first >>> many = second >>> many := by
  obtain ⟨more, rfl⟩ := Nat.exists_eq_add_of_le fewer
  rw [BitVec.shiftRight_add, BitVec.shiftRight_add, agree]

theorem contains_of_within
    (within : range.contains net.addr = true)
    (longer : range.prefixLen ≤ net.prefixLen)
    (inside : net.contains addr = true) :
    range.contains addr = true := by
  rw [contains_iff] at within inside ⊢
  have fewer : width - net.prefixLen ≤ width - range.prefixLen := Nat.sub_le_sub_left longer width
  exact within.trans (ushiftRight_eq_of_le fewer inside)

/-- The networks agree as far as both of them say something. -/
def meets (net other : Cidr width) : Bool :=
  contains { net with prefixLen := min net.prefixLen other.prefixLen } other.addr

theorem meets_of_contains
    (first : net.contains addr = true)
    (second : other.contains addr = true) :
    net.meets other = true := by
  rw [contains_iff] at first second
  rw [meets, contains_iff]
  have left : width - net.prefixLen ≤ width - min net.prefixLen other.prefixLen :=
    Nat.sub_le_sub_left (Nat.min_le_left _ _) width
  have right : width - other.prefixLen ≤ width - min net.prefixLen other.prefixLen :=
    Nat.sub_le_sub_left (Nat.min_le_right _ _) width
  exact (ushiftRight_eq_of_le left first).trans (ushiftRight_eq_of_le right second).symm

def lastBit (net : Cidr width) : BitVec width :=
  BitVec.twoPow width (width - net.prefixLen)

def sibling (net : Cidr width) : Cidr width :=
  { net with addr := net.addr ^^^ net.lastBit }

theorem sibling_contains (inside : net.contains addr = true) :
    net.sibling.contains (addr ^^^ net.lastBit) = true := by
  rw [contains_iff] at inside ⊢
  rw [sibling, BitVec.ushiftRight_xor_distrib, BitVec.ushiftRight_xor_distrib, inside]

theorem contains_flip
    (shorter : net.prefixLen < range.prefixLen)
    (short : range.prefixLen ≤ width)
    (inside : net.contains addr = true) :
    net.contains (addr ^^^ range.lastBit) = true := by
  have vanishes : range.lastBit >>> (width - net.prefixLen) = BitVec.ofNat width 0 := by
    apply BitVec.eq_of_toNat_eq
    rw [lastBit, BitVec.toNat_ushiftRight, BitVec.toNat_twoPow,
      Nat.shiftRight_eq_div_pow, BitVec.toNat_ofNat, Nat.zero_mod]
    apply Nat.div_eq_of_lt
    calc 2 ^ (width - range.prefixLen) % 2 ^ width
        ≤ 2 ^ (width - range.prefixLen) := Nat.mod_le _ _
      _ < 2 ^ (width - net.prefixLen) := Nat.pow_lt_pow_right (by decide) (by omega)
  rw [contains_iff] at inside ⊢
  rw [BitVec.ushiftRight_xor_distrib, vanishes, BitVec.xor_zero, inside]

/-- Every address of the network is in one of the ranges. -/
def StaysWithin (ranges : List (Cidr width)) (net : Cidr width) : Prop :=
  ∀ addr, net.contains addr = true → ∃ range ∈ ranges, range.contains addr = true

/-- The network looks at all bits of a range that its address is in. -/
def FitsInto (ranges : List (Cidr width)) (net : Cidr width) : Prop :=
  ∃ range ∈ ranges, range.contains net.addr = true ∧ range.prefixLen ≤ net.prefixLen

instance (ranges : List (Cidr width)) (net : Cidr width) :
    Decidable (FitsInto ranges net) :=
  inferInstanceAs (Decidable (∃ range ∈ ranges, _ ∧ _))

/--
What differs from a range in its last bit is in none of the ranges.  Ranges
that no network of the least length exceeds need not be told apart.
-/
def Separated (least : Nat) (ranges : List (Cidr width)) : Prop :=
  ∀ range ∈ ranges, range.prefixLen ≤ width ∧
    (least < range.prefixLen → ∀ other ∈ ranges, range.sibling.meets other = false)

theorem FitsInto.staysWithin
    {ranges : List (Cidr width)}
    (fits : FitsInto ranges net) :
    StaysWithin ranges net := by
  obtain ⟨range, listed, within, longer⟩ := fits
  intro addr inside
  exact ⟨range, listed, contains_of_within within longer inside⟩

/--
With separated ranges a network around an address of theirs stays within them
exactly when it is no larger than the range of that address.
-/
theorem staysWithin_iff
    {least : Nat}
    {ranges : List (Cidr width)}
    (separated : Separated least ranges)
    (longEnough : least ≤ net.prefixLen)
    (listed : ∃ range ∈ ranges, range.contains net.addr = true) :
    StaysWithin ranges net ↔ FitsInto ranges net := by
  refine ⟨?_, FitsInto.staysWithin⟩
  intro stays
  obtain ⟨range, member, within⟩ := listed
  by_cases longer : range.prefixLen ≤ net.prefixLen
  · exact ⟨range, member, within, longer⟩
  · obtain ⟨short, apart⟩ := separated range member
    have own : net.contains net.addr = true := contains_iff.mpr rfl
    have flipped := contains_flip (Nat.lt_of_not_le longer) short own
    obtain ⟨other, otherMember, inOther⟩ := stays _ flipped
    have meet := meets_of_contains (sibling_contains within) inOther
    rw [apart (by omega) other otherMember] at meet
    exact absurd meet Bool.false_ne_true

/-- The address of the network has no bits behind its length. -/
def IsMasked (net : Cidr width) : Prop :=
  (net.addr >>> (width - net.prefixLen)) <<< (width - net.prefixLen) = net.addr

instance (net : Cidr width) : Decidable net.IsMasked :=
  inferInstanceAs (Decidable (_ = _))

theorem isMasked_of_le
    {few many : Nat}
    (fewer : few ≤ many)
    (masked : (addr >>> many) <<< many = addr) :
    (addr >>> few) <<< few = addr := by
  obtain ⟨more, rfl⟩ := Nat.exists_eq_add_of_le fewer
  rw [BitVec.shiftLeft_ushiftRight] at masked ⊢
  apply BitVec.eq_of_getElem_eq
  intro index inWidth
  have bit := congrArg (fun bits : BitVec width => bits.getLsbD index) masked
  simp only [BitVec.getLsbD_and, BitVec.getLsbD_shiftLeft] at bit
  simp only [← BitVec.getLsbD_eq_getElem, BitVec.getLsbD_and,
    BitVec.getLsbD_shiftLeft, BitVec.getLsbD_allOnes] at bit ⊢
  grind

theorem addr_eq_of_shorter
    (masked : net.IsMasked)
    (rangeMasked : range.IsMasked)
    (shorter : net.prefixLen ≤ range.prefixLen)
    (within : range.contains net.addr = true) :
    net.addr = range.addr := by
  have fewer : width - range.prefixLen ≤ width - net.prefixLen := Nat.sub_le_sub_left shorter width
  rw [contains_iff] at within
  rw [← isMasked_of_le fewer masked, ← within]
  exact rangeMasked

theorem isMasked_and
    (addr : BitVec width)
    (prefixLen : Nat) :
    IsMasked
      { addr := addr &&& (BitVec.allOnes width <<< (width - prefixLen))
        prefixLen := prefixLen } := by
  rw [IsMasked, BitVec.shiftLeft_ushiftRight]
  dsimp only
  rw [BitVec.and_assoc, BitVec.and_self]

theorem contains_and
    (addr : BitVec width)
    (prefixLen : Nat) :
    contains
      { addr := addr &&& (BitVec.allOnes width <<< (width - prefixLen))
        prefixLen := prefixLen }
      addr = true := by
  rw [contains_iff]
  ext index inWidth
  simp only [BitVec.getElem_ushiftRight, BitVec.getLsbD_and, BitVec.getLsbD_shiftLeft,
    BitVec.getLsbD_allOnes]
  by_cases inside : width - prefixLen + index < width
  · simp [inside]
    omega
  · simp [inside, BitVec.getLsbD_of_ge _ _ (Nat.le_of_not_lt inside)]

theorem isMasked_zero (prefixLen : Nat) :
    IsMasked { addr := BitVec.ofNat width 0, prefixLen := prefixLen } := by
  simp [IsMasked]

/--
The masked networks of at least a given length that are larger than a range
around them: each starts with a range and leaves it.
-/
structure WideNets
    (least : Nat)
    (ranges wide : List (Cidr width)) : Prop where
  separated : Separated least ranges
  masked : ∀ range ∈ ranges, range.IsMasked
  complete :
    ∀ range ∈ ranges, ∀ prefixLen < range.prefixLen,
      least ≤ prefixLen →
        IsMasked { addr := range.addr, prefixLen := prefixLen } →
          { addr := range.addr, prefixLen := prefixLen } ∈ wide
  leaves : ∀ net ∈ wide, ¬FitsInto ranges net

/-- A masked network stays within the ranges unless it is one of these. -/
theorem WideNets.staysWithin_iff
    {least : Nat}
    {ranges wide : List (Cidr width)}
    (wideNets : WideNets least ranges wide)
    (longEnough : least ≤ net.prefixLen)
    (listed : ∃ range ∈ ranges, range.contains net.addr = true)
    (masked : net.IsMasked) :
    StaysWithin ranges net ↔ net ∉ wide := by
  rw [Cidr.staysWithin_iff wideNets.separated longEnough listed]
  constructor
  · intro fits isWide
    exact wideNets.leaves net isWide fits
  · intro narrow
    obtain ⟨range, member, within⟩ := listed
    by_cases longer : range.prefixLen ≤ net.prefixLen
    · exact ⟨range, member, within, longer⟩
    · have start : net.addr = range.addr :=
        addr_eq_of_shorter masked (wideNets.masked range member) (Nat.le_of_not_le longer) within
      have same : net = { addr := range.addr, prefixLen := net.prefixLen } := by
        rw [← start]
      rw [same] at masked narrow
      exact absurd
        (wideNets.complete range member _ (Nat.lt_of_not_le longer) longEnough masked)
        narrow

end Shroud.Cidr
