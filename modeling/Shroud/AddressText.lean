import Shroud.Packet

namespace Shroud.AddressText

/-!
# Textual addresses

The standard library reads addresses with a small backtracking parser.  A
reader takes the remaining text and returns a value with what is left, or
fails without consuming anything.  An address parses when its reader consumes
the whole text.
-/

/-- A reader on the remaining characters. -/
abbrev Reader (α : Type) := List Char → Option (α × List Char)

def digitValue? (radix : Nat) (c : Char) : Option Nat :=
  let value? :=
    if '0' ≤ c ∧ c ≤ '9' then some (c.toNat - '0'.toNat)
    else if 'a' ≤ c ∧ c ≤ 'z' then some (c.toNat - 'a'.toNat + 10)
    else if 'A' ≤ c ∧ c ≤ 'Z' then some (c.toNat - 'A'.toNat + 10)
    else none
  value?.filter (· < radix)

def spanDigits (radix : Nat) : List Char → List Nat × List Char
  | [] => ([], [])
  | c :: text =>
    match digitValue? radix c with
    | some value =>
      let (digits, rest) := spanDigits radix text
      (value :: digits, rest)
    | none => ([], c :: text)

def ofDigits (radix : Nat) (digits : List Nat) : Nat :=
  digits.foldl (fun value digit => value * radix + digit) 0

/--
`read_number`: between one and `maxDigits` digits with a value below `bound`,
and, unless allowed, no leading zero in front of further digits.
-/
def readNumber
    (radix maxDigits bound : Nat)
    (allowZeroPrefix : Bool) :
    Reader Nat :=
  fun text =>
    let (digits, rest) := spanDigits radix text
    let value := ofDigits radix digits
    let leadingZero := text.head? = some '0'
    if digits.length = 0 ∨ maxDigits < digits.length then none
    else if ¬ allowZeroPrefix ∧ leadingZero ∧ 1 < digits.length then none
    else if value < bound then some (value, rest)
    else none

/-- `read_given_char`. -/
def readGivenChar (expected : Char) : Reader Unit
  | [] => none
  | c :: text => if c = expected then some ((), text) else none

/-- `read_separator`: a separator stands before every item but the first. -/
def readSeparator
    {α : Type}
    (separator : Char)
    (index : Nat)
    (inner : Reader α) :
    Reader α :=
  fun text =>
    if index = 0 then inner text
    else
      match readGivenChar separator text with
      | some ((), rest) => inner rest
      | none => none

def readOctets : (index remaining : Nat) → Reader (List Nat)
  | _, 0 => fun text => some ([], text)
  | index, remaining + 1 => fun text => do
      let (octet, rest) ←
        readSeparator '.' index (readNumber 10 3 256 false) text
      let (octets, rest) ← readOctets (index + 1) remaining rest
      pure (octet :: octets, rest)

/-- `read_ipv4_addr`. -/
def readIpv4Addr : Reader Ipv4Addr :=
  fun text => do
    let (octets, rest) ← readOctets 0 4 text
    pure (BitVec.ofNat 32 (ofDigits 256 octets), rest)

/--
`read_groups`: up to `remaining` groups of an IPv6 address.  An embedded IPv4
address ends the sequence and stands for two groups.  The result also says
whether such an address was read.
-/
def readGroups :
    (index remaining : Nat) → List Char → (List Nat × Bool) × List Char
  | _, 0, text => (([], false), text)
  | index, remaining + 1, text =>
    let embedded :=
      if 0 < remaining then readSeparator ':' index readIpv4Addr text
      else none
    match embedded with
    | some (addr, rest) =>
      (([addr.toNat / 65536, addr.toNat % 65536], true), rest)
    | none =>
      match readSeparator ':' index
          (readNumber 16 4 65536 true) text with
      | some (group, rest) =>
        let ((groups, ipv4), rest) := readGroups (index + 1) remaining rest
        ((group :: groups, ipv4), rest)
      | none => (([], false), text)

/-- `read_ipv6_addr`. -/
def readIpv6Addr : Reader Ipv6Addr :=
  fun text => do
    let ((head, headIpv4), rest) := readGroups 0 8 text
    if head.length = 8 then
      pure (BitVec.ofNat 128 (ofDigits 65536 head), rest)
    else if headIpv4 then
      none
    else
      let (_, rest) ← readGivenChar ':' rest
      let (_, rest) ← readGivenChar ':' rest
      let ((tail, _), rest) := readGroups 0 (8 - (head.length + 1)) rest
      let zeros := List.replicate (8 - head.length - tail.length) 0
      pure (BitVec.ofNat 128 (ofDigits 65536 (head ++ zeros ++ tail)), rest)

/-- Accept a reader's value only when it consumed everything. -/
def parseWith {α : Type} (reader : Reader α) (text : List Char) : Option α :=
  match reader text with
  | some (value, []) => some value
  | _ => none

/-- `str::parse::<Ipv4Addr>`. -/
def parseIpv4? (text : String) : Option Ipv4Addr :=
  if 15 < text.utf8ByteSize then none
  else parseWith readIpv4Addr text.toList

/-- `str::parse::<IpAddr>`. -/
def parseIp? (text : String) : Option IpAddr :=
  match readIpv4Addr text.toList with
  | some (addr, rest) => if rest = [] then some (.v4 addr) else none
  | none => (parseWith readIpv6Addr text.toList).map .v6

/-- `str::parse::<Ipv6Addr>`. -/
def parseIpv6? (text : String) : Option Ipv6Addr :=
  parseWith readIpv6Addr text.toList

/-- `str::parse::<u32>`: digits behind an optional plus sign. -/
def parseU32? (text : List Char) : Option Nat :=
  let written := if text.head? = some '+' then text.tail else text
  let (digits, rest) := spanDigits 10 written
  if digits = [] ∨ rest ≠ [] then none
  else if ofDigits 10 digits < 2 ^ 32 then some (ofDigits 10 digits)
  else none

theorem digitValue?_of_isDigit
    {c : Char}
    (digit : c.isDigit = true) :
    digitValue? 10 c = some (c.toNat - '0'.toNat) := by
  have range : '0' ≤ c ∧ c ≤ '9' := by
    rw [Char.isDigit, Bool.and_eq_true, decide_eq_true_eq, decide_eq_true_eq] at digit
    exact digit
  have small : c.toNat - '0'.toNat < 10 := by
    have top : c.toNat ≤ '9'.toNat := range.2
    have nine : '9'.toNat = 57 := rfl
    have zero : '0'.toNat = 48 := rfl
    omega
  rw [digitValue?, if_pos range]
  exact Option.filter_some_pos (decide_eq_true small)

variable {text rest : List Char} {digits : List Nat}

theorem spanDigits_of_digits (digits : ∀ c ∈ text, c.isDigit = true) :
    spanDigits 10 text = (text.map fun c => c.toNat - '0'.toNat, []) := by
  induction text with
  | nil => rfl
  | cons c text ih =>
    rw [spanDigits, digitValue?_of_isDigit (digits c List.mem_cons_self),
      ih fun other member =>
        digits other (List.mem_cons_of_mem c member)]
    rfl

theorem ofDigits_map (text : List Char) :
    ofDigits 10 (text.map fun c => c.toNat - '0'.toNat) =
      Nat.ofDigitChars 10 text 0 := by
  rw [ofDigits, List.foldl_map, Nat.ofDigitChars]
  simp only [Nat.mul_comm 10]

theorem parseU32?_toString
    {number : Nat}
    (small : number < 2 ^ 32) :
    parseU32? (toString number).toList = some number := by
  rw [Nat.toString_eq_repr, Nat.toList_repr]
  have digits (c : Char) (member : c ∈ Nat.toDigits 10 number) : c.isDigit = true :=
    Nat.isDigit_of_mem_toDigits (by decide) (by decide) member
  have nonempty : Nat.toDigits 10 number ≠ [] := by exact Nat.toDigits_ne_nil
  have unsigned : (Nat.toDigits 10 number).head? ≠ some '+' := by
    intro plus
    have isDigit := digits '+' (List.mem_of_mem_head? plus)
    exact absurd isDigit (by decide)
  rw [parseU32?, if_neg unsigned, spanDigits_of_digits digits]
  simp only [ofDigits_map, Nat.ofDigitChars_ten_toDigits, small, if_true]
  rw [if_neg]
  simp [nonempty]

def ipv4Text (addr : Ipv4Addr) : String :=
  let octet (shift : Nat) := toString ((addr >>> shift).toNat % 256)
  octet 24 ++ "." ++ octet 16 ++ "." ++ octet 8 ++ "." ++ octet 0

theorem spanDigits_append_dot
    (complete : spanDigits 10 text = (digits, []))
    (rest : List Char) :
    spanDigits 10 (text ++ '.' :: rest) = (digits, '.' :: rest) := by
  induction text generalizing digits with
  | nil =>
    have empty : digits = [] := by simpa [spanDigits] using complete.symm
    subst digits
    rfl
  | cons c text ih =>
    simp only [List.cons_append, spanDigits] at complete ⊢
    cases value : digitValue? 10 c with
    | none => simp [value] at complete
    | some digit =>
      simp only [value, Prod.mk.injEq] at complete ⊢
      obtain ⟨digitsShape, textDone⟩ := complete
      have tailDone : spanDigits 10 text = ((spanDigits 10 text).1, []) :=
        Prod.ext rfl textDone
      simp [ih tailDone, ← digitsShape]

/-- What the octet reader relies on in a printed octet. -/
def printsOctet (octet : Nat) : Bool :=
  let text := (toString octet).toList
  let run := spanDigits 10 text
  run.2 == [] && run.1.length != 0 && decide (run.1.length ≤ 3) &&
    (text.head? != some '0' || run.1.length == 1) &&
    ofDigits 10 run.1 == octet && text != [] &&
    decide ((toString octet).utf8ByteSize ≤ 3)

theorem printsOctet_of_lt :
    ∀ octet < 256, printsOctet octet = true := by
  decide +kernel

section

variable {octet : Nat} (small : octet < 256) (ends : rest = [] ∨ ∃ tail, rest = '.' :: tail)

include small ends

theorem readNumber_octet :
    readNumber 10 3 256 false ((toString octet).toList ++ rest) = some (octet, rest) := by
  have printed := printsOctet_of_lt octet small
  simp only [printsOctet, Bool.and_eq_true, beq_iff_eq, bne_iff_ne,
    Bool.or_eq_true, decide_eq_true_eq, ne_eq] at printed
  obtain ⟨⟨⟨⟨⟨⟨done, nonempty⟩, short⟩, zero⟩, value⟩, textNonempty⟩, -⟩ := printed
  generalize textShape : (toString octet).toList = text at *
  have run : spanDigits 10 (text ++ rest) = ((spanDigits 10 text).1, rest) := by
    rcases ends with rfl | ⟨tail, rfl⟩
    · rw [List.append_nil]
      exact Prod.ext rfl done
    · exact spanDigits_append_dot (Prod.ext rfl done) tail
  have sameHead : (text ++ rest).head? = text.head? := by
    cases text with
    | nil => exact (textNonempty rfl).elim
    | cons c text => rfl
  simp only [readNumber, run, sameHead, value, small, ↓reduceIte]
  rw [if_neg (by omega), if_neg]
  rintro ⟨-, leading, long⟩
  rcases zero with notZero | single
  · exact notZero leading
  · omega

theorem readSeparator_octet (index : Nat) :
    readSeparator '.' (index + 1) (readNumber 10 3 256 false)
        ('.' :: ((toString octet).toList ++ rest)) =
      some (octet, rest) := by
  rw [readSeparator, if_neg (Nat.succ_ne_zero index)]
  simp only [readGivenChar, ↓reduceIte]
  exact readNumber_octet small ends

end

theorem parseIpv4?_ipv4Text (addr : Ipv4Addr) :
    parseIpv4? (ipv4Text addr) = some addr := by
  have octetSmall (shift : Nat) : (addr >>> shift).toNat % 256 < 256 :=
    Nat.mod_lt _ (by decide)
  have octetBytes (shift : Nat) : (toString ((addr >>> shift).toNat % 256)).utf8ByteSize ≤ 3 := by
    have printed := printsOctet_of_lt _ (octetSmall shift)
    simp only [printsOctet, Bool.and_eq_true, decide_eq_true_eq] at printed
    exact printed.2
  have short : ¬ 15 < (ipv4Text addr).utf8ByteSize := by
    have b0 := octetBytes 0
    have b1 := octetBytes 8
    have b2 := octetBytes 16
    have b3 := octetBytes 24
    have dot : ".".utf8ByteSize = 1 := by decide
    simp only [ipv4Text, String.utf8ByteSize_append, dot]
    omega
  have octets :
      readOctets 0 4 (ipv4Text addr).toList =
        some ([(addr >>> 24).toNat % 256, (addr >>> 16).toNat % 256,
          (addr >>> 8).toNat % 256, (addr >>> 0).toNat % 256], []) := by
    have dot : ".".toList = ['.'] := by decide
    simp only [ipv4Text, String.toList_append, dot, List.append_assoc,
      List.cons_append, List.nil_append]
    rw [← List.append_nil (toString ((addr >>> 0).toNat % 256)).toList]
    simp only [readOctets, Option.bind_eq_bind, Nat.zero_add]
    rw [show readSeparator '.' 0 (readNumber 10 3 256 false) = readNumber 10 3 256 false by
      funext text
      simp [readSeparator]]
    rw [readNumber_octet (octetSmall 24) (Or.inr ⟨_, rfl⟩)]
    simp only [Option.bind_some]
    rw [readSeparator_octet (octetSmall 16) (Or.inr ⟨_, rfl⟩) 0]
    simp only [Option.bind_some]
    rw [readSeparator_octet (octetSmall 8) (Or.inr ⟨_, rfl⟩) 1]
    simp only [Option.bind_some]
    rw [readSeparator_octet (octetSmall 0) (Or.inl rfl) 2]
    rfl
  have value :
      BitVec.ofNat 32
          (ofDigits 256 [(addr >>> 24).toNat % 256,
            (addr >>> 16).toNat % 256, (addr >>> 8).toNat % 256,
            (addr >>> 0).toNat % 256]) =
        addr := by
    apply BitVec.eq_of_toNat_eq
    have bound := addr.isLt
    simp only [ofDigits, List.foldl_cons, List.foldl_nil,
      BitVec.toNat_ofNat, BitVec.toNat_ushiftRight, Nat.shiftRight_eq_div_pow]
    omega
  simp only [parseIpv4?, short, ↓reduceIte, parseWith, readIpv4Addr,
    octets, Option.bind_eq_bind, Option.bind_some, Option.pure_def, value]

/-- Nothing but one text gives a value and leaves a given rest. -/
def Determines {α : Type} (reader : Reader α) : Prop :=
  ∀ {first second : List Char} {value : α} {rest : List Char},
    reader first = some (value, rest) → reader second = some (value, rest) → first = second

theorem eq_digitChar
    {c : Char}
    {value : Nat}
    (read : digitValue? 10 c = some value) :
    value < 10 ∧ c = Nat.digitChar value := by
  obtain ⟨isValue, small⟩ := Option.filter_eq_some_iff.mp read
  have below : value < 10 := of_decide_eq_true small
  refine ⟨below, ?_⟩
  have printed : ∀ digit < 10, Nat.digitChar digit = Char.ofNat (digit + 48) := by decide
  split at isValue
  next digit =>
    have low : 48 ≤ c.toNat := digit.1
    have code : value + 48 = c.toNat := by
      rw [← Option.some.inj isValue]
      exact Nat.sub_add_cancel low
    rw [printed value below, code, Char.ofNat_toNat]
  next =>
    split at isValue
    · have large := Option.some.inj isValue
      omega
    · split at isValue
      · have large := Option.some.inj isValue
        omega
      · exact (Option.some_ne_none _ isValue.symm).elim

theorem eq_digits_append (run : spanDigits 10 text = (digits, rest)) :
    (∀ digit ∈ digits, digit < 10) ∧ text = digits.map Nat.digitChar ++ rest := by
  induction text generalizing digits with
  | nil =>
    obtain ⟨rfl, rfl⟩ := Prod.mk.inj run
    exact ⟨fun _ none => absurd none List.not_mem_nil, rfl⟩
  | cons c text ih =>
    rw [spanDigits] at run
    cases read : digitValue? 10 c with
    | none =>
      rw [read] at run
      obtain ⟨rfl, rfl⟩ := Prod.mk.inj run
      exact ⟨fun _ none => absurd none List.not_mem_nil, rfl⟩
    | some value =>
      rw [read] at run
      obtain ⟨rfl, isRest⟩ := Prod.mk.inj run
      obtain ⟨small, same⟩ := eq_digitChar read
      obtain ⟨others, later⟩ := ih (Prod.ext rfl isRest)
      exact ⟨List.forall_mem_cons.mpr ⟨small, others⟩, congrArg₂ List.cons same later⟩

/-- The digits of an octet: one to three, without a needless zero. -/
structure OctetDigits (digits : List Nat) : Prop where
  small : ∀ digit ∈ digits, digit < 10
  nonempty : digits.length ≠ 0
  short : digits.length ≤ 3
  leading : 1 < digits.length → digits.head? ≠ some 0

theorem readNumber_spec
    {value : Nat}
    (read : readNumber 10 3 256 false text = some (value, rest)) :
    value < 256 ∧
      ∃ digits,
        OctetDigits digits ∧ ofDigits 10 digits = value ∧
          text = digits.map Nat.digitChar ++ rest := by
  rw [readNumber] at read
  generalize run : spanDigits 10 text = split at read
  obtain ⟨digits, after⟩ := split
  obtain ⟨small, isText⟩ := eq_digits_append run
  dsimp only at read
  obtain ⟨fits, read⟩ := Option.ite_none_left_eq_some.mp read
  obtain ⟨plain, read⟩ := Option.ite_none_left_eq_some.mp read
  obtain ⟨below, read⟩ := Option.ite_none_right_eq_some.mp read
  obtain ⟨isValue, rfl⟩ := Prod.mk.inj (Option.some.inj read)
  rw [not_or, Nat.not_lt] at fits
  refine ⟨isValue ▸ below, digits, ⟨small, fits.1, fits.2, ?_⟩, isValue, isText⟩
  intro long zero
  refine plain ⟨Bool.false_ne_true, ?_, long⟩
  cases digits with
  | nil => exact (Option.some_ne_none _ zero.symm).elim
  | cons digit later =>
    rw [isText, Option.some.inj zero]
    rfl

theorem OctetDigits.cases (octet : OctetDigits digits) :
    (∃ a, digits = [a] ∧ a < 10) ∨
      (∃ a b, digits = [a, b] ∧ a < 10 ∧ b < 10 ∧ a ≠ 0) ∨
      ∃ a b c, digits = [a, b, c] ∧ a < 10 ∧ b < 10 ∧ c < 10 ∧ a ≠ 0 := by
  obtain ⟨small, nonempty, short, leading⟩ := octet
  have nonzero {a : Nat} {later : List Nat} (same : digits = a :: later) (long : later ≠ []) :
      a ≠ 0 := by
    rintro rfl
    rw [same] at leading
    refine leading ?_ rfl
    exact Nat.succ_lt_succ (List.length_pos_iff.mpr long)
  rcases digits with _ | ⟨a, _ | ⟨b, _ | ⟨c, _ | ⟨d, later⟩⟩⟩⟩
  · exact absurd rfl nonempty
  · exact .inl ⟨a, rfl, small a (by simp)⟩
  · exact .inr (.inl ⟨a, b, rfl, small a (by simp), small b (by simp), nonzero rfl (by simp)⟩)
  · exact .inr (.inr ⟨a, b, c, rfl, small a (by simp), small b (by simp), small c (by simp),
      nonzero rfl (by simp)⟩)
  · rw [List.length_cons, List.length_cons, List.length_cons, List.length_cons] at short
    omega

theorem OctetDigits.unique
    {others : List Nat}
    (octet : OctetDigits digits)
    (otherOctet : OctetDigits others)
    (same : ofDigits 10 digits = ofDigits 10 others) :
    digits = others := by
  rcases octet.cases with ⟨a, rfl, _⟩ | ⟨a, b, rfl, _, _, _⟩ | ⟨a, b, c, rfl, _, _, _, _⟩ <;>
    rcases otherOctet.cases with ⟨d, rfl, _⟩ | ⟨d, e, rfl, _, _, _⟩ | ⟨d, e, f, rfl, _, _, _, _⟩ <;>
    simp only [ofDigits, List.foldl_cons, List.foldl_nil] at same <;>
    simp only [List.cons.injEq, and_true, List.cons_ne_nil, List.nil_eq, and_false] <;>
    omega

theorem readNumber_determines :
    Determines (readNumber 10 3 256 false) := by
  intro first second value rest readFirst readSecond
  obtain ⟨-, digits, octet, isValue, rfl⟩ := readNumber_spec readFirst
  obtain ⟨-, others, otherOctet, alsoValue, rfl⟩ := readNumber_spec readSecond
  rw [octet.unique otherOctet (isValue.trans alsoValue.symm)]

theorem readSeparator_spec
    {α : Type}
    {reader : Reader α}
    {separator : Char}
    {index : Nat}
    {value : α}
    (read : readSeparator separator index reader text = some (value, rest)) :
    ∃ inner,
      reader inner = some (value, rest) ∧
        text = if index = 0 then inner else separator :: inner := by
  rw [readSeparator] at read
  by_cases isFirst : index = 0
  · rw [if_pos isFirst] at read
    exact ⟨text, read, (if_pos isFirst).symm⟩
  · rw [if_neg isFirst] at read
    cases text with
    | nil => exact (Option.some_ne_none _ read.symm).elim
    | cons c tail =>
      rw [readGivenChar] at read
      by_cases same : c = separator
      · rw [if_pos same] at read
        exact ⟨tail, read, by rw [if_neg isFirst, same]⟩
      · rw [if_neg same] at read
        exact (Option.some_ne_none _ read.symm).elim

theorem readSeparator_determines
    {α : Type}
    {reader : Reader α}
    (determines : Determines reader)
    (separator : Char)
    (index : Nat) :
    Determines (readSeparator separator index reader) := by
  intro first second value rest readFirst readSecond
  obtain ⟨inner, readInner, rfl⟩ := readSeparator_spec readFirst
  obtain ⟨other, readOther, rfl⟩ := readSeparator_spec readSecond
  rw [determines readInner readOther]

theorem readOctets_spec
    {remaining index : Nat}
    {octets : List Nat}
    (read : readOctets index remaining text = some (octets, rest)) :
    octets.length = remaining ∧ ∀ octet ∈ octets, octet < 256 := by
  induction remaining generalizing index text octets with
  | zero =>
    obtain ⟨rfl, -⟩ := Prod.mk.inj (Option.some.inj read)
    exact ⟨rfl, fun _ none => absurd none List.not_mem_nil⟩
  | succ remaining ih =>
    obtain ⟨⟨octet, between⟩, readOctet, read⟩ := Option.bind_eq_some_iff.mp read
    obtain ⟨⟨others, after⟩, readOthers, read⟩ := Option.bind_eq_some_iff.mp read
    obtain ⟨rfl, rfl⟩ := Prod.mk.inj (Option.some.inj read)
    obtain ⟨length, small⟩ := ih readOthers
    obtain ⟨_, readInner, -⟩ := readSeparator_spec readOctet
    exact ⟨congrArg Nat.succ length,
      List.forall_mem_cons.mpr ⟨(readNumber_spec readInner).1, small⟩⟩

theorem readOctets_determines (index remaining : Nat) :
    Determines (readOctets index remaining) := by
  induction remaining generalizing index with
  | zero =>
    intro first second value rest readFirst readSecond
    exact (Prod.mk.inj (Option.some.inj readFirst)).2.trans
      (Prod.mk.inj (Option.some.inj readSecond)).2.symm
  | succ remaining ih =>
    intro first second value rest readFirst readSecond
    obtain ⟨⟨octet, between⟩, firstOctet, readFirst⟩ := Option.bind_eq_some_iff.mp readFirst
    obtain ⟨⟨others, after⟩, firstOthers, readFirst⟩ := Option.bind_eq_some_iff.mp readFirst
    obtain ⟨rfl, rfl⟩ := Prod.mk.inj (Option.some.inj readFirst)
    obtain ⟨⟨octet', between'⟩, secondOctet, readSecond⟩ := Option.bind_eq_some_iff.mp readSecond
    obtain ⟨⟨others', after'⟩, secondOthers, readSecond⟩ := Option.bind_eq_some_iff.mp readSecond
    obtain ⟨same, rfl⟩ := Prod.mk.inj (Option.some.inj readSecond)
    obtain ⟨rfl, rfl⟩ := List.cons.inj same
    rw [ih (index + 1) firstOthers secondOthers] at firstOctet
    exact readSeparator_determines readNumber_determines '.' index firstOctet secondOctet

theorem octets_unique
    {octets others : List Nat}
    (four : octets.length = 4 ∧ ∀ octet ∈ octets, octet < 256)
    (otherFour : others.length = 4 ∧ ∀ octet ∈ others, octet < 256)
    (same : BitVec.ofNat 32 (ofDigits 256 octets) = BitVec.ofNat 32 (ofDigits 256 others)) :
    octets = others := by
  obtain ⟨a, b, c, d, rfl⟩ := List.length_eq_four.mp four.1
  obtain ⟨e, f, g, h, rfl⟩ := List.length_eq_four.mp otherFour.1
  have small := four.2
  have otherSmall := otherFour.2
  have values := congrArg BitVec.toNat same
  simp only [List.mem_cons, List.not_mem_nil, or_false, forall_eq_or_imp, forall_eq]
    at small otherSmall
  simp only [ofDigits, List.foldl_cons, List.foldl_nil, BitVec.toNat_ofNat] at values
  simp only [List.cons.injEq, and_true]
  omega

theorem readIpv4Addr_determines :
    Determines readIpv4Addr := by
  intro first second addr rest readFirst readSecond
  obtain ⟨⟨octets, after⟩, firstOctets, readFirst⟩ := Option.bind_eq_some_iff.mp readFirst
  obtain ⟨⟨others, after'⟩, secondOctets, readSecond⟩ := Option.bind_eq_some_iff.mp readSecond
  obtain ⟨isAddr, rfl⟩ := Prod.mk.inj (Option.some.inj readFirst)
  obtain ⟨alsoAddr, rfl⟩ := Prod.mk.inj (Option.some.inj readSecond)
  have same :=
    octets_unique (readOctets_spec firstOctets) (readOctets_spec secondOctets)
      (isAddr.trans alsoAddr.symm)
  rw [← same] at secondOctets
  exact readOctets_determines 0 4 firstOctets secondOctets

/-- An IPv4 address has one spelling. -/
theorem parseIp?_v4_unique
    {first second : String}
    {addr : Ipv4Addr}
    (isFirst : parseIp? first = some (.v4 addr))
    (isSecond : parseIp? second = some (.v4 addr)) :
    first = second := by
  have read {text : String} (parsed : parseIp? text = some (.v4 addr)) :
      readIpv4Addr text.toList = some (addr, []) := by
    rw [parseIp?] at parsed
    split at parsed
    next found rest read =>
      obtain ⟨rfl, same⟩ := Option.ite_none_right_eq_some.mp parsed
      rw [read, IpAddr.v4.inj (Option.some.inj same)]
    next =>
      obtain ⟨_, -, wrong⟩ := Option.map_eq_some_iff.mp parsed
      exact IpAddr.noConfusion wrong
  exact String.toList_inj.mp (readIpv4Addr_determines (read isFirst) (read isSecond))

end Shroud.AddressText
