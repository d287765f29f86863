import TauriVpn.Lib.BitPrefix
import TauriVpn.Lib.IpText

/-! Ranges of Internet addresses as text, `10.0.0.0/8` or one address. The addresses of both
families are strings of bits behind a bit for the family, so that a range of either is a
binary prefix and no address of one family lies in a range of the other. -/

namespace IpText

open NumberText BitPrefix

/-- The last `w` bits of a number, the highest first. -/
def bitsOf (w n : ℕ) : List Bool := (List.range w).map fun i => n.testBit (w - 1 - i)

@[simp] theorem length_bitsOf (w n : ℕ) : (bitsOf w n).length = w := by simp [bitsOf]

def Ipv4Addr.bits (address : Ipv4Addr) : List Bool := address.octets.flatMap fun octet => bitsOf 8 octet.toNat

def Ipv6Addr.bits (address : Ipv6Addr) : List Bool := address.segments.flatMap fun segment => bitsOf 16 segment.toNat

@[simp] theorem Ipv4Addr.length_bits (address : Ipv4Addr) : address.bits.length = 32 := by
  simp [Ipv4Addr.bits, List.length_flatMap, address.length_octets]

@[simp] theorem Ipv6Addr.length_bits (address : Ipv6Addr) : address.bits.length = 128 := by
  simp [Ipv6Addr.bits, List.length_flatMap, address.length_segments]

inductive IpAddr where
  | v4 (address : Ipv4Addr)
  | v6 (address : Ipv6Addr)
  deriving DecidableEq

namespace IpAddr

def isV6 : IpAddr → Bool
  | v4 _ => false
  | v6 _ => true

def bits : IpAddr → List Bool
  | v4 address => address.bits
  | v6 address => address.bits

/-- The bits of the address behind the bit of its family. -/
def key (a : IpAddr) : List Bool := a.isV6 :: a.bits

/-- The first `n` bits of the address stand for the addresses that begin with them. -/
def range (a : IpAddr) (n : ℕ) : List Bool := a.isV6 :: a.bits.take n

theorem le_length_key (a : IpAddr) : 33 ≤ a.key.length := by
  cases a with
  | v4 a => simp [key, bits]
  | v6 a => simp [key, bits]

/-- An address lies in ranges of its own family. -/
theorem isV6_of_range {a b : IpAddr} {n : ℕ} (h : a.range n <+: b.key) : a.isV6 = b.isV6 :=
  (List.cons_prefix_cons.mp h).1

/-- The range of no bits has all addresses of the family. -/
theorem range_zero {a b : IpAddr} : a.range 0 <+: b.key ↔ a.isV6 = b.isV6 := by
  rw [range, key, List.cons_prefix_cons, List.take_zero]
  exact and_iff_left List.nil_prefix

theorem covers_family {a : IpAddr} {family : Bool} : Covers [[family]] a.key ↔ a.isV6 = family := by
  rw [covers_cons, or_iff_left covers_nil, key, List.cons_prefix_cons]
  exact ⟨fun h => h.1.symm, fun h => ⟨h.symm, List.nil_prefix⟩⟩

/-- A mask of ones and zeros says what the number of its ones says. -/
theorem agreeUnder_iff {a b : Ipv4Addr} {n : ℕ} (hn : n ≤ 32) :
    AgreeUnder (mask n 32) a.bits b.bits ↔ (v4 a).range n <+: (v4 b).key := by
  rw [agreeUnder_mask hn b.length_bits a.length_bits, range, key, List.cons_prefix_cons]
  exact (and_iff_right rfl).symm

end IpAddr

/-! ### Text -/

def readAddress (chars : List Char) : Option IpAddr := ((readIpv4 chars).map .v4).or ((readIpv6 chars).map .v6)

theorem readIpv4_of_readAddress {chars : List Char} {a : Ipv4Addr} (h : readAddress chars = some (.v4 a)) :
    readIpv4 chars = some a := by
  unfold readAddress at h
  cases h4 : readIpv4 chars with
  | some a' =>
    rw [h4] at h
    cases h
    rfl
  | none =>
    rw [h4] at h
    obtain ⟨_, -, h6⟩ := Option.map_eq_some_iff.mp h
    cases h6

theorem readIpv6_of_readAddress {chars : List Char} {a : Ipv6Addr} (h : readAddress chars = some (.v6 a)) :
    readIpv6 chars = some a := by
  unfold readAddress at h
  cases h4 : readIpv4 chars with
  | some a' =>
    rw [h4] at h
    cases h
  | none =>
    rw [h4] at h
    obtain ⟨_, h6, hsame⟩ := Option.map_eq_some_iff.mp h
    cases hsame
    exact h6

def lengthFormat : Format where
  radix := 10
  maxDigits := some 3
  leadingZeros := false
  bound := 129

/-- What a range stands for; an address alone is a range of its own. -/
def readRange (chars : List Char) : Option (List Bool) :=
  match chars.splitOn '/' with
  | [address] => (readAddress address).map IpAddr.key
  | [address, length] => do
    let a ← readAddress address
    let n ← read lengthFormat length
    if n ≤ a.bits.length then some (a.range n) else none
  | _ => none

/-- The address lies in the range of the text; a text that is no range has none. -/
def inRange (text : String) (a : IpAddr) : Bool :=
  match readRange text.toList with
  | some prefixBits => decide (prefixBits <+: a.key)
  | none => false

theorem inRange_eq_true {text : String} {a : IpAddr} {prefixBits : List Bool}
    (h : readRange text.toList = some prefixBits) : inRange text a = true ↔ prefixBits <+: a.key := by
  rw [inRange, h]
  exact decide_eq_true_iff

/-- The family of a range. -/
def familyOf (text : String) : Option Bool := (readRange text.toList).bind List.head?

theorem exists_range {chars : List Char} {prefixBits : List Bool} (h : readRange chars = some prefixBits) :
    ∃ base n, prefixBits = IpAddr.range base n := by
  unfold readRange at h
  split at h
  · obtain ⟨base, -, rfl⟩ := Option.map_eq_some_iff.mp h
    exact ⟨base, base.bits.length, by rw [IpAddr.range, List.take_length, IpAddr.key]⟩
  · rename_i address length hpieces
    obtain ⟨base, -, hrest⟩ := Option.bind_eq_some_iff.mp h
    obtain ⟨n, -, hbits⟩ := Option.bind_eq_some_iff.mp hrest
    split_ifs at hbits
    exact ⟨base, n, (Option.some.inj hbits).symm⟩
  · cases h

/-- An address that lies in a range is of its family. -/
theorem familyOf_of_inRange {text : String} {a : IpAddr} (h : inRange text a = true) :
    familyOf text = some a.isV6 := by
  cases hread : readRange text.toList with
  | none => simp [inRange, hread] at h
  | some prefixBits =>
    obtain ⟨base, n, rfl⟩ := exists_range hread
    have hfamily := IpAddr.isV6_of_range ((inRange_eq_true hread).mp h)
    rw [familyOf, hread, Option.bind_some, IpAddr.range, List.head?_cons, hfamily]

end IpText
