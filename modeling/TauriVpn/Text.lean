import Mathlib.Data.List.TakeWhile
import Mathlib.Tactic

/-! The string operations of the source's standard library that the model uses,
with Unicode white space. -/

namespace TauriVpn

/-- The Unicode property `White_Space`. -/
def isWhitespace (c : Char) : Bool :=
  let n := c.toNat
  (9 ≤ n && n ≤ 13) || n == 0x20 || n == 0x85 || n == 0xA0 || n == 0x1680 ||
    (0x2000 ≤ n && n ≤ 0x200A) || n == 0x2028 || n == 0x2029 || n == 0x202F || n == 0x205F ||
    n == 0x3000

def trim (s : String) : String :=
  String.ofList (((s.toList.dropWhile isWhitespace).reverse.dropWhile isWhitespace).reverse)

def isBlank (s : String) : Bool := (trim s).isEmpty

def containsChar (s : String) (c : Char) : Bool := s.toList.contains c

def isAsciiDigit (c : Char) : Bool := '0' ≤ c && c ≤ '9'

def isAsciiHexdigit (c : Char) : Bool :=
  isAsciiDigit c || ('a' ≤ c && c ≤ 'f') || ('A' ≤ c && c ≤ 'F')

def digitsValue (digits : List Char) : ℕ :=
  digits.foldl (fun n c => 10 * n + (c.toNat - '0'.toNat)) 0

/-- `str::parse::<u16>`: decimal digits, after an optional plus sign. -/
def parseU16 (s : String) : Option UInt16 :=
  let digits := match s.toList with
    | '+' :: rest => rest
    | chars => chars
  if digits.isEmpty || !digits.all isAsciiDigit then
    none
  else if digitsValue digits < 65536 then
    some (UInt16.ofNat (digitsValue digits))
  else
    none

/-! ### Prefixes and parts -/

def startsWith (s p : String) : Bool := p.toList.isPrefixOf s.toList

def dropPrefixes (p : List Char) : ℕ → List Char → List Char
  | 0, chars => chars
  | n + 1, chars => if p.isPrefixOf chars then dropPrefixes p n (chars.drop p.length) else chars

/-- `str::trim_start_matches`, which drops a non-empty pattern as often as it stands
at the front. -/
def trimStartMatches (s p : String) : String :=
  String.ofList (dropPrefixes p.toList s.toList.length s.toList)

/-- The parts before and after the first `c`. -/
def splitOnce (s : String) (c : Char) : Option (String × String) :=
  if containsChar s c then
    some (String.ofList (s.toList.takeWhile (· ≠ c)), String.ofList ((s.toList.dropWhile (· ≠ c)).drop 1))
  else none

/-- `str::split` at a character. -/
def splitChar (s : String) (c : Char) : List String := (s.toList.splitOn c).map String.ofList

def replaceChar (s : String) (old new : Char) : String :=
  String.ofList (s.toList.map fun c => if c = old then new else c)

/-- `str::replace` of a character by a text. -/
def replaceText (s : String) (old : Char) (new : String) : String :=
  String.ofList (s.toList.flatMap fun c => if c = old then new.toList else [c])

theorem splitChar_intercalate {c : Char} {parts : List String} (hne : parts ≠ [])
    (h : ∀ s ∈ parts, c ∉ s.toList) :
    splitChar ((String.singleton c).intercalate parts) c = parts := by
  have hno : ∀ chars ∈ parts.map String.toList, c ∉ chars := by
    intro chars hchars
    obtain ⟨s, hs, rfl⟩ := List.mem_map.mp hchars
    exact h s hs
  rw [splitChar, String.toList_intercalate, String.toList_singleton,
    List.splitOn_intercalate _ hno (by simpa using hne), List.map_map]
  exact List.map_id'' (fun s => String.ofList_toList) _

/-- A text cut at the first `c` is put together again around it. -/
theorem splitOnce_eq_some_iff {s a b : String} {c : Char} :
    splitOnce s c = some (a, b) ↔ s = a ++ String.singleton c ++ b ∧ c ∉ a.toList := by
  constructor
  · intro h
    unfold splitOnce at h
    split_ifs at h with hmem
    obtain ⟨rfl, rfl⟩ := Prod.mk.inj (Option.some.inj h)
    have hfound : c ∈ s.toList := by simpa [containsChar] using hmem
    obtain ⟨front, rest, hs, hfront⟩ := List.eq_append_cons_of_mem hfound
    have hall : ∀ d ∈ front, decide (d ≠ c) = true := fun d hd => by
      simpa using fun heq : d = c => hfront (heq ▸ hd)
    have htake : s.toList.takeWhile (· ≠ c) = front := by
      rw [hs, List.takeWhile_append_of_pos hall]
      simp
    have hdrop : (s.toList.dropWhile (· ≠ c)).drop 1 = rest := by
      rw [hs, List.dropWhile_append_of_pos hall]
      simp
    rw [htake, hdrop]
    refine ⟨String.toList_injective ?_, by rwa [String.toList_ofList]⟩
    simp only [String.toList_append, String.toList_ofList, String.toList_singleton, List.append_assoc,
      List.singleton_append, hs]
  · rintro ⟨rfl, hno⟩
    have hchars : (a ++ String.singleton c ++ b).toList = a.toList ++ c :: b.toList := by
      simp only [String.toList_append, String.toList_singleton, List.append_assoc, List.singleton_append]
    have hall : ∀ d ∈ a.toList, decide (d ≠ c) = true := fun d hd => by
      simpa using fun heq : d = c => hno (heq ▸ hd)
    rw [splitOnce, containsChar, hchars, if_pos (by simp), List.takeWhile_append_of_pos hall,
      List.dropWhile_append_of_pos hall]
    simp

/-- Without the character there is nothing to cut. -/
theorem splitOnce_eq_none {s : String} {c : Char} (h : c ∉ s.toList) : splitOnce s c = none := by
  rw [splitOnce, containsChar, if_neg (by simpa using h)]

theorem dropPrefixes_of_not_prefix {p chars : List Char} (h : ¬p <+: chars) (n : ℕ) : dropPrefixes p n chars = chars := by
  cases n with
  | zero => rfl
  | succ n => rw [dropPrefixes, if_neg (by rwa [List.isPrefixOf_iff_prefix])]

/-- A prefix that stands once at the front is dropped. -/
theorem trimStartMatches_append {s p : String} (h : ¬p.toList <+: s.toList) : trimStartMatches (p ++ s) p = s := by
  have hne : p.toList ≠ [] := fun hnil => h (hnil ▸ List.nil_prefix)
  have hlength : (p ++ s).toList.length = (p.toList.length - 1 + s.toList.length) + 1 := by
    have hpos := List.length_pos_iff.mpr hne
    rw [String.toList_append, List.length_append]
    omega
  have hfront : (p.toList.isPrefixOf (p.toList ++ s.toList)) = true := by
    rw [List.isPrefixOf_iff_prefix]
    exact List.prefix_append _ _
  rw [trimStartMatches, hlength, dropPrefixes, String.toList_append, if_pos hfront, List.drop_left,
    dropPrefixes_of_not_prefix h, String.ofList_toList]

/-- A text of ASCII has one byte for each character. -/
theorem utf8ByteSize_of_ascii {chars : List Char} (h : ∀ c ∈ chars, c.toNat < 0x80) :
    (String.ofList chars).utf8ByteSize = chars.length := by
  induction chars with
  | nil => rfl
  | cons c rest ih =>
    obtain ⟨hc, hrest⟩ := List.forall_mem_cons.mp h
    have hsize : c.utf8Size = 1 := by
      rw [Char.utf8Size_eq_one_iff, UInt32.le_iff_toNat_le]
      exact Nat.le_of_lt_succ hc
    rw [String.ofList_cons, String.utf8ByteSize_append, String.utf8ByteSize_singleton, hsize, ih hrest, List.length_cons]
    omega

theorem toNat_of_isAsciiHexdigit {c : Char} (h : isAsciiHexdigit c = true) :
    (0x30 ≤ c.toNat ∧ c.toNat ≤ 0x39) ∨ (0x61 ≤ c.toNat ∧ c.toNat ≤ 0x66) ∨ (0x41 ≤ c.toNat ∧ c.toNat ≤ 0x46) := by
  simp only [isAsciiHexdigit, isAsciiDigit, Bool.or_eq_true, Bool.and_eq_true, decide_eq_true_eq, Char.le_def,
    UInt32.le_iff_toNat_le] at h
  obtain (hdigit | hlower) | hupper := h
  · exact .inl hdigit
  · exact .inr (.inl hlower)
  · exact .inr (.inr hupper)

theorem utf8ByteSize_of_isAsciiHexdigit {s : String} (h : ∀ c ∈ s.toList, isAsciiHexdigit c = true) :
    s.utf8ByteSize = s.toList.length := by
  have hascii : ∀ c ∈ s.toList, c.toNat < 0x80 := fun c hc => by
    have hrange := toNat_of_isAsciiHexdigit (h c hc)
    omega
  rw [← utf8ByteSize_of_ascii hascii, String.ofList_toList]

/-! ### White space -/

theorem isWhitespace_of_visible {c : Char} (hlow : 0x20 < c.toNat) (hhigh : c.toNat < 0x7F) :
    isWhitespace c = false := by
  simp only [isWhitespace, Bool.or_eq_false_iff, Bool.and_eq_false_iff, decide_eq_false_iff_not,
    beq_eq_false_iff_ne]
  omega

/-- A number is written in digits. -/
theorem isAsciiDigit_of_mem_repr {n : ℕ} {c : Char} (h : c ∈ (toString n).toList) : isAsciiDigit c = true := by
  have hdigit := Nat.isDigit_of_mem_toDigits (by decide) (by decide) (Nat.toList_repr ▸ h)
  simpa [Char.isDigit, isAsciiDigit, Char.le_def] using hdigit

/-- A port that is written out is read back. -/
theorem parseU16_toString (port : UInt16) : parseU16 (toString port.toNat) = some port := by
  have hchars : (toString port.toNat).toList = Nat.toDigits 10 port.toNat := Nat.toList_repr
  have hdigits : ∀ c ∈ Nat.toDigits 10 port.toNat, isAsciiDigit c = true := fun c hc =>
    isAsciiDigit_of_mem_repr (hchars ▸ hc)
  have hvalue : digitsValue (Nat.toDigits 10 port.toNat) = port.toNat := Nat.ofDigitChars_ten_toDigits
  have hlt : port.toNat < 65536 := port.toNat_lt
  unfold parseU16
  rw [hchars]
  obtain ⟨first, rest, hcons⟩ := List.exists_cons_of_ne_nil (Nat.toDigits_ne_nil (n := port.toNat) (b := 10))
  have hsign : first ≠ '+' := by
    rintro rfl
    exact absurd (hdigits '+' (hcons ▸ List.mem_cons_self)) (by decide)
  rw [hcons] at hvalue hdigits ⊢
  dsimp only
  split
  · -- no digit is a sign
    rename_i hplus
    exact absurd (List.cons.inj hplus).1 hsign
  · rw [if_neg (by simp [List.all_eq_true.mpr hdigits]), hvalue, if_pos hlt, UInt16.ofNat_toNat]

theorem isWhitespace_of_digit {c : Char} (h : isAsciiDigit c = true) : isWhitespace c = false := by
  simp only [isAsciiDigit, Bool.and_eq_true, decide_eq_true_eq, Char.le_def, UInt32.le_iff_toNat_le] at h
  exact isWhitespace_of_visible (lt_of_lt_of_le (by decide) h.1) (lt_of_le_of_lt h.2 (by decide))

theorem dropWhile_isWhitespace {chars : List Char} (h : ∀ c ∈ chars.head?, isWhitespace c = false) :
    chars.dropWhile isWhitespace = chars := by
  cases chars with
  | nil => rfl
  | cons c rest => rw [List.dropWhile_cons_of_neg (by simp [h c rfl])]

/-- A text with no white space at either end stays as it is. -/
theorem trim_eq_self {s : String} (hfirst : ∀ c ∈ s.toList.head?, isWhitespace c = false)
    (hlast : ∀ c ∈ s.toList.getLast?, isWhitespace c = false) : trim s = s := by
  have hrev : ∀ c ∈ s.toList.reverse.head?, isWhitespace c = false := by
    rw [List.head?_reverse]
    exact hlast
  rw [trim, dropWhile_isWhitespace hfirst, dropWhile_isWhitespace hrev, List.reverse_reverse,
    String.ofList_toList]

theorem isWhitespace_of_all {o : Option Char} (h : o.all (!isWhitespace ·) = true) : ∀ c ∈ o, isWhitespace c = false := by
  rintro c rfl
  simpa using h

theorem notMem_of_all {s : String} {chars : List Char} (h : s.toList.all (· ∉ chars) = true) :
    ∀ c ∈ s.toList, c ∉ chars := fun c hc => of_decide_eq_true (List.all_eq_true.mp h c hc)

/-- Two texts together stay as they are if the first starts and the second ends visibly. -/
theorem trim_append {p s : String} (hp : p ≠ "") (hfirst : ∀ c ∈ p.toList.head?, isWhitespace c = false) (hs : s ≠ "")
    (hlast : ∀ c ∈ s.toList.getLast?, isWhitespace c = false) : trim (p ++ s) = p ++ s := by
  have hpchars : p.toList ≠ [] := by simpa using hp
  have hschars : s.toList ≠ [] := by simpa using hs
  refine trim_eq_self (fun c hc => hfirst c ?_) fun c hc => hlast c ?_
  · rwa [String.toList_append, List.head?_append_of_ne_nil _ hpchars] at hc
  · rwa [String.toList_append, List.getLast?_append_of_ne_nil _ hschars] at hc

theorem prefix_append (p s : String) : p.toList <+: (p ++ s).toList := by
  rw [String.toList_append]
  exact List.prefix_append _ _

theorem startsWith_append (p s : String) : startsWith (p ++ s) p = true := by
  rw [startsWith, List.isPrefixOf_iff_prefix]
  exact prefix_append p s

theorem head?_dropWhile_isWhitespace {chars : List Char} {c : Char}
    (h : c ∈ (chars.dropWhile isWhitespace).head?) : isWhitespace c = false := by
  have hnot := List.head?_dropWhile_not isWhitespace chars
  rw [Option.mem_def.mp h] at hnot
  simpa using hnot

/-- Trimming keeps a piece from the front of the text, its leading white space dropped. -/
theorem trim_prefix_dropWhile (s : String) : (trim s).toList <+: s.toList.dropWhile isWhitespace := by
  rw [trim, String.toList_ofList, ← List.reverse_suffix, List.reverse_reverse]
  exact List.dropWhile_suffix isWhitespace

/-- A trimmed text has no white space left at its ends. -/
theorem trim_trim (s : String) : trim (trim s) = trim s := by
  apply trim_eq_self
  · intro c hc
    -- what is left starts as the text does once its front is dropped
    obtain ⟨rest, hrest⟩ := trim_prefix_dropWhile s
    have hhead : c ∈ (s.toList.dropWhile isWhitespace).head? := by
      rw [← hrest, List.head?_append, Option.mem_def.mp hc]
      rfl
    exact head?_dropWhile_isWhitespace hhead
  · intro c hc
    rw [trim, String.toList_ofList, List.getLast?_reverse] at hc
    exact head?_dropWhile_isWhitespace hc

section First
variable {s : String} (hfirst : ∀ c ∈ s.toList.head?, isWhitespace c = false)
include hfirst

theorem trim_begins : (trim s).toList <+: s.toList := by
  have hbegins := trim_prefix_dropWhile s
  rwa [dropWhile_isWhitespace hfirst] at hbegins

/-- A text that starts with something else than white space leaves something. -/
theorem trim_ne_empty (hne : s ≠ "") : trim s ≠ "" := by
  intro hempty
  have hchars := congrArg String.toList hempty
  rw [trim, String.toList_ofList, dropWhile_isWhitespace hfirst] at hchars
  have hall := List.dropWhile_eq_nil_iff.mp (List.reverse_eq_nil_iff.mp hchars)
  cases hs : s.toList with
  | nil => exact hne (String.toList_eq_nil_iff.mp hs)
  | cons c rest =>
    have hspace := hall c (by rw [List.mem_reverse, hs]; exact List.mem_cons_self)
    rw [hfirst c (by rw [hs]; rfl)] at hspace
    cases hspace

/-- A text has no other beginning than the one that it was given. -/
theorem startsWith_trim_eq_false {p q : String} (hq : q.toList <+: s.toList) (hpq : ¬p.toList <+: q.toList)
    (hqp : ¬q.toList <+: p.toList) : startsWith (trim s) p = false := by
  rw [← Bool.not_eq_true, startsWith, List.isPrefixOf_iff_prefix]
  intro hp
  exact (List.prefix_or_prefix_of_prefix (hp.trans (trim_begins hfirst)) hq).elim hpq hqp

end First

theorem isBlank_eq_false {s : String} (hne : s ≠ "") (h : ∀ c ∈ s.toList, isWhitespace c = false) :
    isBlank s = false := by
  have htrim : trim s = s := trim_eq_self (fun c hc => h c (List.mem_of_mem_head? hc))
    fun c hc => h c (List.mem_of_getLast? hc)
  rw [isBlank, htrim]
  simpa using hne

end TauriVpn
