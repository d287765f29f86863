import Mathlib.Data.List.TakeWhile
import Mathlib.Tactic

/-! The form-url-encoded format of the URL standard: names and values are
percent-encoded UTF-8, joined by `=` and `&`. Reading back what was written gives the
same pairs, whatever the texts are. How bytes that are no UTF-8 are decoded is a
parameter, since nothing that was written contains any. -/

namespace FormUrlencoded

/-! ### The bytes of a text -/

def utf8 (s : String) : List UInt8 := s.toList.flatMap String.utf8EncodeChar

def fromUtf8 (bytes : List UInt8) : Option String := String.fromUTF8? bytes.toByteArray

/-- The text of bytes that are ASCII. -/
def ofAscii (bytes : List UInt8) : String := String.ofList (bytes.map fun b => Char.ofNat b.toNat)

theorem fromUtf8_utf8 (s : String) : fromUtf8 (utf8 s) = some s := by
  have hbytes : (utf8 s).toByteArray = s.toByteArray := String.utf8Encode_toList
  rw [fromUtf8, hbytes, String.fromUTF8?, dif_pos s.isValidUTF8]
  rfl

/-- Bytes that are read as a text are its bytes. -/
theorem utf8_of_fromUtf8 {bytes : List UInt8} {s : String} (h : fromUtf8 bytes = some s) : utf8 s = bytes := by
  have hbytes : (utf8 s).toByteArray = s.toByteArray := String.utf8Encode_toList
  rw [fromUtf8, String.fromUTF8?] at h
  split_ifs at h with hvalid
  rw [← List.toByteArray_inj, hbytes, ← Option.some.inj h]
  rfl

theorem utf8EncodeChar_of_ascii {c : Char} (h : c.toNat < 0x80) :
    String.utf8EncodeChar c = [UInt8.ofNat c.toNat] := by
  have hle : c.val.toNat ≤ 0x7F := Nat.le_of_lt_succ h
  rw [String.utf8EncodeChar, if_pos hle]
  rfl

theorem le_of_mem_utf8EncodeChar {c : Char} (h : 0x80 ≤ c.toNat) {b : UInt8}
    (hb : b ∈ String.utf8EncodeChar c) : 0x80 ≤ b.toNat := by
  have hnot : ¬c.val.toNat ≤ 0x7F := Nat.not_le.mpr h
  have hlt : c.val.toNat < 0x110000 := by
    obtain hlow | ⟨-, hhigh⟩ := c.valid
    · exact hlow.trans (by decide)
    · exact hhigh
  rw [String.utf8EncodeChar] at hb
  simp only [hnot, if_false] at hb
  split_ifs at hb with h2 h3
  · simp only [List.mem_cons, List.not_mem_nil, or_false] at hb
    obtain rfl | rfl := hb <;> rw [UInt8.toNat_ofNat'] <;> omega
  · simp only [List.mem_cons, List.not_mem_nil, or_false] at hb
    obtain rfl | rfl | rfl := hb <;> rw [UInt8.toNat_ofNat'] <;> omega
  · simp only [List.mem_cons, List.not_mem_nil, or_false] at hb
    obtain rfl | rfl | rfl | rfl := hb <;> rw [UInt8.toNat_ofNat'] <;> omega

theorem utf8_ne_nil {s : String} (h : s ≠ "") : utf8 s ≠ [] := by
  intro hnil
  have hs := fromUtf8_utf8 s
  rw [hnil] at hs
  have hempty := fromUtf8_utf8 ""
  exact h (Option.some.inj (hs.symm.trans hempty))

theorem utf8_ofAscii {bytes : List UInt8} (h : ∀ b ∈ bytes, b.toNat < 0x80) :
    utf8 (ofAscii bytes) = bytes := by
  induction bytes with
  | nil => rfl
  | cons b rest ih =>
    have hb : b.toNat < 0x80 := h b List.mem_cons_self
    have hchar : (Char.ofNat b.toNat).toNat = b.toNat := by
      rw [Char.ofNat, dif_pos (Or.inl (by omega))]
      rfl
    have hrest := ih fun x hx => h x (List.mem_cons_of_mem _ hx)
    simp only [utf8, ofAscii, String.toList_ofList, List.map_cons, List.flatMap_cons] at hrest ⊢
    rw [hrest, utf8EncodeChar_of_ascii (by rw [hchar]; exact hb), hchar]
    simp

/-! ### Percent-encoding -/

def hexDigit (n : ℕ) : UInt8 := UInt8.ofNat (if n < 10 then 0x30 + n else 0x37 + n)

def hexValue (b : UInt8) : Option ℕ :=
  let n := b.toNat
  if 0x30 ≤ n ∧ n ≤ 0x39 then some (n - 0x30)
  else if 0x41 ≤ n ∧ n ≤ 0x46 then some (n - 0x37)
  else if 0x61 ≤ n ∧ n ≤ 0x66 then some (n - 0x57)
  else none

/-- `%` and the two digits of a byte. -/
def percentTriple (b : UInt8) : List UInt8 := [0x25, hexDigit (b.toNat / 16), hexDigit (b.toNat % 16)]

def percentEncode (keep : UInt8 → Bool) (bytes : List UInt8) : List UInt8 :=
  bytes.flatMap fun b => if keep b then [b] else percentTriple b

/-- The byte that three bytes stand for, if they are `%` and two digits. -/
def decodeTriple (b high low : UInt8) : Option UInt8 :=
  if b = 0x25 then
    match hexValue high, hexValue low with
    | some h, some l => some (UInt8.ofNat (16 * h + l))
    | _, _ => none
  else none

/-- A `%` that no two digits follow stands for itself. -/
def percentDecode : List UInt8 → List UInt8
  | b :: high :: low :: rest =>
    match decodeTriple b high low with
    | some x => x :: percentDecode rest
    | none => b :: percentDecode (high :: low :: rest)
  | bytes => bytes

theorem hexValue_hexDigit : ∀ n < 16, hexValue (hexDigit n) = some n := by decide

theorem percentDecode_cons_of_ne {b : UInt8} (h : b ≠ 0x25) (rest : List UInt8) :
    percentDecode (b :: rest) = b :: percentDecode rest := by
  match rest with
  | [] => rfl
  | [_] => rfl
  | high :: low :: rest => rw [percentDecode, decodeTriple, if_neg h]

theorem percentDecode_triple (b : UInt8) (rest : List UInt8) :
    percentDecode (percentTriple b ++ rest) = b :: percentDecode rest := by
  have hlt : b.toNat < 256 := b.toNat_lt
  have hhigh := hexValue_hexDigit (b.toNat / 16) (by omega)
  have hlow := hexValue_hexDigit (b.toNat % 16) (by omega)
  have hbyte : 16 * (b.toNat / 16) + b.toNat % 16 = b.toNat := Nat.div_add_mod b.toNat 16
  have htriple : decodeTriple 0x25 (hexDigit (b.toNat / 16)) (hexDigit (b.toNat % 16)) = some b := by
    simp only [decodeTriple, if_true, hhigh, hlow, hbyte, UInt8.ofNat_toNat]
  simp only [percentTriple, List.cons_append, List.nil_append]
  rw [percentDecode, htriple]

/-- Decoding undoes an encoding that keeps no `%`. -/
theorem percentDecode_percentEncode {keep : UInt8 → Bool} {bytes : List UInt8}
    (h : ∀ b ∈ bytes, keep b = true → b ≠ 0x25) : percentDecode (percentEncode keep bytes) = bytes := by
  induction bytes with
  | nil => rfl
  | cons b rest ih =>
    have hrest := ih fun x hx => h x (List.mem_cons_of_mem _ hx)
    rw [percentEncode, List.flatMap_cons]
    change percentDecode (_ ++ percentEncode keep rest) = _
    by_cases hkeep : keep b = true
    · rw [if_pos hkeep, List.singleton_append,
        percentDecode_cons_of_ne (h b List.mem_cons_self hkeep), hrest]
    · rw [if_neg hkeep, percentDecode_triple, hrest]

theorem mem_percentEncode {keep : UInt8 → Bool} {bytes : List UInt8} {x : UInt8}
    (h : x ∈ percentEncode keep bytes) :
    (x ∈ bytes ∧ keep x = true) ∨ x = 0x25 ∨ ∃ n < 16, x = hexDigit n := by
  obtain ⟨b, hb, hx⟩ := List.mem_flatMap.mp h
  have hlt : b.toNat < 256 := b.toNat_lt
  split_ifs at hx with hkeep
  · rw [List.mem_singleton.mp hx]
    exact .inl ⟨hb, hkeep⟩
  · simp only [percentTriple, List.mem_cons, List.not_mem_nil, or_false] at hx
    obtain rfl | rfl | rfl := hx
    · exact .inr (.inl rfl)
    · exact .inr (.inr ⟨b.toNat / 16, by omega, rfl⟩)
    · exact .inr (.inr ⟨b.toNat % 16, by omega, rfl⟩)

/-! ### One component -/

/-- The bytes that the format writes as they are. -/
def isKept (b : UInt8) : Bool :=
  let n := b.toNat
  (0x30 ≤ n && n ≤ 0x39) || (0x41 ≤ n && n ≤ 0x5A) || (0x61 ≤ n && n ≤ 0x7A) ||
    n == 0x2A || n == 0x2D || n == 0x2E || n == 0x5F

/-- A space is written as `+`. -/
def encodeByte (b : UInt8) : List UInt8 :=
  if b = 0x20 then [0x2B] else if isKept b then [b] else percentTriple b

def encodeComponent (bytes : List UInt8) : List UInt8 := bytes.flatMap encodeByte

def plusToSpace (bytes : List UInt8) : List UInt8 := bytes.map fun b => if b = 0x2B then 0x20 else b

def decodeComponent (bytes : List UInt8) : List UInt8 := percentDecode (plusToSpace bytes)

/-- Bytes that are kept are written as they are. -/
theorem encodeComponent_of_kept {bytes : List UInt8} (h : ∀ b ∈ bytes, isKept b = true) : encodeComponent bytes = bytes := by
  induction bytes with
  | nil => rfl
  | cons b rest ih =>
    obtain ⟨hb, hrest⟩ := List.forall_mem_cons.mp h
    have hspace : b ≠ 0x20 := by
      rintro rfl
      exact absurd hb (by decide)
    have hbyte : encodeByte b = [b] := by rw [encodeByte, if_neg hspace, if_pos hb]
    have htail : rest.flatMap encodeByte = rest := ih hrest
    rw [encodeComponent, List.flatMap_cons, hbyte, htail]
    rfl

/-- What occurs in an encoded component: no separator and nothing outside ASCII. -/
def isSafe (b : UInt8) : Bool := isKept b || b == 0x2B || b == 0x25

theorem isKept_hexDigit : ∀ n < 16, isKept (hexDigit n) = true := by decide

theorem isSafe_of_mem_encodeByte {b x : UInt8} (h : x ∈ encodeByte b) : isSafe x = true := by
  have hlt : b.toNat < 256 := b.toNat_lt
  unfold encodeByte at h
  split_ifs at h with hspace hkept
  · rw [List.mem_singleton.mp h]
    decide
  · rw [List.mem_singleton.mp h]
    simp [isSafe, hkept]
  · simp only [percentTriple, List.mem_cons, List.not_mem_nil, or_false] at h
    obtain rfl | rfl | rfl := h
    · decide
    · simp [isSafe, isKept_hexDigit (b.toNat / 16) (by omega)]
    · simp [isSafe, isKept_hexDigit (b.toNat % 16) (by omega)]

theorem isSafe_of_mem_encodeComponent {bytes : List UInt8} {x : UInt8}
    (h : x ∈ encodeComponent bytes) : isSafe x = true := by
  obtain ⟨b, -, hx⟩ := List.mem_flatMap.mp h
  exact isSafe_of_mem_encodeByte hx

theorem toNat_lt_of_isSafe {b : UInt8} (h : isSafe b = true) : b.toNat < 0x80 := by
  simp only [isSafe, isKept, Bool.or_eq_true, Bool.and_eq_true, decide_eq_true_eq, beq_iff_eq] at h
  obtain (h | rfl) | rfl := h
  · omega
  · decide
  · decide

theorem ne_separator_of_isSafe {b : UInt8} (h : isSafe b = true) : b ≠ 0x26 ∧ b ≠ 0x3D := by
  constructor
  · rintro rfl
    exact absurd h (by decide)
  · rintro rfl
    exact absurd h (by decide)

theorem plusToSpace_encodeByte (b : UInt8) :
    plusToSpace (encodeByte b) = if isKept b || b == 0x20 then [b] else percentTriple b := by
  have hlt : b.toNat < 256 := b.toNat_lt
  have hplus : ∀ n < 16, hexDigit n ≠ 0x2B := by decide
  by_cases hspace : b = 0x20
  · rw [hspace]
    rfl
  · by_cases hkept : isKept b = true
    · have hne : b ≠ 0x2B := by
        rintro rfl
        exact absurd hkept (by decide)
      simp [encodeByte, plusToSpace, hspace, hkept, hne]
    · simp [encodeByte, plusToSpace, percentTriple, hspace, hkept, hplus (b.toNat / 16) (by omega),
        hplus (b.toNat % 16) (by omega)]

/-- Before the percent-decoding, a component is percent-encoded with spaces kept. -/
theorem plusToSpace_encodeComponent (bytes : List UInt8) :
    plusToSpace (encodeComponent bytes) = percentEncode (fun b => isKept b || b == 0x20) bytes := by
  induction bytes with
  | nil => rfl
  | cons b rest ih =>
    rw [percentEncode, List.flatMap_cons, ← plusToSpace_encodeByte, encodeComponent, List.flatMap_cons, plusToSpace,
      List.map_append]
    exact congrArg _ ih

theorem decodeComponent_encodeComponent (bytes : List UInt8) :
    decodeComponent (encodeComponent bytes) = bytes := by
  rw [decodeComponent, plusToSpace_encodeComponent]
  refine percentDecode_percentEncode fun b _ hkeep => ?_
  rintro rfl
  exact absurd hkeep (by decide)

/-! ### The pairs -/

/-- The part before the first `=`, and what follows it. -/
def splitPair (bytes : List UInt8) : List UInt8 × List UInt8 :=
  (bytes.takeWhile (· ≠ 0x3D), (bytes.dropWhile (· ≠ 0x3D)).drop 1)

section Parse
variable (decode : List UInt8 → String)

def parsePair (bytes : List UInt8) : String × String :=
  (decode (decodeComponent (splitPair bytes).1), decode (decodeComponent (splitPair bytes).2))

/-- The parser of the format; sequences without a byte are dropped. -/
def parse (input : List UInt8) : List (String × String) :=
  ((input.splitOn 0x26).filter (· ≠ [])).map (parsePair decode)

end Parse

def encodePair (pair : String × String) : List UInt8 :=
  encodeComponent (utf8 pair.1) ++ 0x3D :: encodeComponent (utf8 pair.2)

def serializeBytes (pairs : List (String × String)) : List UInt8 :=
  [0x26].intercalate (pairs.map encodePair)

/-- The serializer of the format. -/
def serialize (pairs : List (String × String)) : String := ofAscii (serializeBytes pairs)

theorem splitPair_encodePair (pair : String × String) : splitPair (encodePair pair) =
    (encodeComponent (utf8 pair.1), encodeComponent (utf8 pair.2)) := by
  have hname : ∀ b ∈ encodeComponent (utf8 pair.1), decide (b ≠ 0x3D) = true := fun b hb => by
    simpa using (ne_separator_of_isSafe (isSafe_of_mem_encodeComponent hb)).2
  simp only [splitPair, encodePair]
  rw [List.takeWhile_append_of_pos hname, List.dropWhile_append_of_pos hname]
  simp

theorem mem_encodePair {pair : String × String} {b : UInt8} (h : b ∈ encodePair pair) :
    b.toNat < 0x80 ∧ b ≠ 0x26 := by
  have hcomponent : ∀ {bytes : List UInt8}, b ∈ encodeComponent bytes → b.toNat < 0x80 ∧ b ≠ 0x26 :=
    fun hb => ⟨toNat_lt_of_isSafe (isSafe_of_mem_encodeComponent hb),
      (ne_separator_of_isSafe (isSafe_of_mem_encodeComponent hb)).1⟩
  obtain hname | hrest := List.mem_append.mp h
  · exact hcomponent hname
  · obtain rfl | hvalue := List.mem_cons.mp hrest
    · decide
    · exact hcomponent hvalue

theorem mem_serializeBytes {pairs : List (String × String)} {b : UInt8} (h : b ∈ serializeBytes pairs) :
    b.toNat < 0x80 := by
  unfold serializeBytes at h
  induction pairs with
  | nil => simp at h
  | cons pair rest ih =>
    cases rest with
    | nil =>
      simp only [List.map_cons, List.map_nil, List.intercalate_singleton] at h
      exact (mem_encodePair h).1
    | cons next rest =>
      simp only [List.map_cons, List.intercalate_cons_cons, List.mem_append, List.mem_singleton] at h ih
      obtain (hpair | rfl) | hrest := h
      · exact (mem_encodePair hpair).1
      · decide
      · exact ih hrest

/-- Reading back what was written gives the same pairs. -/
theorem parse_serialize {decode : List UInt8 → String} (hdecode : ∀ s, decode (utf8 s) = s)
    (pairs : List (String × String)) : parse decode (utf8 (serialize pairs)) = pairs := by
  rw [serialize, utf8_ofAscii fun b hb => mem_serializeBytes hb, serializeBytes, parse]
  cases pairs with
  | nil => simp
  | cons pair rest =>
    have hno : ∀ bytes ∈ (pair :: rest).map encodePair, (0x26 : UInt8) ∉ bytes := by
      intro bytes hbytes hmem
      obtain ⟨p, -, rfl⟩ := List.mem_map.mp hbytes
      exact (mem_encodePair hmem).2 rfl
    have hne : ∀ bytes ∈ (pair :: rest).map encodePair, decide (bytes ≠ []) = true := by
      intro bytes hbytes
      obtain ⟨p, -, rfl⟩ := List.mem_map.mp hbytes
      simp [encodePair]
    rw [List.splitOn_intercalate _ hno (by simp), List.filter_eq_self.mpr hne, List.map_map]
    refine List.map_id'' (fun p => ?_) _
    simp [parsePair, splitPair_encodePair, decodeComponent_encodeComponent, hdecode]

theorem serialize_injective {pairs pairs' : List (String × String)} (h : serialize pairs = serialize pairs') :
    pairs = pairs' := by
  obtain ⟨decode, hdecode⟩ : ∃ decode : List UInt8 → String, ∀ s, decode (utf8 s) = s :=
    ⟨fun bytes => (fromUtf8 bytes).getD "", fun s => by simp only [fromUtf8_utf8, Option.getD_some]⟩
  rw [← parse_serialize hdecode pairs, h, parse_serialize hdecode]

/-- A text without separators or `+` is one name, percent-decoded. -/
theorem parse_of_no_separator (decode : List UInt8 → String) {bytes : List UInt8} (hne : bytes ≠ [])
    (h : ∀ b ∈ bytes, b ≠ 0x26 ∧ b ≠ 0x3D ∧ b ≠ 0x2B) :
    parse decode bytes = [(decode (percentDecode bytes), decode [])] := by
  have hsplit : bytes.splitOn 0x26 = [bytes] :=
    List.splitOn_eq_singleton fun hmem => (h _ hmem).1 rfl
  have hpair : splitPair bytes = (bytes, []) := by
    have hall : ∀ b ∈ bytes, decide (b ≠ 0x3D) = true := fun b hb => by simpa using (h b hb).2.1
    simp only [splitPair]
    rw [List.takeWhile_eq_self_iff.2 hall, List.dropWhile_eq_nil_iff.2 hall]
    rfl
  have hplus : plusToSpace bytes = bytes := by
    refine (List.map_congr_left fun b hb => ?_).trans (List.map_id _)
    rw [if_neg (h b hb).2.2]
    rfl
  rw [parse, hsplit, List.filter_eq_self.mpr (by simpa using hne)]
  simp only [List.map_cons, List.map_nil, parsePair, hpair, decodeComponent, hplus]
  rfl

end FormUrlencoded
