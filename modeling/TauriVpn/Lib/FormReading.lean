import TauriVpn.Lib.Userinfo

/-! A form parser in place of a percent-decoder. The parser splits a text at `&` and at
the first `=`, takes `+` for a space, and only then reads the percent signs; the first
pair, name and value run together, is the percent-decoded text just when there was
nothing to split and no plus sign. -/

namespace FormUrlencoded

open Userinfo

/-! ### Decoding around a byte that is no digit -/

/-- A byte that is neither `%` nor a digit is read by itself. -/
theorem percentDecode_append_cons {c : UInt8} (hc : c ≠ 0x25) (hdigit : hexValue c = none) (before after : List UInt8) :
    percentDecode (before ++ c :: after) = percentDecode before ++ c :: percentDecode after := by
  have hnone : ∀ x y, decodeTriple x c y = none ∧ decodeTriple x y c = none := by
    intro x y
    unfold decodeTriple
    rw [hdigit]
    constructor
    · split_ifs <;> rfl
    · split_ifs
      · cases hexValue y <;> rfl
      · rfl
  fun_induction percentDecode before with
  | case1 b high low rest x htriple ih =>
    simp only [List.cons_append]
    rw [percentDecode, htriple, ih]
  | case2 b high low rest htriple ih =>
    simp only [List.cons_append] at ih ⊢
    rw [percentDecode, htriple, ih]
  | case3 bytes hshort =>
    cases bytes with
    | nil => exact percentDecode_cons_of_ne hc after
    | cons x rest =>
      cases rest with
      | nil =>
        simp only [List.cons_append, List.nil_append]
        cases after with
        | nil => rfl
        | cons y rest => rw [percentDecode, (hnone x y).1, percentDecode_cons_of_ne hc]
      | cons y rest =>
        cases rest with
        | nil =>
          simp only [List.cons_append, List.nil_append]
          have hrest : percentDecode (y :: c :: after) = y :: c :: percentDecode after := by
            cases after with
            | nil => rfl
            | cons z rest => rw [percentDecode, (hnone y z).1, percentDecode_cons_of_ne hc]
          rw [percentDecode, (hnone x y).2, hrest]
        | cons z rest => exact absurd rfl (hshort x y z rest)

theorem percentDecode_replicate {bytes : List UInt8} (h : ∀ b ∈ bytes, b = 0x26) (after : List UInt8) :
    percentDecode (bytes ++ after) = bytes ++ percentDecode after := by
  induction bytes with
  | nil => rfl
  | cons b rest ih =>
    obtain ⟨rfl, hrest⟩ := List.forall_mem_cons.mp h
    rw [List.cons_append, percentDecode_cons_of_ne (by decide), ih hrest]
    rfl

/-! ### Bytes that are a text -/

def IsText (bytes : List UInt8) : Prop := ∃ s, bytes = utf8 s

theorem isText_utf8 (s : String) : IsText (utf8 s) := ⟨s, rfl⟩

theorem IsText.append {a b : List UInt8} (ha : IsText a) (hb : IsText b) : IsText (a ++ b) := by
  obtain ⟨s, rfl⟩ := ha
  obtain ⟨t, rfl⟩ := hb
  exact ⟨s ++ t, (utf8_append s t).symm⟩

theorem flatMap_split (chars : List Char) {before after : List UInt8} {c : UInt8} (hc : c.toNat < 0x80)
    (h : chars.flatMap String.utf8EncodeChar = before ++ c :: after) :
    IsText before ∧ IsText after := by
  have htext : ∀ chars : List Char, IsText (chars.flatMap String.utf8EncodeChar) := fun chars =>
    ⟨String.ofList chars, by rw [utf8, String.toList_ofList]⟩
  induction chars generalizing before with
  | nil => exact absurd h (by simp)
  | cons d rest ih =>
    rw [List.flatMap_cons] at h
    have hd : IsText (String.utf8EncodeChar d) := by simpa using htext [d]
    rcases List.append_eq_append_iff.mp h with ⟨more, rfl, hrest⟩ | ⟨more, hencoded, hrest⟩
    · exact ⟨hd.append (ih hrest).1, (ih hrest).2⟩
    · cases more with
      | nil =>
        rw [List.append_nil] at hencoded
        have hbefore : IsText ([] : List UInt8) ∧ IsText after := ih hrest.symm
        exact ⟨hencoded ▸ hd, hbefore.2⟩
      | cons x more =>
        -- the byte is the whole encoding of the character
        obtain ⟨rfl, hafter⟩ := List.cons.inj hrest
        have hascii : d.toNat < 0x80 := by
          by_contra hnot
          have hhigh : 0x80 ≤ c.toNat := le_of_mem_utf8EncodeChar (Nat.le_of_not_lt hnot) (by rw [hencoded]; simp)
          omega
        rw [utf8EncodeChar_of_ascii hascii] at hencoded
        have hlength := congrArg List.length hencoded
        simp only [List.length_append, List.length_cons, List.length_nil] at hlength
        have hbefore : before = [] := List.eq_nil_of_length_eq_zero (by omega)
        have hmore : more = [] := List.eq_nil_of_length_eq_zero (by omega)
        rw [hbefore, hafter, hmore]
        exact ⟨htext [], htext rest⟩

/-- A text splits into texts at every byte of ASCII. -/
theorem IsText.split {before after : List UInt8} {c : UInt8} (h : IsText (before ++ c :: after)) (hc : c.toNat < 0x80) :
    IsText before ∧ IsText after := by
  obtain ⟨s, hs⟩ := h
  exact flatMap_split s.toList hc hs.symm

/-! ### Plus signs -/

theorem plusToSpace_of_notMem {bytes : List UInt8} (h : (0x2B : UInt8) ∉ bytes) : plusToSpace bytes = bytes := by
  refine (List.map_congr_left fun b hb => ?_).trans (List.map_id _)
  rw [if_neg fun heq : b = 0x2B => h (heq ▸ hb)]
  rfl

theorem plusToSpace_append_cons {before : List UInt8} (h : (0x2B : UInt8) ∉ before) (after : List UInt8) :
    plusToSpace (before ++ 0x2B :: after) = before ++ 0x20 :: plusToSpace after := by
  have hbefore := plusToSpace_of_notMem h
  rw [plusToSpace] at hbefore
  rw [plusToSpace, List.map_append, List.map_cons, hbefore]
  rfl

/-- Plus signs taken for spaces leave a text a text, of the same length. The induction is on
the length, from one plus sign to the next. -/
theorem isText_plusToSpace (bytes : List UInt8) (h : IsText (percentDecode bytes)) :
    IsText (percentDecode (plusToSpace bytes)) ∧
      (percentDecode (plusToSpace bytes)).length = (percentDecode bytes).length := by
  induction hlength : bytes.length using Nat.strong_induction_on generalizing bytes with
  | _ n ih =>
    by_cases hplus : (0x2B : UInt8) ∈ bytes
    · obtain ⟨before, after, rfl, hbefore⟩ := List.eq_append_cons_of_mem hplus
      rw [percentDecode_append_cons (by decide) (by decide)] at h
      rw [plusToSpace_append_cons hbefore, percentDecode_append_cons (by decide) (by decide),
        percentDecode_append_cons (by decide) (by decide)]
      obtain ⟨hfirst, hrest⟩ := h.split (by decide)
      obtain ⟨htext, hsame⟩ := ih after.length (by rw [← hlength]; simp; omega) after hrest rfl
      refine ⟨hfirst.append ((isText_utf8 " ").append htext), ?_⟩
      simp only [List.length_append, List.length_cons, hsame]
    · rw [plusToSpace_of_notMem hplus]
      exact ⟨h, rfl⟩

/-- A plus sign is seen in what is decoded. -/
theorem percentDecode_plusToSpace_eq_iff (bytes : List UInt8) :
    percentDecode (plusToSpace bytes) = percentDecode bytes ↔ (0x2B : UInt8) ∉ bytes := by
  constructor
  · intro heq hplus
    obtain ⟨before, after, rfl, hbefore⟩ := List.eq_append_cons_of_mem hplus
    rw [plusToSpace_append_cons hbefore, percentDecode_append_cons (by decide) (by decide),
      percentDecode_append_cons (by decide) (by decide)] at heq
    have hcons := List.append_cancel_left heq
    exact absurd (List.cons.inj hcons).1 (by decide)
  · intro hplus
    rw [plusToSpace_of_notMem hplus]

/-! ### The first pair -/

/-- The first sequence between `&`s that has a byte, or nothing. -/
def firstSequence (bytes : List UInt8) : List UInt8 := (bytes.dropWhile (· = 0x26)).takeWhile (· ≠ 0x26)

theorem exists_firstSequence (bytes : List UInt8) : ∃ front rest, bytes = front ++ (firstSequence bytes ++ rest) ∧
    (∀ b ∈ front, b = 0x26) ∧ (rest = [] ∨ ∃ more, rest = 0x26 :: more) := by
  refine ⟨bytes.takeWhile (· = 0x26), (bytes.dropWhile (· = 0x26)).dropWhile (· ≠ 0x26), ?_, fun b hb => ?_, ?_⟩
  · rw [firstSequence, List.takeWhile_append_dropWhile, List.takeWhile_append_dropWhile]
  · simpa using List.mem_takeWhile_imp hb
  · cases hrest : (bytes.dropWhile (· = 0x26)).dropWhile (· ≠ 0x26) with
    | nil => exact .inl rfl
    | cons c more =>
      have hnot := List.head?_dropWhile_not (fun b : UInt8 => decide (b ≠ 0x26)) (bytes.dropWhile (· = 0x26))
      rw [hrest] at hnot
      have hc : c = 0x26 := by simpa using hnot
      exact .inr ⟨more, by rw [hc]⟩

theorem notMem_firstSequence (bytes : List UInt8) : (0x26 : UInt8) ∉ firstSequence bytes := fun h => by
  simpa using List.mem_takeWhile_imp h

theorem firstSequence_eq_nil_iff {bytes : List UInt8} : firstSequence bytes = [] ↔ ∀ b ∈ bytes, b = 0x26 := by
  constructor
  · intro hnil
    cases hdrop : bytes.dropWhile (· = 0x26) with
    | nil => simpa using List.dropWhile_eq_nil_iff.mp hdrop
    | cons c more =>
      have hnot := List.head?_dropWhile_not (fun b : UInt8 => decide (b = 0x26)) bytes
      rw [hdrop] at hnot
      rw [firstSequence, hdrop, List.takeWhile_cons_of_pos (by simpa using hnot)] at hnil
      cases hnil
  · intro hall
    have hdrop : bytes.dropWhile (· = 0x26) = [] := List.dropWhile_eq_nil_iff.mpr (by simpa using hall)
    rw [firstSequence, hdrop]
    rfl

theorem firstSequence_of_notMem {bytes : List UInt8} (h : (0x26 : UInt8) ∉ bytes) : firstSequence bytes = bytes := by
  have hdrop : bytes.dropWhile (· = 0x26) = bytes := by
    cases bytes with
    | nil => rfl
    | cons b rest => exact List.dropWhile_cons_of_neg (by simpa using fun heq : b = 0x26 => h (heq ▸ List.mem_cons_self))
  have hall : ∀ b ∈ bytes, decide (b ≠ 0x26) = true := fun b hb => by
    simpa using fun heq : b = 0x26 => h (heq ▸ hb)
  rw [firstSequence, hdrop, List.takeWhile_eq_self_iff.mpr hall]

theorem IsText.of_separators {front rest : List UInt8} (h : IsText (front ++ rest)) (hfront : ∀ b ∈ front, b = 0x26) :
    IsText rest := by
  induction front with
  | nil => exact h
  | cons b front ih =>
    obtain ⟨rfl, hseparators⟩ := List.forall_mem_cons.mp hfront
    have hsplit : IsText ([] ++ 0x26 :: (front ++ rest)) := h
    exact ih (hsplit.split (by decide)).2 hseparators

/-- The first sequence of a text is a text, and anything around it adds to the length. -/
theorem isText_firstSequence {bytes : List UInt8} (h : IsText (percentDecode bytes)) :
    IsText (percentDecode (firstSequence bytes)) ∧
      (bytes = firstSequence bytes ∨
        (percentDecode (firstSequence bytes)).length < (percentDecode bytes).length) := by
  obtain ⟨front, rest, hbytes, hfront, hrest⟩ := exists_firstSequence bytes
  have hdecoded : percentDecode bytes = front ++ percentDecode (firstSequence bytes ++ rest) := by
    rw [← percentDecode_replicate hfront, ← hbytes]
  rw [hdecoded] at h
  have htail : IsText (percentDecode (firstSequence bytes ++ rest)) := h.of_separators hfront
  rcases hrest with hrest | ⟨more, hrest⟩
  · rw [hrest, List.append_nil] at htail hdecoded hbytes
    refine ⟨htail, ?_⟩
    cases front with
    | nil => exact .inl hbytes
    | cons b front =>
      right
      rw [hdecoded, List.length_append, List.length_cons]
      omega
  · rw [hrest, percentDecode_append_cons (by decide) (by decide)] at htail hdecoded
    refine ⟨(htail.split (by decide)).1, .inr ?_⟩
    rw [hdecoded, List.length_append, List.length_append, List.length_cons]
    omega

section Parse
variable (decode : List UInt8 → String)

theorem parse_separators {front : List UInt8} (h : ∀ b ∈ front, b = 0x26) (rest : List UInt8) :
    parse decode (front ++ rest) = parse decode rest := by
  induction front with
  | nil => rfl
  | cons b front ih =>
    obtain ⟨rfl, hfront⟩ := List.forall_mem_cons.mp h
    have hsplit : ([] ++ (0x26 : UInt8) :: (front ++ rest)).splitOn 0x26 = [] :: (front ++ rest).splitOn 0x26 :=
      List.splitOn_append_cons_self_of_not_mem List.not_mem_nil _
    have hdrop : parse decode (0x26 :: (front ++ rest)) = parse decode (front ++ rest) := by
      rw [List.nil_append] at hsplit
      rw [parse, hsplit, List.filter_cons_of_neg (by simp)]
      rfl
    rw [List.cons_append, hdrop, ih hfront]

theorem head?_parse_sequence {sequence rest : List UInt8} (hne : sequence ≠ []) (hno : (0x26 : UInt8) ∉ sequence)
    (hrest : rest = [] ∨ ∃ more, rest = 0x26 :: more) :
    (parse decode (sequence ++ rest)).head? = some (parsePair decode sequence) := by
  rcases hrest with rfl | ⟨more, rfl⟩
  · rw [List.append_nil, parse, List.splitOn_eq_singleton hno, List.filter_cons_of_pos (by simpa using hne)]
    rfl
  · rw [parse, List.splitOn_append_cons_self_of_not_mem hno, List.filter_cons_of_pos (by simpa using hne)]
    rfl

/-- The first pair is the one of the first sequence. -/
theorem head?_parse (bytes : List UInt8) : (parse decode bytes).head? =
    if firstSequence bytes = [] then none else some (parsePair decode (firstSequence bytes)) := by
  split_ifs with hnil
  · have hparse := parse_separators decode (firstSequence_eq_nil_iff.mp hnil) []
    rw [List.append_nil] at hparse
    rw [hparse]
    rfl
  · obtain ⟨front, rest, hbytes, hfront, hrest⟩ := exists_firstSequence bytes
    have hparse := parse_separators decode hfront (firstSequence bytes ++ rest)
    rw [← hbytes] at hparse
    rw [hparse]
    exact head?_parse_sequence decode hnil (notMem_firstSequence bytes) hrest

/-- What the first pair says, name and value run together; without a pair, the text. -/
def firstText (s : String) : String :=
  match parse decode (utf8 s) with
  | pair :: _ => pair.1 ++ pair.2
  | [] => s

theorem firstText_eq (s : String) : firstText decode s =
    if firstSequence (utf8 s) = [] then s
    else (parsePair decode (firstSequence (utf8 s))).1 ++ (parsePair decode (firstSequence (utf8 s))).2 := by
  have hhead := head?_parse decode (utf8 s)
  unfold firstText
  cases hparse : parse decode (utf8 s) with
  | nil =>
    rw [hparse] at hhead
    split_ifs at hhead ⊢ with hnil
    · rfl
    · cases hhead
  | cons pair rest =>
    rw [hparse] at hhead
    split_ifs at hhead ⊢ with hnil
    · cases hhead
    · rw [List.head?_cons, Option.some.injEq] at hhead
      rw [hhead]

end Parse

/-! ### Exactly when it is the percent-decoded text -/

section Reads
variable {decode : List UInt8 → String} (hdecode : ∀ s, decode (utf8 s) = s)
include hdecode

/-- A name and a value that are texts are read as they are. -/
theorem utf8_decodeComponent {bytes : List UInt8} (h : IsText (percentDecode bytes)) :
    utf8 (decode (decodeComponent bytes)) = percentDecode (plusToSpace bytes) := by
  obtain ⟨⟨s, hs⟩, -⟩ := isText_plusToSpace bytes h
  rw [decodeComponent, hs, hdecode]

/-- Without a `=` the sequence is a name, and its value is empty. -/
theorem pair_of_notMem {sequence : List UInt8} (h : (0x3D : UInt8) ∉ sequence) :
    (parsePair decode sequence).1 ++ (parsePair decode sequence).2 = decode (decodeComponent sequence) := by
  have hall : ∀ b ∈ sequence, decide (b ≠ 0x3D) = true := fun b hb => by
    simpa using fun heq : b = 0x3D => h (heq ▸ hb)
  have hsplit : splitPair sequence = (sequence, []) := by
    rw [splitPair, List.takeWhile_eq_self_iff.mpr hall, List.dropWhile_eq_nil_iff.mpr hall]
    rfl
  have hempty : decode (decodeComponent []) = "" := hdecode ""
  rw [parsePair, hsplit]
  dsimp only
  rw [hempty, String.append_empty]

/-- The pair of a sequence has one byte less than the sequence says if there is a `=`. -/
theorem length_pair {sequence : List UInt8} (h : IsText (percentDecode sequence)) :
    (utf8 ((parsePair decode sequence).1 ++ (parsePair decode sequence).2)).length +
      (if (0x3D : UInt8) ∈ sequence then 1 else 0) = (percentDecode sequence).length := by
  by_cases hequals : (0x3D : UInt8) ∈ sequence
  · rw [utf8_append, List.length_append, if_pos hequals]
    obtain ⟨name, value, rfl, hname⟩ := List.eq_append_cons_of_mem hequals
    have hall : ∀ b ∈ name, decide (b ≠ 0x3D) = true := fun b hb => by
      simpa using fun heq : b = 0x3D => hname (heq ▸ hb)
    have hsplit : splitPair (name ++ 0x3D :: value) = (name, value) := by
      rw [splitPair, List.takeWhile_append_of_pos hall, List.dropWhile_append_of_pos hall]
      simp
    rw [percentDecode_append_cons (by decide) (by decide)] at h ⊢
    obtain ⟨hfirst, hsecond⟩ := h.split (by decide)
    rw [parsePair, hsplit, utf8_decodeComponent hdecode hfirst, utf8_decodeComponent hdecode hsecond,
      (isText_plusToSpace name hfirst).2, (isText_plusToSpace value hsecond).2, List.length_append, List.length_cons]
    omega
  · rw [if_neg hequals, pair_of_notMem hdecode hequals, utf8_decodeComponent hdecode h, (isText_plusToSpace sequence h).2,
      Nat.add_zero]

/-- Reading the first pair is percent-decoding just when there is no separator and no plus
sign, or nothing but `&`. -/
theorem firstText_eq_iff {s x : String} (hx : percentDecode (utf8 s) = utf8 x) : firstText decode s = x ↔
    ((0x26 : UInt8) ∉ utf8 s ∧ (0x3D : UInt8) ∉ utf8 s ∧ (0x2B : UInt8) ∉ utf8 s) ∨ ∀ b ∈ utf8 s, b = 0x26 := by
  have htext : IsText (percentDecode (utf8 s)) := ⟨x, hx⟩
  rw [firstText_eq]
  split_ifs with hnil
  · have hall := firstSequence_eq_nil_iff.mp hnil
    have hself := percentDecode_replicate hall []
    rw [List.append_nil, hx] at hself
    refine iff_of_true (utf8_injective ?_) (.inr hall)
    simpa [percentDecode] using hself.symm
  · rw [or_iff_left fun hall => hnil (firstSequence_eq_nil_iff.mpr hall)]
    obtain ⟨hfirst, haround⟩ := isText_firstSequence htext
    constructor
    · intro heq
      have hlength := length_pair hdecode hfirst
      rw [heq, ← hx] at hlength
      have hbytes : utf8 s = firstSequence (utf8 s) := haround.resolve_right (by split_ifs at hlength <;> omega)
      rw [← hbytes] at hlength heq
      have hequals : (0x3D : UInt8) ∉ utf8 s := fun hmem => by
        rw [if_pos hmem] at hlength
        omega
      rw [pair_of_notMem hdecode hequals] at heq
      have hplus := utf8_decodeComponent hdecode htext
      rw [heq, ← hx] at hplus
      refine ⟨?_, hequals, (percentDecode_plusToSpace_eq_iff _).mp hplus.symm⟩
      rw [hbytes]
      exact notMem_firstSequence _
    · rintro ⟨hand, hequals, hplus⟩
      rw [firstSequence_of_notMem hand, pair_of_notMem hdecode hequals, decodeComponent, plusToSpace_of_notMem hplus, hx,
        hdecode]

end Reads

end FormUrlencoded
