import TauriVpn.Lib.NumberText

/-! Internet addresses as text. An IPv4 address is four numbers without leading zeros;
an IPv6 address is eight groups, where `::` stands for zeros and the last two groups may
be an IPv4 address. An address is printed with its longest run of zeros left out, and
what is printed is read back. -/

namespace IpText

open NumberText

structure Ipv4Addr where
  octets : List UInt8
  length_octets : octets.length = 4
  deriving DecidableEq

structure Ipv6Addr where
  segments : List UInt16
  length_segments : segments.length = 8
  deriving DecidableEq

def octetFormat : Format where
  radix := 10
  maxDigits := some 3
  leadingZeros := false
  bound := 256

def groupFormat : Format where
  radix := 16
  maxDigits := some 4
  leadingZeros := true
  bound := 65536

def readOctet (chars : List Char) : Option UInt8 := (read octetFormat chars).map UInt8.ofNat

def readGroup (chars : List Char) : Option UInt16 := (read groupFormat chars).map UInt16.ofNat

def ofOctets (octets : List UInt8) : Option Ipv4Addr :=
  if h : octets.length = 4 then some ⟨octets, h⟩ else none

def ofSegments (segments : List UInt16) : Option Ipv6Addr :=
  if h : segments.length = 8 then some ⟨segments, h⟩ else none

/-- `Ipv4Addr::from_str`. -/
def readIpv4 (chars : List Char) : Option Ipv4Addr := ((chars.splitOn '.').mapM readOctet).bind ofOctets

/-- The two groups that an IPv4 address takes. -/
def Ipv4Addr.groups (address : Ipv4Addr) : List UInt16 :=
  match address.octets with
  | [a, b, c, d] => [UInt16.ofNat (a.toNat * 256 + b.toNat), UInt16.ofNat (c.toNat * 256 + d.toNat)]
  | _ => []

/-- The text before and after the first `::`. -/
def splitGap : List Char → Option (List Char × List Char)
  | [] => none
  | ':' :: ':' :: rest => some ([], rest)
  | c :: rest => (splitGap rest).map fun parts => (c :: parts.1, parts.2)

def readGroups (chars : List Char) : Option (List UInt16) :=
  if chars = [] then some [] else (chars.splitOn ':').mapM readGroup

/-- Groups of which the last may be written as an IPv4 address. -/
def readLastGroups (chars : List Char) : Option (List UInt16) :=
  if chars = [] then some []
  else
    let pieces := chars.splitOn ':'
    match readIpv4 (pieces.getLastD []) with
    | some address => (pieces.dropLast.mapM readGroup).map (· ++ address.groups)
    | none => pieces.mapM readGroup

/-- `Ipv6Addr::from_str`; the `::` stands for one group at least. -/
def readIpv6 (chars : List Char) : Option Ipv6Addr :=
  match splitGap chars with
  | none => (readLastGroups chars).bind ofSegments
  | some (front, back) => do
    let head ← readGroups front
    let tail ← readLastGroups back
    if head.length + tail.length < 8 then
      ofSegments (head ++ List.replicate (8 - (head.length + tail.length)) 0 ++ tail)
    else none

/-! ### Printed IPv4 addresses -/

def octetText (octet : UInt8) : List Char := Nat.toDigits 10 octet.toNat

/-- `Ipv4Addr`'s `Display`. -/
def Ipv4Addr.text (address : Ipv4Addr) : List Char := ['.'].intercalate (address.octets.map octetText)

/-- Pieces that are read one by one are read together. -/
theorem mapM_map_of_read {α : Type} {text : α → List Char} {read : List Char → Option α}
    (h : ∀ a, read (text a) = some a) (items : List α) : (items.map text).mapM read = some items := by
  induction items with
  | nil => rfl
  | cons a items ih => simp [List.mapM_cons, h a, ih]

/-- One piece that is not read fails them all. -/
theorem mapM_eq_none {α β : Type} {read : α → Option β} {pieces : List α} {piece : α} (hmem : piece ∈ pieces)
    (h : read piece = none) : pieces.mapM read = none := by
  induction pieces with
  | nil => cases hmem
  | cons first pieces ih =>
    rcases List.mem_cons.mp hmem with rfl | hrest
    · simp [List.mapM_cons, h]
    · cases hfirst : read first <;> simp [List.mapM_cons, hfirst, ih hrest]

theorem readOctet_octetText (octet : UInt8) : readOctet (octetText octet) = some octet := by
  have hlt : octet.toNat < 256 := octet.toNat_lt
  have hread : read octetFormat (octetText octet) = some octet.toNat := by
    refine read_toDigits octetFormat (by decide) (by decide) hlt fun m hm => ?_
    cases hm
    exact ⟨by decide, hlt.trans (by decide)⟩
  rw [readOctet, hread, Option.map_some, UInt8.ofNat_toNat]

/-- The digits are none of the characters that stand between numbers. -/
theorem notMem_octetText {c : Char} (hc : isDigit 10 c = false) (octet : UInt8) : c ∉ octetText octet := by
  intro hmem
  rw [isDigit_of_mem_toDigits (by decide) (by decide) c hmem] at hc
  cases hc

theorem mem_intercalate {α : Type} {c sep : α} {pieces : List (List α)} (h : c ∈ [sep].intercalate pieces) :
    c = sep ∨ ∃ piece ∈ pieces, c ∈ piece := by
  induction pieces with
  | nil => simp at h
  | cons piece pieces ih =>
    cases pieces with
    | nil => exact Or.inr ⟨piece, List.mem_singleton_self _, by simpa using h⟩
    | cons next pieces =>
      rw [List.intercalate_cons_cons, List.append_assoc, List.mem_append, List.mem_append, List.mem_singleton] at h
      rcases h with hpiece | hsep | hrest
      · exact Or.inr ⟨piece, List.mem_cons_self, hpiece⟩
      · exact Or.inl hsep
      · exact (ih hrest).imp_right fun ⟨other, hother, hc⟩ => ⟨other, List.mem_cons_of_mem _ hother, hc⟩

theorem notMem_text {c : Char} (hc : isDigit 10 c = false) (hdot : c ≠ '.') (address : Ipv4Addr) : c ∉ address.text := by
  intro hmem
  obtain ⟨piece, hpiece, hin⟩ := (mem_intercalate hmem).resolve_left hdot
  obtain ⟨octet, -, rfl⟩ := List.mem_map.mp hpiece
  exact notMem_octetText hc octet hin

/-- An address that is printed is read back. -/
theorem readIpv4_text (address : Ipv4Addr) : readIpv4 address.text = some address := by
  have hpieces : address.text.splitOn '.' = address.octets.map octetText := by
    refine List.splitOn_intercalate '.' (fun piece hpiece => ?_) fun hnil => ?_
    · obtain ⟨octet, -, rfl⟩ := List.mem_map.mp hpiece
      exact notMem_octetText (by decide) octet
    · have hlength := address.length_octets
      rw [List.map_eq_nil_iff.mp hnil] at hlength
      cases hlength
  rw [readIpv4, hpieces, mapM_map_of_read readOctet_octetText, Option.bind_some, ofOctets,
    dif_pos address.length_octets]

/-- A text without dots is no IPv4 address. -/
theorem readIpv4_eq_none {chars : List Char} (h : '.' ∉ chars) : readIpv4 chars = none := by
  rw [readIpv4, List.splitOn_eq_singleton h]
  cases hoctet : readOctet chars <;> simp [hoctet, ofOctets]

/-- Nor is one that has other characters than digits and dots. -/
theorem readIpv4_eq_none_of_mem {c : Char} (hc : isDigit 10 c = false) (hdot : c ≠ '.') {chars : List Char}
    (h : c ∈ chars) : readIpv4 chars = none := by
  have hparts : ['.'].intercalate (chars.splitOn '.') = chars := List.intercalate_splitOn '.'
  rw [← hparts] at h
  obtain ⟨piece, hpiece, hin⟩ := (mem_intercalate h).resolve_left hdot
  have hnone : readOctet piece = none := by
    by_contra hsome
    obtain ⟨octet, hoctet⟩ := Option.ne_none_iff_exists'.mp hsome
    obtain ⟨n, hn, -⟩ := Option.map_eq_some_iff.mp hoctet
    rw [show isDigit 10 c = true from isDigit_of_read hn c hin] at hc
    cases hc
  rw [readIpv4, mapM_eq_none hpiece hnone, Option.bind_none]

/-! ### Printed IPv6 addresses -/

/-- A run of groups that are zero. -/
structure Span where
  start : ℕ := 0
  len : ℕ := 0

/-- The longest run so far, and the run that ends here. -/
def zeroStep (spans : Span × Span) (item : UInt16 × ℕ) : Span × Span :=
  if item.1 = 0 then
    let current := { start := if spans.2.len = 0 then item.2 else spans.2.start, len := spans.2.len + 1 : Span }
    (if spans.1.len < current.len then current else spans.1, current)
  else (spans.1, {})

def zeroSpans (segments : List UInt16) : Span × Span := segments.zipIdx.foldl zeroStep ({}, {})

/-- `to_ipv4_mapped`. -/
def Ipv6Addr.toIpv4Mapped (address : Ipv6Addr) : Option Ipv4Addr :=
  match address.segments with
  | [0, 0, 0, 0, 0, 0xffff, high, low] =>
    ofOctets ([high, low].flatMap fun segment => [UInt8.ofNat (segment.toNat / 256), UInt8.ofNat (segment.toNat % 256)])
  | _ => none

def groupText (group : UInt16) : List Char := Nat.toDigits 16 group.toNat

def groupsText (groups : List UInt16) : List Char := [':'].intercalate (groups.map groupText)

/-- `Ipv6Addr`'s `Display`. -/
def Ipv6Addr.text (address : Ipv6Addr) : List Char :=
  match address.toIpv4Mapped with
  | some mapped => [':', ':', 'f', 'f', 'f', 'f', ':'] ++ mapped.text
  | none =>
    let zeroes := (zeroSpans address.segments).1
    if 1 < zeroes.len then
      groupsText (address.segments.take zeroes.start) ++ [':', ':'] ++
        groupsText (address.segments.drop (zeroes.start + zeroes.len))
    else groupsText address.segments

/-- The groups of a run are zero, and all there. -/
def Span.ZeroIn (span : Span) (segments : List UInt16) : Prop :=
  span.start + span.len ≤ segments.length ∧ ∀ i, span.start ≤ i → i < span.start + span.len → segments[i]? = some 0

theorem Span.ZeroIn.append {span : Span} {segments : List UInt16} (h : span.ZeroIn segments) (segment : UInt16) :
    span.ZeroIn (segments ++ [segment]) := by
  obtain ⟨hlength, hzero⟩ := h
  refine ⟨by simp only [List.length_append]; omega, fun i hstart hend => ?_⟩
  rw [List.getElem?_append_left (by omega)]
  exact hzero i hstart hend

theorem zeroSpans_append (segments : List UInt16) (segment : UInt16) :
    zeroSpans (segments ++ [segment]) = zeroStep (zeroSpans segments) (segment, segments.length) := by
  simp [zeroSpans, List.zipIdx_append]

/-- The run that is found is one of zeros; the run that is counted ends where the counting is. -/
theorem zeroSpans_zero (segments : List UInt16) : (zeroSpans segments).1.ZeroIn segments ∧
    (zeroSpans segments).2.ZeroIn segments ∧
      ((zeroSpans segments).2.len = 0 ∨
        (zeroSpans segments).2.start + (zeroSpans segments).2.len = segments.length) := by
  induction segments using List.reverseRecOn with
  | nil =>
    have hempty : ({} : Span).ZeroIn [] := ⟨by simp, fun i hstart hend => by simp at hstart hend⟩
    exact ⟨hempty, hempty, Or.inl rfl⟩
  | append_singleton segments segment ih =>
    obtain ⟨hlongest, hcurrent, hends⟩ := ih
    rw [zeroSpans_append, zeroStep]
    by_cases hzero : segment = 0
    · rw [if_pos hzero]
      set start := if (zeroSpans segments).2.len = 0 then segments.length else (zeroSpans segments).2.start with hstart
      have hend : start + ((zeroSpans segments).2.len + 1) = segments.length + 1 := by
        rw [hstart]
        split_ifs <;> omega
      have hrun : Span.ZeroIn { start, len := (zeroSpans segments).2.len + 1 } (segments ++ [segment]) := by
        refine ⟨by simp [hend], fun i hi hlt => ?_⟩
        have hlast : i < segments.length + 1 := hend ▸ hlt
        rcases Nat.lt_succ_iff_lt_or_eq.mp hlast with hbefore | rfl
        · rw [List.getElem?_append_left hbefore]
          refine hcurrent.2 i ?_ ?_
          · dsimp only at hi
            rw [hstart] at hi
            split_ifs at hi <;> omega
          · dsimp only at hi
            rw [hstart] at hi
            split_ifs at hi <;> omega
        · simp [hzero]
      refine ⟨?_, hrun, Or.inr (by simpa using hend)⟩
      dsimp only
      split_ifs
      · exact hrun
      · exact hlongest.append segment
    · rw [if_neg hzero]
      refine ⟨hlongest.append segment, ⟨by simp, fun i hi hlt => ?_⟩, Or.inl rfl⟩
      simp at hi hlt

theorem Span.ZeroIn.eq_replicate {span : Span} {segments : List UInt16} (h : span.ZeroIn segments) :
    segments = segments.take span.start ++ List.replicate span.len 0 ++ segments.drop (span.start + span.len) := by
  have hmiddle : (segments.drop span.start).take span.len = List.replicate span.len 0 := by
    refine List.ext_getElem? fun i => ?_
    rw [List.getElem?_replicate]
    split_ifs with hi
    · rw [List.getElem?_take_of_lt hi, List.getElem?_drop]
      exact h.2 _ (by omega) (by omega)
    · rw [List.getElem?_take_eq_none (Nat.le_of_not_lt hi)]
  rw [← hmiddle, List.append_assoc, ← List.drop_drop, List.take_append_drop, List.take_append_drop]

/-! ### Reading printed addresses back -/

theorem readGroup_groupText (group : UInt16) : readGroup (groupText group) = some group := by
  have hlt : group.toNat < 65536 := group.toNat_lt
  have hread : read groupFormat (groupText group) = some group.toNat := by
    refine read_toDigits groupFormat (by decide) (by decide) hlt fun m hm => ?_
    cases hm
    exact ⟨by decide, hlt⟩
  rw [readGroup, hread, Option.map_some, UInt16.ofNat_toNat]

theorem notMem_groupText {c : Char} (hc : isDigit 16 c = false) (group : UInt16) : c ∉ groupText group := by
  intro hmem
  rw [isDigit_of_mem_toDigits (by decide) (by decide) c hmem] at hc
  cases hc

theorem splitOn_groupsText {groups : List UInt16} (hne : groups ≠ []) :
    (groupsText groups).splitOn ':' = groups.map groupText := by
  refine List.splitOn_intercalate ':' (fun piece hpiece => ?_) fun hnil => hne (List.map_eq_nil_iff.mp hnil)
  obtain ⟨group, -, rfl⟩ := List.mem_map.mp hpiece
  exact notMem_groupText (by decide) group

theorem groupsText_ne_nil {groups : List UInt16} (hne : groups ≠ []) : groupsText groups ≠ [] := by
  intro hnil
  have hsplit := splitOn_groupsText hne
  rw [hnil, List.splitOn_nil] at hsplit
  obtain ⟨group, rest, rfl⟩ := List.exists_cons_of_ne_nil hne
  exact Nat.toDigits_ne_nil (List.cons.inj hsplit).1.symm

theorem readGroups_groupsText (groups : List UInt16) : readGroups (groupsText groups) = some groups := by
  unfold readGroups
  by_cases hne : groups = []
  · rw [hne]
    rfl
  · rw [if_neg (groupsText_ne_nil hne), splitOn_groupsText hne, mapM_map_of_read readGroup_groupText]

theorem readLastGroups_groupsText (groups : List UInt16) : readLastGroups (groupsText groups) = some groups := by
  unfold readLastGroups
  by_cases hne : groups = []
  · rw [hne]
    rfl
  · -- the last piece has no dots, so it is a group
    have hlast : readIpv4 ((groups.map groupText).getLastD []) = none := by
      refine readIpv4_eq_none fun hdot => ?_
      rw [List.getLastD_eq_getLast?, List.getLast?_map, List.getLast?_eq_some_getLast hne, Option.map_some,
        Option.getD_some] at hdot
      exact notMem_groupText (by decide) _ hdot
    rw [if_neg (groupsText_ne_nil hne)]
    simp only [splitOn_groupsText hne, hlast]
    exact mapM_map_of_read readGroup_groupText groups

/-- No gap starts at a character that is no colon. -/
theorem splitGap_append {front : List Char} (h : ':' ∉ front) (rest : List Char) :
    splitGap (front ++ rest) = (splitGap rest).map fun parts => (front ++ parts.1, parts.2) := by
  induction front with
  | nil => simp
  | cons c front ih =>
    have hc : c ≠ ':' := fun heq => h (heq ▸ List.mem_cons_self)
    rw [List.cons_append, splitGap, ih fun hmem => h (List.mem_cons_of_mem c hmem), Option.map_map]
    · rfl
    · rintro other heq -
      exact hc heq

/-- Nor at a colon that a group follows. -/
theorem splitGap_colon {front : List Char} (hne : front ≠ []) (h : ':' ∉ front) (rest : List Char) :
    splitGap (':' :: (front ++ rest)) = (splitGap (front ++ rest)).map fun parts => (':' :: parts.1, parts.2) := by
  obtain ⟨c, front, rfl⟩ := List.exists_cons_of_ne_nil hne
  have hc : c ≠ ':' := fun heq => h (heq ▸ List.mem_cons_self)
  rw [List.cons_append, splitGap]
  rintro other - heq
  exact hc (List.cons.inj heq).1

/-- The first gap of a text that begins with groups comes after them. -/
theorem splitGap_groupsText (groups : List UInt16) (rest : List Char) : splitGap (groupsText groups ++ rest) =
    (splitGap rest).map fun parts => (groupsText groups ++ parts.1, parts.2) := by
  induction groups with
  | nil => simp [groupsText]
  | cons group groups ih =>
    have hgroup := notMem_groupText (c := ':') (by decide) group
    cases groups with
    | nil =>
      have hone : groupsText [group] = groupText group := by simp [groupsText]
      rw [hone]
      exact splitGap_append hgroup rest
    | cons next groups =>
      have hcons : groupsText (group :: next :: groups) = groupText group ++ ':' :: groupsText (next :: groups) := by
        simp [groupsText, List.intercalate_cons_cons]
      have hnext : ∃ tail, groupsText (next :: groups) = groupText next ++ tail := by
        cases groups with
        | nil => exact ⟨[], by simp [groupsText]⟩
        | cons third groups => exact ⟨_, by simp [groupsText, List.intercalate_cons_cons]; rfl⟩
      obtain ⟨tail, htail⟩ := hnext
      have hcolon : splitGap (':' :: (groupsText (next :: groups) ++ rest)) =
          (splitGap (groupsText (next :: groups) ++ rest)).map fun parts => (':' :: parts.1, parts.2) := by
        rw [htail, List.append_assoc]
        exact splitGap_colon Nat.toDigits_ne_nil (notMem_groupText (by decide) next) _
      rw [hcons, List.append_assoc, List.cons_append, splitGap_append hgroup, hcolon, ih, Option.map_map, Option.map_map]
      simp [Function.comp_def]

theorem ofSegments_segments (address : Ipv6Addr) : ofSegments address.segments = some address := by
  rw [ofSegments, dif_pos address.length_segments]

/-- The two groups of an address that is made of them. -/
theorem toIpv4Mapped_eq_some {address : Ipv6Addr} {mapped : Ipv4Addr} (h : address.toIpv4Mapped = some mapped) :
    address.segments = [0, 0, 0, 0, 0, 0xffff] ++ mapped.groups := by
  unfold Ipv6Addr.toIpv4Mapped at h
  split at h
  case h_1 high low hsegments =>
    have hoctets : ofOctets ([high, low].flatMap fun segment =>
        [UInt8.ofNat (segment.toNat / 256), UInt8.ofNat (segment.toNat % 256)]) = some ⟨_, rfl⟩ := dif_pos rfl
    cases hoctets.symm.trans h
    have hjoin : ∀ group : UInt16, UInt16.ofNat ((UInt8.ofNat (group.toNat / 256)).toNat * 256 +
        (UInt8.ofNat (group.toNat % 256)).toNat) = group := by
      intro group
      have hlt : group.toNat < 65536 := group.toNat_lt
      rw [UInt8.toNat_ofNat', UInt8.toNat_ofNat', Nat.mod_eq_of_lt (by omega), Nat.mod_eq_of_lt (by omega),
        Nat.div_add_mod', UInt16.ofNat_toNat]
    rw [hsegments, Ipv4Addr.groups]
    simp only [List.flatMap_cons, List.flatMap_nil, List.cons_append, List.nil_append, hjoin]
  case h_2 => cases h

theorem readIpv6_mapped {address : Ipv6Addr} {mapped : Ipv4Addr} (h : address.toIpv4Mapped = some mapped) :
    readIpv6 ([':', ':', 'f', 'f', 'f', 'f', ':'] ++ mapped.text) = some address := by
  have hsplit : (['f', 'f', 'f', 'f', ':'] ++ mapped.text).splitOn ':' = [['f', 'f', 'f', 'f'], mapped.text] := by
    have hjoin : ['f', 'f', 'f', 'f', ':'] ++ mapped.text = [':'].intercalate [['f', 'f', 'f', 'f'], mapped.text] := by
      simp [List.intercalate_cons_cons]
    rw [hjoin]
    refine List.splitOn_intercalate ':' (fun piece hpiece => ?_) (by simp)
    rcases List.mem_cons.mp hpiece with rfl | hmapped
    · decide
    · rw [List.mem_singleton.mp hmapped]
      exact notMem_text (by decide) (by decide) mapped
  have htail : readLastGroups (['f', 'f', 'f', 'f', ':'] ++ mapped.text) = some ([0xffff] ++ mapped.groups) := by
    have hgroup : readGroup ['f', 'f', 'f', 'f'] = some 0xffff := by decide
    rw [readLastGroups, if_neg (by simp)]
    simp only [hsplit, List.getLastD_cons, List.getLastD_nil, readIpv4_text]
    simp [List.mapM_cons, hgroup]
  have hsegments := toIpv4Mapped_eq_some h
  have hgroups : mapped.groups.length = 2 := by
    have hlength := congrArg List.length hsegments
    rw [address.length_segments, List.length_append] at hlength
    simp at hlength
    omega
  have hgap : splitGap ([':', ':', 'f', 'f', 'f', 'f', ':'] ++ mapped.text) =
      some ([], ['f', 'f', 'f', 'f', ':'] ++ mapped.text) := rfl
  rw [readIpv6, hgap]
  simp only [readGroups, if_true, htail, Option.bind_eq_bind, Option.bind_some, List.length_append, hgroups]
  rw [← ofSegments_segments address, hsegments]
  rfl

/-- An address that is printed is read back. -/
theorem readIpv6_text (address : Ipv6Addr) : readIpv6 address.text = some address := by
  unfold Ipv6Addr.text
  cases hmapped : address.toIpv4Mapped with
  | some mapped => exact readIpv6_mapped hmapped
  | none =>
    dsimp only
    set zeroes := (zeroSpans address.segments).1
    have hzero : zeroes.ZeroIn address.segments := (zeroSpans_zero address.segments).1
    split_ifs with hlen
    · have hgap := splitGap_groupsText (address.segments.take zeroes.start)
        ([':', ':'] ++ groupsText (address.segments.drop (zeroes.start + zeroes.len)))
      have hfirst : splitGap ([':', ':'] ++ groupsText (address.segments.drop (zeroes.start + zeroes.len))) =
          some ([], groupsText (address.segments.drop (zeroes.start + zeroes.len))) := rfl
      rw [hfirst, Option.map_some, List.append_nil] at hgap
      have hbound := hzero.1
      have hlength := address.length_segments
      have hparts : (address.segments.take zeroes.start).length +
          (address.segments.drop (zeroes.start + zeroes.len)).length = 8 - zeroes.len := by
        rw [List.length_take, List.length_drop]
        omega
      rw [readIpv6, List.append_assoc, hgap]
      simp only [readGroups_groupsText, readLastGroups_groupsText, Option.bind_eq_bind, Option.bind_some, hparts]
      rw [if_pos (by omega), show 8 - (8 - zeroes.len) = zeroes.len by omega, ← hzero.eq_replicate,
        ofSegments_segments]
    · have hgap := splitGap_groupsText address.segments []
      have hnone : splitGap [] = none := rfl
      rw [hnone, Option.map_none, List.append_nil] at hgap
      rw [readIpv6, hgap]
      simp only [readLastGroups_groupsText, Option.bind_some, ofSegments_segments]

end IpText
