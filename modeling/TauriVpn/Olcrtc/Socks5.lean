import TauriVpn.Errors
import TauriVpn.Lib.Fallible
import TauriVpn.Lib.FormUrlencoded
import TauriVpn.Lib.IpText
import TauriVpn.Olcrtc.Frame

/-! What a client of the local proxy says before its own data: the SOCKS5 handshake and
one request to connect. Four pieces are read whose lengths the client gives. The bytes
that are read are those of the prologue and no others, so what comes after it is the
client's data from its first byte on. -/

namespace TauriVpn.Olcrtc

open FormUrlencoded IpText Fallible

/-- The connection of a client: what it still sends before it closes its side, what was
written to it, and how writing ends. -/
structure ClientStream where
  incoming : Bytes
  written : Bytes := []
  write : Except String Unit := .ok ()

abbrev ClientIO := Fallible VpnError ClientStream

/-- `read_exact`; what is there is consumed before the end of the stream is found. -/
def readExact (n : ℕ) : ClientIO Bytes := do
  let stream ← get
  if stream.incoming.length < n then do
    modify fun stream => { stream with incoming := [] }
    throw (.io "early eof")
  else do
    modify fun stream => { stream with incoming := stream.incoming.drop n }
    return stream.incoming.take n

def writeAll (bytes : Bytes) : ClientIO Unit := do
  let stream ← get
  match stream.write with
  | .ok () => modify fun stream => { stream with written := stream.written ++ bytes }
  | .error error => throw (.io error)

def socks5Handshake : ClientIO Unit := do
  let header ← readExact 2
  if header.getD 0 0 ≠ 5 then
    throw (.engine "invalid SOCKS5 version")
  let _ ← readExact (header.getD 1 0).toNat
  writeAll [5, 0]

/-- `Ipv4Addr::from(ip).to_string()`. -/
def ipv4Text (ip : Bytes) : String := ((ofOctets ip).map fun address => String.ofList address.text).getD ""

/-- The groups of sixteen bytes. -/
def groupsOf : Bytes → List UInt16
  | high :: low :: rest => u16FromBeBytes [high, low] :: groupsOf rest
  | _ => []

/-- `Ipv6Addr::from(ip).to_string()`. -/
def ipv6Text (ip : Bytes) : String := ((ofSegments (groupsOf ip)).map fun address => String.ofList address.text).getD ""

section Request
variable (utf8Error : Bytes → String)

/-- The address of a request, by its type. -/
def readAddr (kind : UInt8) : ClientIO String :=
  if kind = 1 then do
    let ip ← readExact 4
    return ipv4Text ip
  else if kind = 3 then do
    let len ← readExact 1
    let domain ← readExact (len.getD 0 0).toNat
    match fromUtf8 domain with
    | some text => return text
    | none => throw (.engine ("invalid SOCKS5 domain: " ++ utf8Error domain))
  else if kind = 4 then do
    let ip ← readExact 16
    return ipv6Text ip
  else throw (.engine ("unsupported SOCKS5 address type " ++ toString kind.toNat))

def socks5Request : ClientIO (String × UInt16) := do
  let header ← readExact 4
  if header.getD 0 0 ≠ 5 ∨ header.getD 1 0 ≠ 1 then
    throw (.engine ("unsupported SOCKS5 command " ++ toString (header.getD 1 0).toNat))
  let addr ← readAddr utf8Error (header.getD 3 0)
  let port ← readExact 2
  return (addr, u16FromBeBytes port)

/-- What `handle_socks5` begins with. -/
def socks5Prologue : ClientIO (String × UInt16) := do
  socks5Handshake
  socks5Request utf8Error

end Request

/-! ### The grammar -/

inductive Address where
  | ipv4 (address : Ipv4Addr)
  | domain (text : String) (short : (utf8 text).length < 256)
  | ipv6 (address : Ipv6Addr)

def Address.kind : Address → UInt8
  | .ipv4 _ => 1
  | .domain _ _ => 3
  | .ipv6 _ => 4

/-- What follows the type of an address. -/
def Address.body : Address → Bytes
  | .ipv4 address => address.octets
  | .domain text _ => UInt8.ofNat (utf8 text).length :: utf8 text
  | .ipv6 address => address.segments.flatMap u16ToBeBytes

def Address.bytes (address : Address) : Bytes := address.kind :: address.body

/-- The text that is passed on for an address. -/
def Address.text : Address → String
  | .ipv4 address => String.ofList address.text
  | .domain text _ => text
  | .ipv6 address => String.ofList address.text

structure Prologue where
  methods : Bytes
  reserved : UInt8
  address : Address
  port : UInt16
  few : methods.length < 256

def Prologue.bytes (p : Prologue) : Bytes :=
  5 :: UInt8.ofNat p.methods.length :: (p.methods ++ 5 :: 1 :: p.reserved :: (p.address.bytes ++ u16ToBeBytes p.port))

/-! ### Reading -/

section Reading
variable {stream stream' : ClientStream}

theorem exec_readExact (n : ℕ) (stream : ClientStream) : exec (readExact n) stream =
    if stream.incoming.length < n then (.error (.io "early eof"), { stream with incoming := [] })
    else (.ok (stream.incoming.take n), { stream with incoming := stream.incoming.drop n }) := by
  rw [readExact, exec_bind_ok (exec_get stream)]
  split_ifs
  · rfl
  · rfl

/-- Reading takes exactly the bytes in front. -/
theorem readExact_eq_ok_iff {n : ℕ} {bytes : Bytes} : exec (readExact n) stream = (.ok bytes, stream') ↔
    ∃ rest, stream.incoming = bytes ++ rest ∧ bytes.length = n ∧ stream' = { stream with incoming := rest } := by
  rw [exec_readExact]
  constructor
  · intro h
    split_ifs at h with hshort
    · cases h
    · obtain ⟨hbytes, rfl⟩ := Prod.mk.inj h
      cases hbytes
      refine ⟨stream.incoming.drop n, (List.take_append_drop n _).symm, ?_, rfl⟩
      rw [List.length_take]
      omega
  · rintro ⟨rest, hincoming, hlength, rfl⟩
    rw [if_neg (by rw [hincoming, List.length_append]; omega), hincoming, ← hlength, List.take_left, List.drop_left]

theorem writeAll_eq_ok_iff (hwrite : stream.write = .ok ()) {bytes : Bytes} :
    exec (writeAll bytes) stream = (.ok (), stream') ↔ stream' = { stream with written := stream.written ++ bytes } := by
  obtain ⟨incoming, written, write⟩ := stream
  cases hwrite
  have hexec : exec (writeAll bytes) { incoming, written } = (.ok (), { incoming, written := written ++ bytes }) := rfl
  rw [hexec, Prod.mk.injEq, and_iff_right rfl, eq_comm]

/-- The handshake takes the methods, as many as it is told, and answers without any. -/
theorem socks5Handshake_eq_ok_iff (hwrite : stream.write = .ok ()) :
    exec socks5Handshake stream = (.ok (), stream') ↔
      ∃ (methods rest : Bytes), methods.length < 256 ∧
        stream.incoming = 5 :: UInt8.ofNat methods.length :: (methods ++ rest) ∧
        stream' = { stream with incoming := rest, written := stream.written ++ [5, 0] } := by
  have hopen : ∀ rest, ({ stream with incoming := rest } : ClientStream).write = .ok () := fun _ => hwrite
  rw [socks5Handshake, exec_bind_eq_ok_iff]
  constructor
  · rintro ⟨header, t, hheader, h⟩
    obtain ⟨rest, hincoming, hlength, rfl⟩ := readExact_eq_ok_iff.mp hheader
    obtain ⟨version, count, rfl⟩ := List.length_eq_two.mp hlength
    rw [exec_check_eq_ok_iff] at h
    obtain ⟨hversion, h⟩ := h
    obtain ⟨methods, t', hmethods, h⟩ := exec_bind_eq_ok_iff.mp h
    obtain ⟨rest', hrest, hcount, rfl⟩ := readExact_eq_ok_iff.mp hmethods
    have hend := (writeAll_eq_ok_iff (hopen rest')).mp h
    have hfive : version = 5 := not_not.mp hversion
    have hlen : methods.length = count.toNat := hcount
    have hrest : rest = methods ++ rest' := hrest
    refine ⟨methods, rest', hlen ▸ count.toNat_lt, ?_, hend⟩
    rw [hincoming, hfive, hlen, UInt8.ofNat_toNat, hrest]
    rfl
  · rintro ⟨methods, rest, hfew, hincoming, rfl⟩
    have hcount : (UInt8.ofNat methods.length).toNat = methods.length := UInt8.toNat_ofNat_of_lt' hfew
    refine ⟨[5, UInt8.ofNat methods.length], { stream with incoming := methods ++ rest },
      readExact_eq_ok_iff.mpr ⟨methods ++ rest, hincoming, rfl, rfl⟩, ?_⟩
    rw [exec_check_eq_ok_iff]
    refine ⟨fun hne => hne rfl, exec_bind_eq_ok_iff.mpr ⟨methods, { stream with incoming := rest },
      readExact_eq_ok_iff.mpr ⟨rest, rfl, hcount.symm, rfl⟩, ?_⟩⟩
    exact (writeAll_eq_ok_iff (hopen rest)).mpr rfl

theorem groupsOf_segments (segments : List UInt16) : groupsOf (segments.flatMap u16ToBeBytes) = segments := by
  induction segments with
  | nil => rfl
  | cons segment segments ih =>
    obtain ⟨high, low, hbytes⟩ := List.length_eq_two.mp (u16ToBeBytes_length segment)
    have hsegment : u16FromBeBytes [high, low] = segment := by rw [← hbytes, u16FromBeBytes_toBeBytes]
    rw [List.flatMap_cons, hbytes]
    simp only [List.cons_append, List.nil_append, groupsOf, hsegment, ih]

/-- Bytes in pairs are those of their groups. -/
theorem flatMap_groupsOf {n : ℕ} {bytes : Bytes} (h : bytes.length = 2 * n) :
    (groupsOf bytes).flatMap u16ToBeBytes = bytes ∧ (groupsOf bytes).length = n := by
  induction n generalizing bytes with
  | zero =>
    rw [List.eq_nil_of_length_eq_zero h]
    exact ⟨rfl, rfl⟩
  | succ n ih =>
    match bytes with
    | high :: low :: rest =>
      have hrest : rest.length = 2 * n := by
        simp only [List.length_cons] at h
        omega
      obtain ⟨hbytes, hlength⟩ := ih hrest
      rw [groupsOf, List.flatMap_cons, u16ToBeBytes_fromBeBytes rfl, hbytes, List.length_cons, hlength]
      exact ⟨rfl, rfl⟩

theorem ipv4Text_octets (address : Ipv4Addr) : ipv4Text address.octets = (Address.ipv4 address).text := by
  rw [ipv4Text, ofOctets, dif_pos address.length_octets]
  rfl

theorem ipv6Text_segments (address : Ipv6Addr) :
    ipv6Text (address.segments.flatMap u16ToBeBytes) = (Address.ipv6 address).text := by
  rw [ipv6Text, groupsOf_segments, ofSegments_segments]
  rfl

section Request
variable {utf8Error : Bytes → String}

theorem exec_readAddr (address : Address) (rest : Bytes) (hbody : stream.incoming = address.body ++ rest) :
    exec (readAddr utf8Error address.kind) stream = (.ok address.text, { stream with incoming := rest }) := by
  cases address with
  | ipv4 ip =>
    have hread : exec (readExact 4) stream = (.ok ip.octets, { stream with incoming := rest }) :=
      readExact_eq_ok_iff.mpr ⟨rest, hbody, ip.length_octets, rfl⟩
    rw [readAddr, Address.kind, if_pos rfl, exec_bind_ok hread, exec_pure, ipv4Text_octets]
  | domain text hshort =>
    have hcount : (UInt8.ofNat (utf8 text).length).toNat = (utf8 text).length := UInt8.toNat_ofNat_of_lt' hshort
    have hlen : exec (readExact 1) stream =
        (.ok [UInt8.ofNat (utf8 text).length], { stream with incoming := utf8 text ++ rest }) :=
      readExact_eq_ok_iff.mpr ⟨_, hbody, rfl, rfl⟩
    have hdomain : exec (readExact (UInt8.ofNat (utf8 text).length).toNat) { stream with incoming := utf8 text ++ rest } =
        (.ok (utf8 text), { stream with incoming := rest }) :=
      readExact_eq_ok_iff.mpr ⟨rest, rfl, hcount.symm, rfl⟩
    rw [readAddr, Address.kind, if_neg (by decide), if_pos rfl, exec_bind_ok hlen]
    simp only [List.getD_cons_zero]
    rw [exec_bind_ok hdomain, fromUtf8_utf8]
    rfl
  | ipv6 ip =>
    have hlength : (ip.segments.flatMap u16ToBeBytes).length = 16 := by
      simp [List.length_flatMap, ip.length_segments]
    have hread : exec (readExact 16) stream =
        (.ok (ip.segments.flatMap u16ToBeBytes), { stream with incoming := rest }) :=
      readExact_eq_ok_iff.mpr ⟨rest, hbody, hlength, rfl⟩
    rw [readAddr, Address.kind, if_neg (by decide), if_neg (by decide), if_pos rfl, exec_bind_ok hread, exec_pure,
      ipv6Text_segments]

/-- Of each type, what is read is an address of that type. -/
theorem readAddr_eq_ok {kind : UInt8} {addr : String} (h : exec (readAddr utf8Error kind) stream = (.ok addr, stream')) :
    ∃ (address : Address) (rest : Bytes), kind = address.kind ∧ stream.incoming = address.body ++ rest ∧
      addr = address.text ∧ stream' = { stream with incoming := rest } := by
  unfold readAddr at h
  split_ifs at h with hipv4 hdomain hipv6
  · obtain ⟨ip, t, hip, h⟩ := exec_bind_eq_ok_iff.mp h
    obtain ⟨rest, hincoming, hlength, rfl⟩ := readExact_eq_ok_iff.mp hip
    obtain ⟨haddr, rfl⟩ := Prod.mk.inj h
    rw [← Except.ok.inj haddr]
    exact ⟨.ipv4 ⟨ip, hlength⟩, rest, hipv4, hincoming, ipv4Text_octets ⟨ip, hlength⟩, rfl⟩
  · obtain ⟨len, t, hlen, h⟩ := exec_bind_eq_ok_iff.mp h
    obtain ⟨rest, hincoming, hone, rfl⟩ := readExact_eq_ok_iff.mp hlen
    obtain ⟨count, rfl⟩ := List.length_eq_one_iff.mp hone
    obtain ⟨domain, t, hdomainRead, h⟩ := exec_bind_eq_ok_iff.mp h
    obtain ⟨rest', hrest, hcount, rfl⟩ := readExact_eq_ok_iff.mp hdomainRead
    have hlength : domain.length = count.toNat := hcount
    have hafter : rest = domain ++ rest' := hrest
    cases htext : fromUtf8 domain with
    | none =>
      rw [htext] at h
      cases h
    | some text =>
      rw [htext] at h
      obtain ⟨haddr, rfl⟩ := Prod.mk.inj h
      have hbytes := utf8_of_fromUtf8 htext
      refine ⟨.domain text (by rw [hbytes, hlength]; exact count.toNat_lt), rest', hdomain, ?_,
        (Except.ok.inj haddr).symm, rfl⟩
      rw [hincoming, hafter, Address.body, hbytes, hlength, UInt8.ofNat_toNat]
      rfl
  · obtain ⟨ip, t, hip, h⟩ := exec_bind_eq_ok_iff.mp h
    obtain ⟨rest, hincoming, hlength, rfl⟩ := readExact_eq_ok_iff.mp hip
    obtain ⟨haddr, rfl⟩ := Prod.mk.inj h
    obtain ⟨hbytes, hgroups⟩ := flatMap_groupsOf (n := 8) hlength
    refine ⟨.ipv6 ⟨groupsOf ip, hgroups⟩, rest, hipv6, by rw [Address.body, hbytes, hincoming], ?_, rfl⟩
    rw [← Except.ok.inj haddr, ← ipv6Text_segments, hbytes]
  · cases h

/-- A request to connect, of any address. -/
theorem socks5Request_eq_ok_iff {addr : String} {port : UInt16} :
    exec (socks5Request utf8Error) stream = (.ok (addr, port), stream') ↔
      ∃ (reserved : UInt8) (address : Address) (rest : Bytes),
        stream.incoming = 5 :: 1 :: reserved :: (address.bytes ++ u16ToBeBytes port ++ rest) ∧ addr = address.text ∧
          stream' = { stream with incoming := rest } := by
  rw [socks5Request, exec_bind_eq_ok_iff]
  constructor
  · rintro ⟨header, t, hheader, h⟩
    obtain ⟨rest, hincoming, hlength, rfl⟩ := readExact_eq_ok_iff.mp hheader
    obtain ⟨version, command, reserved, kind, rfl⟩ : ∃ a b c d, header = [a, b, c, d] := by
      match header with
      | [a, b, c, d] => exact ⟨a, b, c, d, rfl⟩
    obtain ⟨hcommand, h⟩ := exec_check_eq_ok_iff.mp h
    obtain ⟨hversion, hconnect⟩ := not_or.mp hcommand
    obtain ⟨addr', t, haddr, h⟩ := exec_bind_eq_ok_iff.mp h
    obtain ⟨address, rest', hkind, hbody, rfl, rfl⟩ := readAddr_eq_ok haddr
    obtain ⟨portBytes, t, hport, h⟩ := exec_bind_eq_ok_iff.mp h
    obtain ⟨rest'', hrest, htwo, rfl⟩ := readExact_eq_ok_iff.mp hport
    obtain ⟨hresult, rfl⟩ := Prod.mk.inj h
    obtain ⟨rfl, rfl⟩ := Prod.mk.inj (Except.ok.inj hresult)
    have hfive : version = 5 := not_not.mp hversion
    have hone : command = 1 := not_not.mp hconnect
    have hkind : kind = address.kind := hkind
    have hbody : rest = address.body ++ rest' := hbody
    have hrest : rest' = portBytes ++ rest'' := hrest
    refine ⟨reserved, address, rest'', ?_, rfl, rfl⟩
    rw [hincoming, hfive, hone, hkind, hbody, hrest, u16ToBeBytes_fromBeBytes htwo, Address.bytes]
    simp only [List.cons_append, List.nil_append, List.append_assoc]
  · rintro ⟨reserved, address, rest, hincoming, rfl, rfl⟩
    have hheader : exec (readExact 4) stream = (.ok [5, 1, reserved, address.kind],
        { stream with incoming := address.body ++ (u16ToBeBytes port ++ rest) }) := by
      refine readExact_eq_ok_iff.mpr ⟨_, ?_, rfl, rfl⟩
      rw [hincoming, Address.bytes]
      simp only [List.cons_append, List.nil_append, List.append_assoc]
    refine ⟨_, _, hheader, exec_check_eq_ok_iff.mpr ⟨fun h => h.elim (fun hne => hne rfl) fun hne => hne rfl, ?_⟩⟩
    have hport : exec (readExact 2) { stream with incoming := u16ToBeBytes port ++ rest } =
        (.ok (u16ToBeBytes port), { stream with incoming := rest }) :=
      readExact_eq_ok_iff.mpr ⟨rest, rfl, u16ToBeBytes_length port, rfl⟩
    refine exec_bind_eq_ok_iff.mpr ⟨_, _, exec_readAddr address _ rfl, ?_⟩
    rw [exec_bind_ok hport, exec_pure, u16FromBeBytes_toBeBytes]

/-- The prologue is accepted when it stands at the front, and what comes after it is left. -/
theorem socks5Prologue_eq_ok_iff (hwrite : stream.write = .ok ()) {addr : String} {port : UInt16} :
    exec (socks5Prologue utf8Error) stream = (.ok (addr, port), stream') ↔
      ∃ (p : Prologue) (rest : Bytes), stream.incoming = p.bytes ++ rest ∧ addr = p.address.text ∧ port = p.port ∧
        stream' = { stream with incoming := rest, written := stream.written ++ [5, 0] } := by
  rw [socks5Prologue, exec_bind_eq_ok_iff]
  constructor
  · rintro ⟨⟨⟩, t, hhandshake, h⟩
    obtain ⟨methods, rest, hfew, hincoming, rfl⟩ := (socks5Handshake_eq_ok_iff hwrite).mp hhandshake
    obtain ⟨reserved, address, rest', hrest, rfl, rfl⟩ := socks5Request_eq_ok_iff.mp h
    have hrest : rest = 5 :: 1 :: reserved :: (address.bytes ++ u16ToBeBytes port ++ rest') := hrest
    refine ⟨{ methods, reserved, address, port, few := hfew }, rest', ?_, rfl, rfl, rfl⟩
    rw [hincoming, hrest, Prologue.bytes]
    simp only [List.cons_append, List.append_assoc]
  · rintro ⟨p, rest, hincoming, rfl, rfl, rfl⟩
    have hhandshake : exec socks5Handshake stream = (.ok (), { stream with
        incoming := 5 :: 1 :: p.reserved :: (p.address.bytes ++ u16ToBeBytes p.port ++ rest)
        written := stream.written ++ [5, 0] }) := by
      refine (socks5Handshake_eq_ok_iff hwrite).mpr ⟨p.methods, _, p.few, ?_, rfl⟩
      rw [hincoming, Prologue.bytes]
      simp only [List.cons_append, List.append_assoc]
    exact ⟨_, _, hhandshake, socks5Request_eq_ok_iff.mpr ⟨p.reserved, p.address, rest, rfl, rfl, rfl⟩⟩

end Request

end Reading

/-- No prologue begins another one: it would be read in two ways, once with something left. -/
theorem Prologue.rest_eq_nil {p q : Prologue} {rest : Bytes} (h : p.bytes = q.bytes ++ rest) : rest = [] := by
  have hwhole : exec (socks5Prologue fun _ => "") { incoming := p.bytes } =
      (.ok (p.address.text, p.port), { incoming := [], written := [5, 0] }) :=
    (socks5Prologue_eq_ok_iff rfl).mpr ⟨p, [], (List.append_nil _).symm, rfl, rfl, rfl⟩
  have hfront : exec (socks5Prologue fun _ => "") { incoming := p.bytes } =
      (.ok (q.address.text, q.port), { incoming := rest, written := [5, 0] }) :=
    (socks5Prologue_eq_ok_iff rfl).mpr ⟨q, rest, h, rfl, rfl, rfl⟩
  rw [hwhole] at hfront
  exact (congrArg ClientStream.incoming (Prod.mk.inj hfront).2).symm

/-! ### What is accepted -/

/-- The text means the address: an IP address is read back from it. -/
def Address.Denotes : Address → String → Prop
  | .ipv4 address, text => readIpv4 text.toList = some address
  | .domain name _, text => text = name
  | .ipv6 address, text => readIpv6 text.toList = some address

theorem Address.denotes_text (address : Address) : address.Denotes address.text := by
  cases address with
  | ipv4 ip =>
    rw [Denotes, text, String.toList_ofList]
    exact readIpv4_text ip
  | domain name _ => rfl
  | ipv6 ip =>
    rw [Denotes, text, String.toList_ofList]
    exact readIpv6_text ip

/-- What the two readers make of a stream. -/
structure ReadsPrologue (utf8Error : Bytes → String) (stream : ClientStream) : Prop where
  /-- It is accepted exactly when it begins with a prologue. -/
  accepted : (∃ result stream', exec (socks5Prologue utf8Error) stream = (.ok result, stream')) ↔
    ∃ (p : Prologue) (rest : Bytes), stream.incoming = p.bytes ++ rest
  /-- The port and the address are those of the prologue, and its bytes are consumed. -/
  consumed : ∀ (p : Prologue) (rest : Bytes), stream.incoming = p.bytes ++ rest → ∃ addr,
    exec (socks5Prologue utf8Error) stream =
      (.ok (addr, p.port), { stream with incoming := rest, written := stream.written ++ [5, 0] }) ∧
    p.address.Denotes addr
  /-- At an earlier end of the stream it fails. -/
  cutOff : ∀ p : Prologue, stream.incoming <+: p.bytes → stream.incoming ≠ p.bytes →
    ∃ error stream', exec (socks5Prologue utf8Error) stream = (.error error, stream')

/-- Every stream that can be written to is read so. -/
theorem reads_prologue (utf8Error : Bytes → String) (stream : ClientStream) (hwrite : stream.write = .ok ()) :
    ReadsPrologue utf8Error stream := by
  refine ⟨⟨?_, ?_⟩, ?_, ?_⟩
  · rintro ⟨⟨addr, port⟩, stream', h⟩
    obtain ⟨p, rest, hincoming, -⟩ := (socks5Prologue_eq_ok_iff hwrite).mp h
    exact ⟨p, rest, hincoming⟩
  · rintro ⟨p, rest, hincoming⟩
    exact ⟨_, _, (socks5Prologue_eq_ok_iff hwrite).mpr ⟨p, rest, hincoming, rfl, rfl, rfl⟩⟩
  · intro p rest hincoming
    exact ⟨_, (socks5Prologue_eq_ok_iff hwrite).mpr ⟨p, rest, hincoming, rfl, rfl, rfl⟩, p.address.denotes_text⟩
  · rintro p ⟨more, hmore⟩ hne
    rcases hexec : exec (socks5Prologue utf8Error) stream with ⟨error | ⟨addr, port⟩, stream'⟩
    · exact ⟨error, stream', rfl⟩
    · obtain ⟨q, rest, hincoming, -⟩ := (socks5Prologue_eq_ok_iff hwrite).mp hexec
      have hnil := Prologue.rest_eq_nil (p := p) (q := q) (by rw [← hmore, hincoming, List.append_assoc])
      rw [(List.append_eq_nil_iff.mp hnil).2, List.append_nil] at hmore
      exact absurd hmore hne

/-- No methods, the domain `wb.ru`, port 443 and the first byte of a payload. -/
theorem reads_prologue_domain : ReadsPrologue (fun _ => "")
    { incoming := [5, 0, 5, 1, 0, 3, 5, 0x77, 0x62, 0x2E, 0x72, 0x75, 0x01, 0xBB, 0x16] } :=
  reads_prologue (fun _ => "") _ rfl

end TauriVpn.Olcrtc
