import TauriVpn.Config.LocalProxy
import TauriVpn.Import.Authority

/-! The links of OLC RTC rooms. The room is the host of the link, or its path behind the
name of the provider; key and port are parameters. The client and the configuration read
them back from the server, the password and the extra data of the profile. -/

namespace TauriVpn.Import

open FormUrlencoded Userinfo Config Olcrtc

/-- A letter or a digit of ASCII, an underscore or a hyphen. -/
def isRoomChar (c : Char) : Bool :=
  isAsciiDigit c || ('a' ≤ c && c ≤ 'z') || ('A' ≤ c && c ≤ 'Z') || c == '_' || c == '-'

/-- What a link says; a room may have the name of the provider. -/
structure RoomLink where
  room : String
  key : String
  port : UInt16
  name : String
  room_ne : room ≠ ""
  room_chars : ∀ c ∈ room.toList, isRoomChar c = true
  key_length : key.toList.length = 64
  key_chars : ∀ c ∈ key.toList, isAsciiHexdigit c = true
  port_ne : port ≠ 0
  name_ne : name ≠ ""
  name_chars : ∀ c ∈ name.toList, isNameChar c = true

/-- Where the room stands in a link. -/
inductive RoomPlace where
  | host | path
  deriving DecidableEq

namespace RoomLink
variable (link : RoomLink)

def hostAndPath : RoomPlace → String
  | .host => link.room
  | .path => "wb_stream/" ++ link.room

def queryText : String := "key=" ++ link.key ++ "&localPort=" ++ toString link.port.toNat

def text (place : RoomPlace) : String :=
  "olcrtc://" ++ (link.hostAndPath place ++ "?" ++ link.queryText ++ "#" ++ link.name)

/-- The parts of the link, where the parser keeps host and path as they are. -/
def url (place : RoomPlace) : Url where
  scheme := "olcrtc"
  host := match place with
    | .host => some link.room
    | .path => some "wb_stream"
  path := match place with
    | .host => ""
    | .path => "/" ++ link.room
  query := some link.queryText
  fragment := some (ofAscii (percentEncode isFragmentByte (utf8 link.name)))

def query : Query := [("key", link.key), ("localPort", toString link.port.toNat)]

/-! ### The text of a link -/

theorem trim_text (place : RoomPlace) : trim (link.text place) = link.text place := by
  have hscheme : IsUrlScheme "olcrtc://" := by decide
  obtain ⟨hne, hfirst⟩ := hscheme.first List.prefix_rfl
  have hname : link.name.toList ≠ [] := by simpa using link.name_ne
  refine trim_append hne hfirst (by simp [link.name_ne]) fun c hc => ?_
  rw [String.toList_append, List.getLast?_append_of_ne_nil _ hname] at hc
  exact isWhitespace_of_isNameChar (link.name_chars c (List.mem_of_getLast? hc))

/-- A form writes digits as they are. -/
theorem isKept_of_hexdigit {s : String} (h : ∀ c ∈ s.toList, isAsciiHexdigit c = true) : ∀ b ∈ utf8 s, isKept b = true := by
  intro b hb
  obtain ⟨c, hc, hbc⟩ := List.mem_flatMap.mp hb
  have hrange := toNat_of_isAsciiHexdigit (h c hc)
  rw [utf8EncodeChar_of_ascii (by omega), List.mem_singleton] at hbc
  have hbyte : b.toNat = c.toNat := by rw [hbc, UInt8.toNat_ofNat', Nat.mod_eq_of_lt (by omega)]
  simp only [isKept, hbyte, Bool.or_eq_true, Bool.and_eq_true, decide_eq_true_eq, beq_iff_eq]
  omega

theorem isHexdigit_port (port : UInt16) : ∀ c ∈ (toString port.toNat).toList, isAsciiHexdigit c = true := by
  intro c hc
  rw [isAsciiHexdigit, isAsciiDigit_of_mem_repr hc]
  rfl

/-- The query is written as a form writes the key and the port. -/
theorem utf8_queryText : utf8 link.queryText = utf8 (serialize link.query) := by
  have hkey := encodeComponent_of_kept (isKept_of_hexdigit link.key_chars)
  have hport := encodeComponent_of_kept (isKept_of_hexdigit (isHexdigit_port link.port))
  have hkeyName : encodeComponent (utf8 "key") ++ [0x3D] = utf8 "key=" := by decide
  have hportName : 0x26 :: (encodeComponent (utf8 "localPort") ++ [0x3D]) = utf8 "&localPort=" := by decide
  rw [serialize, utf8_ofAscii fun b hb => mem_serializeBytes hb, queryText, utf8_append, utf8_append, utf8_append,
    ← hkeyName, ← hportName]
  simp only [serializeBytes, query, List.map_cons, List.map_nil, encodePair, hkey, hport, List.intercalate_cons_cons,
    List.intercalate_singleton, List.append_assoc, List.cons_append, List.nil_append]

/-! ### The profile -/

/-- The profile that a link becomes, from either place of the room. -/
def profile (id : Uuid) : VpnProfile where
  id := id
  name := link.name
  protocol := .olcRtc
  server := link.room
  port := 443
  auth := { password := some link.key }
  extra := [("key", .string link.key), ("localPort", .string (toString link.port.toNat))]

theorem room_not_blank : isBlank link.room = false := by
  refine isBlank_eq_false link.room_ne fun c hc => ?_
  have hchar := link.room_chars c hc
  simp only [isRoomChar, isAsciiDigit, Bool.or_eq_true, Bool.and_eq_true, decide_eq_true_eq, beq_iff_eq, Char.le_def,
    UInt32.le_iff_toNat_le] at hchar
  obtain (((⟨hlow, hhigh⟩ | ⟨hlow, hhigh⟩) | ⟨hlow, hhigh⟩) | rfl) | rfl := hchar
  · exact isWhitespace_of_visible (lt_of_lt_of_le (by decide) hlow) (lt_of_le_of_lt hhigh (by decide))
  · exact isWhitespace_of_visible (lt_of_lt_of_le (by decide) hlow) (lt_of_le_of_lt hhigh (by decide))
  · exact isWhitespace_of_visible (lt_of_lt_of_le (by decide) hlow) (lt_of_le_of_lt hhigh (by decide))
  · decide
  · decide

/-- No room begins with a slash, so only the one before it is dropped. -/
theorem path_room : trimStartMatches ("/" ++ link.room) "/" = link.room := by
  refine trimStartMatches_append fun hslash => ?_
  have hmem : '/' ∈ link.room.toList := hslash.subset (by decide)
  exact absurd (link.room_chars '/' hmem) (by decide)

/-- The room is found in both places, whatever its name. -/
theorem parseOlcrtcRoomId_url (place : RoomPlace) : parseOlcrtcRoomId (link.url place) link.query = .ok link.room := by
  have hquery : (link.query.lookup "roomId").filter (fun value => !isBlank value) = none := rfl
  have hblank := link.room_not_blank
  unfold parseOlcrtcRoomId
  rw [hquery]
  dsimp only
  cases place with
  | host =>
    have hpath : trimStartMatches (link.url .host).path "/" = "" := by
      simp only [url]
      decide
    have hhost : (link.url .host).host.getD "" = link.room := rfl
    simp only [hpath, hhost, ne_eq, not_true_eq_false, and_false, if_false, hblank]
    rfl
  | path =>
    have hpath : trimStartMatches (link.url .path).path "/" = link.room := link.path_room
    have hhost : (link.url .path).host.getD "" = "wb_stream" := rfl
    simp only [hpath, hhost, ne_eq, true_or, link.room_ne, not_false_eq_true, and_self, if_true, hblank]
    rfl

theorem isBlank_key : isBlank link.key = false := by
  refine isBlank_eq_false (fun hempty => ?_) fun c hc => ?_
  · have hlength := link.key_length
    rw [hempty] at hlength
    cases hlength
  · have hrange := toNat_of_isAsciiHexdigit (link.key_chars c hc)
    exact isWhitespace_of_visible (by omega) (by omega)

theorem isSharedKey_key : Protocols.isSharedKey link.key := by
  have hsize := utf8ByteSize_of_isAsciiHexdigit link.key_chars
  rw [link.key_length] at hsize
  exact ⟨hsize, List.all_eq_true.mpr link.key_chars⟩

theorem name_not_blank : isBlank link.name = false :=
  isBlank_eq_false link.name_ne fun c hc => isWhitespace_of_isNameChar (link.name_chars c hc)

section Reading
variable {crates : Crates} (hform : crates.ParsesForms)
include hform

theorem queryMap_url (place : RoomPlace) : queryMap crates (link.url place) = link.query := by
  obtain ⟨decode, hdecode, hparse⟩ := hform
  have hpairs : FormUrlencoded.parse decode (utf8 link.queryText) = link.query := by
    rw [link.utf8_queryText, parse_serialize hdecode]
  have hmap : Assoc.ofPairs link.query = link.query := rfl
  rw [queryMap, hparse]
  exact (congrArg Assoc.ofPairs hpairs).trans hmap

theorem fragmentName_url (place : RoomPlace) : fragmentName crates (link.url place) = some link.name := by
  have hdecoded := percentDecode_fragment hform link.name_ne link.name_chars
  simp only [fragmentName, url, Option.map_some, hdecoded]
  rw [Option.filter_some, if_pos (by simp [link.name_not_blank])]

theorem importServer_text (place : RoomPlace) (hurl : crates.parseUrl (link.text place) = .ok (link.url place)) (id : Uuid) :
    importServer crates id (link.text place) = .ok { profile := link.profile id, warnings := [] } := by
  have hscheme : IsUrlScheme "olcrtc://" := by decide
  rw [← link.trim_text place] at hurl
  obtain ⟨hreads, hne⟩ := reads_of_scheme hscheme (prefix_append _ _) hurl
  have hprofile : profileOfUrl crates id (link.url place) = .ok (link.profile id) := by
    refine (profileOfUrl_eq_ok_iff crates).mpr ⟨.olcRtc, link.room, rfl, ?_, ?_⟩
    · rw [serverOf, if_pos rfl, link.queryMap_url hform, link.parseOlcrtcRoomId_url]
    · rw [link.queryMap_url hform, link.fragmentName_url hform]
      rfl
  cases hreads with
  | uri _ hvmess hshadowsocks hurl => exact importServer_of_url crates hne hvmess hshadowsocks hurl hprofile

end Reading

/-! ### What the profile is used for -/

theorem profile_valid (id : Uuid) : (Protocols.validate (link.profile id)).valid = true := by
  rw [Protocols.validate_valid]
  have hport : (443 : UInt16) ≠ 0 := by decide
  exact ⟨⟨link.name_not_blank, link.room_not_blank, hport⟩, ⟨⟨link.key, rfl, link.isSharedKey_key⟩, rfl⟩, fun h => nomatch h⟩

/-- The client's configuration has the room, the key and the port of the link. -/
theorem fromProfile_profile (id : Uuid) : OlcRtcConfig.fromProfile (link.profile id) = .ok {
    provider := "wb_stream", roomId := link.room, keyHex := link.key, localHost := "127.0.0.1", localPort := link.port,
    displayName := link.name } := by
  have hkey : stringExtra (link.profile id) "key" = some link.key := by
    have hextra : ((link.profile id).extra.lookup "key").bind Value.asStr = some link.key := rfl
    rw [stringExtra, hextra, Option.filter_some, if_pos (by simp [link.isBlank_key])]
  have hport : u16Extra (link.profile id) "localPort" = some link.port := parseU16_toString link.port
  refine OlcRtcConfig.fromProfile_eq_ok_iff.mpr ⟨rfl, link.room_not_blank, link.key, ?_, link.isSharedKey_key, ?_⟩
  · rw [hkey, Option.some_or]
  · rw [hport]
    rfl

theorem outbound_profile (id : Uuid) : outboundForProfile (link.profile id) = .ok (localProxy ("127.0.0.1", link.port)) := by
  have hendpoint : localSocksEndpoint (link.profile id) = .ok ("127.0.0.1", link.port) := by
    rw [localSocksEndpoint, link.fromProfile_profile id]
    rfl
  exact outbound_olcRtc rfl hendpoint

end RoomLink

/-- A link is imported as a valid profile, from which the client takes room, key and port,
and the configuration has the client's proxy as its outbound, for every target. -/
theorem room_link_survives {crates : Crates} (hform : crates.ParsesForms) (link : RoomLink) (place : RoomPlace)
    (hurl : crates.parseUrl (link.text place) = .ok (link.url place)) (id : Uuid) (os : TargetOs)
    (options : ConnectOptions) :
    ∃ imported client config outbound, importServer crates id (link.text place) = .ok imported ∧
      (Protocols.validate imported.profile).valid = true ∧
      OlcRtcConfig.fromProfile imported.profile = .ok client ∧
      (client.roomId = link.room ∧ client.keyHex = link.key ∧ client.localHost = "127.0.0.1" ∧
        client.localPort = link.port) ∧
      generateSingBoxConfig os { options with profile := imported.profile } = .ok config ∧
      proxyOutboundOf config = some outbound ∧ outbound.get "type" = .string "socks" ∧
      outbound.get "server" = .string "127.0.0.1" ∧ outbound.get "server_port" = .nat link.port.toNat := by
  have hvalid := link.profile_valid id
  obtain ⟨config, hconfig, hproxy⟩ := generate_proxyOutbound os { options with profile := link.profile id } hvalid
    (link.outbound_profile id) rfl
  exact ⟨_, _, config, _, link.importServer_text hform place hurl id, hvalid, link.fromProfile_profile id,
    ⟨rfl, rfl, rfl, rfl⟩, hconfig, hproxy, rfl, rfl, rfl⟩

/-- A room with the name of the provider. -/
def providerRoom : RoomLink where
  room := "wb_stream"
  key := keyA
  port := 18080
  name := "WB"
  room_ne := by decide
  room_chars := List.all_eq_true.mp (by decide)
  key_length := by decide
  key_chars := List.all_eq_true.mp (by decide)
  port_ne := by decide
  name_ne := by decide
  name_chars := List.all_eq_true.mp (by decide)

def roomCrates : Crates := tableCrates [(providerRoom.text .path, providerRoom.url .path)] []

theorem room_link_survives_provider : ∃ imported client config outbound,
    importServer roomCrates 1 (providerRoom.text .path) = .ok imported ∧
      (Protocols.validate imported.profile).valid = true ∧
      OlcRtcConfig.fromProfile imported.profile = .ok client ∧
      (client.roomId = "wb_stream" ∧ client.keyHex = keyA ∧ client.localHost = "127.0.0.1" ∧
        client.localPort = 18080) ∧
      generateSingBoxConfig .windows { profile := imported.profile } = .ok config ∧
      proxyOutboundOf config = some outbound ∧ outbound.get "type" = .string "socks" ∧
      outbound.get "server" = .string "127.0.0.1" ∧ outbound.get "server_port" = .nat 18080 := by
  have hurl : roomCrates.parseUrl (providerRoom.text .path) = .ok (providerRoom.url .path) :=
    tableCrates_parseUrl List.lookup_cons_self
  have hform : roomCrates.ParsesForms := tableCrates_parsesForms _ _
  exact room_link_survives hform providerRoom .path hurl 1 .windows { profile := sampleProfile }

end TauriVpn.Import
