import TauriVpn.Import.Authority

/-! Shadowsocks links. The method and the password stand before the host: as they are, the
password escaped; as base64 together with the host; or as base64 alone. What is not found
decoded is decoded, but nothing is percent-decoded. -/

namespace TauriVpn.Import

open FormUrlencoded Userinfo

/-- The base64 library takes canonical texts of the standard alphabet. -/
def Crates.DecodesBase64 (crates : Crates) : Prop :=
  ∀ text bytes, crates.decodeBase64 text = .ok bytes ↔ text = Base64.encodePadded .standard bytes

theorem toList_colon : ":".toList = [':'] := by decide

/-- A text is split at its first colon. -/
theorem splitOnce_colon_iff {s method password : String} : splitOnce s ':' = some (method, password) ↔
    s = method ++ ":" ++ password ∧ ':' ∉ method.toList := by
  have hcolon : String.singleton ':' = ":" := by decide
  rw [splitOnce_eq_some_iff, hcolon]

/-! ### What `decode_base64` takes -/

/-- The digits of the URL-safe alphabet are those of the standard one. -/
def normalized (input : String) : String := replaceChar (replaceChar input '-' '+') '_' '/'

def missingPadding (text : String) : ℕ := (4 - text.utf8ByteSize % 4) % 4

theorem toList_normalized (input : String) : (normalized input).toList =
    input.toList.map fun c => if c = '-' then '+' else if c = '_' then '/' else c := by
  rw [normalized, replaceChar, replaceChar, String.toList_ofList, String.toList_ofList, List.map_map]
  refine List.map_congr_left fun c _ => ?_
  dsimp only [Function.comp_apply]
  by_cases hminus : c = '-'
  · rw [if_pos hminus, if_pos hminus]
    rfl
  · rw [if_neg hminus, if_neg hminus]

section Decode
variable {crates : Crates}

/-- The library is given the text with its padding. -/
theorem decodeBase64_eq_mapError (input : String) : decodeBase64 crates input =
    (crates.decodeBase64 (String.ofList ((normalized input).toList ++
      List.replicate (missingPadding (normalized input)) '='))).mapError
        fun error => .importFailed ("invalid base64: " ++ error) := by
  unfold decodeBase64
  rw [← normalized]
  generalize normalized input = text
  unfold missingPadding
  dsimp only
  split
  case _ hzero => rw [hzero, List.replicate_zero, List.append_nil, String.ofList_toList]
  case _ hrest =>
    have hne : text.utf8ByteSize % 4 ≠ 0 := hrest
    have hmissing : (4 - text.utf8ByteSize % 4) % 4 = 4 - text.utf8ByteSize % 4 := by omega
    rw [hmissing, String.ofList_append, String.ofList_toList]

/-- Bytes that are taken for a text are its bytes. -/
theorem utf8_of_textOf {what s : String} {bytes : List UInt8} (h : textOf crates what bytes = .ok s) :
    utf8 s = bytes := by
  unfold textOf at h
  cases htext : fromUtf8 bytes with
  | none =>
    rw [htext] at h
    cases h
  | some text =>
    rw [htext] at h
    cases h
    exact utf8_of_fromUtf8 htext

theorem textOf_utf8 (what s : String) : textOf crates what (utf8 s) = .ok s := by
  rw [textOf, fromUtf8_utf8]

variable (hdecodes : crates.DecodesBase64)
include hdecodes

/-- The text is decoded once it has the padding that its length asks for. -/
theorem decodeBase64_eq_ok_iff {input : String} {bytes : List UInt8} : decodeBase64 crates input = .ok bytes ↔
    (normalized input).toList ++ List.replicate (missingPadding (normalized input)) '=' =
      Base64.encodeChars .standard bytes ++ Base64.padding bytes := by
  rw [decodeBase64_eq_mapError, Succeeds.mapError_eq_ok, hdecodes, Base64.encodePadded, String.ofList_inj]

/-- Text of either alphabet without padding is read back. -/
theorem decodeBase64_encode (a : Base64.Alphabet) (bytes : List UInt8) :
    decodeBase64 crates (Base64.encode a bytes) = .ok bytes := by
  have hchars : (normalized (Base64.encode a bytes)).toList = Base64.encodeChars .standard bytes := by
    rw [toList_normalized, Base64.encode, String.toList_ofList]
    refine Base64.map_encodeChars ?_ bytes
    cases a <;> decide
  have hascii : ∀ n < 64, (Base64.Alphabet.standard.digit n).toNat < 0x80 := by decide
  have hsize : (normalized (Base64.encode a bytes)).utf8ByteSize = (bytes.length * 4 + 2) / 3 := by
    rw [← String.ofList_toList (s := normalized (Base64.encode a bytes)), hchars,
      utf8ByteSize_of_ascii (Base64.forall_mem_encodeChars hascii bytes), Base64.length_encodeChars]
  have hmissing : (4 - (bytes.length * 4 + 2) / 3 % 4) % 4 = (3 - bytes.length % 3) % 3 := by
    obtain h | h | h : bytes.length % 3 = 0 ∨ bytes.length % 3 = 1 ∨ bytes.length % 3 = 2 := by omega
    · omega
    · omega
    · omega
  rw [decodeBase64_eq_ok_iff hdecodes, hchars, missingPadding, hsize, Base64.padding, hmissing]

/-- Text with a percent sign is refused. -/
theorem no_percent_of_decodeBase64 {input : String} {bytes : List UInt8} (h : decodeBase64 crates input = .ok bytes) :
    '%' ∉ input.toList := by
  intro hmem
  rw [decodeBase64_eq_ok_iff hdecodes, toList_normalized] at h
  have hin : '%' ∈ Base64.encodeChars .standard bytes ++ Base64.padding bytes := by
    rw [← h]
    exact List.mem_append_left _ (List.mem_map.mpr ⟨'%', hmem, rfl⟩)
  have hdigits : ∀ n < 64, Base64.Alphabet.standard.digit n ≠ '%' := by decide
  have hnone : ∀ c ∈ Base64.encodeChars .standard bytes, c ≠ '%' := Base64.forall_mem_encodeChars hdigits bytes
  obtain hdigit | hpad := List.mem_append.mp hin
  · exact hnone '%' hdigit rfl
  · exact absurd (List.eq_of_mem_replicate hpad) (by decide)

/-- There are no more bytes than digits. -/
theorem length_le_of_decodeBase64 {input : String} {bytes : List UInt8} (h : decodeBase64 crates input = .ok bytes) :
    bytes.length ≤ input.toList.length := by
  rw [decodeBase64_eq_ok_iff hdecodes] at h
  have hlength := congrArg List.length h
  have hcount := congrArg (List.count '=') h
  have hdigits : ∀ c ∈ Base64.encodeChars .standard bytes, c ≠ '=' :=
    Base64.forall_mem_encodeChars Base64.digit_ne_pad bytes
  have hnone : List.count '=' (Base64.encodeChars .standard bytes) = 0 :=
    List.count_eq_zero.mpr fun hmem => hdigits '=' hmem rfl
  rw [toList_normalized] at hlength hcount
  simp only [List.length_append, List.length_map, List.length_replicate, Base64.length_encodeChars,
    Base64.length_padding] at hlength
  simp only [List.count_append, hnone, Base64.padding, List.count_replicate_self] at hcount
  omega

end Decode

/-! ### Servers and their links -/

structure ShadowsocksServer where
  method : String
  password : String
  host : String
  port : UInt16
  method_chars : ':' ∉ method.toList
  host_chars : '#' ∉ host.toList

namespace ShadowsocksServer
variable (server : ShadowsocksServer)

def credentials : String := server.method ++ ":" ++ server.password

/-- A user part with the host and the port. -/
def address (userinfo : String) : String :=
  userinfo ++ "@" ++ server.host ++ ":" ++ toString server.port.toNat

/-- The URL of an address, by the parts of its user part. -/
def url (user password : String) : Url :=
  ({ scheme := "ss", host := some server.host, port := some server.port } : Url).withUser user password

/-- The link is imported with all that the server is. -/
def IsImported (crates : Crates) (id : Uuid) (link : String) : Prop :=
  ∃ imported, importServer crates id link = .ok imported ∧
    imported.profile.auth.method = some server.method ∧ imported.profile.auth.password = some server.password ∧
    imported.profile.server = server.host ∧ imported.profile.port = server.port

end ShadowsocksServer

/-- The text of a link between its scheme and its name. -/
def mainOf (link : String) : String :=
  match splitOnce (trimStartMatches link "ss://") '#' with
  | some (main, _) => main
  | none => trimStartMatches link "ss://"

def nameOf (crates : Crates) (link : String) : String :=
  match splitOnce (trimStartMatches link "ss://") '#' with
  | some (_, fragment) => percentDecode crates fragment
  | none => "Shadowsocks"

section Link
variable {crates : Crates} {main : String}

/-- A link that ends with a visible character is a Shadowsocks link and nothing else. -/
theorem importServer_shadowsocks (hne : main ≠ "") (hlast : ∀ c ∈ main.toList.getLast?, isWhitespace c = false)
    (id : Uuid) : importServer crates id ("ss://" ++ main) =
      parseShadowsocks crates id ("ss://" ++ main) >>= fun profile => pure { profile, warnings := [] } := by
  have htrim : trim ("ss://" ++ main) = "ss://" ++ main :=
    trim_append (by decide) (isWhitespace_of_all (by decide)) hne hlast
  have hshadowsocks := startsWith_append "ss://" main
  have hvmess : startsWith ("ss://" ++ main) "vmess://" = false := by
    rw [← Bool.not_eq_true, startsWith, List.isPrefixOf_iff_prefix]
    exact fun hbegins => absurd (List.prefix_or_prefix_of_prefix hbegins (prefix_append _ _)) (by decide)
  have hnonempty : ("ss://" ++ main) ≠ "" := by simp
  simp only [importServer, htrim, hvmess, hshadowsocks]
  rw [if_neg hnonempty]
  simp only [Bool.false_eq_true, if_false, if_true]

/-- The main part is what follows the scheme, up to the name. -/
theorem mainOf_append (hbegins : ¬"ss://".toList <+: main.toList) (hfragment : '#' ∉ main.toList) :
    mainOf ("ss://" ++ main) = main := by
  rw [mainOf, trimStartMatches_append hbegins, splitOnce_eq_none hfragment]

/-- The profile of a link, once its main part is decoded and read as a URL. -/
theorem parseShadowsocks_eq_ok_iff {link decoded : String} {url : Url}
    (hdecoded : shadowsocksMain crates (mainOf link) = .ok decoded) (hurl : crates.parseUrl ("ss://" ++ decoded) = .ok url)
    {id : Uuid} {profile : VpnProfile} :
    parseShadowsocks crates id link = .ok profile ↔ ∃ userinfo method password,
      shadowsocksUserinfo crates url = .ok userinfo ∧ splitOnce userinfo ':' = some (method, password) ∧
      profile = {
        id
        name := nameOf crates link
        protocol := .shadowsocks
        server := url.host.getD ""
        port := url.port.getD 8388
        auth := { password := some password, method := some method } } := by
  have hparse : parseShadowsocks crates id link = (shadowsocksUserinfo crates url >>= fun userinfo =>
      (splitOnce userinfo ':').elim (.error (.importFailed "shadowsocks method:password is required"))
        fun parts => .ok {
          id
          name := nameOf crates link
          protocol := .shadowsocks
          server := url.host.getD ""
          port := url.port.getD 8388
          auth := { password := some parts.2, method := some parts.1 } }) := by
    have hparsed : (crates.parseUrl ("ss://" ++ decoded)).mapError VpnError.importFailed = .ok url := by
      rw [hurl]
      rfl
    unfold parseShadowsocks
    unfold mainOf at hdecoded
    unfold nameOf
    cases hsplit : splitOnce (trimStartMatches link "ss://") '#' with
    | none =>
      simp only [hsplit] at hdecoded
      simp only [hsplit]
      rw [Succeeds.bind_of_eq_ok hdecoded, Succeeds.bind_of_eq_ok hparsed]
      refine bind_congr fun userinfo => ?_
      cases splitOnce userinfo ':' <;> rfl
    | some parts =>
      simp only [hsplit] at hdecoded
      simp only [hsplit]
      rw [Succeeds.bind_of_eq_ok hdecoded, Succeeds.bind_of_eq_ok hparsed]
      refine bind_congr fun userinfo => ?_
      cases splitOnce userinfo ':' <;> rfl
  rw [hparse]
  constructor
  · intro h
    obtain ⟨userinfo, huserinfo, hrest⟩ := Succeeds.bind_eq_ok h
    cases hparts : splitOnce userinfo ':' with
    | none =>
      rw [hparts] at hrest
      cases hrest
    | some parts =>
      rw [hparts] at hrest
      exact ⟨userinfo, parts.1, parts.2, huserinfo, hparts, (Except.ok.inj hrest).symm⟩
  · rintro ⟨userinfo, method, password, huserinfo, hparts, rfl⟩
    rw [Succeeds.bind_of_eq_ok huserinfo, hparts]
    rfl

end Link

namespace ShadowsocksServer
section Address
variable {crates : Crates} (server : ShadowsocksServer) (userinfo : String)

theorem toList_address : (server.address userinfo).toList = userinfo.toList ++ '@' ::
    (server.host.toList ++ ':' :: (toString server.port.toNat).toList) := by
  have hat : "@".toList = ['@'] := by decide
  rw [address]
  simp only [String.toList_append, hat, toList_colon, List.append_assoc, List.cons_append, List.nil_append]

theorem address_ne : server.address userinfo ≠ "" := fun hempty => by
  have hchars := server.toList_address userinfo
  rw [hempty] at hchars
  have hlength := congrArg List.length hchars
  simp at hlength

/-- An address ends with a digit of the port. -/
theorem address_last : ∀ c ∈ (server.address userinfo).toList.getLast?, isWhitespace c = false := by
  intro c hc
  have hport : (toString server.port.toNat).toList ≠ [] := by
    rw [Nat.toString_eq_repr, Nat.toList_repr]
    exact Nat.toDigits_ne_nil
  rw [address, String.toList_append, List.getLast?_append_of_ne_nil _ hport] at hc
  exact isWhitespace_of_digit (isAsciiDigit_of_mem_repr (List.mem_of_getLast? hc))

theorem address_fragment {userinfo : String} (h : '#' ∉ userinfo.toList) : '#' ∉ (server.address userinfo).toList := by
  rw [toList_address]
  simp only [List.mem_append, List.mem_cons, not_or]
  refine ⟨h, by decide, server.host_chars, by decide, fun hdigit => ?_⟩
  exact absurd (isAsciiDigit_of_mem_repr hdigit) (by decide)

theorem shadowsocksMain_address : shadowsocksMain crates (server.address userinfo) = .ok (server.address userinfo) := by
  have hat : containsChar (server.address userinfo) '@' = true := by
    rw [containsChar, toList_address]
    simp
  rw [shadowsocksMain, if_pos hat]
  rfl

end Address

section Userinfo
variable {crates : Crates} {server : ShadowsocksServer} {user password : String}

theorem colon_notMem_parsed (s : String) : ':' ∉ (parsed s).toList := (kept_parsed s).notMem (by decide) (by decide)

/-- With a password the user part is taken as it is. -/
theorem userinfo_of_password (h : parsed password ≠ "") :
    shadowsocksUserinfo crates (server.url user password) = .ok (parsed user ++ ":" ++ parsed password) := by
  have hcontains : containsChar (parsed user ++ (":" ++ parsed password)) ':' = true := by
    rw [containsChar, String.toList_append, String.toList_append, toList_colon]
    simp
  rw [shadowsocksUserinfo, url, withUser_username, withUser_password, if_neg h, Option.map_some, Option.getD_some,
    if_pos hcontains, String.append_assoc]
  rfl

/-- Without one it is decoded. -/
theorem userinfo_of_no_password (h : parsed password = "") : shadowsocksUserinfo crates (server.url user password) =
    decodeBase64 crates (parsed user) >>= textOf crates "invalid shadowsocks credentials: " := by
  have hcontains : ¬containsChar (parsed user ++ "") ':' = true := by
    rw [String.append_empty, containsChar]
    simpa using colon_notMem_parsed user
  rw [shadowsocksUserinfo, url, withUser_username, withUser_password, if_pos h, Option.map_none, Option.getD_none,
    if_neg hcontains, String.append_empty]

theorem splitOnce_credentials (server : ShadowsocksServer) :
    splitOnce server.credentials ':' = some (server.method, server.password) :=
  splitOnce_colon_iff.mpr ⟨rfl, server.method_chars⟩

/-- Credentials that are apart are those of the server just when both parts are. -/
theorem eq_credentials_iff {method password : String} (hmethod : ':' ∉ method.toList) :
    method ++ ":" ++ password = server.credentials ↔ method = server.method ∧ password = server.password := by
  constructor
  · intro h
    have hsplit : splitOnce server.credentials ':' = some (method, password) :=
      splitOnce_colon_iff.mpr ⟨h.symm, hmethod⟩
    rw [splitOnce_credentials] at hsplit
    obtain ⟨hmethods, hpasswords⟩ := Prod.mk.inj (Option.some.inj hsplit)
    exact ⟨hmethods.symm, hpasswords.symm⟩
  · rintro ⟨rfl, rfl⟩
    rfl

/-- A link is imported as the server just when the importer arrives at its credentials. -/
theorem isImported_iff {main decoded : String} (hne : main ≠ "")
    (hlast : ∀ c ∈ main.toList.getLast?, isWhitespace c = false) (hbegins : ¬"ss://".toList <+: main.toList)
    (hfragment : '#' ∉ main.toList) (hdecoded : shadowsocksMain crates main = .ok decoded)
    (hurl : crates.parseUrl ("ss://" ++ decoded) = .ok (server.url user password)) (id : Uuid) :
    server.IsImported crates id ("ss://" ++ main) ↔
      shadowsocksUserinfo crates (server.url user password) = .ok server.credentials := by
  rw [← mainOf_append hbegins hfragment] at hdecoded
  constructor
  · rintro ⟨imported, himport, hmethod, hpassword, -, -⟩
    rw [importServer_shadowsocks hne hlast] at himport
    obtain ⟨profile, hprofile, hreturn⟩ := Succeeds.bind_eq_ok himport
    cases hreturn
    obtain ⟨userinfo, method, secret, huserinfo, hparts, rfl⟩ :=
      (parseShadowsocks_eq_ok_iff hdecoded hurl).mp hprofile
    rw [huserinfo, (splitOnce_colon_iff.mp hparts).1, Option.some.inj hmethod, Option.some.inj hpassword]
    rfl
  · intro h
    have hprofile := (@parseShadowsocks_eq_ok_iff crates _ _ _ hdecoded hurl id _).mpr
      ⟨_, _, _, h, server.splitOnce_credentials, rfl⟩
    have himport := (importServer_shadowsocks hne hlast id).trans (Succeeds.bind_of_eq_ok hprofile _)
    refine ⟨_, himport, rfl, rfl, ?_, ?_⟩
    · change (server.url user password).host.getD "" = server.host
      rw [url, withUser_host]
      rfl
    · change (server.url user password).port.getD 8388 = server.port
      rw [url, withUser_port]
      rfl

end Userinfo

/-! ### Plain and legacy links -/

/-- The method, the escaped password and the host. -/
def plainMain (server : ShadowsocksServer) : String :=
  server.address (server.method ++ ":" ++ escaped server.password)

/-- The method, the password and the host in base64. -/
def legacyMain (server : ShadowsocksServer) (a : Base64.Alphabet) : String :=
  Base64.encode a (utf8 (server.address server.credentials))

/-- What follows the scheme where the scheme stands once more. -/
theorem of_nested {chars : List Char} (h : "ss://".toList <+: chars) :
    chars.takeWhile (· ≠ ':') = ['s', 's'] ∧ ∃ rest, chars.dropWhile (· ≠ ':') = ':' :: '/' :: rest := by
  obtain ⟨rest, rfl⟩ := h
  exact ⟨rfl, '/' :: rest, rfl⟩

section Plain
variable {crates : Crates} {server : ShadowsocksServer}

theorem plainMain_not_nested (hpassword : server.password ≠ "") : ¬"ss://".toList <+: server.plainMain.toList := by
  intro hnested
  obtain ⟨-, rest, hdrop⟩ := of_nested hnested
  have hall : ∀ d ∈ server.method.toList, decide (d ≠ ':') = true := fun d hd => by
    simpa using fun heq : d = ':' => server.method_chars (heq ▸ hd)
  rw [plainMain, toList_address, String.toList_append, String.toList_append, toList_colon, List.append_assoc,
    List.append_assoc, List.dropWhile_append_of_pos hall, List.singleton_append,
    List.dropWhile_cons_of_neg (by decide)] at hdrop
  cases hchars : (escaped server.password).toList with
  | nil => exact encode_ne_empty isUnreserved_ascii hpassword (String.toList_eq_nil_iff.mp hchars)
  | cons c cs =>
    rw [hchars, List.cons_append] at hdrop
    have hslash : c = '/' := (List.cons.inj (List.cons.inj hdrop).2).1
    have hmem : '/' ∈ (escaped server.password).toList := by
      rw [hchars, hslash]
      exact List.mem_cons_self
    exact (kept_escaped _).notMem (by decide) (by decide) hmem

/-- A plain link gives the method as the parser writes it, and the password escaped. -/
theorem plain_iff (hmethod : '#' ∉ server.method.toList) (hpassword : server.password ≠ "")
    (hurl : crates.parseUrl ("ss://" ++ server.plainMain) = .ok (server.url server.method (escaped server.password)))
    (id : Uuid) : server.IsImported crates id ("ss://" ++ server.plainMain) ↔
      Kept isUserinfoByte server.method ∧ Kept isUnreserved server.password := by
  have hescaped : '#' ∉ (escaped server.password).toList := (kept_escaped _).notMem (by decide) (by decide)
  have hfragment : '#' ∉ (server.method ++ ":" ++ escaped server.password).toList := by
    simp only [String.toList_append, toList_colon, List.mem_append, List.mem_singleton, not_or]
    exact ⟨⟨hmethod, by decide⟩, hescaped⟩
  have hsecret : parsed (escaped server.password) ≠ "" := by
    rw [parsed_escaped]
    exact encode_ne_empty isUnreserved_ascii hpassword
  refine (isImported_iff (server.address_ne _) (server.address_last _) (plainMain_not_nested hpassword)
    (server.address_fragment hfragment) (server.shadowsocksMain_address _) hurl id).trans ?_
  rw [userinfo_of_password hsecret, Except.ok.injEq, eq_credentials_iff (colon_notMem_parsed _), parsed_escaped,
    parsed_eq_self_iff, escaped_eq_self_iff]

end Plain

section Legacy
variable {crates : Crates} (hdecodes : crates.DecodesBase64) {server : ShadowsocksServer} (a : Base64.Alphabet)

theorem toList_encode (bytes : List UInt8) : (Base64.encode a bytes).toList = Base64.encodeChars a bytes :=
  String.toList_ofList

/-- Digits are visible, and none is a separator. -/
theorem digit_plain : ∀ n < 64, isWhitespace (a.digit n) = false ∧ a.digit n ≠ '#' ∧ a.digit n ≠ ':' ∧ a.digit n ≠ '@' := by
  cases a <;> decide

theorem encode_plain (bytes : List UInt8) : ∀ c ∈ (Base64.encode a bytes).toList,
    isWhitespace c = false ∧ c ≠ '#' ∧ c ≠ ':' ∧ c ≠ '@' := by
  rw [toList_encode]
  exact Base64.forall_mem_encodeChars (digit_plain a) bytes

theorem encode_ne {bytes : List UInt8} (h : bytes ≠ []) : Base64.encode a bytes ≠ "" := by
  intro hempty
  have hlength := congrArg (fun t => t.toList.length) hempty
  have hpos := List.length_pos_iff.mpr h
  simp only [toList_encode, Base64.length_encodeChars, String.toList_empty, List.length_nil] at hlength
  omega

include hdecodes

theorem shadowsocksMain_encode (s : String) : shadowsocksMain crates (Base64.encode a (utf8 s)) = .ok s := by
  have hat : ¬containsChar (Base64.encode a (utf8 s)) '@' = true := by
    rw [containsChar, List.contains_iff_mem]
    exact fun hmem => (encode_plain a _ '@' hmem).2.2.2 rfl
  rw [shadowsocksMain, if_neg hat, Succeeds.bind_of_eq_ok (decodeBase64_encode hdecodes a _), textOf_utf8]

/-- A legacy link gives the method and the password as the parser writes them. -/
theorem legacy_iff (hpassword : server.password ≠ "")
    (hurl : crates.parseUrl ("ss://" ++ server.address server.credentials) =
      .ok (server.url server.method server.password))
    (id : Uuid) : server.IsImported crates id ("ss://" ++ server.legacyMain a) ↔
      Kept isUserinfoByte server.method ∧ Kept isUserinfoByte server.password := by
  have hbegins : ¬"ss://".toList <+: (server.legacyMain a).toList := fun hnested =>
    (encode_plain a _ ':' (hnested.subset (by decide))).2.2.1 rfl
  refine (isImported_iff (encode_ne a (utf8_ne_nil (server.address_ne _)))
    (fun c hc => (encode_plain a _ c (List.mem_of_getLast? hc)).1) hbegins (fun hmem => (encode_plain a _ '#' hmem).2.1 rfl)
    (shadowsocksMain_encode hdecodes a _) hurl id).trans ?_
  by_cases hsecret : parsed server.password = ""
  · -- nothing is left of the password, and the method alone is too short to hold both
    refine iff_of_false (fun h => ?_) fun hkept => hpassword ((parsed_eq_self_iff.mpr hkept.2).symm.trans hsecret)
    rw [userinfo_of_no_password hsecret] at h
    obtain ⟨bytes, hbytes, htext⟩ := Succeeds.bind_eq_ok h
    have hle := length_le_of_decodeBase64 hdecodes hbytes
    have hmethod := length_parsed_le (no_percent_of_decodeBase64 hdecodes hbytes)
    have hlonger : server.method.toList.length < (utf8 server.credentials).length := by
      refine lt_of_lt_of_le ?_ (length_le_utf8 _)
      simp only [credentials, String.toList_append, toList_colon, List.length_append, List.length_singleton]
      omega
    rw [utf8_of_textOf htext] at hlonger
    omega
  · rw [userinfo_of_password hsecret, Except.ok.injEq, eq_credentials_iff (colon_notMem_parsed _), parsed_eq_self_iff,
      parsed_eq_self_iff]

/-- Links of both kinds are imported as the server just when the parser keeps the method as
it is and the password too: in a plain link its escaping has to leave it alone, in a legacy
link the parser. -/
theorem imported_iff (hmethod : ∀ c ∈ server.method.toList, c ∉ ['@', '/', '?', '#', '%']) (hpassword : server.password ≠ "")
    (hplain : crates.parseUrl ("ss://" ++ server.plainMain) = .ok (server.url server.method (escaped server.password)))
    (hlegacy : (∀ c ∈ server.password.toList, c ∉ ['/', '?', '#', '%']) →
      crates.parseUrl ("ss://" ++ server.address server.credentials) = .ok (server.url server.method server.password))
    (id : Uuid) :
    (server.IsImported crates id ("ss://" ++ server.plainMain) ↔
      Kept isUserinfoByte server.method ∧ Kept isUnreserved server.password) ∧
    ((∀ c ∈ server.password.toList, c ∉ ['/', '?', '#', '%']) → ∀ a,
      (server.IsImported crates id ("ss://" ++ server.legacyMain a) ↔
        Kept isUserinfoByte server.method ∧ Kept isUserinfoByte server.password)) := by
  have hhash : '#' ∉ server.method.toList := fun hmem => hmethod '#' hmem (by decide)
  exact ⟨plain_iff hhash hpassword hplain id, fun hchars a => legacy_iff hdecodes a hpassword (hlegacy hchars) id⟩

end Legacy

end ShadowsocksServer

/-! ### Two passwords -/

def sampleShadowsocks (password : String) : ShadowsocksServer where
  method := "aes-256-gcm"
  password := password
  host := "example.com"
  port := 8388
  method_chars := by decide
  host_chars := by decide

theorem tableCrates_decodesBase64 (urls : List (String × Url)) (jsons : List (String × Value)) :
    (tableCrates urls jsons).DecodesBase64 := by
  intro text bytes
  rw [← Base64.decode_eq_some_iff]
  dsimp only [tableCrates]
  cases Base64.decode text with
  | none => simp
  | some bytes => simp

section Sample
variable (server : ShadowsocksServer)

/-- The libraries, as far as the plain link needs them. -/
def plainCrates : Crates :=
  tableCrates [("ss://" ++ server.plainMain, server.url server.method (escaped server.password))] []

theorem plainCrates_parseUrl : (plainCrates server).parseUrl ("ss://" ++ server.plainMain) =
    .ok (server.url server.method (escaped server.password)) := by
  rw [plainCrates, tableCrates_parseUrl List.lookup_cons_self]

/-- A password that nothing is escaped in stands alike in both links. -/
theorem plainCrates_legacy (h : escaped server.password = server.password) :
    (plainCrates server).parseUrl ("ss://" ++ server.address server.credentials) =
      .ok (server.url server.method server.password) := by
  have hplain := plainCrates_parseUrl server
  rwa [ShadowsocksServer.plainMain, h] at hplain

end Sample

/-- A password of letters is read from a plain link and from a legacy one. -/
theorem imported_letters :
    (sampleShadowsocks "secret").IsImported (plainCrates (sampleShadowsocks "secret")) 1
        ("ss://" ++ (sampleShadowsocks "secret").plainMain) ∧
      (sampleShadowsocks "secret").IsImported (plainCrates (sampleShadowsocks "secret")) 1
        ("ss://" ++ (sampleShadowsocks "secret").legacyMain .standard) := by
  have hescaped : escaped (sampleShadowsocks "secret").password = (sampleShadowsocks "secret").password :=
    escaped_eq_self_iff.mpr (by decide)
  obtain ⟨hplain, hlegacy⟩ := ShadowsocksServer.imported_iff (tableCrates_decodesBase64 _ _)
    (notMem_of_all (by decide)) (by decide) (plainCrates_parseUrl (sampleShadowsocks "secret"))
    (fun _ => plainCrates_legacy _ hescaped) 1
  exact ⟨hplain.mpr (by decide), (hlegacy (notMem_of_all (by decide)) .standard).mpr (by decide)⟩

/-- An escaped password with an `@` is not read back. -/
theorem escaped_password_kept : ¬(sampleShadowsocks "p@ss").IsImported (plainCrates (sampleShadowsocks "p@ss")) 1
    ("ss://" ++ (sampleShadowsocks "p@ss").plainMain) := by
  rw [ShadowsocksServer.plain_iff (by decide) (by decide) (plainCrates_parseUrl _)]
  decide

end TauriVpn.Import
