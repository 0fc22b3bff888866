import EchoMic.JsonEscaping
import Mathlib.Data.List.Nodup

/-!
# The document of `/api/wg_status`

The page of the status is put together from fifteen members.  The endpoint
and the key of the server are escaped; the tunnel address is not, and stands
in three members.
-/

namespace EchoMic

open JsonTexts
open Splitting
open TextPatterns
open WireGuardState

/-! ## Texts without escapes -/

def IsVerbatimText (s : String) : Prop :=
  ∀ char ∈ s.toList, IsVerbatim char

instance : DecidablePred IsVerbatimText :=
  fun s => List.decidableBAll IsVerbatim s.toList

section Verbatim

variable {first second : String}

theorem IsVerbatimText.append (firstVerbatim : IsVerbatimText first)
    (secondVerbatim : IsVerbatimText second) :
    IsVerbatimText (first ++ second) := by
  intro char member
  rw [String.toList_append] at member
  exact (List.mem_append.mp member).elim (firstVerbatim char) (secondVerbatim char)

theorem IsVerbatimText.ite {condition : Prop} [Decidable condition]
    (firstVerbatim : IsVerbatimText first) (secondVerbatim : IsVerbatimText second) :
    IsVerbatimText (if condition then first else second) := by
  split
  · exact firstVerbatim
  · exact secondVerbatim

theorem isVerbatim_of_isDigit {char : Char} (digit : char.isDigit = true) : IsVerbatim char :=
  ⟨ne_of_isDigit digit rfl, ne_of_isDigit digit rfl,
    Nat.le_trans (by decide : 0x20 ≤ 48) (isDigit_iff.mp digit).1⟩

theorem isVerbatimText_toString (value : Nat) : IsVerbatimText (toString value) :=
  fun _ member => isVerbatim_of_isDigit (isDigit_of_mem_toString member)

theorem isVerbatimText_formatUptime (seconds : Nat) : IsVerbatimText (formatUptime seconds) := by
  have part (value : Nat) {unit : String} (verbatim : IsVerbatimText unit) :
      IsVerbatimText (toString value ++ unit) :=
    (isVerbatimText_toString value).append verbatim
  have noPart : IsVerbatimText "" := by decide
  have dayUnit : IsVerbatimText "d " := by decide
  have hourUnit : IsVerbatimText "h " := by decide
  have minuteUnit : IsVerbatimText "m " := by decide
  have secondUnit : IsVerbatimText "s" := by decide
  exact ((((part _ dayUnit).ite noPart).append ((part _ hourUnit).ite noPart)).append
    ((part _ minuteUnit).ite noPart)).append (isVerbatimText_toString _) |>.append secondUnit

theorem isVerbatimText_oneDecimal (value : Rat) : IsVerbatimText (oneDecimal value) :=
  ((((by decide : IsVerbatimText "-").ite (by decide)).append (isVerbatimText_toString _)).append
    (by decide)).append (isVerbatimText_toString _)

theorem isVerbatimText_twoDecimals (value : Rat) : IsVerbatimText (twoDecimals value) :=
  (((isVerbatimText_toString _).append (by decide)).append (isVerbatimText_toString _)).append
    (isVerbatimText_toString _)

theorem isVerbatimText_fmtBytes (b : Nat) : IsVerbatimText (fmtBytes b) :=
  ((isVerbatimText_toString b).append (by decide)).ite
    (((isVerbatimText_oneDecimal _).append (by decide)).ite
      (((isVerbatimText_oneDecimal _).append (by decide)).ite
        ((isVerbatimText_twoDecimals _).append (by decide))))

theorem isVerbatimText_wgStateStr (state : WgState) : IsVerbatimText (wgStateStr state) := by
  cases state <;> decide

theorem isVerbatimText_address (ip : IPAddress) : IsVerbatimText ip.toString := by
  have dot : IsVerbatimText "." := by decide
  have parts := (isVerbatimText_toString ip.first.toNat).append dot
  exact (((((parts.append (isVerbatimText_toString ip.second.toNat)).append dot).append
    (isVerbatimText_toString ip.third.toNat)).append dot).append
    (isVerbatimText_toString ip.fourth.toNat))

end Verbatim

/-! ## The members -/

def IsEscapableText (s : String) : Prop :=
  ∀ char ∈ s.toList, IsEscapable char

def boolEntry (name : String) (verbatim : IsVerbatimText name) (value : Bool) : Entry :=
  .ofScalar name.toList (jsonBool value).toList (.bool value) verbatim
    (by cases value <;> decide) (by cases value <;> decide)

def natEntry (name : String) (verbatim : IsVerbatimText name) (value : Nat) : Entry :=
  .ofNat name.toList value verbatim

def stringEntry (name : String) (verbatim : IsVerbatimText name) (text : String)
    (textVerbatim : IsVerbatimText text) : Entry :=
  .ofString name.toList text.toList (utf16Units text.toList) verbatim (reads_verbatim textVerbatim)

def escapedEntry (name : String) (verbatim : IsVerbatimText name) (text : String)
    (escapable : IsEscapableText text) : Entry :=
  .ofString name.toList (text.toList.flatMap escapeChar) (utf16Units text.toList) verbatim
    (reads_escaped escapable)

def handshakeText (peer : PeerStatus) : String :=
  if peer.lastHandshakeMs > 0 then
    formatUptime ((peer.millis - peer.lastHandshakeMs) / 1000).toNat ++ " ago"
  else "never"

def lanUrl (peer : PeerStatus) : String :=
  "rtsp://" ++ peer.localIP.toString ++ ":8554/"

def wgUrl (wg : WireGuardState) : String :=
  if wgTunnelIp wg ≠ "" ∧ wg.state = .up then "rtsp://" ++ wgTunnelIp wg ++ ":8554/" else ""

def shownPrivateKey (wg : WireGuardState) : String :=
  if wg.config.privateKey ≠ "" then "********" else ""

theorem isVerbatimText_handshakeText (peer : PeerStatus) : IsVerbatimText (handshakeText peer) :=
  ((isVerbatimText_formatUptime _).append (by decide)).ite (by decide)

theorem isVerbatimText_lanUrl (peer : PeerStatus) : IsVerbatimText (lanUrl peer) :=
  ((by decide : IsVerbatimText "rtsp://").append (isVerbatimText_address _)).append (by decide)

theorem isVerbatimText_shownPrivateKey (wg : WireGuardState) :
    IsVerbatimText (shownPrivateKey wg) :=
  (by decide : IsVerbatimText "********").ite (by decide)

/-- The members before the tunnel address. -/
def startEntries (peer : PeerStatus) (wg : WireGuardState) : List Entry :=
  [boolEntry "enabled" (by decide) wg.config.enabled,
    stringEntry "state" (by decide) (wgStateStr wg.state) (isVerbatimText_wgStateStr _),
    stringEntry "last_handshake" (by decide) (handshakeText peer) (isVerbatimText_handshakeText _),
    natEntry "rx_bytes" (by decide) peer.rxBytes.toNat,
    natEntry "tx_bytes" (by decide) peer.txBytes.toNat,
    stringEntry "rx_pretty" (by decide) (fmtBytes peer.rxBytes.toNat) (isVerbatimText_fmtBytes _),
    stringEntry "tx_pretty" (by decide) (fmtBytes peer.txBytes.toNat) (isVerbatimText_fmtBytes _)]

/-- The members between the tunnel address and the address of its stream. -/
def middleEntries (peer : PeerStatus) (wg : WireGuardState)
    (endpoint : IsEscapableText (wgEndpointStr wg))
    (key : IsEscapableText wg.config.serverPublicKey) : List Entry :=
  [escapedEntry "endpoint" (by decide) (wgEndpointStr wg) endpoint,
    natEntry "keepalive" (by decide) wg.config.keepalive.toNat,
    stringEntry "private_key" (by decide) (shownPrivateKey wg) (isVerbatimText_shownPrivateKey _),
    escapedEntry "server_public_key" (by decide) wg.config.serverPublicKey key,
    stringEntry "lan_url" (by decide) (lanUrl peer) (isVerbatimText_lanUrl _)]

/-! ## The document -/

@[simp]
theorem memberText_boolEntry (name : String) (verbatim : IsVerbatimText name) (value : Bool) :
    (boolEntry name verbatim value).memberText = memberText name.toList (jsonBool value).toList :=
  rfl

@[simp]
theorem memberText_natEntry (name : String) (verbatim : IsVerbatimText name) (value : Nat) :
    (natEntry name verbatim value).memberText = memberText name.toList (toString value).toList :=
  rfl

@[simp]
theorem memberText_stringEntry (name : String) (verbatim : IsVerbatimText name) (text : String)
    (textVerbatim : IsVerbatimText text) :
    (stringEntry name verbatim text textVerbatim).memberText =
      memberText name.toList (quoted text.toList) :=
  rfl

@[simp]
theorem memberText_escapedEntry (name : String) (verbatim : IsVerbatimText name) (text : String)
    (escapable : IsEscapableText text) :
    (escapedEntry name verbatim text escapable).memberText =
      memberText name.toList (quoted (jsonEscape text).toList) := by
  rw [toList_jsonEscape]
  rfl

section Document

variable (before literal name value : String)

theorem toList_scalarMember (spelled : literal.toList = quoted name.toList ++ [':']) :
    (before ++ literal ++ value ++ ",").toList =
      before.toList ++ (memberText name.toList value.toList ++ [',']) := by
  simp [memberText, quoted, spelled]

theorem toList_stringMember (spelled : literal.toList = quoted name.toList ++ [':', '"']) :
    (before ++ literal ++ value ++ "\",").toList =
      before.toList ++ (memberText name.toList (quoted value.toList) ++ [',']) := by
  simp [memberText, quoted, spelled]

theorem toList_lastMember (spelled : literal.toList = quoted name.toList ++ [':', '"']) :
    (before ++ literal ++ value ++ "\"" ++ "\x7d").toList =
      before.toList ++ (memberText name.toList (quoted value.toList) ++ ['\x7d']) := by
  simp [memberText, quoted, spelled]

end Document

/-- The document, with the tunnel address as it is in three members. -/
theorem toList_httpWgStatus (peer : PeerStatus) (wg : WireGuardState)
    (endpoint : IsEscapableText (wgEndpointStr wg))
    (key : IsEscapableText wg.config.serverPublicKey) :
    (httpWgStatus peer wg).toList =
      '\x7b' :: (entriesText (startEntries peer wg) ++
        (memberText "tunnel_ip".toList (quoted (wgTunnelIp wg).toList) ++ ',' ::
          (memberText "tunnel_addr".toList (quoted wg.config.tunnelAddress.toList) ++ ',' ::
            (entriesText (middleEntries peer wg endpoint key) ++
              (memberText "wg_url".toList (quoted (wgUrl wg).toList) ++ ['\x7d']))))) := by
  have lan (text : String) : text ++ "\"lan_url\":\"" ++ "rtsp://" ++ peer.localIP.toString ++
      ":8554/" ++ "\"," = text ++ "\"lan_url\":\"" ++ lanUrl peer ++ "\"," := by
    simp only [lanUrl, String.append_assoc]
  unfold httpWgStatus
  extract_lets handshake tip url
  rewrite [lan, toList_lastMember _ "\"wg_url\":\"" "wg_url" _ rfl,
    toList_stringMember _ "\"lan_url\":\"" "lan_url" _ rfl,
    toList_stringMember _ "\"server_public_key\":\"" "server_public_key" _ rfl,
    toList_stringMember _ "\"private_key\":\"" "private_key" _ rfl,
    toList_scalarMember _ "\"keepalive\":" "keepalive" _ rfl,
    toList_stringMember _ "\"endpoint\":\"" "endpoint" _ rfl,
    toList_stringMember _ "\"tunnel_addr\":\"" "tunnel_addr" _ rfl,
    toList_stringMember _ "\"tunnel_ip\":\"" "tunnel_ip" _ rfl,
    toList_stringMember _ "\"tx_pretty\":\"" "tx_pretty" _ rfl,
    toList_stringMember _ "\"rx_pretty\":\"" "rx_pretty" _ rfl,
    toList_scalarMember _ "\"tx_bytes\":" "tx_bytes" _ rfl,
    toList_scalarMember _ "\"rx_bytes\":" "rx_bytes" _ rfl,
    toList_stringMember _ "\"last_handshake\":\"" "last_handshake" _ rfl,
    toList_stringMember _ "\"state\":\"" "state" _ rfl,
    toList_scalarMember _ "\"enabled\":" "enabled" _ rfl]
  simp only [startEntries, middleEntries, entriesText_cons, entriesText_nil, memberText_boolEntry,
    memberText_natEntry, memberText_stringEntry, memberText_escapedEntry, List.append_assoc,
    List.cons_append, List.nil_append]
  rfl

/-! ## What the page reads -/

/-- The object has the string under the name, and nothing else. -/
def ReportsString (members : List (List UInt16 × JsonValue)) (name stored : String) : Prop :=
  ∀ value, (utf16Units name.toList, value) ∈ members ↔ value = .string (utf16Units stored.toList)

/-- The body is an object that reports the stored strings. -/
def ReportsSettings (body : String) (wg : WireGuardState) : Prop :=
  ∃ members, parse body.toList = some (.object members) ∧
    ReportsString members "tunnel_addr" wg.config.tunnelAddress ∧
    ReportsString members "endpoint" (wgEndpointStr wg) ∧
    ReportsString members "server_public_key" wg.config.serverPublicKey

def IsPrintable (s : String) : Prop :=
  ∀ char ∈ s.toList, 0x20 ≤ char.toNat ∧ char.toNat < 0x7F

instance : DecidablePred IsPrintable :=
  fun s => List.decidableBAll (fun char : Char => 0x20 ≤ char.toNat ∧ char.toNat < 0x7F) s.toList

theorem IsPrintable.escapable {s : String} (printable : IsPrintable s) : IsEscapableText s :=
  fun char member => .inr (printable char member).1

theorem isEscapable_wgEndpointStr {wg : WireGuardState}
    (host : IsPrintable wg.config.endpointHost) : IsEscapableText (wgEndpointStr wg) := by
  intro char member
  rw [wgEndpointStr, String.toList_append, String.toList_append, List.append_assoc] at member
  rcases List.mem_append.mp member with inHost | inPort
  · exact host.escapable char inHost
  · have port : IsVerbatimText (":" ++ toString wg.config.endpointPort.toNat) :=
      (by decide : IsVerbatimText ":").append (isVerbatimText_toString _)
    exact .inr (port char (by rwa [String.toList_append])).2.2

/-! ## A tunnel address without escapes -/

def statusNames : List String :=
  ["enabled", "state", "last_handshake", "rx_bytes", "tx_bytes", "rx_pretty", "tx_pretty",
    "tunnel_ip", "tunnel_addr", "endpoint", "keepalive", "private_key", "server_public_key",
    "lan_url", "wg_url"]

theorem nodup_statusNames : (statusNames.map fun name => utf16Units name.toList).Nodup := by
  decide

theorem reportsString_of_mem {members : List (List UInt16 × JsonValue)} {name stored : String}
    (names : (members.map Prod.fst).Nodup)
    (member : (utf16Units name.toList, .string (utf16Units stored.toList)) ∈ members) :
    ReportsString members name stored := by
  intro value
  constructor
  · intro other
    have same := List.inj_on_of_nodup_map names other member rfl
    exact (Prod.mk.inj same).2
  · rintro rfl
    exact member

section Verbatim

variable {peer : PeerStatus} {wg : WireGuardState}

theorem mem_tunnelIp {char : Char} (member : char ∈ (wgTunnelIp wg).toList) :
    char ∈ wg.config.tunnelAddress.toList := by
  rw [wgTunnelIp] at member
  split at member
  · cases member
  · rename_i ip rest found
    rw [(splitFirst_eq_some_iff.mp found).1]
    rw [String.toList_ofList] at member
    exact List.mem_append_left _ member

theorem isVerbatimText_wgUrl (address : IsVerbatimText wg.config.tunnelAddress) :
    IsVerbatimText (wgUrl wg) := by
  have ip : IsVerbatimText (wgTunnelIp wg) := fun char member => address char (mem_tunnelIp member)
  exact (((by decide : IsVerbatimText "rtsp://").append ip).append (by decide)).ite (by decide)

theorem reportsSettings_of_verbatim (host : IsPrintable wg.config.endpointHost)
    (key : IsPrintable wg.config.serverPublicKey)
    (address : IsVerbatimText wg.config.tunnelAddress) :
    ReportsSettings (httpWgStatus peer wg) wg := by
  have endpoint := isEscapable_wgEndpointStr host
  have ip : IsVerbatimText (wgTunnelIp wg) := fun char member => address char (mem_tunnelIp member)
  let entries := startEntries peer wg ++
    [stringEntry "tunnel_ip" (by decide) (wgTunnelIp wg) ip,
      stringEntry "tunnel_addr" (by decide) wg.config.tunnelAddress address] ++
    middleEntries peer wg endpoint key.escapable
  let url := stringEntry "wg_url" (by decide) (wgUrl wg) (isVerbatimText_wgUrl address)
  have document : (httpWgStatus peer wg).toList = objectText entries url := by
    rw [toList_httpWgStatus peer wg endpoint key.escapable]
    simp [objectText, entries, url, startEntries]
  have names : ((entries.map Entry.member ++ [url.member]).map Prod.fst).Nodup :=
    nodup_statusNames
  have placed (index : Nat) {name stored : String}
      (there : (entries.map Entry.member ++ [url.member])[index]? =
        some (utf16Units name.toList, .string (utf16Units stored.toList))) :
      ReportsString (entries.map Entry.member ++ [url.member]) name stored :=
    reportsString_of_mem names (List.mem_of_getElem? there)
  -- The places of the three names in `statusNames`.
  exact ⟨_, by rw [document, parse_objectText], placed 8 rfl, placed 9 rfl, placed 12 rfl⟩

/-! ## A tunnel address that leaves its string -/

/-- The address without its prefix length is shorter than the address. -/
theorem length_tunnelIp_lt (notEmpty : wg.config.tunnelAddress.toList ≠ []) :
    (utf16Units (wgTunnelIp wg).toList).length <
      (utf16Units wg.config.tunnelAddress.toList).length := by
  rw [wgTunnelIp]
  split
  · obtain ⟨char, rest, text⟩ := List.exists_cons_of_ne_nil notEmpty
    rw [text, utf16Units_cons, List.length_append]
    exact Nat.lt_of_lt_of_le (length_utf16_pos char) (Nat.le_add_right _ _)
  · rename_i ip rest found
    have slash := length_utf16_pos '/'
    rw [(splitFirst_eq_some_iff.mp found).1, String.toList_ofList, utf16Units_append,
      utf16Units_cons, List.length_append, List.length_append]
    omega

theorem length_wgUrl (wg : WireGuardState) :
    (utf16Units (wgUrl wg).toList).length ≤ (utf16Units (wgTunnelIp wg).toList).length + 13 := by
  rw [wgUrl]
  split
  · have scheme : (utf16Units "rtsp://".toList).length = 7 := by decide
    have port : (utf16Units ":8554/".toList).length = 6 := by decide
    rw [String.toList_append, String.toList_append, utf16Units_append, utf16Units_append,
      List.length_append, List.length_append, scheme, port]
    omega
  · exact Nat.zero_le _

theorem not_mem_of_names {members : List Member} {name : String} {token : Token}
    (names : List String)
    (map : members.map Prod.fst = names.map fun name => utf16Units name.toList)
    (absent : utf16Units name.toList ∉ names.map fun name => utf16Units name.toList) :
    (utf16Units name.toList, token) ∉ members := by
  intro member
  rw [← map] at absent
  exact absent (List.mem_map_of_mem member)

/-- How the document is read when the tunnel address may leave its string. -/
theorem tokens_of_parse {members : List (List UInt16 × JsonValue)}
    (endpoint : IsEscapableText (wgEndpointStr wg))
    (key : IsEscapableText wg.config.serverPublicKey)
    (parsed : parse (httpWgStatus peer wg).toList = some (.object members)) :
    ∃ inIp ip inAddress address inUrl url,
      Reads (.inString []) (wgTunnelIp wg).toList inIp (.inString ip) ∧
      Reads (.inString []) wg.config.tunnelAddress.toList inAddress (.inString address) ∧
      Reads (.inString []) (wgUrl wg).toList inUrl (.inString url) ∧
      parseTokens (.openObject :: (membersTokens ((startEntries peer wg).map Entry.tokens) ++
        .string (utf16Units "tunnel_ip".toList) :: .colon :: (inIp ++ .string ip :: .comma ::
          .string (utf16Units "tunnel_addr".toList) :: .colon ::
            (inAddress ++ .string address :: .comma ::
              (membersTokens ((middleEntries peer wg endpoint key).map Entry.tokens) ++
                .string (utf16Units "wg_url".toList) :: .colon ::
                  (inUrl ++ [.string url, .closeObject]))))))  =
        some (.object members) := by
  obtain ⟨tokens, last, ending, reads, finished, parsed⟩ := exists_reads_of_parse parsed
  rw [toList_httpWgStatus peer wg endpoint key] at reads
  have opening : lexStep .between '\x7b' = some ([.openObject], .between) := rfl
  have start := Reads.cons opening (reads_entries (startEntries peer wg))
  obtain ⟨_, fromIp, rfl⟩ := start.rest reads
  have addressFollows := quoted_prefix_memberText "tunnel_addr".toList
    (quoted wg.config.tunnelAddress.toList)
  have ipName : IsVerbatimText "tunnel_ip" := by decide
  obtain ⟨inIp, ip, _, ipField, fromAddress, rfl⟩ :=
    field_before_name ipName (by decide) (by decide) (addressFollows _) fromIp
  have endpointFollows (rest : List Char) : quoted "endpoint".toList <+:
      entriesText (middleEntries peer wg endpoint key) ++ rest := by
    rw [middleEntries, entriesText_cons, List.append_assoc]
    exact quoted_prefix_memberText _ _ _
  have addressName : IsVerbatimText "tunnel_addr" := by decide
  obtain ⟨inAddress, address, _, addressField, fromEndpoint, rfl⟩ :=
    field_before_name addressName (by decide) (by decide) (endpointFollows _) fromAddress
  obtain ⟨_, fromUrl, rfl⟩ := (reads_entries (middleEntries peer wg endpoint key)).rest fromEndpoint
  have urlName : IsVerbatimText "wg_url" := by decide
  obtain ⟨inUrl, url, urlField, rfl, rfl⟩ := field_before_close urlName fromUrl finished
  refine ⟨inIp, ip, inAddress, address, inUrl, url, ipField, addressField, urlField, ?_⟩
  simpa using parsed

/-- The stored address is in the document as it is only in its own member. -/
theorem isVerbatimText_of_parse {members : List (List UInt16 × JsonValue)}
    (endpoint : IsEscapableText (wgEndpointStr wg))
    (key : IsEscapableText wg.config.serverPublicKey)
    (parsed : parse (httpWgStatus peer wg).toList = some (.object members))
    (member : (utf16Units "tunnel_addr".toList,
      .string (utf16Units wg.config.tunnelAddress.toList)) ∈ members) :
    IsVerbatimText wg.config.tunnelAddress := by
  obtain ⟨inIp, ip, inAddress, address, inUrl, url, ipField, addressField, urlField, parsed⟩ :=
    tokens_of_parse endpoint key parsed
  have isInfix := infix_of_parseTokens parsed member
  by_contra notVerbatim
  have notEmpty : wg.config.tunnelAddress.toList ≠ [] := by
    intro empty
    exact notVerbatim (by simp [IsVerbatimText, empty])
  have shorter := length_tunnelIp_lt notEmpty
  rcases List.infix_cons_iff.mp isInfix with ⟨_, start⟩ | isInfix
  · cases start
  rcases mem_or_infix_of_isInfix isInfix with inStart | isInfix
  · exact not_mem_of_names (statusNames.take 7) rfl (by decide) inStart
  rcases infix_of_field isInfix with inIpField | isInfix
  · have differs : utf16Units "tunnel_addr".toList ≠ utf16Units "tunnel_ip".toList := by decide
    rcases infix_of_infix_cons_cons inIpField with ⟨same, -⟩ | inside
    · exact differs same
    · exact not_mem_field ipField shorter (mem_of_isInfix inside)
  rcases infix_of_field isInfix with inAddressField | isInfix
  · have inside : .string (utf16Units wg.config.tunnelAddress.toList) ∈
        inAddress ++ [.string address] :=
      (infix_of_infix_cons_cons inAddressField).elim And.right mem_of_isInfix
    exact notVerbatim (verbatim_of_mem_field addressField inside)
  rcases mem_or_infix_of_isInfix isInfix with inMiddle | inUrlField
  · exact not_mem_of_names ((statusNames.drop 9).take 5) rfl (by decide) inMiddle
  · have differs : utf16Units "tunnel_addr".toList ≠ utf16Units "wg_url".toList := by decide
    rcases infix_of_infix_cons_cons inUrlField with ⟨same, -⟩ | inside
    · exact differs same
    · have nameLength : (utf16Units "tunnel_addr".toList).length = 11 := by decide
      have part := weight_le_of_isInfix inside
      have total := weight_field urlField
      have urlLength := length_wgUrl wg
      simp only [memberTokens, weight_append, weight_cons, weight_nil, Token.weight,
        nameLength] at part total
      omega

end Verbatim

/-- Of the printable configurations, the page reads those whose tunnel address
has neither a quotation mark nor a backslash. -/
theorem reportsSettings_iff (peer : PeerStatus) (wg : WireGuardState)
    (host : IsPrintable wg.config.endpointHost) (key : IsPrintable wg.config.serverPublicKey)
    (address : IsPrintable wg.config.tunnelAddress) :
    ReportsSettings (httpWgStatus peer wg) wg ↔
      '"' ∉ wg.config.tunnelAddress.toList ∧ '\\' ∉ wg.config.tunnelAddress.toList := by
  constructor
  · rintro ⟨members, parsed, addressReported, -, -⟩
    have verbatim := isVerbatimText_of_parse (isEscapable_wgEndpointStr host) key.escapable parsed
      ((addressReported _).mpr rfl)
    exact ⟨fun quote => (verbatim _ quote).1 rfl, fun backslash => (verbatim _ backslash).2.1 rfl⟩
  · rintro ⟨noQuote, noBackslash⟩
    refine reportsSettings_of_verbatim host key fun char member => ⟨?_, ?_, (address char member).1⟩
    · rintro rfl
      exact noQuote member
    · rintro rfl
      exact noBackslash member

/-- A request to `/api/set` while the tunnel is down. -/
def configured (key value : String) : WireGuardState :=
  let wg := wgLoad (powerOn (storedPrefs "10.0.0.2/24"))
  match wgRequest key (some value) with
  | .call call => wgCall readTunnelIP (.working 10000 .idle) wg call
  | _ => wg

def idlePeer : PeerStatus where
  lastHandshakeMs := 0
  rxBytes := 0
  txBytes := 0
  millis := 10000
  localIP := ⟨192, 168, 1, 7⟩

/-- A quotation mark in the key of the server is escaped. -/
theorem reportsSettings_quotedKey :
    (configured "wg_srvpub" "pub\"lic").config.serverPublicKey = "pub\"lic" ∧
      ReportsSettings (httpWgStatus idlePeer (configured "wg_srvpub" "pub\"lic"))
        (configured "wg_srvpub" "pub\"lic") :=
  ⟨by decide, (reportsSettings_iff idlePeer (configured "wg_srvpub" "pub\"lic") (by decide)
    (by decide) (by decide)).mpr (by decide)⟩

/-- A quotation mark in the tunnel address is not. -/
theorem not_reportsSettings_quotedAddress :
    (configured "wg_tunaddr" "10.0.0.2\"/24").config.tunnelAddress = "10.0.0.2\"/24" ∧
      IsPrintable "10.0.0.2\"/24" ∧
      ¬ ReportsSettings (httpWgStatus idlePeer (configured "wg_tunaddr" "10.0.0.2\"/24"))
        (configured "wg_tunaddr" "10.0.0.2\"/24") := by
  refine ⟨by decide, by decide, ?_⟩
  rintro ⟨members, parsed, addressReported, -, -⟩
  have host : IsPrintable (configured "wg_tunaddr" "10.0.0.2\"/24").config.endpointHost := by
    decide
  have key : IsPrintable (configured "wg_tunaddr" "10.0.0.2\"/24").config.serverPublicKey := by
    decide
  have verbatim := isVerbatimText_of_parse (isEscapable_wgEndpointStr host) key.escapable parsed
    ((addressReported _).mpr rfl)
  have quote : '"' ∈ (configured "wg_tunaddr" "10.0.0.2\"/24").config.tunnelAddress.toList := by
    decide
  exact (verbatim _ quote).1 rfl

end EchoMic
