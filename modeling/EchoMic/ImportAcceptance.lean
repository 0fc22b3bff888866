import EchoMic.DecimalTexts
import EchoMic.WireGuardImport
import Mathlib.Data.List.ReduceOption

/-!
# Imported configurations and the firmware

The importer and `httpSet` validate the same fields with different code.
This file proves for which imports every request is accepted and stored as
it was parsed.
-/

namespace EchoMic

open ByteSearch Splitting TextPatterns

/-! ## Characters that `setv` keeps -/

theorem isWhiteSpace_of_visible {char : Char} (low : 33 ≤ char.toNat) (high : char.toNat ≤ 126) :
    isWhiteSpace char = false := by
  rw [Bool.eq_false_iff]
  intro white
  simp only [isWhiteSpace, isLineTerminator, decide_eq_true_eq, Char.le_def,
    UInt32.le_iff_toNat_le] at white
  have value : char.val.toNat = char.toNat := rfl
  rcases white with (rfl | rfl | rfl | rfl) | rfl | rfl | rfl | rfl | rfl | rfl | ⟨above, -⟩ |
    rfl | rfl | rfl | rfl
  all_goals first
    | exact absurd low (by decide)
    | exact absurd high (by decide)
    | skip
  rw [value] at above
  exact absurd high (Nat.not_le_of_lt (Nat.lt_of_lt_of_le (by decide) above))

/-- A character that `setv` neither trims nor replaces. -/
def IsPlain (char : Char) : Prop :=
  isWhiteSpace char = false ∧ char ≠ ','

theorem isPlain_of_visible {char : Char} (low : 33 ≤ char.toNat) (high : char.toNat ≤ 126)
    (notComma : char.toNat ≠ 44) : IsPlain char := by
  refine ⟨isWhiteSpace_of_visible low high, ?_⟩
  rintro rfl
  exact notComma rfl

theorem isPlain_of_isDigit {char : Char} (digit : char.isDigit = true) : IsPlain char := by
  have bounds := isDigit_iff.mp digit
  exact isPlain_of_visible (by omega) (by omega) (by omega)

theorem isPlain_of_isBase64Char {char : Char} (base64 : isBase64Char char = true) :
    IsPlain char := by
  simp only [isBase64Char, decide_eq_true_eq, Char.le_def, UInt32.le_iff_toNat_le] at base64
  rcases base64 with ⟨low, high⟩ | ⟨low, high⟩ | digit | rfl | rfl
  · exact isPlain_of_visible (Nat.le_trans (by decide) low) (Nat.le_trans high (by decide))
      (Nat.ne_of_gt (Nat.lt_of_lt_of_le (by decide) low))
  · exact isPlain_of_visible (Nat.le_trans (by decide) low) (Nat.le_trans high (by decide))
      (Nat.ne_of_gt (Nat.lt_of_lt_of_le (by decide) low))
  · exact isPlain_of_isDigit digit
  · exact ⟨by decide, by decide⟩
  · exact ⟨by decide, by decide⟩

theorem length_replaceFirst (old new : Char) (text : List Char) :
    (replaceFirst old new text).length = text.length := by
  by_cases present : old ∈ text
  · obtain ⟨before, after, rfl, absent⟩ := List.eq_append_cons_of_mem present
    rw [replaceFirst, splitFirst_append absent]
    simp
  · rw [replaceFirst_of_notMem present]

theorem setv_of_trimmed (key : String) {value : List Char} (trimmed : IsTrimmed value)
    (nonempty : value ≠ []) : setv key value = some (key, replaceFirst ',' '.' value) := by
  have kept : replaceFirst ',' '.' value ≠ [] := by
    intro empty
    have length := length_replaceFirst ',' '.' value
    rw [empty] at length
    exact nonempty (List.eq_nil_of_length_eq_zero length.symm)
  rw [setv, trimmed]
  exact if_neg kept

theorem setv_of_plain (key : String) {value : List Char}
    (plain : ∀ char ∈ value, IsPlain char) (nonempty : value ≠ []) :
    setv key value = some (key, value) := by
  have trimmed := isTrimmed_of_noWhiteSpace fun char member => (plain char member).1
  have noComma : ',' ∉ value := fun member => (plain ',' member).2 rfl
  rw [setv_of_trimmed key trimmed nonempty, replaceFirst_of_notMem noComma]

/-! ## What the patterns accept -/

theorem plain_of_isBase64Key {key : List Char} (valid : isBase64Key key = true) :
    (∀ char ∈ key, IsPlain char) ∧ key ≠ [] := by
  obtain ⟨body, ending, rfl, bodyMatches, endingMatches⟩ :=
    Pattern.matchesText_seq_iff.mp valid
  obtain ⟨-, -, allowed⟩ := Pattern.matchesText_run_iff.mp bodyMatches
  rw [Pattern.matchesText_literal_iff.mp endingMatches]
  refine ⟨fun char member => ?_, by simp⟩
  rcases List.mem_append.mp member with inBody | inEnding
  · exact isPlain_of_isBase64Char (allowed char inBody)
  · rw [List.mem_singleton.mp inEnding]
    exact ⟨by decide, by decide⟩

/-- Four groups of digits with dots between them. -/
def quadText (a b c d : List Char) : List Char :=
  a ++ '.' :: (b ++ '.' :: (c ++ '.' :: d))

theorem exists_quad_of_addr {addr : List Char}
    (valid : ipv4CidrPattern.matchesText addr = true) :
    ∃ a b c d bits, addr = quadText a b c d ++ '/' :: bits ∧
      IsDecimal 1 3 a ∧ IsDecimal 1 3 b ∧ IsDecimal 1 3 c ∧ IsDecimal 1 3 d ∧
      IsDecimal 1 2 bits := by
  obtain ⟨a, groups, rfl, aDigits, groupsMatch⟩ := Pattern.matchesText_seq_iff.mp valid
  obtain ⟨quads, ending, rfl, quadsMatch, endingMatches⟩ :=
    Pattern.matchesText_seq_iff.mp groupsMatch
  obtain ⟨second, others, rfl, secondMatches, othersMatch⟩ :=
    Pattern.matchesText_seq_iff.mp quadsMatch
  obtain ⟨third, fourth, rfl, thirdMatches, fourthMatches⟩ :=
    Pattern.matchesText_seq_iff.mp othersMatch
  have group {symbol : Char} {low high : Nat} {text : List Char}
      (isGroup : (Pattern.seq (.literal symbol)
        (.run Char.isDigit low (some high))).matchesText text = true) :
      ∃ digits, text = symbol :: digits ∧ IsDecimal low high digits := by
    obtain ⟨dot, digits, rfl, isDot, isDigits⟩ := Pattern.matchesText_seq_iff.mp isGroup
    rw [Pattern.matchesText_literal_iff.mp isDot]
    exact ⟨digits, rfl, matchesText_digits_iff.mp isDigits⟩
  obtain ⟨b, rfl, bDigits⟩ := group secondMatches
  obtain ⟨c, rfl, cDigits⟩ := group thirdMatches
  obtain ⟨d, rfl, dDigits⟩ := group fourthMatches
  obtain ⟨bits, rfl, bitsDigits⟩ := group endingMatches
  refine ⟨a, b, c, d, bits, ?_, matchesText_digits_iff.mp aDigits, bDigits, cDigits, dDigits,
    bitsDigits⟩
  simp [quadText]

theorem exists_port_of_endp {endp : List Char}
    (valid : endpointPattern.matchesText endp = true) :
    ∃ host port, endp = host ++ ':' :: port ∧ host ≠ [] ∧ IsDecimal 1 5 port := by
  obtain ⟨host, ending, rfl, hostMatches, endingMatches⟩ :=
    Pattern.matchesText_seq_iff.mp valid
  obtain ⟨colon, port, rfl, isColon, portDigits⟩ := Pattern.matchesText_seq_iff.mp endingMatches
  obtain ⟨atLeast, -⟩ := Pattern.matchesText_unbounded_iff.mp hostMatches
  rw [Pattern.matchesText_literal_iff.mp isColon]
  exact ⟨host, port, rfl, List.ne_nil_of_length_pos atLeast, matchesText_digits_iff.mp portDigits⟩

/-! ## What the firmware accepts -/

/-- `IPAddress::fromString` on four groups of one to three digits. -/
def ReadsDottedQuads (fromString : String → Option IPAddress) : Prop :=
  ∀ a b c d, IsDecimal 1 3 a → IsDecimal 1 3 b → IsDecimal 1 3 c → IsDecimal 1 3 d →
    ((fromString (String.ofList (quadText a b c d))).isSome = true ↔
      decimal a ≤ 255 ∧ decimal b ≤ 255 ∧ decimal c ≤ 255 ∧ decimal d ≤ 255)

def addressOctets (addr : List Char) : List Nat :=
  (splitAll '.' (addr.takeWhile (· ≠ '/'))).map decimal

def addressPrefix (addr : List Char) : Nat :=
  decimal ((addr.dropWhile (· ≠ '/')).drop 1)

def endpointPort (endp : List Char) : Nat :=
  match splitLast ':' endp with
  | none => 0
  | some (_, port) => decimal port

def AddressFits (addr : List Char) : Prop :=
  (∀ octet ∈ addressOctets addr, octet ≤ 255) ∧
    1 ≤ addressPrefix addr ∧ addressPrefix addr ≤ 32

instance (addr : List Char) : Decidable (AddressFits addr) :=
  inferInstanceAs (Decidable (_ ∧ _))

def EndpointFits (endp : List Char) : Prop :=
  ',' ∉ endp ∧ 1 ≤ endpointPort endp ∧ endpointPort endp ≤ 65535

instance (endp : List Char) : Decidable (EndpointFits endp) :=
  inferInstanceAs (Decidable (_ ∧ _))

/-- The address and the endpoint of the file are within the ranges of the
firmware, and no comma is replaced on the way. -/
structure FitsFirmware (conf : WgConf) : Prop where
  address : AddressFits (firstIpv4Cidr (conf.iface.get "address"))
  endpoint : EndpointFits ((conf.peers.getLast?.getD []).get "endpoint")

theorem notMem_quadText {a b c d : List Char} {char : Char} (notDot : char ≠ '.')
    (first : char ∉ a) (second : char ∉ b) (third : char ∉ c) (fourth : char ∉ d) :
    char ∉ quadText a b c d := by
  simp [quadText, notDot, first, second, third, fourth]

theorem splitAll_quadText {a b c d : List Char} (aDigits : IsDecimal 1 3 a)
    (bDigits : IsDecimal 1 3 b) (cDigits : IsDecimal 1 3 c) (dDigits : IsDecimal 1 3 d) :
    splitAll '.' (quadText a b c d) = [a, b, c, d] := by
  rw [quadText, splitAll_append (aDigits.notMem rfl), splitAll_append (bDigits.notMem rfl),
    splitAll_append (cDigits.notMem rfl), splitAll_of_notMem (dDigits.notMem rfl)]

/-- The tunnel address is accepted exactly when its numbers are in range. -/
theorem parseTunnelAddress_isSome_iff {fromString : String → Option IPAddress}
    (reads : ReadsDottedQuads fromString) {addr : List Char}
    (valid : ipv4CidrPattern.matchesText addr = true) :
    (parseTunnelAddress fromString (String.ofList addr)).isSome = true ↔ AddressFits addr := by
  obtain ⟨a, b, c, d, bits, rfl, aDigits, bDigits, cDigits, dDigits, bitsDigits⟩ :=
    exists_quad_of_addr valid
  have noSlash : '/' ∉ quadText a b c d :=
    notMem_quadText (by decide) (aDigits.notMem rfl) (bDigits.notMem rfl) (cDigits.notMem rfl)
      (dDigits.notMem rfl)
  have otherThanSlash : ∀ char ∈ quadText a b c d, decide (char ≠ '/') = true := by
    intro char member
    rw [decide_eq_true_eq]
    rintro rfl
    exact noSlash member
  have before : (quadText a b c d ++ '/' :: bits).takeWhile (· ≠ '/') = quadText a b c d := by
    rw [List.takeWhile_append_of_pos otherThanSlash]
    simp
  have after : (quadText a b c d ++ '/' :: bits).dropWhile (· ≠ '/') = '/' :: bits := by
    rw [List.dropWhile_append_of_pos otherThanSlash]
    simp
  have octets : addressOctets (quadText a b c d ++ '/' :: bits) =
      [decimal a, decimal b, decimal c, decimal d] := by
    rw [addressOctets, before, splitAll_quadText aDigits bDigits cDigits dDigits]
    rfl
  have bitsValue : addressPrefix (quadText a b c d ++ '/' :: bits) = decimal bits := by
    rw [addressPrefix, after]
    rfl
  rw [parseTunnelAddress, String.toList_ofList, splitFirst_append noSlash]
  simp only [toInt_decimal bitsDigits (by decide), AddressFits, octets, bitsValue]
  split
  · rename_i outOfRange
    simp only [Option.isSome_none, Bool.false_eq_true, false_iff]
    omega
  · rename_i inRange
    rw [Option.isSome_map, reads a b c d aDigits bDigits cDigits dDigits]
    simp only [List.mem_cons, List.not_mem_nil, or_false, forall_eq_or_imp, forall_eq]
    omega

theorem wgEndpointRequest_eq {host port : List Char} (hostGiven : host ≠ [])
    (portDigits : IsDecimal 1 5 port) :
    wgEndpointRequest (String.ofList (host ++ ':' :: port)) =
      if 1 ≤ decimal port ∧ decimal port ≤ 65535 then
        .call (.setEndpoint (String.ofList host) (UInt16.ofInt (decimal port)))
      else .invalidPort := by
  have split : splitLast ':' (host ++ ':' :: port) = some (host, port) :=
    splitLast_eq_some_iff.mpr ⟨rfl, portDigits.notMem rfl⟩
  have sameRange : (0 < (decimal port : Int) ∧ (decimal port : Int) < 65536) ↔
      (1 ≤ decimal port ∧ decimal port ≤ 65535) := by
    omega
  rw [wgEndpointRequest, String.toList_ofList, split]
  simp only [if_neg hostGiven, toInt_decimal portDigits (by decide), sameRange]

theorem parseInt_decimal {low high : Nat} {digits : List Char}
    (isDecimal : IsDecimal low high digits) (nonempty : digits ≠ []) :
    parseInt digits = some (decimal digits : Int) := by
  have noSpace : digits.dropWhile isWhiteSpace = digits := by
    cases digits with
    | nil => rfl
    | cons char chars =>
        have plain := isPlain_of_isDigit (isDecimal.digit char List.mem_cons_self)
        exact List.dropWhile_cons_of_neg (by simp [plain.1])
  have allDigits : digits.takeWhile Char.isDigit = digits :=
    List.takeWhile_eq_self_iff.mpr isDecimal.digit
  rw [parseInt, noSpace]
  split
  · exact absurd List.mem_cons_self (isDecimal.notMem (by rfl : '-'.isDigit = false))
  · exact absurd List.mem_cons_self (isDecimal.notMem (by rfl : '+'.isDigit = false))
  · simp only [allDigits, if_neg nonempty]

/-! ## One request -/

/-- The field that a key sets has the value that was parsed.  The endpoint is
split at its last colon. -/
def StoresParsed (values : ImportValues) (key : String) (config : WgConfig) : Prop :=
  match key with
  | "wg_priv" => config.privateKey = String.ofList values.priv
  | "wg_tunaddr" => config.tunnelAddress = String.ofList values.addr
  | "wg_srvpub" => config.serverPublicKey = String.ofList values.pub
  | "wg_endpoint" =>
      ∃ port, splitLast ':' values.endp = some (config.endpointHost.toList, port) ∧
        parseInt port = some (config.endpointPort.toNat : Int)
  | "wg_keepalive" => values.ka = some (config.keepalive.toNat : Int)
  | _ => False

/-- `httpSet` accepts the request and stores what was parsed, in memory and
in the flash. -/
def RequestApplied (fromString : String → Option IPAddress) (values : ImportValues)
    (request : String × List Char) : Prop :=
  ∃ call, wgRequest request.1 (some (String.ofList request.2)) = .call call ∧
    ∀ outside wg,
      let next := wgCall fromString outside wg call
      StoresParsed values request.1 next.config ∧ next.prefs.config = next.config

/-- Every request of the import is applied, and the stored tunnel address is
accepted. -/
def ImportApplied (fromString : String → Option IPAddress) (values : ImportValues) : Prop :=
  (∀ request ∈ wgImportApply values, RequestApplied fromString values request) ∧
    (parseTunnelAddress fromString (String.ofList values.addr)).isSome = true

section Request

variable {fromString : String → Option IPAddress} {values : ImportValues}

theorem ofList_ne_empty {text : List Char} (nonempty : text ≠ []) : String.ofList text ≠ "" := by
  intro empty
  have lists := congrArg String.toList empty
  rw [String.toList_ofList] at lists
  exact nonempty lists

/-- A request that changes the configuration to what was parsed is applied. -/
theorem requestApplied_of_changeConfig {key : String} {value : List Char} {call : WgCall}
    (asked : wgRequest key (some (String.ofList value)) = .call call) (reason : String)
    (update : WgConfig → WgConfig)
    (changes : ∀ outside wg,
      wgCall fromString outside wg call = changeConfig reason (update wg.config) outside wg)
    (stores : ∀ config, StoresParsed values key (update config)) :
    RequestApplied fromString values (key, value) := by
  refine ⟨call, asked, fun outside wg => ?_⟩
  obtain ⟨config, prefs⟩ := changeConfig_spec reason (update wg.config) outside wg
  simp only [changes, config, prefs]
  exact ⟨stores wg.config, trivial⟩

theorem requestApplied_priv (nonempty : values.priv ≠ []) :
    RequestApplied fromString values ("wg_priv", values.priv) := by
  have asked : wgRequest "wg_priv" (some (String.ofList values.priv)) =
      .call (.setPrivateKey (String.ofList values.priv)) := by
    simp [wgRequest, ofList_ne_empty nonempty]
  apply requestApplied_of_changeConfig asked "private key changed" fun config =>
    { config with privateKey := String.ofList values.priv }
  · exact fun _ _ => rfl
  · exact fun _ => rfl

theorem requestApplied_tunaddr (nonempty : values.addr ≠ []) :
    RequestApplied fromString values ("wg_tunaddr", values.addr) := by
  have asked : wgRequest "wg_tunaddr" (some (String.ofList values.addr)) =
      .call (.setTunnelAddress (String.ofList values.addr)) := by
    simp [wgRequest, ofList_ne_empty nonempty]
  apply requestApplied_of_changeConfig asked "tunnel address changed" fun config =>
    { config with tunnelAddress := String.ofList values.addr }
  · exact fun _ _ => rfl
  · exact fun _ => rfl

theorem requestApplied_srvpub (nonempty : values.pub ≠ []) :
    RequestApplied fromString values ("wg_srvpub", values.pub) := by
  have asked : wgRequest "wg_srvpub" (some (String.ofList values.pub)) =
      .call (.setServerPublicKey (String.ofList values.pub)) := by
    simp [wgRequest, ofList_ne_empty nonempty]
  apply requestApplied_of_changeConfig asked "server public key changed" fun config =>
    { config with serverPublicKey := String.ofList values.pub }
  · exact fun _ _ => rfl
  · exact fun _ => rfl

theorem isDecimal_toDigits {seconds : Nat} (small : seconds ≤ 65535) :
    IsDecimal 1 5 (Nat.toDigits 10 seconds) where
  low_le := Nat.length_toDigits_pos
  le_high := (Nat.length_toDigits_le_iff (by decide) (by decide)).mpr (by omega)
  digit := fun char member => Nat.isDigit_of_mem_toDigits (by decide) (by decide) member

theorem requestApplied_keepalive {seconds : Nat} (parsed : values.ka = some (seconds : Int))
    (small : seconds ≤ 65535) :
    RequestApplied fromString values ("wg_keepalive", Nat.toDigits 10 seconds) := by
  have number : argToUInt (some (String.ofList (Nat.toDigits 10 seconds))) =
      some (UInt32.ofInt seconds) := by
    rw [argToUInt, Option.map_some, toInt_decimal (isDecimal_toDigits small) (by decide),
      decimal_toDigits]
  have word : (UInt32.ofInt seconds).toNat = seconds := by
    rw [UInt32.ofInt, UInt32.toNat_ofNat']
    omega
  have inRange : UInt32.ofInt seconds ≤ 65535 := by
    rw [UInt32.le_iff_toNat_le, word]
    exact small
  have asked : wgRequest "wg_keepalive" (some (String.ofList (Nat.toDigits 10 seconds))) =
      .call (.setKeepalive (UInt32.ofInt seconds).toUInt16) := by
    simp only [wgRequest, wgKeepaliveRequest, number, if_pos inRange]
  apply requestApplied_of_changeConfig asked "keepalive changed" fun config =>
    { config with keepalive := (UInt32.ofInt seconds).toUInt16 }
  · exact fun _ _ => rfl
  · intro config
    have same : seconds % 2 ^ 16 = seconds := by
      omega
    simp only [StoresParsed]
    rw [parsed, UInt32.toNat_toUInt16, word, same]

/-- What the firmware is asked for an endpoint. -/
theorem wgRequest_endpoint {host port : List Char} (hostGiven : host ≠ [])
    (portDigits : IsDecimal 1 5 port) :
    wgRequest "wg_endpoint" (some (String.ofList (host ++ ':' :: port))) =
      if 1 ≤ decimal port ∧ decimal port ≤ 65535 then
        .call (.setEndpoint (String.ofList host) (UInt16.ofInt (decimal port)))
      else .invalidPort := by
  have given : String.ofList (host ++ ':' :: port) ≠ "" := ofList_ne_empty (by simp)
  rw [← wgEndpointRequest_eq hostGiven portDigits]
  simp only [wgRequest, Option.getD_some, if_neg given]

theorem requestApplied_endpoint {host port : List Char} (endp : values.endp = host ++ ':' :: port)
    (hostGiven : host ≠ []) (portDigits : IsDecimal 1 5 port)
    (inRange : 1 ≤ decimal port ∧ decimal port ≤ 65535) :
    RequestApplied fromString values ("wg_endpoint", values.endp) := by
  have parsedSplit : splitLast ':' values.endp = some (host, port) :=
    splitLast_eq_some_iff.mpr ⟨endp, portDigits.notMem rfl⟩
  have portGiven : port ≠ [] := List.ne_nil_of_length_pos portDigits.low_le
  have word : (UInt16.ofInt (decimal port)).toNat = decimal port := by
    rw [UInt16.ofInt, UInt16.toNat_ofNat']
    omega
  have asked : wgRequest "wg_endpoint" (some (String.ofList values.endp)) =
      .call (.setEndpoint (String.ofList host) (UInt16.ofInt (decimal port))) := by
    rw [endp, wgRequest_endpoint hostGiven portDigits, if_pos inRange]
  apply requestApplied_of_changeConfig asked "endpoint changed" fun config =>
    { config with
      endpointHost := String.ofList host
      endpointPort := UInt16.ofInt (decimal port) }
  · exact fun _ _ => rfl
  · intro config
    refine ⟨port, ?_, ?_⟩
    · rw [parsedSplit, String.toList_ofList]
    · rw [parseInt_decimal portDigits portGiven, word]

/-- An endpoint that is applied was sent with its own host and with a port in
range. -/
theorem endpoint_of_requestApplied {host port sent : List Char}
    (endp : values.endp = host ++ ':' :: port) (sentGiven : sent ≠ [])
    (portDigits : IsDecimal 1 5 port)
    (applied : RequestApplied fromString values ("wg_endpoint", sent ++ ':' :: port)) :
    sent = host ∧ 1 ≤ decimal port ∧ decimal port ≤ 65535 := by
  have parsedSplit : splitLast ':' values.endp = some (host, port) :=
    splitLast_eq_some_iff.mpr ⟨endp, portDigits.notMem rfl⟩
  obtain ⟨call, asked, stores⟩ := applied
  rw [wgRequest_endpoint sentGiven portDigits] at asked
  split at asked
  · rename_i inRange
    cases asked
    refine ⟨?_, inRange⟩
    -- Any state shows which host the call stores.
    obtain ⟨⟨other, storedSplit, -⟩, -⟩ :=
      stores (.working 0 .idle) (WireGuardState.powerOn WgPrefs.empty)
    obtain ⟨config, -⟩ := changeConfig_spec "endpoint changed"
      { (WireGuardState.powerOn WgPrefs.empty).config with
        endpointHost := String.ofList sent
        endpointPort := UInt16.ofInt (decimal port) } (.working 0 .idle)
      (WireGuardState.powerOn WgPrefs.empty)
    have storedHost : (wgCall fromString (.working 0 .idle)
        (WireGuardState.powerOn WgPrefs.empty) (.setEndpoint (String.ofList sent)
          (UInt16.ofInt (decimal port)))).config.endpointHost = String.ofList sent :=
      congrArg WgConfig.endpointHost config
    rw [parsedSplit, storedHost, String.toList_ofList] at storedSplit
    cases storedSplit
    rfl
  · cases asked

/-- The endpoint is applied exactly when its port is in range and it has no
comma. -/
theorem requestApplied_endpoint_iff (valid : endpointPattern.matchesText values.endp = true) :
    RequestApplied fromString values ("wg_endpoint", replaceFirst ',' '.' values.endp) ↔
      EndpointFits values.endp := by
  obtain ⟨host, port, endp, hostGiven, portDigits⟩ := exists_port_of_endp valid
  have portValue : endpointPort values.endp = decimal port := by
    rw [endpointPort, splitLast_eq_some_iff.mpr ⟨endp, portDigits.notMem rfl⟩]
  have commaInHost : ',' ∈ values.endp → ',' ∈ host := by
    rw [endp]
    intro member
    rcases List.mem_append.mp member with inHost | inRest
    · exact inHost
    · rcases List.mem_cons.mp inRest with same | inPort
      · cases same
      · exact absurd inPort (portDigits.notMem rfl)
  rw [EndpointFits, portValue]
  by_cases comma : ',' ∈ values.endp
  · obtain ⟨replaced, differs, sameLength, replacement⟩ :=
      exists_replaceFirst (commaInHost comma) (by decide : '.' ≠ ',')
    have replacedGiven : replaced ≠ [] := by
      intro empty
      rw [empty] at sameLength
      exact hostGiven (List.eq_nil_of_length_eq_zero sameLength.symm)
    have sent : replaceFirst ',' '.' values.endp = replaced ++ ':' :: port := by
      rw [endp, replacement]
    constructor
    · intro applied
      rw [sent] at applied
      exact absurd (endpoint_of_requestApplied endp replacedGiven portDigits applied).1 differs
    · intro fits
      exact absurd comma fits.1
  · rw [replaceFirst_of_notMem comma]
    constructor
    · intro applied
      rw [endp] at applied
      exact ⟨comma, (endpoint_of_requestApplied endp hostGiven portDigits applied).2⟩
    · intro fits
      exact requestApplied_endpoint endp hostGiven portDigits fits.2

end Request

/-! ## The whole import -/

theorem mem_wgImportApply_iff {values : ImportValues} {request : String × List Char} :
    request ∈ wgImportApply values ↔
      setv "wg_priv" values.priv = some request ∨ setv "wg_tunaddr" values.addr = some request ∨
        setv "wg_srvpub" values.pub = some request ∨
        setv "wg_endpoint" values.endp = some request ∨
        ∃ ka : Int, values.ka = some ka ∧ (0 ≤ ka ∧ ka ≤ 65535) ∧
          setv "wg_keepalive" (toString ka).toList = some request := by
  rw [wgImportApply, List.reduceOption_mem_iff]
  simp only [List.mem_cons, List.not_mem_nil, or_false, @eq_comm _ (some request)]
  cases values.ka with
  | none => simp
  | some ka =>
      by_cases inRange : 0 ≤ ka ∧ ka ≤ 65535
      · simp [inRange]
      · simp [inRange]

/-- The ranges of the firmware concern two of the values the importer finds. -/
theorem fitsFirmware_iff (text : List Char) :
    FitsFirmware (parseWgConf text) ↔
      AddressFits (wgImportParse text).values.addr ∧
        EndpointFits (wgImportParse text).values.endp :=
  ⟨fun fits => ⟨fits.address, fits.endpoint⟩, fun fits => ⟨fits.1, fits.2⟩⟩

theorem plain_of_addr {addr : List Char} (valid : ipv4CidrPattern.matchesText addr = true) :
    (∀ char ∈ addr, IsPlain char) ∧ addr ≠ [] := by
  obtain ⟨a, b, c, d, bits, rfl, aDigits, bDigits, cDigits, dDigits, bitsDigits⟩ :=
    exists_quad_of_addr valid
  have plain {low high : Nat} {digits : List Char} (isDecimal : IsDecimal low high digits) :
      ∀ char ∈ digits, IsPlain char :=
    fun char member => isPlain_of_isDigit (isDecimal.digit char member)
  have dot : IsPlain '.' := ⟨by decide, by decide⟩
  have slash : IsPlain '/' := ⟨by decide, by decide⟩
  refine ⟨?_, by simp⟩
  simp only [quadText, List.mem_append, List.mem_cons]
  rintro char ((inA | rfl | inB | rfl | inC | rfl | inD) | rfl | inBits)
  · exact plain aDigits char inA
  · exact dot
  · exact plain bDigits char inB
  · exact dot
  · exact plain cDigits char inC
  · exact dot
  · exact plain dDigits char inD
  · exact slash
  · exact plain bitsDigits char inBits

/-- An import without errors is applied exactly when its address and its
endpoint are within the ranges of the firmware and have no comma. -/
theorem importApplied_iff {fromString : String → Option IPAddress}
    (reads : ReadsDottedQuads fromString) (text : List Char)
    (noErrors : (wgImportParse text).errors = []) :
    ImportApplied fromString (wgImportParse text).values ↔
      FitsFirmware (parseWgConf text) := by
  have validated : Validated (wgImportParse text).values := validated_of_noErrors noErrors
  have trimmed : IsTrimmed (wgImportParse text).values.endp := isTrimmed_endp text
  have address := parseTunnelAddress_isSome_iff reads validated.addr
  have endpoint := @requestApplied_endpoint_iff fromString _ validated.endp
  obtain ⟨host, port, endp, -, -⟩ := exists_port_of_endp validated.endp
  have endpointSent := setv_of_trimmed "wg_endpoint" trimmed (by rw [endp]; simp)
  obtain ⟨privPlain, privGiven⟩ := plain_of_isBase64Key validated.priv
  obtain ⟨pubPlain, pubGiven⟩ := plain_of_isBase64Key validated.pub
  obtain ⟨addrPlain, addrGiven⟩ := plain_of_addr validated.addr
  rw [fitsFirmware_iff]
  constructor
  · rintro ⟨requests, accepted⟩
    refine ⟨address.mp accepted, endpoint.mp (requests _ ?_)⟩
    exact mem_wgImportApply_iff.mpr (.inr (.inr (.inr (.inl endpointSent))))
  · rintro ⟨addressFits, endpointFits⟩
    refine ⟨fun request member => ?_, address.mpr addressFits⟩
    rcases mem_wgImportApply_iff.mp member with
      sent | sent | sent | sent | ⟨ka, parsed, ⟨low, high⟩, sent⟩
    · rw [setv_of_plain _ privPlain privGiven] at sent
      cases sent
      exact requestApplied_priv privGiven
    · rw [setv_of_plain _ addrPlain addrGiven] at sent
      cases sent
      exact requestApplied_tunaddr addrGiven
    · rw [setv_of_plain _ pubPlain pubGiven] at sent
      cases sent
      exact requestApplied_srvpub pubGiven
    · rw [endpointSent] at sent
      cases sent
      exact endpoint.mpr endpointFits
    · obtain ⟨seconds, rfl⟩ := Int.eq_ofNat_of_zero_le low
      have small : seconds ≤ 65535 := by
        omega
      have digits : (toString (seconds : Int)).toList = Nat.toDigits 10 seconds :=
        (congrArg String.toList Nat.toString_eq_ofList_toDigits).trans String.toList_ofList
      have plain : ∀ char ∈ Nat.toDigits 10 seconds, IsPlain char :=
        fun char member => isPlain_of_isDigit ((isDecimal_toDigits small).digit char member)
      rw [digits, setv_of_plain _ plain Nat.toDigits_ne_nil] at sent
      cases sent
      exact requestApplied_keepalive parsed small

/-! ## Two files -/

/-- Dotted quads as the platform reads them: four groups of digits, each up
to 255. -/
def readDottedQuad (text : String) : Option IPAddress :=
  let octet (group : List Char) : Bool := group.all Char.isDigit && decimal group ≤ 255
  match splitAll '.' text.toList with
  | [a, b, c, d] =>
      if octet a && octet b && octet c && octet d then
        some ⟨UInt8.ofNat (decimal a), UInt8.ofNat (decimal b), UInt8.ofNat (decimal c),
          UInt8.ofNat (decimal d)⟩
      else none
  | _ => none

theorem reads_readDottedQuad : ReadsDottedQuads readDottedQuad := by
  intro a b c d aDigits bDigits cDigits dDigits
  have octet {group : List Char} (digits : IsDecimal 1 3 group) :
      group.all Char.isDigit = true := List.all_eq_true.mpr digits.digit
  rw [readDottedQuad, String.toList_ofList, splitAll_quadText aDigits bDigits cDigits dDigits]
  simp only [octet aDigits, octet bDigits, octet cDigits, octet dDigits, Bool.true_and,
    Bool.and_eq_true, decide_eq_true_eq, and_assoc]
  split
  · rename_i inRange
    simpa using inRange
  · rename_i outOfRange
    simpa using outOfRange

def importText (addr endp : String) : List Char :=
  "[Interface]\nPrivateKey = ".toList ++ List.replicate 43 'A' ++ "=\nAddress = ".toList ++
    addr.toList ++ "\n[Peer]\nPublicKey = ".toList ++ List.replicate 43 'B' ++
    "=\nEndpoint = ".toList ++ endp.toList ++ "\nPersistentKeepalive = 25\n".toList

/-- What the importer finds in a text of this form. -/
def importResult (addr endp : String) : ImportResult where
  errors := []
  values :=
    { priv := List.replicate 43 'A' ++ ['=']
      addr := addr.toList
      pub := List.replicate 43 'B' ++ ['=']
      endp := endp.toList
      ka := some 25
      psk := false }

theorem wgImportParse_second_address :
    wgImportParse (importText "fd00::2/64, 10.0.0.2/32" "vpn.example:51820") =
      importResult "10.0.0.2/32" "vpn.example:51820" := by
  decide +kernel

theorem importApplied_second_address :
    ImportApplied readDottedQuad
      (wgImportParse (importText "fd00::2/64, 10.0.0.2/32" "vpn.example:51820")).values := by
  have parsed := wgImportParse_second_address
  refine (importApplied_iff reads_readDottedQuad _ ?_).mpr ((fitsFirmware_iff _).mpr ?_)
  · rw [parsed]
    rfl
  · rw [parsed]
    decide +kernel

theorem wgImportParse_refused_port :
    wgImportParse (importText "10.0.0.2/32" "vpn.example:70000") =
      importResult "10.0.0.2/32" "vpn.example:70000" := by
  decide +kernel

/-- The port passes the importer and is refused by the firmware, which has
the other values by then. -/
theorem import_with_refused_endpoint :
    (wgImportParse (importText "10.0.0.2/32" "vpn.example:70000")).errors = [] ∧
      ¬ ImportApplied readDottedQuad
        (wgImportParse (importText "10.0.0.2/32" "vpn.example:70000")).values := by
  rw [wgImportParse_refused_port]
  refine ⟨rfl, fun applied => ?_⟩
  obtain ⟨call, asked, -⟩ := applied.1 ("wg_endpoint", "vpn.example:70000".toList)
    (by decide +kernel)
  have refused : wgRequest "wg_endpoint" (some (String.ofList "vpn.example:70000".toList)) =
      .invalidPort := by
    decide +kernel
  rw [refused] at asked
  cases asked

end EchoMic
