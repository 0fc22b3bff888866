import EchoMic.WireGuardHandshake

/-!
# Both ends of a handshake

What one device creates is what the other one accepts, and the transcripts of
the two ends stay the same until they derive the session keys from them.
-/

namespace EchoMic

/-! ## Transcripts -/

/-- The chaining key and the hash agree. -/
structure SameTranscript (first second : WireguardHandshake) : Prop where
  chainingKey : first.chainingKey = second.chainingKey
  hash : first.hash = second.hash

namespace SameTranscript

variable {first second : WireguardHandshake}

theorem symm (same : SameTranscript first second) : SameTranscript second first :=
  ⟨same.chainingKey.symm, same.hash.symm⟩

theorem begun (first second : WireguardHandshake) (responderKey : Bytes) :
    SameTranscript (first.begun responderKey) (second.begun responderKey) := by
  constructor <;> simp only [WireguardHandshake.begun]

theorem withEphemeral (same : SameTranscript first second) (ephemeral : Bytes) :
    SameTranscript (first.withEphemeral ephemeral) (second.withEphemeral ephemeral) := by
  constructor
  · simp only [WireguardHandshake.withEphemeral, same.chainingKey]
  · simp only [WireguardHandshake.withEphemeral, same.hash]

theorem withSecret (same : SameTranscript first second) (secret : Bytes) :
    SameTranscript (first.withSecret secret).1 (second.withSecret secret).1 := by
  constructor
  · simp only [WireguardHandshake.withSecret, same.chainingKey]
  · simp only [WireguardHandshake.withSecret, same.hash]

theorem withSecret_key (same : SameTranscript first second) (secret : Bytes) :
    (first.withSecret secret).2 = (second.withSecret secret).2 := by
  simp only [WireguardHandshake.withSecret, same.chainingKey]

theorem withChainedSecret (same : SameTranscript first second) (secret : Bytes) :
    SameTranscript (first.withChainedSecret secret) (second.withChainedSecret secret) := by
  constructor
  · simp only [WireguardHandshake.withChainedSecret, same.chainingKey]
  · simp only [WireguardHandshake.withChainedSecret, same.hash]

theorem withField (same : SameTranscript first second) (encrypted : Bytes) :
    SameTranscript (first.withField encrypted) (second.withField encrypted) := by
  constructor
  · simp only [WireguardHandshake.withField, same.chainingKey]
  · simp only [WireguardHandshake.withField, same.hash]

theorem withPreshared (same : SameTranscript first second) (preshared : Bytes) :
    SameTranscript (first.withPreshared preshared).1 (second.withPreshared preshared).1 := by
  constructor
  · simp only [WireguardHandshake.withPreshared, same.chainingKey]
  · simp only [WireguardHandshake.withPreshared, same.chainingKey, same.hash]

theorem withPreshared_key (same : SameTranscript first second) (preshared : Bytes) :
    (first.withPreshared preshared).2 = (second.withPreshared preshared).2 := by
  simp only [WireguardHandshake.withPreshared, same.chainingKey]

theorem withPrivate (same : SameTranscript first second) (ephemeralPrivate : Bytes) :
    SameTranscript (first.withPrivate ephemeralPrivate) second := by
  constructor
  · exact same.chainingKey
  · exact same.hash

theorem initiating (same : SameTranscript first second) (sender : UInt32) :
    SameTranscript (first.initiating sender) second := by
  constructor
  · exact same.chainingKey
  · exact same.hash

theorem responseSecrets (same : SameTranscript first second)
    (ephemeralSecret staticSecret presharedKey : Bytes) :
    SameTranscript
        (responseSecrets first ephemeralSecret staticSecret presharedKey).1
        (responseSecrets second ephemeralSecret staticSecret presharedKey).1 ∧
      (responseSecrets first ephemeralSecret staticSecret presharedKey).2 =
        (responseSecrets second ephemeralSecret staticSecret presharedKey).2 := by
  have chained := (same.withChainedSecret ephemeralSecret).withChainedSecret staticSecret
  exact ⟨chained.withPreshared presharedKey, chained.withPreshared_key presharedKey⟩

end SameTranscript

/-! ## Keys -/

/-- What `wireguard_device_init` sets up from a private key. -/
structure WireguardDevice.HasKeys (device : WireguardDevice) (privateKey : Bytes) : Prop where
  length : privateKey.length = 32
  generated : wireguardGeneratePublicKey privateKey = some device.publicKey
  clamped : device.privateKey = wireguardClampPrivateKey privateKey
  labelMac1Key : device.labelMac1Key = wireguardMacKey device.publicKey labelMac1

/-- What `wireguard_peer_init` sets up for the public key of another device. -/
structure WireguardDevice.Knows (device other : WireguardDevice) (presharedKey : Bytes) :
    Prop where
  valid : device.peer.valid = true
  publicKey : device.peer.publicKey = other.publicKey
  presharedKey : device.peer.presharedKey = presharedKey
  publicKeyDh : device.peer.publicKeyDh =
    (wireguardX25519 device.privateKey other.publicKey).1
  labelMac1Key : device.peer.labelMac1Key = wireguardMacKey other.publicKey labelMac1

/-- Two devices that have been configured with each other's public keys. -/
structure Introduced (initiator responder : WireguardDevice) : Prop where
  initiatorKeys : ∃ privateKey, initiator.HasKeys privateKey
  responderKeys : ∃ privateKey, responder.HasKeys privateKey
  known : ∃ presharedKey, initiator.Knows responder presharedKey ∧
    responder.Knows initiator presharedKey

theorem WireguardDevice.hasKeys_of_init {privateKey : Bytes} {device : WireguardDevice}
    (length : privateKey.length = 32) (init : wireguardDeviceInit privateKey = some device) :
    device.HasKeys privateKey := by
  obtain ⟨publicKey, generated, rfl⟩ := Option.map_eq_some_iff.mp init
  exact ⟨length, generated, rfl, rfl⟩

theorem WireguardDevice.knows_of_init {device other : WireguardDevice}
    {presharedKey : Option Bytes} {peer : WireguardPeer}
    (init : wireguardPeerInit other.publicKey presharedKey device = some peer)
    (otherPeer : WireguardPeer) :
    ({ device with peer := peer } : WireguardDevice).Knows { other with peer := otherPeer }
      (presharedKey.getD zeroKey) := by
  unfold wireguardPeerInit at init
  split at init
  · dsimp only at init
    split at init
    · obtain rfl := Option.some.inj init
      constructor <;> dsimp only
    · cases init
  · cases init

/-- Two devices that have been set up with each other's public keys. -/
theorem introduced_of_init {privateKey otherPrivate : Bytes} {device other : WireguardDevice}
    {presharedKey : Option Bytes} {peer otherPeer : WireguardPeer}
    (length : privateKey.length = 32) (otherLength : otherPrivate.length = 32)
    (init : wireguardDeviceInit privateKey = some device)
    (otherInit : wireguardDeviceInit otherPrivate = some other)
    (added : wireguardPeerInit other.publicKey presharedKey device = some peer)
    (otherAdded : wireguardPeerInit device.publicKey presharedKey other = some otherPeer) :
    Introduced { device with peer := peer } { other with peer := otherPeer } := by
  have keys := WireguardDevice.hasKeys_of_init length init
  have otherKeys := WireguardDevice.hasKeys_of_init otherLength otherInit
  exact ⟨⟨privateKey, keys.length, keys.generated, keys.clamped, keys.labelMac1Key⟩,
    ⟨otherPrivate, otherKeys.length, otherKeys.generated, otherKeys.clamped,
      otherKeys.labelMac1Key⟩,
    presharedKey.getD zeroKey, WireguardDevice.knows_of_init added otherPeer,
    WireguardDevice.knows_of_init otherAdded peer⟩

/-- The secret of an ephemeral key and the static key of the other end. -/
theorem WireguardDevice.HasKeys.agreedSecret_eq {device : WireguardDevice}
    {privateKey ephemeralPrivate ephemeral : Bytes} (keys : device.HasKeys privateKey)
    (generated : wireguardGeneratePublicKey ephemeralPrivate = some ephemeral) :
    agreedSecret ephemeralPrivate device.publicKey =
      agreedSecret device.privateKey ephemeral := by
  have same : (wireguardX25519 ephemeralPrivate device.publicKey).1 =
      (wireguardX25519 device.privateKey ephemeral).1 := by
    rw [keys.clamped, wireguardX25519_clamp keys.length (length_generatePublicKey generated)]
    exact wireguardX25519_comm generated keys.generated
  rw [agreedSecret, agreedSecret, same]

theorem agreedSecret_comm {ephemeralPrivate ephemeral other otherEphemeral : Bytes}
    (generated : wireguardGeneratePublicKey ephemeralPrivate = some ephemeral)
    (otherGenerated : wireguardGeneratePublicKey other = some otherEphemeral) :
    agreedSecret ephemeralPrivate otherEphemeral = agreedSecret other ephemeral := by
  rw [agreedSecret, agreedSecret, wireguardX25519_comm generated otherGenerated]

theorem Introduced.publicKeyDh {initiator responder : WireguardDevice}
    (introduced : Introduced initiator responder) :
    initiator.peer.publicKeyDh = responder.peer.publicKeyDh := by
  obtain ⟨⟨first, firstKeys⟩, ⟨second, secondKeys⟩, presharedKey, knows, known⟩ := introduced
  rw [knows.publicKeyDh, known.publicKeyDh, firstKeys.clamped, secondKeys.clamped,
    wireguardX25519_clamp firstKeys.length (length_generatePublicKey secondKeys.generated),
    wireguardX25519_clamp secondKeys.length (length_generatePublicKey firstKeys.generated)]
  exact wireguardX25519_comm firstKeys.generated secondKeys.generated

/-! ## The first message -/

theorem SameTranscript.initiationFields {first second : WireguardHandshake}
    (same : SameTranscript first second) (device : WireguardDevice) (secret timestamp : Bytes) :
    SameTranscript (initiationFields device first secret timestamp).1
        (initiationFields device second secret timestamp).1 ∧
      (initiationFields device first secret timestamp).2 =
        (initiationFields device second secret timestamp).2 := by
  have agreed := same.withSecret secret
  have key := same.withSecret_key secret
  have static : chacha20poly1305Encrypt device.publicKey (first.withSecret secret).1.hash 0
        (first.withSecret secret).2 =
      chacha20poly1305Encrypt device.publicKey (second.withSecret secret).1.hash 0
        (second.withSecret secret).2 := by
    rw [agreed.hash, key]
  simp only [EchoMic.initiationFields, static]
  generalize chacha20poly1305Encrypt device.publicKey (second.withSecret secret).1.hash 0
    (second.withSecret secret).2 = encStatic
  have named := (agreed.withField encStatic).withSecret device.peer.publicKeyDh
  have namedKey := (agreed.withField encStatic).withSecret_key device.peer.publicKeyDh
  simp only [named.hash, namedKey, and_true]
  exact named.withField _

/-- The transcript of an initiation before its first secret. -/
def initiationStart (responderKey ephemeral : Bytes) : WireguardHandshake :=
  (WireguardHandshake.zero.begun responderKey).withEphemeral ephemeral

/-- What creation tells of a message and of the handshake behind it. -/
structure CreatesInitiation (draws : HandshakeDraws) (device : WireguardDevice)
    (peer : WireguardPeer) (msg : MessageHandshakeInitiation) (secret : Bytes) : Prop where
  ephemeral : wireguardGeneratePublicKey
    (wireguardGeneratePrivateKey draws.ephemeral) = some msg.ephemeral
  agreed : agreedSecret (wireguardGeneratePrivateKey draws.ephemeral)
    device.peer.publicKey = some secret
  sender : wireguardGenerateUniqueIndex device.peer draws.indices = some msg.sender
  fields : (initiationFields device (initiationStart device.peer.publicKey msg.ephemeral) secret
    draws.timestamp).2 = (msg.encStatic, msg.encTimestamp)
  finished : ∃ bare : MessageHandshakeInitiation, msg = bare.withMacs draws.now device.peer
  others : peer = { device.peer with handshake := peer.handshake }
  valid : peer.handshake.valid = true
  initiates : peer.handshake.initiator = true
  localIndex : peer.handshake.localIndex = msg.sender
  ephemeralPrivate :
    peer.handshake.ephemeralPrivate = wireguardGeneratePrivateKey draws.ephemeral
  transcript : SameTranscript peer.handshake
    (initiationFields device (initiationStart device.peer.publicKey msg.ephemeral) secret
      draws.timestamp).1

theorem createsInitiation_of_some {draws : HandshakeDraws} {device : WireguardDevice}
    {peer : WireguardPeer} {msg : MessageHandshakeInitiation}
    (created : wireguardCreateHandshakeInitiation draws device = (peer, some msg)) :
    ∃ secret, CreatesInitiation draws device peer msg secret := by
  unfold wireguardCreateHandshakeInitiation at created
  obtain ⟨ephemeral, generated, created⟩ := orFail_eq_some created
  obtain ⟨secret, agreed, created⟩ := orFail_eq_some created
  obtain ⟨sender, drawn, created⟩ := orFail_eq_some created
  obtain ⟨rfl, message⟩ := Prod.mk.inj created
  obtain rfl := Option.some.inj message
  have start : SameTranscript
      (((device.peer.handshake.begun device.peer.publicKey).withPrivate
        (wireguardGeneratePrivateKey draws.ephemeral)).withEphemeral ephemeral)
      (initiationStart device.peer.publicKey ephemeral) :=
    ((SameTranscript.begun device.peer.handshake WireguardHandshake.zero
      device.peer.publicKey).withPrivate _).withEphemeral ephemeral
  obtain ⟨transcript, same⟩ := start.initiationFields device secret draws.timestamp
  refine ⟨secret, ?_⟩
  constructor
  · exact generated
  · exact agreed
  · exact drawn
  · exact same.symm
  · exact ⟨_, rfl⟩
  · rfl
  · rfl
  · rfl
  · rfl
  · rfl
  · exact transcript.initiating sender

theorem exists_createHandshakeInitiation (draws : HandshakeDraws) (device : WireguardDevice)
    {ephemeral secret : Bytes} {sender : UInt32}
    (generated : wireguardGeneratePublicKey
      (wireguardGeneratePrivateKey draws.ephemeral) = some ephemeral)
    (agreed : agreedSecret (wireguardGeneratePrivateKey draws.ephemeral)
      device.peer.publicKey = some secret)
    (drawn : wireguardGenerateUniqueIndex device.peer draws.indices = some sender) :
    ∃ peer msg, wireguardCreateHandshakeInitiation draws device = (peer, some msg) := by
  apply Exists.intro
  apply Exists.intro
  unfold wireguardCreateHandshakeInitiation
  refine (orFail_of_some generated).trans ?_
  refine (orFail_of_some agreed).trans ?_
  exact (orFail_of_some drawn).trans rfl

/-- The other end accepts the message, unless its timestamp is not new or the
rate limit holds it back. -/
theorem CreatesInitiation.processed {draws : HandshakeDraws}
    {initiator responder : WireguardDevice} {peer : WireguardPeer}
    {msg : MessageHandshakeInitiation} {secret : Bytes} {now : UInt32}
    (introduced : Introduced initiator responder)
    (creates : CreatesInitiation draws initiator peer msg secret)
    (newer : memcmpLe draws.timestamp responder.peer.greatestTimestamp = false)
    (spaced : ¬ responder.peer.lastInitiationRx - now < 1000 / 2) :
    ∃ handshake, SameTranscript peer.handshake handshake ∧
      wireguardProcessInitiationMessage now msg responder =
        some (responder.peer.accepting now msg draws.timestamp handshake) := by
  have publicKeyDh := introduced.publicKeyDh
  obtain ⟨-, ⟨second, secondKeys⟩, presharedKey, knows, known⟩ := introduced
  have agreed : agreedSecret responder.privateKey msg.ephemeral = some secret := by
    rw [← secondKeys.agreedSecret_eq creates.ephemeral, ← knows.publicKey]
    exact creates.agreed
  have static := congrArg Prod.fst creates.fields
  have timestamp := congrArg Prod.snd creates.fields
  have transcript := creates.transcript
  simp only [initiationFields] at static timestamp transcript
  rw [static, publicKeyDh, knows.publicKey] at timestamp transcript
  rw [timestamp] at transcript
  rw [knows.publicKey] at static
  have decryptedStatic := ChaCha20Poly1305.decrypt_encrypt initiator.publicKey
    ((initiationStart responder.publicKey msg.ephemeral).withSecret secret).1.hash 0
    ((initiationStart responder.publicKey msg.ephemeral).withSecret secret).2
  rw [static] at decryptedStatic
  let named := (((initiationStart responder.publicKey msg.ephemeral).withSecret
    secret).1.withField msg.encStatic).withSecret responder.peer.publicKeyDh
  have decryptedTimestamp : chacha20poly1305Decrypt msg.encTimestamp named.1.hash 0 named.2 =
      some draws.timestamp := by
    rw [← timestamp]
    exact ChaCha20Poly1305.decrypt_encrypt draws.timestamp named.1.hash 0 named.2
  refine ⟨named.1.withField msg.encTimestamp, transcript, ?_⟩
  unfold wireguardProcessInitiationMessage
  refine Option.bind_eq_some_iff.mpr ⟨secret, agreed, ?_⟩
  refine Option.bind_eq_some_iff.mpr ⟨initiator.publicKey, decryptedStatic, ?_⟩
  refine (if_pos ⟨known.valid, known.publicKey⟩).trans ?_
  refine Option.bind_eq_some_iff.mpr ⟨draws.timestamp, decryptedTimestamp, ?_⟩
  exact if_pos ⟨newer, decide_eq_false spaced⟩

/-! ## The second message -/

/-- The responder has accepted the message that the initiator has created. -/
structure Answering (initiator responder : WireguardDevice) : Prop where
  initiates : initiator.peer.handshake.valid = true ∧
    initiator.peer.handshake.initiator = true
  answers : responder.peer.handshake.valid = true ∧
    responder.peer.handshake.initiator = false
  transcript : SameTranscript initiator.peer.handshake responder.peer.handshake
  ephemeral : wireguardGeneratePublicKey initiator.peer.handshake.ephemeralPrivate =
    some responder.peer.handshake.remoteEphemeral
  remoteIndex : responder.peer.handshake.remoteIndex = initiator.peer.handshake.localIndex

/-- What creation tells of a message and of the handshake behind it. -/
structure CreatesResponse (draws : HandshakeDraws) (device : WireguardDevice)
    (peer : WireguardPeer) (msg : MessageHandshakeResponse) (ephemeralSecret staticSecret : Bytes)
    (derived : WireguardHandshake × Bytes) : Prop where
  ephemeral : wireguardGeneratePublicKey
    (wireguardGeneratePrivateKey draws.ephemeral) = some msg.ephemeral
  ephemeralAgreed : agreedSecret (wireguardGeneratePrivateKey draws.ephemeral)
    device.peer.handshake.remoteEphemeral = some ephemeralSecret
  staticAgreed : agreedSecret (wireguardGeneratePrivateKey draws.ephemeral)
    device.peer.publicKey = some staticSecret
  sender : wireguardGenerateUniqueIndex device.peer draws.indices = some msg.sender
  receiver : msg.receiver = device.peer.handshake.remoteIndex
  secrets : derived = responseSecrets
    ((device.peer.handshake.withPrivate
      (wireguardGeneratePrivateKey draws.ephemeral)).withEphemeral msg.ephemeral)
    ephemeralSecret staticSecret device.peer.presharedKey
  encEmpty : msg.encEmpty = chacha20poly1305Encrypt [] derived.1.hash 0 derived.2
  finished : ∃ bare : MessageHandshakeResponse, msg = bare.withMacs draws.now device.peer
  left : peer = device.peer.withHandshake ((derived.1.withField msg.encEmpty).withIndex msg.sender)

theorem createsResponse_of_some {draws : HandshakeDraws} {device : WireguardDevice}
    {peer : WireguardPeer} {msg : MessageHandshakeResponse}
    (created : wireguardCreateHandshakeResponse draws device = (peer, some msg)) :
    ∃ ephemeralSecret staticSecret derived,
      CreatesResponse draws device peer msg ephemeralSecret staticSecret derived := by
  unfold wireguardCreateHandshakeResponse at created
  by_cases answers : device.peer.handshake.valid = true ∧ device.peer.handshake.initiator = false
  · replace created := (if_pos answers).symm.trans created
    obtain ⟨ephemeral, generated, created⟩ := orFail_eq_some created
    obtain ⟨ephemeralSecret, ephemeralAgreed, created⟩ := orFail_eq_some created
    obtain ⟨staticSecret, staticAgreed, created⟩ := orFail_eq_some created
    obtain ⟨sender, drawn, created⟩ := orFail_eq_some created
    obtain ⟨rfl, message⟩ := Prod.mk.inj created
    obtain rfl := Option.some.inj message
    refine ⟨ephemeralSecret, staticSecret, responseSecrets
      ((device.peer.handshake.withPrivate
        (wireguardGeneratePrivateKey draws.ephemeral)).withEphemeral ephemeral)
      ephemeralSecret staticSecret device.peer.presharedKey, ?_⟩
    constructor
    · exact generated
    · exact ephemeralAgreed
    · exact staticAgreed
    · exact drawn
    · rfl
    · rfl
    · rfl
    · exact ⟨_, rfl⟩
    · rfl
  · replace created := (if_neg answers).symm.trans created
    cases (Prod.mk.inj created).2

theorem exists_createHandshakeResponse (draws : HandshakeDraws) (device : WireguardDevice)
    {ephemeral ephemeralSecret staticSecret : Bytes} {sender : UInt32}
    (answers : device.peer.handshake.valid = true ∧ device.peer.handshake.initiator = false)
    (generated : wireguardGeneratePublicKey
      (wireguardGeneratePrivateKey draws.ephemeral) = some ephemeral)
    (ephemeralAgreed : agreedSecret (wireguardGeneratePrivateKey draws.ephemeral)
      device.peer.handshake.remoteEphemeral = some ephemeralSecret)
    (staticAgreed : agreedSecret (wireguardGeneratePrivateKey draws.ephemeral)
      device.peer.publicKey = some staticSecret)
    (drawn : wireguardGenerateUniqueIndex device.peer draws.indices = some sender) :
    ∃ peer msg, wireguardCreateHandshakeResponse draws device = (peer, some msg) := by
  apply Exists.intro
  apply Exists.intro
  unfold wireguardCreateHandshakeResponse
  refine (if_pos answers).trans ?_
  refine (orFail_of_some generated).trans ?_
  refine (orFail_of_some ephemeralAgreed).trans ?_
  refine (orFail_of_some staticAgreed).trans ?_
  exact (orFail_of_some drawn).trans rfl

/-- The end of the handshake: the same chaining key, and the index of the
other end. -/
structure Concluded (initiator responder : WireguardPeer) : Prop where
  chainingKey : initiator.handshake.chainingKey = responder.handshake.chainingKey
  localIndex : initiator.handshake.localIndex = responder.handshake.remoteIndex
  remoteIndex : initiator.handshake.remoteIndex = responder.handshake.localIndex

theorem CreatesResponse.processed {draws : HandshakeDraws}
    {initiator responder : WireguardDevice} {peer : WireguardPeer}
    {msg : MessageHandshakeResponse} {ephemeralSecret staticSecret : Bytes}
    {derived : WireguardHandshake × Bytes}
    (introduced : Introduced initiator responder) (answering : Answering initiator responder)
    (creates : CreatesResponse draws responder peer msg ephemeralSecret staticSecret derived) :
    ∃ handshake,
      wireguardProcessHandshakeResponse msg initiator =
        some (initiator.peer.withHandshake handshake) ∧
      Concluded (initiator.peer.withHandshake handshake) peer := by
  obtain ⟨⟨first, firstKeys⟩, -, presharedKey, knows, known⟩ := introduced
  have ephemeralAgreed : agreedSecret initiator.peer.handshake.ephemeralPrivate msg.ephemeral =
      some ephemeralSecret := by
    rw [agreedSecret_comm answering.ephemeral creates.ephemeral]
    exact creates.ephemeralAgreed
  have staticAgreed : agreedSecret initiator.privateKey msg.ephemeral = some staticSecret := by
    rw [← firstKeys.agreedSecret_eq creates.ephemeral, ← known.publicKey]
    exact creates.staticAgreed
  have transcript : SameTranscript (initiator.peer.handshake.withEphemeral msg.ephemeral)
      ((responder.peer.handshake.withPrivate
        (wireguardGeneratePrivateKey draws.ephemeral)).withEphemeral msg.ephemeral) :=
    (answering.transcript.symm.withPrivate _).symm.withEphemeral msg.ephemeral
  obtain ⟨same, key⟩ := transcript.responseSecrets ephemeralSecret staticSecret
    initiator.peer.presharedKey
  have secrets := creates.secrets
  rw [known.presharedKey, ← knows.presharedKey] at secrets
  rw [← secrets] at same key
  have decrypted := ChaCha20Poly1305.decrypt_encrypt [] derived.1.hash 0 derived.2
  rw [← creates.encEmpty, ← same.hash, ← key] at decrypted
  refine ⟨(responseSecrets (initiator.peer.handshake.withEphemeral msg.ephemeral)
    ephemeralSecret staticSecret initiator.peer.presharedKey).1.answered msg, ?_, ?_⟩
  · unfold wireguardProcessHandshakeResponse
    refine (if_pos answering.initiates).trans ?_
    refine Option.bind_eq_some_iff.mpr ⟨ephemeralSecret, ephemeralAgreed, ?_⟩
    refine Option.bind_eq_some_iff.mpr ⟨staticSecret, staticAgreed, ?_⟩
    exact Option.bind_eq_some_iff.mpr ⟨[], decrypted, rfl⟩
  · rw [creates.left]
    constructor
    · simp only [WireguardPeer.withHandshake, WireguardHandshake.answered,
        WireguardHandshake.withField, WireguardHandshake.withIndex]
      exact same.chainingKey
    · rw [secrets]
      simp only [WireguardPeer.withHandshake, WireguardHandshake.answered,
        WireguardHandshake.withField, WireguardHandshake.withIndex, responseSecrets,
        WireguardHandshake.withPreshared, WireguardHandshake.withChainedSecret,
        WireguardHandshake.withEphemeral, WireguardHandshake.withPrivate]
      exact answering.remoteIndex.symm
    · simp only [WireguardPeer.withHandshake, WireguardHandshake.answered,
        WireguardHandshake.withIndex]

/-! ## The session -/

/-- Key pairs of the two ends of one session. -/
structure Crossed (initiator responder : WireguardKeypair) : Prop where
  valid : initiator.valid = true ∧ responder.valid = true
  roles : initiator.initiator = true ∧ responder.initiator = false
  forwards : initiator.sendingKey = responder.receivingKey
  backwards : initiator.receivingKey = responder.sendingKey
  localIndex : initiator.localIndex = responder.remoteIndex
  remoteIndex : initiator.remoteIndex = responder.localIndex
  unused : initiator.sendingCounter = 0 ∧ responder.sendingCounter = 0
  receives : initiator.receivingValid = true ∧ responder.receivingValid = true

theorem Concluded.crossed {initiator responder : WireguardPeer}
    (concluded : Concluded initiator responder) (now later : UInt32) :
    Crossed (sessionKeypair now initiator.handshake true)
      (sessionKeypair later responder.handshake false) := by
  obtain ⟨chainingKey, localIndex, remoteIndex⟩ := concluded
  constructor <;>
    simp only [sessionKeypair, WireguardKeypair.zero, chainingKey, localIndex, remoteIndex, if_true,
      Bool.false_eq_true, if_false, and_self]

/-! ## The whole handshake -/

/-- What a handshake leaves of a peer. -/
structure SameKeys (first second : WireguardPeer) : Prop where
  valid : first.valid = second.valid
  publicKey : first.publicKey = second.publicKey
  presharedKey : first.presharedKey = second.presharedKey
  publicKeyDh : first.publicKeyDh = second.publicKeyDh
  labelMac1Key : first.labelMac1Key = second.labelMac1Key

theorem WireguardDevice.HasKeys.withPeer {device : WireguardDevice} {privateKey : Bytes}
    (keys : device.HasKeys privateKey) (peer : WireguardPeer) :
    ({ device with peer := peer } : WireguardDevice).HasKeys privateKey :=
  ⟨keys.length, keys.generated, keys.clamped, keys.labelMac1Key⟩

theorem WireguardDevice.Knows.withPeers {device other : WireguardDevice} {presharedKey : Bytes}
    {peer : WireguardPeer} (knows : device.Knows other presharedKey)
    (same : SameKeys peer device.peer) (otherPeer : WireguardPeer) :
    ({ device with peer := peer } : WireguardDevice).Knows { other with peer := otherPeer }
      presharedKey :=
  ⟨same.valid.trans knows.valid, same.publicKey.trans knows.publicKey,
    same.presharedKey.trans knows.presharedKey, same.publicKeyDh.trans knows.publicKeyDh,
    same.labelMac1Key.trans knows.labelMac1Key⟩

theorem Introduced.withPeers {initiator responder : WireguardDevice} {peer other : WireguardPeer}
    (introduced : Introduced initiator responder) (same : SameKeys peer initiator.peer)
    (otherSame : SameKeys other responder.peer) :
    Introduced { initiator with peer := peer } { responder with peer := other } := by
  obtain ⟨⟨first, firstKeys⟩, ⟨second, secondKeys⟩, presharedKey, knows, known⟩ := introduced
  exact ⟨⟨first, firstKeys.withPeer peer⟩, ⟨second, secondKeys.withPeer other⟩, presharedKey,
    knows.withPeers same other, known.withPeers otherSame peer⟩

theorem CreatesInitiation.sameKeys {draws : HandshakeDraws} {device : WireguardDevice}
    {peer : WireguardPeer} {msg : MessageHandshakeInitiation} {secret : Bytes}
    (creates : CreatesInitiation draws device peer msg secret) : SameKeys peer device.peer := by
  rw [creates.others]
  constructor <;> rfl

theorem sameKeys_accepting (peer : WireguardPeer) (now : UInt32)
    (msg : MessageHandshakeInitiation) (t : Bytes) (handshake : WireguardHandshake) :
    SameKeys (peer.accepting now msg t handshake) peer := by
  constructor <;> rfl

/-- An initiation with a new timestamp is accepted, and whichever response the
other end creates then, the initiator accepts it and both ends have the keys
of one session. -/
theorem handshake_crosses {draws : HandshakeDraws} {initiator responder : WireguardDevice}
    {peer : WireguardPeer} {msg : MessageHandshakeInitiation} {now : UInt32}
    (introduced : Introduced initiator responder)
    (created : wireguardCreateHandshakeInitiation draws initiator = (peer, some msg))
    (newer : memcmpLe draws.timestamp responder.peer.greatestTimestamp = false)
    (spaced : ¬ responder.peer.lastInitiationRx - now < 1000 / 2) :
    ∃ accepted, wireguardProcessInitiationMessage now msg responder = some accepted ∧
      ∀ (answerDraws : HandshakeDraws) (answering : WireguardPeer)
        (response : MessageHandshakeResponse),
        wireguardCreateHandshakeResponse answerDraws { responder with peer := accepted } =
            (answering, some response) →
          ∃ concluded,
            wireguardProcessHandshakeResponse response { initiator with peer := peer } =
                some concluded ∧
              ∀ started answered : UInt32,
                Crossed (sessionKeypair started concluded.handshake true)
                  (sessionKeypair answered answering.handshake false) := by
  obtain ⟨secret, creates⟩ := createsInitiation_of_some created
  obtain ⟨handshake, transcript, processed⟩ := creates.processed introduced newer spaced
  refine ⟨_, processed, ?_⟩
  intro answerDraws answering response answered
  obtain ⟨ephemeralSecret, staticSecret, derived, answer⟩ := createsResponse_of_some answered
  have bothKeys := introduced.withPeers creates.sameKeys
    (sameKeys_accepting responder.peer now msg draws.timestamp handshake)
  have ready : Answering { initiator with peer := peer }
      { responder with peer := responder.peer.accepting now msg draws.timestamp handshake } := by
    constructor
    · exact ⟨creates.valid, creates.initiates⟩
    · exact ⟨rfl, rfl⟩
    · exact ⟨transcript.chainingKey, transcript.hash⟩
    · exact (congrArg wireguardGeneratePublicKey creates.ephemeralPrivate).trans
        creates.ephemeral
    · exact creates.localIndex.symm
  obtain ⟨_, concluded, agreed⟩ := answer.processed bothKeys ready
  exact ⟨_, concluded, agreed.crossed⟩

theorem exists_device_init {privateKey publicKey : Bytes}
    (generated : wireguardGeneratePublicKey privateKey = some publicKey) :
    ∃ device : WireguardDevice, wireguardDeviceInit privateKey = some device ∧
      device.publicKey = publicKey ∧
      device.privateKey = wireguardClampPrivateKey privateKey ∧ device.valid = true := by
  unfold wireguardDeviceInit
  rw [generated]
  exact ⟨_, rfl, rfl, rfl, rfl⟩

theorem exists_peer_init {device : WireguardDevice} {publicKey : Bytes}
    (valid : device.valid = true)
    (returns : (wireguardX25519 device.privateKey publicKey).2 = 0) :
    ∃ peer : WireguardPeer, wireguardPeerInit publicKey none device = some peer ∧
      peer.publicKey = publicKey ∧ peer.greatestTimestamp = List.replicate 12 0 ∧
      peer.lastInitiationRx = 0 ∧ indexAllowed peer = indexAllowed WireguardPeer.zero := by
  refine ⟨_, (if_pos valid).trans (if_pos returns), ?_⟩
  exact ⟨rfl, rfl, rfl, rfl⟩

theorem agreements_ne_zero :
    X25519.agreement (X25519.privateNumber (List.replicate 32 1) true) 9 ≠ 0 ∧
      X25519.agreement (X25519.privateNumber (List.replicate 32 2) true) 9 ≠ 0 ∧
      X25519.agreement (X25519.privateNumber (wireguardClampPrivateKey (List.replicate 32 1))
        true) (X25519.agreement (X25519.privateNumber (List.replicate 32 2) true) 9) ≠ 0 ∧
      X25519.agreement (X25519.privateNumber (wireguardClampPrivateKey (List.replicate 32 2))
        true) (X25519.agreement (X25519.privateNumber (List.replicate 32 1) true) 9) ≠ 0 ∧
      X25519.agreement (X25519.privateNumber (wireguardGeneratePrivateKey (List.replicate 32 3))
        true) 9 ≠ 0 ∧
      X25519.agreement (X25519.privateNumber (wireguardGeneratePrivateKey (List.replicate 32 3))
        true) (X25519.agreement (X25519.privateNumber (List.replicate 32 2) true) 9) ≠ 0 ∧
      X25519.agreement (X25519.privateNumber (wireguardGeneratePrivateKey (List.replicate 32 4))
        true) 9 ≠ 0 ∧
      X25519.agreement (X25519.privateNumber (wireguardGeneratePrivateKey (List.replicate 32 4))
        true) (X25519.agreement (X25519.privateNumber (wireguardGeneratePrivateKey
          (List.replicate 32 3)) true) 9) ≠ 0 ∧
      X25519.agreement (X25519.privateNumber (wireguardGeneratePrivateKey (List.replicate 32 4))
        true) (X25519.agreement (X25519.privateNumber (List.replicate 32 1) true) 9) ≠ 0 := by
  simp only [X25519.agreement_eq_powMod]
  decide +kernel

/-- Two devices that have just been set up with each other's public keys. -/
structure SetUp (initiator responder : WireguardDevice) : Prop where
  initiatorKeys : initiator.HasKeys (List.replicate 32 1)
  responderKeys : responder.HasKeys (List.replicate 32 2)
  introduced : Introduced initiator responder
  allowed : indexAllowed initiator.peer = indexAllowed WireguardPeer.zero
  otherAllowed : indexAllowed responder.peer = indexAllowed WireguardPeer.zero
  greatestTimestamp : responder.peer.greatestTimestamp = List.replicate 12 0
  lastInitiationRx : responder.peer.lastInitiationRx = 0

theorem littleEndian_basepoint : littleEndian basepoint = 9 := by
  decide

/-- The number of a public key. -/
theorem littleEndian_publicKey {privateKey publicKey : Bytes}
    (generated : wireguardGeneratePublicKey privateKey = some publicKey) :
    littleEndian publicKey = X25519.agreement (X25519.privateNumber privateKey true) 9 := by
  rw [generatePublicKey_some generated, ← littleEndian_basepoint]
  exact littleEndian_x25519 privateKey rfl

theorem exists_generatePublicKey {privateKey : Bytes} (notZero : privateKey ≠ zeroKey)
    (nonzero : X25519.agreement (X25519.privateNumber privateKey true) 9 ≠ 0) :
    ∃ publicKey, wireguardGeneratePublicKey privateKey = some publicKey := by
  rw [← littleEndian_basepoint] at nonzero
  exact ⟨_, generatePublicKey_of_ne notZero nonzero⟩

theorem exists_agreedSecret {privateKey publicKey : Bytes} (other : Bytes)
    (generated : wireguardGeneratePublicKey privateKey = some publicKey)
    (nonzero : X25519.agreement (X25519.privateNumber other true)
      (X25519.agreement (X25519.privateNumber privateKey true) 9) ≠ 0) :
    ∃ secret, agreedSecret other publicKey = some secret := by
  rw [← littleEndian_publicKey generated] at nonzero
  exact ⟨_, agreedSecret_of_ne other (length_generatePublicKey generated) nonzero⟩

theorem exists_setUp : ∃ initiator responder, SetUp initiator responder := by
  obtain ⟨first, second, firstSecond, secondFirst, -⟩ := agreements_ne_zero
  obtain ⟨publicKey, generated⟩ := exists_generatePublicKey
    (show List.replicate 32 1 ≠ zeroKey by decide) first
  obtain ⟨otherPublic, otherGenerated⟩ := exists_generatePublicKey
    (show List.replicate 32 2 ≠ zeroKey by decide) second
  rw [← littleEndian_publicKey otherGenerated] at firstSecond
  rw [← littleEndian_publicKey generated] at secondFirst
  have returns := wireguardX25519_returns (wireguardClampPrivateKey (List.replicate 32 1))
    (length_generatePublicKey otherGenerated) firstSecond
  have otherReturns := wireguardX25519_returns (wireguardClampPrivateKey (List.replicate 32 2))
    (length_generatePublicKey generated) secondFirst
  obtain ⟨device, init, devicePublic, devicePrivate, valid⟩ := exists_device_init generated
  obtain ⟨other, otherInit, itsPublic, itsPrivate, otherValid⟩ :=
    exists_device_init otherGenerated
  rw [← devicePrivate, ← itsPublic] at returns
  rw [← itsPrivate, ← devicePublic] at otherReturns
  obtain ⟨peer, added, -, -, -, allowed⟩ := exists_peer_init valid returns
  obtain ⟨otherPeer, otherAdded, -, timestamp, lastRx, otherAllowed⟩ :=
    exists_peer_init otherValid otherReturns
  refine ⟨{ device with peer := peer }, { other with peer := otherPeer }, ?_⟩
  constructor
  · exact (WireguardDevice.hasKeys_of_init rfl init).withPeer peer
  · exact (WireguardDevice.hasKeys_of_init rfl otherInit).withPeer otherPeer
  · exact introduced_of_init rfl rfl init otherInit added otherAdded
  · exact allowed
  · exact otherAllowed
  · exact timestamp
  · exact lastRx

/-- Two devices conclude a handshake with given draws. -/
theorem handshake_crosses_set_up :
    ∃ (initiator responder : WireguardDevice) (peer : WireguardPeer)
      (msg : MessageHandshakeInitiation),
      initiator.HasKeys (List.replicate 32 1) ∧ responder.HasKeys (List.replicate 32 2) ∧
        wireguardCreateHandshakeInitiation
            ⟨List.replicate 32 3, [7], List.replicate 12 1, 0⟩ initiator = (peer, some msg) ∧
          ∃ accepted answering response concluded,
            wireguardProcessInitiationMessage 1000 msg responder = some accepted ∧
              wireguardCreateHandshakeResponse
                  ⟨List.replicate 32 4, [9], List.replicate 12 1, 0⟩
                  { responder with peer := accepted } = (answering, some response) ∧
                wireguardProcessHandshakeResponse response { initiator with peer := peer } =
                    some concluded ∧
                  ∀ started answered : UInt32,
                    Crossed (sessionKeypair started concluded.handshake true)
                      (sessionKeypair answered answering.handshake false) := by
  obtain ⟨-, -, -, -, ephemeral, ephemeralSecond, answer, answerEphemeral, answerFirst⟩ :=
    agreements_ne_zero
  obtain ⟨initiator, responder, keys, otherKeys, introduced, allowed, otherAllowed, timestamp,
    lastRx⟩ := exists_setUp
  obtain ⟨-, -, presharedKey, knows, known⟩ := id introduced
  obtain ⟨ephemeralKey, ephemeralGenerated⟩ := exists_generatePublicKey
    (show wireguardGeneratePrivateKey (List.replicate 32 3) ≠ zeroKey by decide) ephemeral
  obtain ⟨answerKey, answerGenerated⟩ := exists_generatePublicKey
    (show wireguardGeneratePrivateKey (List.replicate 32 4) ≠ zeroKey by decide) answer
  obtain ⟨secret, agreed⟩ := exists_agreedSecret _ otherKeys.generated ephemeralSecond
  obtain ⟨staticSecret, staticAgreed⟩ := exists_agreedSecret _ keys.generated answerFirst
  rw [← knows.publicKey] at agreed
  rw [← known.publicKey] at staticAgreed
  have drawn : wireguardGenerateUniqueIndex initiator.peer [7] = some 7 := by
    rw [wireguardGenerateUniqueIndex, allowed]
    rfl
  have otherDrawn : wireguardGenerateUniqueIndex responder.peer [9] = some 9 := by
    rw [wireguardGenerateUniqueIndex, otherAllowed]
    rfl
  obtain ⟨peer, msg, created⟩ := exists_createHandshakeInitiation
    ⟨List.replicate 32 3, [7], List.replicate 12 1, 0⟩ initiator ephemeralGenerated agreed drawn
  have newer : memcmpLe (List.replicate 12 1) responder.peer.greatestTimestamp = false := by
    rw [timestamp]
    decide
  have spaced : ¬ responder.peer.lastInitiationRx - 1000 < 1000 / 2 := by
    rw [lastRx]
    decide
  obtain ⟨accepted, processed, crosses⟩ := handshake_crosses introduced created newer spaced
  obtain ⟨initiationSecret, creates⟩ := createsInitiation_of_some created
  obtain ⟨handshake, -, accepting⟩ := creates.processed introduced newer spaced
  obtain rfl := Option.some.inj (processed.symm.trans accepting)
  obtain ⟨ephemeralSecret, ephemeralAgreed⟩ :=
    exists_agreedSecret _ creates.ephemeral answerEphemeral
  obtain ⟨answering, response, answered⟩ := exists_createHandshakeResponse
    ⟨List.replicate 32 4, [9], List.replicate 12 1, 0⟩
    { responder with
      peer := responder.peer.accepting 1000 msg (List.replicate 12 1) handshake }
    ⟨rfl, rfl⟩ answerGenerated ephemeralAgreed staticAgreed otherDrawn
  obtain ⟨concluded, concludes, crossed⟩ := crosses _ answering response answered
  exact ⟨initiator, responder, peer, msg, keys, otherKeys, created, _, answering, response,
    concluded, processed, answered, concludes, crossed⟩

end EchoMic
