import EchoMic.Splitting
import EchoMic.TextPatterns
import EchoMic.WireGuardSettings
import Mathlib.Data.List.DropRight

/-!
# Importing a WireGuard configuration in the browser

The importer of the web page: it reads a `.conf` file, validates the fields
and sends one `/api/set` request for each.  The texts of the page are lists
of characters.
-/

namespace EchoMic

open Splitting TextPatterns

/-! ## The language of the page -/

/-- The line terminators, which a dot in a pattern does not match. -/
def isLineTerminator (char : Char) : Bool :=
  char = '\n' ∨ char = '\r' ∨ char = '\u2028' ∨ char = '\u2029'

/-- What `trim` and `parseInt` skip. -/
def isWhiteSpace (char : Char) : Bool :=
  isLineTerminator char ∨ char = '\t' ∨ char = '\u000B' ∨ char = '\u000C' ∨ char = ' ' ∨
    char = '\u00A0' ∨ char = '\u1680' ∨ '\u2000' ≤ char ∧ char ≤ '\u200A' ∨
    char = '\u202F' ∨ char = '\u205F' ∨ char = '\u3000' ∨ char = '\uFEFF'

def trim (text : List Char) : List Char :=
  (text.dropWhile isWhiteSpace).rdropWhile isWhiteSpace

/-- `toLowerCase`, as far as the names of the format can tell: besides the
capital letters only the Kelvin sign becomes an ASCII letter. -/
def toLowerCase (text : List Char) : List Char :=
  text.map fun char => if char = '\u212A' then 'k' else char.toLower

/-- `parseInt(text, 10)`, with `none` for NaN and without the rounding of
numbers beyond 2^53. -/
def parseInt (text : List Char) : Option Int :=
  let value (digits : List Char) : Option Int :=
    if digits = [] then none else some (decimal digits)
  match text.dropWhile isWhiteSpace with
  | '-' :: rest => (value (rest.takeWhile Char.isDigit)).map (- ·)
  | '+' :: rest => value (rest.takeWhile Char.isDigit)
  | rest => value (rest.takeWhile Char.isDigit)

/-! ## Reading the file -/

/-- The properties of a section, the one that was assigned last in front. -/
abbrev ConfSection := List (List Char × List Char)

/-- The value of a property, and the empty text when there is none. -/
def ConfSection.get (object : ConfSection) (name : String) : List Char :=
  ((object.find? fun property => property.1 = name.toList).map Prod.snd).getD []

/-- The section that the next line belongs to; `peer` is the latest one. -/
inductive ConfTarget where
  | none
  | iface
  | peer
  deriving DecidableEq

/-- The latest peer stands in front. -/
structure WgConf where
  iface : ConfSection
  peers : List ConfSection
  cur : ConfTarget

def WgConf.empty : WgConf where
  iface := []
  peers := []
  cur := .none

def WgConf.openSection (conf : WgConf) (name : List Char) : WgConf :=
  if name = "interface".toList then { conf with cur := .iface }
  else if name = "peer".toList then
    { conf with
      cur := .peer
      peers := [] :: conf.peers }
  else { conf with cur := .none }

def WgConf.assign (conf : WgConf) (name value : List Char) : WgConf :=
  match conf.cur, conf.peers with
  | .none, _ => conf
  | .iface, _ => { conf with iface := (name, value) :: conf.iface }
  | .peer, [] => conf
  | .peer, peer :: peers => { conf with peers := ((name, value) :: peer) :: peers }

def WgConf.readLine (conf : WgConf) (raw : List Char) : WgConf :=
  let line := trim raw
  if line = [] ∨ line.head? = some '#' then conf
  else if line.head? = some '[' ∧ line.getLast? = some ']' then
    conf.openSection (toLowerCase (trim (line.drop 1).dropLast))
  else
    match splitFirst '=' line with
    | none => conf
    | some (name, value) => conf.assign (toLowerCase (trim name)) (trim value)

def parseWgConf (text : List Char) : WgConf :=
  (splitAll '\n' text).foldl WgConf.readLine WgConf.empty

/-! ## Validation -/

def isBase64Char (char : Char) : Bool :=
  'A' ≤ char ∧ char ≤ 'Z' ∨ 'a' ≤ char ∧ char ≤ 'z' ∨ char.isDigit ∨ char = '+' ∨ char = '/'

/-- `/^[A-Za-z0-9+/]{43}=$/` -/
def base64KeyPattern : Pattern :=
  .seq (.run isBase64Char 43 (some 43)) (.literal '=')

def isBase64Key (text : List Char) : Bool :=
  base64KeyPattern.matchesText text

/-- `/^\d{1,3}(\.\d{1,3}){3}\/\d{1,2}$/` -/
def ipv4CidrPattern : Pattern :=
  .seq (.run Char.isDigit 1 (some 3))
    (.seq (.repeated (.seq (.literal '.') (.run Char.isDigit 1 (some 3))) 2)
      (.seq (.literal '/') (.run Char.isDigit 1 (some 2))))

/-- `/^.+:\d{1,5}$/` -/
def endpointPattern : Pattern :=
  .seq (.run (fun char => !isLineTerminator char) 1 none)
    (.seq (.literal ':') (.run Char.isDigit 1 (some 5)))

def firstIpv4Cidr (text : List Char) : List Char :=
  (((splitAll ',' text).map trim).find? ipv4CidrPattern.matchesText).getD []

structure ImportValues where
  priv : List Char
  addr : List Char
  pub : List Char
  endp : List Char
  ka : Option Int
  psk : Bool
  deriving DecidableEq

/-- The values that the file gives. -/
def WgConf.values (conf : WgConf) : ImportValues :=
  -- `r.peers[0]||{}`: the first peer of the file is the last in the list.
  let peer := conf.peers.getLast?.getD []
  { priv := conf.iface.get "privatekey"
    addr := firstIpv4Cidr (conf.iface.get "address")
    pub := peer.get "publickey"
    endp := peer.get "endpoint"
    ka := parseInt (peer.get "persistentkeepalive")
    psk := peer.get "presharedkey" ≠ [] }

def wgImportErrors (conf : WgConf) : List String :=
  let values := conf.values
  (if conf.peers.length = 0 then ["no_peer"] else []) ++
    (if conf.peers.length > 1 then ["multi_peer"] else []) ++
    (if values.priv = [] then ["missing:PrivateKey"]
      else if !isBase64Key values.priv then ["bad_key:PrivateKey"] else []) ++
    (if values.addr = [] then ["missing_or_v6:Address"] else []) ++
    (if values.pub = [] then ["missing:PublicKey"]
      else if !isBase64Key values.pub then ["bad_key:PublicKey"] else []) ++
    (if values.endp = [] then ["missing:Endpoint"]
      else if !endpointPattern.matchesText values.endp then ["bad_endpoint"] else [])

structure ImportResult where
  errors : List String
  values : ImportValues
  deriving DecidableEq

def wgImportParse (text : List Char) : ImportResult where
  errors := wgImportErrors (parseWgConf text)
  values := (parseWgConf text).values

/-! ## Applying -/

/-- The request that `setv` sends for a key of the manager: the key and the
value.  Only the key `rate` is treated differently. -/
def setv (key : String) (value : List Char) : Option (String × List Char) :=
  let value := replaceFirst ',' '.' (trim value)
  if value = [] then none else some (key, value)

/-- The requests in the order they are sent. -/
def wgImportApply (values : ImportValues) : List (String × List Char) :=
  let keepalive :=
    match values.ka with
    | none => none
    | some ka => if 0 ≤ ka ∧ ka ≤ 65535 then setv "wg_keepalive" (toString ka).toList else none
  [setv "wg_priv" values.priv, setv "wg_tunaddr" values.addr, setv "wg_srvpub" values.pub,
    setv "wg_endpoint" values.endp, keepalive].reduceOption

/-! ## What the file gives -/

def IsTrimmed (text : List Char) : Prop :=
  trim text = text

/-- A text that begins with no white space has no prefix that does. -/
theorem dropWhile_of_prefix {skip : Char → Bool} {front whole : List Char}
    (isPrefix : front <+: whole) (same : whole.dropWhile skip = whole) :
    front.dropWhile skip = front := by
  cases front with
  | nil => rfl
  | cons char chars =>
      obtain ⟨rest, rfl⟩ := isPrefix
      have kept := List.dropWhile_eq_self_iff.mp same (by simp)
      rw [List.dropWhile_cons_of_neg (by simpa using kept)]

theorem isTrimmed_trim (text : List Char) : IsTrimmed (trim text) := by
  have front : (trim text).dropWhile isWhiteSpace = trim text := by
    apply dropWhile_of_prefix (List.rdropWhile_prefix isWhiteSpace _)
    exact List.dropWhile_idempotent isWhiteSpace text
  rw [IsTrimmed, trim, front]
  exact List.rdropWhile_idempotent isWhiteSpace _

theorem isTrimmed_nil : IsTrimmed [] :=
  rfl

theorem isTrimmed_of_noWhiteSpace {text : List Char}
    (none : ∀ char ∈ text, isWhiteSpace char = false) : IsTrimmed text := by
  have front : text.dropWhile isWhiteSpace = text := by
    rw [List.dropWhile_eq_self_iff]
    intro nonempty
    simp [none _ (List.getElem_mem nonempty)]
  rw [IsTrimmed, trim, front, List.rdropWhile_eq_self_iff]
  intro nonempty
  simp [none _ (List.getLast_mem nonempty)]

/-- Every value of the file is trimmed. -/
def WgConf.Trimmed (conf : WgConf) : Prop :=
  ∀ object ∈ conf.iface :: conf.peers, ∀ property ∈ object, IsTrimmed property.2

theorem ConfSection.isTrimmed_get {object : ConfSection}
    (trimmed : ∀ property ∈ object, IsTrimmed property.2) (name : String) :
    IsTrimmed (object.get name) := by
  unfold ConfSection.get
  cases found : object.find? fun property => property.1 = name.toList with
  | none => exact isTrimmed_nil
  | some property => exact trimmed property (List.mem_of_find?_eq_some found)

theorem trimmed_openSection {conf : WgConf} (trimmed : conf.Trimmed) (name : List Char) :
    (conf.openSection name).Trimmed := by
  unfold WgConf.openSection
  split
  · exact trimmed
  · split
    · intro object member property inObject
      rcases List.mem_cons.mp member with rfl | inPeers
      · exact trimmed _ List.mem_cons_self property inObject
      · rcases List.mem_cons.mp inPeers with rfl | earlier
        · cases inObject
        · exact trimmed object (List.mem_cons_of_mem _ earlier) property inObject
    · exact trimmed

theorem trimmed_assign {conf : WgConf} (trimmed : conf.Trimmed) (name : List Char)
    {value : List Char} (valueTrimmed : IsTrimmed value) :
    (conf.assign name value).Trimmed := by
  unfold WgConf.assign
  split
  · exact trimmed
  · intro object member property inObject
    rcases List.mem_cons.mp member with rfl | inPeers
    · rcases List.mem_cons.mp inObject with rfl | earlier
      · exact valueTrimmed
      · exact trimmed _ List.mem_cons_self property earlier
    · exact trimmed object (List.mem_cons_of_mem _ inPeers) property inObject
  · exact trimmed
  · rename_i peer peers _ peersEq
    intro object member property inObject
    rcases List.mem_cons.mp member with rfl | inPeers
    · exact trimmed _ List.mem_cons_self property inObject
    · rcases List.mem_cons.mp inPeers with rfl | earlier
      · rcases List.mem_cons.mp inObject with rfl | inPeer
        · exact valueTrimmed
        · exact trimmed peer (by simp [peersEq]) property inPeer
      · exact trimmed object (by simp [peersEq, earlier]) property inObject

theorem trimmed_readLine {conf : WgConf} (trimmed : conf.Trimmed) (raw : List Char) :
    (conf.readLine raw).Trimmed := by
  simp only [WgConf.readLine]
  split
  · exact trimmed
  · split
    · exact trimmed_openSection trimmed _
    · split
      · exact trimmed
      · exact trimmed_assign trimmed _ (isTrimmed_trim _)

theorem trimmed_parseWgConf (text : List Char) : (parseWgConf text).Trimmed := by
  have lines (raws : List (List Char)) (conf : WgConf) (trimmed : conf.Trimmed) :
      (raws.foldl WgConf.readLine conf).Trimmed := by
    induction raws generalizing conf with
    | nil => exact trimmed
    | cons raw raws ih => exact ih _ (trimmed_readLine trimmed raw)
  apply lines
  intro object member property inObject
  rw [List.mem_singleton.mp member] at inObject
  cases inObject

theorem isTrimmed_endp (text : List Char) : IsTrimmed (parseWgConf text).values.endp := by
  apply ConfSection.isTrimmed_get
  intro property inPeer
  cases last : (parseWgConf text).peers.getLast? with
  | none =>
      rw [last] at inPeer
      cases inPeer
  | some peer =>
      rw [last] at inPeer
      exact trimmed_parseWgConf text peer
        (List.mem_cons_of_mem _ (List.mem_of_getLast? last)) property inPeer

/-- What the patterns say of the values without errors. -/
structure Validated (values : ImportValues) : Prop where
  priv : isBase64Key values.priv = true
  addr : ipv4CidrPattern.matchesText values.addr = true
  pub : isBase64Key values.pub = true
  endp : endpointPattern.matchesText values.endp = true

theorem matchesText_firstIpv4Cidr {text : List Char} (found : firstIpv4Cidr text ≠ []) :
    ipv4CidrPattern.matchesText (firstIpv4Cidr text) = true := by
  unfold firstIpv4Cidr at found ⊢
  cases search : ((splitAll ',' text).map trim).find? ipv4CidrPattern.matchesText with
  | none =>
      rw [search] at found
      exact absurd rfl found
  | some token => exact List.find?_some search

theorem validated_of_noErrors {conf : WgConf} (noErrors : wgImportErrors conf = []) :
    Validated conf.values := by
  simp only [wgImportErrors, List.append_eq_nil_iff] at noErrors
  obtain ⟨⟨⟨⟨⟨-, -⟩, privOk⟩, addrOk⟩, pubOk⟩, endpOk⟩ := noErrors
  have checked {value : List Char} {missing bad : String} {test : Bool}
      (none : (if value = [] then [missing] else if !test then [bad] else []) = []) :
      test = true := by
    split at none
    · cases none
    · split at none
      · cases none
      · rename_i passes
        simpa using passes
  have found : conf.values.addr ≠ [] := by
    intro empty
    rw [if_pos empty] at addrOk
    cases addrOk
  exact ⟨checked privOk, matchesText_firstIpv4Cidr found, checked pubOk, checked endpOk⟩

end EchoMic
