import MqttForwarder.Config.Configuration
import MqttForwarder.Mqtt.Publishing
import MqttForwarder.Mqtt.Topics

/-!
# Connecting

A session builds its client from the configuration and from the gateway id:
the topics, the last will, and the transport.  The scheme of the server's URL
decides on the transport.  Files with certificates or with a key replace what
the transport trusts and shows, and only a transport with TLS takes them.
-/

namespace MqttForwarder.Mqtt

open MqttForwarder.Rust

/-- The settings of the publishing tasks. -/
def Conf.ofMqtt (mqtt : Config.Mqtt) : Conf where
  topicPrefix := mqtt.topicPrefix
  json := mqtt.json
  publishChannelSize := mqtt.publishChannelSize.toNat

namespace Connection

/-! ## Options of the client -/

inductive QoS where
  | atMostOnce
  | atLeastOnce
  | exactlyOnce
  deriving DecidableEq, Repr

/-- The content of a `CertificateDer`. -/
abbrev Certificate := List UInt8

/-- The content of a `PrivateKeyDer::Pkcs8`. -/
abbrev PrivateKey := List UInt8

/-- `TlsConfiguration`. -/
inductive TlsConfig where
  /-- `TlsConfiguration::default`. -/
  | default
  /-- A `rustls::ClientConfig` with its root certificates, and with what it shows of itself. -/
  | client (roots : List Certificate) (auth : Option (List Certificate × PrivateKey))
  deriving DecidableEq

inductive Transport where
  | tcp
  | tls (config : TlsConfig)
  | ws
  | wss (config : TlsConfig)
  deriving DecidableEq

inductive Broker where
  | tcp (host : String) (port : UInt16)
  | websocket (url : String)
  deriving DecidableEq

structure LastWill where
  topic : String
  message : List UInt8
  qos : QoS
  retain : Bool
  deriving DecidableEq

structure MqttOptions where
  clientId : String
  broker : Broker
  transport : Transport
  lastWill : LastWill
  cleanStart : Bool
  keepAlive : UInt16
  credentials : Option (String × String)
  deriving DecidableEq

/-! ## What is outside -/

/-- `url::Url`. -/
structure Url where
  scheme : String
  hostStr : Option String
  port : Option UInt16

/-- The file system, and functions of other crates. -/
structure Libraries where
  /-- `Url::parse`. -/
  parseUrl : String → Except String Url
  /-- `Broker::websocket`. -/
  websocket : String → Except String Broker
  /-- `File::open`, and the content of the file. -/
  openFile : String → Except String (List UInt8)
  /-- `rustls_native_certs::load_native_certs().certs`. -/
  nativeCerts : List Certificate
  /-- `rustls_pemfile::certs`. -/
  certs : List UInt8 → List (Except String Certificate)
  /-- `rustls_pemfile::pkcs8_private_keys`. -/
  pkcs8PrivateKeys : List UInt8 → List (Except String PrivateKey)
  /-- `RootCertStore::add`, as far as it fails. -/
  addRoot : Certificate → Except String Unit
  /-- `with_client_auth_cert`, as far as it fails. -/
  clientAuthCert : List Certificate → PrivateKey → Except String Unit

/-- `?` on a `Result` of another crate. -/
def propagate {α : Type} : Except String α → Outcome α
  | .ok value => .ok value
  | .error message => .err message

/-- `?` after `.context(message)`. -/
def withContext {α : Type} (message : String) : Except String α → Outcome α
  | .ok value => .ok value
  | .error _ => .err message

/-! ## Certificates -/

section

variable (libraries : Libraries)

/-- The loop of `get_root_certs` over some certificates. -/
def addRoots (roots : List Certificate) : List Certificate → Outcome (List Certificate)
  | [] => pure roots
  | cert :: rest => do
      propagate (libraries.addRoot cert)
      addRoots (roots ++ [cert]) rest

/-- What cannot be read in the file is skipped: `certs.flatten()`. -/
def getRootCerts (caFile : Option String) : Outcome (List Certificate) := do
  let roots ← addRoots libraries [] libraries.nativeCerts
  match caFile with
  | none => pure roots
  | some caFile => do
      let f ← withContext "Open CA certificate" (libraries.openFile caFile)
      addRoots libraries roots ((libraries.certs f).filterMap Except.toOption)

/-- The loop of `load_cert`. -/
def collect (out : List Certificate) : List (Except String Certificate) → Outcome (List Certificate)
  | [] => pure out
  | cert :: rest => do
      let cert ← propagate cert
      collect (out ++ [cert]) rest

def loadCert (certFile : String) : Outcome (List Certificate) := do
  let f ← withContext "Open TLS certificate" (libraries.openFile certFile)
  collect [] (libraries.certs f)

def loadKey (keyFile : String) : Outcome PrivateKey := do
  let f ← withContext "Open private key" (libraries.openFile keyFile)
  match (libraries.pkcs8PrivateKeys f).head? with
  | some (.ok v) => pure v
  | some (.error e) => .err ("Error parsing private key, error: " ++ e)
  | none => .err "No private key found"

/-! ## The set-up of a session -/

/-- The `match` on the scheme of the URL. -/
def connectTo (mqtt : Config.Mqtt) : Outcome (Broker × Transport) := do
  let mqttUrl ← propagate (libraries.parseUrl mqtt.server)
  if mqttUrl.scheme = "mqtt" ∨ mqttUrl.scheme = "tcp" then
    pure (.tcp (mqttUrl.hostStr.getD "") (mqttUrl.port.getD 1883), .tcp)
  else if mqttUrl.scheme = "mqtts" ∨ mqttUrl.scheme = "ssl" then
    pure (.tcp (mqttUrl.hostStr.getD "") (mqttUrl.port.getD 8883), .tls .default)
  else if mqttUrl.scheme = "ws" then do
    let broker ← propagate (libraries.websocket mqtt.server)
    pure (broker, .ws)
  else if mqttUrl.scheme = "wss" then do
    let broker ← propagate (libraries.websocket mqtt.server)
    pure (broker, .wss .default)
  else .err ("Invalid scheme: " ++ mqttUrl.scheme)

/-- The root certificates and what the client shows of itself, with the files of the settings. -/
def clientConf (mqtt : Config.Mqtt) : Outcome TlsConfig := do
  let rootCerts ← getRootCerts libraries (if mqtt.caCert = "" then none else some mqtt.caCert)
  if mqtt.tlsCert = "" ∧ mqtt.tlsKey = "" then
    pure (.client rootCerts none)
  else do
    let certs ← loadCert libraries mqtt.tlsCert
    let key ← loadKey libraries mqtt.tlsKey
    propagate (libraries.clientAuthCert certs key)
    pure (.client rootCerts (some (certs, key)))

def Transport.withConfig (transport : Transport) (config : TlsConfig) : Outcome Transport :=
  match transport with
  | tls _ => pure (.tls config)
  | wss _ => pure (.wss config)
  | _ => .err "Configured transport does not allow TLS config"

/-- Whether the settings name a file for TLS. -/
def NamesFile (mqtt : Config.Mqtt) : Prop :=
  mqtt.caCert ≠ "" ∨ mqtt.tlsCert ≠ "" ∨ mqtt.tlsKey ≠ ""

instance (mqtt : Config.Mqtt) : Decidable (NamesFile mqtt) :=
  inferInstanceAs (Decidable (_ ∨ _ ∨ _))

def configureTls (mqtt : Config.Mqtt) (transport : Transport) : Outcome Transport :=
  if NamesFile mqtt then do
    let config ← clientConf libraries mqtt
    transport.withConfig config
  else pure transport

def qosOf (qos : UInt8) : Outcome QoS :=
  if qos = 0 then pure .atMostOnce
  else if qos = 1 then pure .atLeastOnce
  else if qos = 2 then pure .exactlyOnce
  else .err ("Invalid QoS: " ++ Nat.repr qos.toNat)

end

def clientId (mqtt : Config.Mqtt) (gatewayId : String) : String :=
  if mqtt.clientId = "" then gatewayId else mqtt.clientId

/-- The topic of the last will, and of the state that a session publishes. -/
def stateTopic (mqtt : Config.Mqtt) (gatewayId : String) : String :=
  topicPrefix (.ofMqtt mqtt) gatewayId ++ "/state/conn"

/-- The client of a session, with what the (re)subscribe loop is given. -/
structure Client where
  gatewayId : String
  qos : QoS
  options : MqttOptions
  commandTopic : String
  stateTopic : String
  /-- The encoded state `Online`. -/
  b : List UInt8
  deriving DecidableEq

/-- The part of `run` that builds the client, once the gateway id is there. -/
def setup (libraries : Libraries) (encoder : Publishing.Encoder Gw.ConnState) (mqtt : Config.Mqtt)
    (gatewayId : String) : Outcome Client := do
  let qos ← qosOf mqtt.qos
  let lwt ← encoder.write mqtt.json { gatewayId, state := .offline }
  let (broker, transport) ← connectTo libraries mqtt
  let transport ← configureTls libraries mqtt transport
  let b ← encoder.write mqtt.json { gatewayId, state := .online }
  pure {
    gatewayId, qos, b
    commandTopic := commandTopic (.ofMqtt mqtt) gatewayId
    stateTopic := stateTopic mqtt gatewayId
    options := {
      clientId := clientId mqtt gatewayId
      broker, transport
      lastWill := { topic := stateTopic mqtt gatewayId, message := lwt, qos, retain := true }
      cleanStart := mqtt.cleanSession
      keepAlive := .ofNat (mqtt.keepAliveInterval / 1000000000)
      credentials :=
        if mqtt.username ≠ "" ∨ mqtt.password ≠ "" then some (mqtt.username, mqtt.password)
        else none } }

/-! ## What a set-up leads to -/

section

variable {libraries : Libraries} {mqtt : Config.Mqtt}

@[simp] theorem propagate_eq_ok {α : Type} {x : Except String α} {value : α} :
    propagate x = .ok value ↔ x = .ok value := by
  cases x <;> simp [propagate]

@[simp] theorem withContext_eq_ok {α : Type} {message : String} {x : Except String α} {value : α} :
    withContext message x = .ok value ↔ x = .ok value := by
  cases x <;> simp [withContext]

theorem addRoots_eq_ok {roots certs out : List Certificate}
    (added : addRoots libraries roots certs = .ok out) : out = roots ++ certs := by
  induction certs generalizing roots with
  | nil =>
      cases added
      exact (List.append_nil _).symm
  | cons cert rest ih =>
      obtain ⟨_, _, later⟩ := Outcome.bind_eq_ok.mp added
      rw [ih later, List.append_assoc]
      rfl

/-- A file is read whole, or not at all. -/
theorem collect_eq_ok {out result : List Certificate} {certs : List (Except String Certificate)}
    (collected : collect out certs = .ok result) :
    ∃ more, certs = more.map .ok ∧ result = out ++ more := by
  induction certs generalizing out with
  | nil =>
      cases collected
      exact ⟨[], rfl, (List.append_nil _).symm⟩
  | cons first rest ih =>
      obtain ⟨cert, read, later⟩ := Outcome.bind_eq_ok.mp collected
      obtain ⟨more, rfl, rfl⟩ := ih later
      obtain rfl := propagate_eq_ok.mp read
      exact ⟨cert :: more, rfl, List.append_assoc out [cert] more⟩

theorem loadCert_eq_ok {certFile : String} {certs : List Certificate}
    (loaded : loadCert libraries certFile = .ok certs) :
    ∃ f, libraries.openFile certFile = .ok f ∧ libraries.certs f = certs.map .ok := by
  obtain ⟨f, opened, collected⟩ := Outcome.bind_eq_ok.mp loaded
  obtain ⟨more, read, rfl⟩ := collect_eq_ok collected
  exact ⟨f, withContext_eq_ok.mp opened, read⟩

theorem loadKey_eq_ok {keyFile : String} {key : PrivateKey}
    (loaded : loadKey libraries keyFile = .ok key) :
    ∃ f, libraries.openFile keyFile = .ok f ∧
      (libraries.pkcs8PrivateKeys f).head? = some (.ok key) := by
  obtain ⟨f, opened, read⟩ := Outcome.bind_eq_ok.mp loaded
  refine ⟨f, withContext_eq_ok.mp opened, ?_⟩
  split at read
  · next v first =>
      cases read
      exact first
  · cases read
  · cases read

/-- The certificates that the settings add to those of the system. -/
def CaCerts (libraries : Libraries) (mqtt : Config.Mqtt) (own : List Certificate) : Prop :=
  if mqtt.caCert = "" then own = []
  else ∃ f, libraries.openFile mqtt.caCert = .ok f ∧
    own = (libraries.certs f).filterMap Except.toOption

theorem getRootCerts_eq_ok {roots : List Certificate}
    (read : getRootCerts libraries (if mqtt.caCert = "" then none else some mqtt.caCert) =
      .ok roots) :
    ∃ own, CaCerts libraries mqtt own ∧ roots = libraries.nativeCerts ++ own := by
  obtain ⟨native, added, later⟩ := Outcome.bind_eq_ok.mp read
  obtain rfl := addRoots_eq_ok added
  by_cases unset : mqtt.caCert = ""
  · rw [if_pos unset] at later
    cases later
    exact ⟨[], by rw [CaCerts, if_pos unset], (List.append_nil _).symm⟩
  · rw [if_neg unset] at later
    obtain ⟨f, opened, more⟩ := Outcome.bind_eq_ok.mp later
    refine ⟨_, ?_, addRoots_eq_ok more⟩
    rw [CaCerts, if_neg unset]
    exact ⟨f, withContext_eq_ok.mp opened, rfl⟩

/-- What the TLS files of the settings make of a connection: whom the client trusts, and what it
shows of itself. -/
structure Secured (libraries : Libraries) (mqtt : Config.Mqtt) (roots : List Certificate)
    (auth : Option (List Certificate × PrivateKey)) : Prop where
  trusted : ∃ own, CaCerts libraries mqtt own ∧ roots = libraries.nativeCerts ++ own
  anonymous : auth = none ↔ mqtt.tlsCert = "" ∧ mqtt.tlsKey = ""
  shown : ∀ certs key, auth = some (certs, key) → mqtt.tlsCert ≠ "" ∧ mqtt.tlsKey ≠ "" ∧
    (∃ f, libraries.openFile mqtt.tlsCert = .ok f ∧ libraries.certs f = certs.map .ok) ∧
    ∃ f, libraries.openFile mqtt.tlsKey = .ok f ∧
      (libraries.pkcs8PrivateKeys f).head? = some (.ok key)

/-- A half of a pair is refused, because no file has the empty name. -/
theorem clientConf_eq_ok (nameless : ∀ f, libraries.openFile "" ≠ .ok f) {config : TlsConfig}
    (read : clientConf libraries mqtt = .ok config) :
    ∃ roots auth, config = .client roots auth ∧ Secured libraries mqtt roots auth := by
  obtain ⟨roots, rootCerts, later⟩ := Outcome.bind_eq_ok.mp read
  have trusted := getRootCerts_eq_ok rootCerts
  split at later
  · next unset =>
      cases later
      exact ⟨roots, none, rfl, trusted, by simp [unset], by simp⟩
  · next set =>
      obtain ⟨certs, loaded, later⟩ := Outcome.bind_eq_ok.mp later
      obtain ⟨key, loadedKey, later⟩ := Outcome.bind_eq_ok.mp later
      obtain ⟨_, _, later⟩ := Outcome.bind_eq_ok.mp later
      cases later
      have fromCert := loadCert_eq_ok loaded
      have fromKey := loadKey_eq_ok loadedKey
      refine ⟨roots, some (certs, key), rfl, trusted, by simp [set], ?_⟩
      rintro _ _ ⟨⟩
      refine ⟨fun empty => ?_, fun empty => ?_, fromCert, fromKey⟩
      · obtain ⟨f, opened, _⟩ := fromCert
        exact nameless f (empty ▸ opened)
      · obtain ⟨f, opened, _⟩ := fromKey
        exact nameless f (empty ▸ opened)

/-- The transport that a scheme stands for, with `config` if it is one with TLS. -/
inductive TransportFor (config : TlsConfig) : String → Transport → Prop where
  | mqtt : TransportFor config "mqtt" .tcp
  | tcp : TransportFor config "tcp" .tcp
  | mqtts : TransportFor config "mqtts" (.tls config)
  | ssl : TransportFor config "ssl" (.tls config)
  | ws : TransportFor config "ws" .ws
  | wss : TransportFor config "wss" (.wss config)

/-- The schemes that stand for TLS. -/
def secureSchemes : List String := ["mqtts", "ssl", "wss"]

theorem TransportFor.withConfig {old config : TlsConfig} {scheme : String}
    {transport result : Transport} (stands : TransportFor old scheme transport)
    (configured : transport.withConfig config = .ok result) :
    scheme ∈ secureSchemes ∧ TransportFor config scheme result := by
  cases stands with
  | mqtts =>
      cases configured
      exact ⟨by decide, .mqtts⟩
  | ssl =>
      cases configured
      exact ⟨by decide, .ssl⟩
  | wss =>
      cases configured
      exact ⟨by decide, .wss⟩
  | _ => cases configured

theorem connectTo_eq_ok {broker : Broker} {transport : Transport}
    (connects : connectTo libraries mqtt = .ok (broker, transport)) :
    ∃ url, libraries.parseUrl mqtt.server = .ok url ∧
      TransportFor .default url.scheme transport := by
  obtain ⟨⟨scheme, hostStr, port⟩, parsed, later⟩ := Outcome.bind_eq_ok.mp connects
  refine ⟨_, propagate_eq_ok.mp parsed, ?_⟩
  dsimp only at later ⊢
  split at later
  · next plain =>
      cases later
      rcases plain with rfl | rfl
      · exact .mqtt
      · exact .tcp
  split at later
  · next secure =>
      cases later
      rcases secure with rfl | rfl
      · exact .mqtts
      · exact .ssl
  split at later
  · next plain =>
      obtain ⟨_, _, later⟩ := Outcome.bind_eq_ok.mp later
      cases later
      exact plain ▸ .ws
  split at later
  · next secure =>
      obtain ⟨_, _, later⟩ := Outcome.bind_eq_ok.mp later
      cases later
      exact secure ▸ .wss
  · cases later

/-- What a client has from the settings and from the gateway id alone. -/
structure Client.Built (encoder : Publishing.Encoder Gw.ConnState) (mqtt : Config.Mqtt)
    (client : Client) : Prop where
  clientId : client.options.clientId = Connection.clientId mqtt client.gatewayId
  commandTopic : client.commandTopic = Mqtt.commandTopic (.ofMqtt mqtt) client.gatewayId
  stateTopic : client.stateTopic = Connection.stateTopic mqtt client.gatewayId
  topic : client.options.lastWill.topic = client.stateTopic
  retain : client.options.lastWill.retain = true
  offline : encoder.write mqtt.json { gatewayId := client.gatewayId, state := .offline } =
    .ok client.options.lastWill.message
  online : encoder.write mqtt.json { gatewayId := client.gatewayId, state := .online } =
    .ok client.b

variable {encoder : Publishing.Encoder Gw.ConnState} {gatewayId : String} {client : Client}

theorem setup_eq_ok (built : setup libraries encoder mqtt gatewayId = .ok client) :
    client.gatewayId = gatewayId ∧ client.Built encoder mqtt ∧
      ∃ broker transport, connectTo libraries mqtt = .ok (broker, transport) ∧
        configureTls libraries mqtt transport = .ok client.options.transport := by
  obtain ⟨qos, _, later⟩ := Outcome.bind_eq_ok.mp built
  obtain ⟨lwt, offline, later⟩ := Outcome.bind_eq_ok.mp later
  obtain ⟨⟨broker, transport⟩, connects, later⟩ := Outcome.bind_eq_ok.mp later
  obtain ⟨configured, config, later⟩ := Outcome.bind_eq_ok.mp later
  obtain ⟨b, online, later⟩ := Outcome.bind_eq_ok.mp later
  cases later
  exact ⟨rfl, ⟨rfl, rfl, rfl, rfl, rfl, offline, online⟩, broker, transport, connects, config⟩

/-- Whatever the settings and the files are: a session whose settings name a file for TLS never
connects in clear text, trusts the certificates of the system and those of its file, and shows a
whole certificate with its key or nothing.  Without such a file, the transport is the one that the
scheme stands for, as it is by default. -/
theorem setup_secured (nameless : ∀ f, libraries.openFile "" ≠ .ok f)
    (built : setup libraries encoder mqtt gatewayId = .ok client) :
    ∃ url, libraries.parseUrl mqtt.server = .ok url ∧
      (NamesFile mqtt → url.scheme ∈ secureSchemes ∧ ∃ roots auth,
        TransportFor (.client roots auth) url.scheme client.options.transport ∧
          Secured libraries mqtt roots auth) ∧
      (¬ NamesFile mqtt → TransportFor .default url.scheme client.options.transport) := by
  obtain ⟨_, _, broker, transport, connects, configured⟩ := setup_eq_ok built
  obtain ⟨url, parsed, stands⟩ := connectTo_eq_ok connects
  refine ⟨url, parsed, fun named => ?_, fun unnamed => ?_⟩
  · rw [configureTls, if_pos named] at configured
    obtain ⟨config, read, given⟩ := Outcome.bind_eq_ok.mp configured
    obtain ⟨roots, auth, rfl, secured⟩ := clientConf_eq_ok nameless read
    obtain ⟨secure, result⟩ := stands.withConfig given
    exact ⟨secure, roots, auth, result, secured⟩
  · rw [configureTls, if_neg unnamed] at configured
    cases configured
    exact stands

end

/-! ## Files of the settings -/

/-- Settings that name all three files. -/
def ownCertificate : Config.Mqtt :=
  { server := "ssl://broker", caCert := "ca.pem", tlsCert := "cert.pem", tlsKey := "key.pem" }

/-- Three files, each with one certificate or key, and one certificate of the system. -/
def threeFiles : Libraries where
  parseUrl := fun _ => .ok ⟨"ssl", some "broker", none⟩
  websocket := fun url => .ok (.websocket url)
  openFile := fun name =>
    if name = "ca.pem" then .ok [1]
    else if name = "cert.pem" then .ok [2]
    else if name = "key.pem" then .ok [3]
    else .error "No such file or directory"
  nativeCerts := [[0]]
  certs := fun f => [.ok f]
  pkcs8PrivateKeys := fun f => [.ok f]
  addRoot := fun _ => .ok ()
  clientAuthCert := fun _ _ => .ok ()

/-- The state as one byte. -/
def plainState : Publishing.Encoder Gw.ConnState where
  toVec := fun pl => .ok [if pl.state = .online then 1 else 0]
  encodeToVec := fun pl => [if pl.state = .online then 1 else 0]

theorem setup_secured_own_certificate :
    ∃ client, setup threeFiles plainState ownCertificate "0102030405060708" = .ok client ∧
      ∃ roots auth, TransportFor (.client roots auth) "ssl" client.options.transport ∧
        Secured threeFiles ownCertificate roots auth := by
  refine ⟨_, rfl, ?_⟩
  have nameless : ∀ f, threeFiles.openFile "" ≠ .ok f := fun f opened => by cases opened
  have built : setup threeFiles plainState ownCertificate "0102030405060708" = .ok _ := rfl
  obtain ⟨url, parsed, secured, _⟩ := setup_secured nameless built
  cases parsed
  exact (secured (.inl (by decide))).2

end Connection

end MqttForwarder.Mqtt
