import MqttForwarder.Api.Environment
import MqttForwarder.Handlebars.Render
import MqttForwarder.Toml.Document

/-!
# The configuration

The types of `config.rs` with their defaults, and the derived implementations
of `Serialize` and `Deserialize`: the data that a template is rendered with,
and the configuration that a TOML document gives.
-/

namespace MqttForwarder.Config

open MqttForwarder.Rust MqttForwarder.Handlebars
open MqttForwarder.Toml (Value)

/-- `std::time::Duration`, in nanoseconds. -/
abbrev Duration := Gw.StdDuration

/-- The string forms of values of other crates. -/
structure Formats where
  /-- `humantime::format_duration`. -/
  formatDuration : Duration → String
  /-- `humantime::parse_duration`. -/
  parseDuration : String → Option Duration
  /-- `DevAddrPrefix::to_string`. -/
  formatDevAddrPrefix : DevAddrPrefix → String
  /-- `DevAddrPrefix::from_str`. -/
  parseDevAddrPrefix : String → Option DevAddrPrefix
  /-- `EuiPrefix::to_string`. -/
  formatEuiPrefix : EuiPrefix → String
  /-- `EuiPrefix::from_str`. -/
  parseEuiPrefix : String → Option EuiPrefix

/-! ## The types -/

structure Logging where
  level : String := "info"
  logToSyslog : Bool := false

structure Mqtt where
  topicPrefix : String := "eu868"
  json : Bool := false
  server : String := "tcp://127.0.0.1:1883"
  username : String := ""
  password : String := ""
  qos : UInt8 := 0
  cleanSession : Bool := false
  clientId : String := ""
  keepAliveInterval : Duration := 30 * 1000000000
  caCert : String := ""
  tlsCert : String := ""
  tlsKey : String := ""
  reconnectInterval : Duration := 1000000000
  publishChannelSize : USize := 100

structure Filters where
  forwardCrcOk : Bool := true
  forwardCrcInvalid : Bool := false
  forwardCrcMissing : Bool := false
  lorawanOnly : Bool := false
  devAddrPrefixes : List DevAddrPrefix := []
  joinEuiPrefixes : List EuiPrefix := []

structure Concentratord where
  eventUrl : String := "ipc:///tmp/concentratord_event"
  commandUrl : String := "ipc:///tmp/concentratord_command"

structure SemtechUdp where
  bind : String := "0.0.0.0:1700"
  timeFallbackEnabled : Bool := false

structure Backend where
  enabled : String := "semtech_udp"
  filters : Filters := {}
  gatewayId : String := ""
  semtechUdp : SemtechUdp := {}
  concentratord : Concentratord := {}

structure Metadata where
  static : HashMap String String := ∅
  commands : HashMap String (List String) := ∅
  splitDelimiter : String := "="

structure Callbacks where
  onMqttConnected : List String := []
  onMqttConnectionError : List String := []

structure Configuration where
  logging : Logging := {}
  mqtt : Mqtt := {}
  backend : Backend := {}
  metadata : Metadata := {}
  commands : HashMap String (List String) := ∅
  callbacks : Callbacks := {}

/-! ## Serialize -/

def strings (texts : List String) : Data := .array (texts.map .string)

/-- A map, in the order of its keys. -/
def fields {ν : Type} (data : ν → Data) (map : HashMap String ν) : Data :=
  .object ((map.entries.map fun entry => (entry.1, data entry.2)).mergeSort
    fun one other => one.1 ≤ other.1)

def Logging.serialize (logging : Logging) : Data :=
  .object [("level", .string logging.level), ("log_to_syslog", .bool logging.logToSyslog)]

def Mqtt.serialize (formats : Formats) (mqtt : Mqtt) : Data :=
  .object [
    ("topic_prefix", .string mqtt.topicPrefix),
    ("json", .bool mqtt.json),
    ("server", .string mqtt.server),
    ("username", .string mqtt.username),
    ("password", .string mqtt.password),
    ("qos", .integer mqtt.qos.toNat),
    ("clean_session", .bool mqtt.cleanSession),
    ("client_id", .string mqtt.clientId),
    ("keep_alive_interval", .string (formats.formatDuration mqtt.keepAliveInterval)),
    ("ca_cert", .string mqtt.caCert),
    ("tls_cert", .string mqtt.tlsCert),
    ("tls_key", .string mqtt.tlsKey),
    ("reconnect_interval", .string (formats.formatDuration mqtt.reconnectInterval)),
    ("publish_channel_size", .integer mqtt.publishChannelSize.toNat)]

def Filters.serialize (formats : Formats) (filters : Filters) : Data :=
  .object [
    ("forward_crc_ok", .bool filters.forwardCrcOk),
    ("forward_crc_invalid", .bool filters.forwardCrcInvalid),
    ("forward_crc_missing", .bool filters.forwardCrcMissing),
    ("lorawan_only", .bool filters.lorawanOnly),
    ("dev_addr_prefixes", strings (filters.devAddrPrefixes.map formats.formatDevAddrPrefix)),
    ("join_eui_prefixes", strings (filters.joinEuiPrefixes.map formats.formatEuiPrefix))]

def Concentratord.serialize (concentratord : Concentratord) : Data :=
  .object [
    ("event_url", .string concentratord.eventUrl),
    ("command_url", .string concentratord.commandUrl)]

def SemtechUdp.serialize (semtechUdp : SemtechUdp) : Data :=
  .object [
    ("bind", .string semtechUdp.bind),
    ("time_fallback_enabled", .bool semtechUdp.timeFallbackEnabled)]

def Backend.serialize (formats : Formats) (backend : Backend) : Data :=
  .object [
    ("enabled", .string backend.enabled),
    ("filters", backend.filters.serialize formats),
    ("gateway_id", .string backend.gatewayId),
    ("semtech_udp", backend.semtechUdp.serialize),
    ("concentratord", backend.concentratord.serialize)]

def Metadata.serialize (metadata : Metadata) : Data :=
  .object [
    ("static", fields .string metadata.static),
    ("commands", fields strings metadata.commands),
    ("split_delimiter", .string metadata.splitDelimiter)]

def Callbacks.serialize (callbacks : Callbacks) : Data :=
  .object [
    ("on_mqtt_connected", strings callbacks.onMqttConnected),
    ("on_mqtt_connection_error", strings callbacks.onMqttConnectionError)]

def Configuration.serialize (formats : Formats) (config : Configuration) : Data :=
  .object [
    ("logging", config.logging.serialize),
    ("mqtt", config.mqtt.serialize formats),
    ("backend", config.backend.serialize formats),
    ("metadata", config.metadata.serialize),
    ("commands", fields strings config.commands),
    ("callbacks", config.callbacks.serialize)]

/-! ## Deserialize -/

section

open Toml.Value

/-- `humantime_serde::deserialize`. -/
def duration (formats : Formats) (value : Value) : Option Duration :=
  value.text.bind formats.parseDuration

def Logging.deserialize (value : Value) : Option Logging := do
  let defaults : Logging := {}
  let given ← value.fieldsFor ["level", "log_to_syslog"]
  let level ← field given "level" defaults.level text
  let logToSyslog ← field given "log_to_syslog" defaults.logToSyslog boolean
  pure { level, logToSyslog }

def Mqtt.deserialize (formats : Formats) (value : Value) : Option Mqtt := do
  let defaults : Mqtt := {}
  let given ← value.fieldsFor ["topic_prefix", "json", "server", "username", "password", "qos",
    "clean_session", "client_id", "keep_alive_interval", "ca_cert", "tls_cert", "tls_key",
    "reconnect_interval", "publish_channel_size"]
  let topicPrefix ← field given "topic_prefix" defaults.topicPrefix text
  let json ← field given "json" defaults.json boolean
  let server ← field given "server" defaults.server text
  let username ← field given "username" defaults.username text
  let password ← field given "password" defaults.password text
  let qos ← field given "qos" defaults.qos.toNat (unsigned UInt8.size)
  let cleanSession ← field given "clean_session" defaults.cleanSession boolean
  let clientId ← field given "client_id" defaults.clientId text
  let keepAliveInterval ←
    field given "keep_alive_interval" defaults.keepAliveInterval (duration formats)
  let caCert ← field given "ca_cert" defaults.caCert text
  let tlsCert ← field given "tls_cert" defaults.tlsCert text
  let tlsKey ← field given "tls_key" defaults.tlsKey text
  let reconnectInterval ←
    field given "reconnect_interval" defaults.reconnectInterval (duration formats)
  let publishChannelSize ←
    field given "publish_channel_size" defaults.publishChannelSize.toNat (unsigned USize.size)
  pure {
    topicPrefix, json, server, username, password, qos := .ofNat qos, cleanSession, clientId,
    keepAliveInterval, caCert, tlsCert, tlsKey, reconnectInterval,
    publishChannelSize := .ofNat publishChannelSize }

def Filters.deserialize (formats : Formats) (value : Value) : Option Filters := do
  let defaults : Filters := {}
  let given ← value.fieldsFor ["forward_crc_ok", "forward_crc_invalid", "forward_crc_missing",
    "lorawan_only", "dev_addr_prefixes", "join_eui_prefixes"]
  let forwardCrcOk ← field given "forward_crc_ok" defaults.forwardCrcOk boolean
  let forwardCrcInvalid ← field given "forward_crc_invalid" defaults.forwardCrcInvalid boolean
  let forwardCrcMissing ← field given "forward_crc_missing" defaults.forwardCrcMissing boolean
  let lorawanOnly ← field given "lorawan_only" defaults.lorawanOnly boolean
  let devAddrPrefixes ← field given "dev_addr_prefixes" defaults.devAddrPrefixes
    (vec fun item => item.text.bind formats.parseDevAddrPrefix)
  let joinEuiPrefixes ← field given "join_eui_prefixes" defaults.joinEuiPrefixes
    (vec fun item => item.text.bind formats.parseEuiPrefix)
  pure {
    forwardCrcOk, forwardCrcInvalid, forwardCrcMissing, lorawanOnly, devAddrPrefixes,
    joinEuiPrefixes }

def Concentratord.deserialize (value : Value) : Option Concentratord := do
  let defaults : Concentratord := {}
  let given ← value.fieldsFor ["event_url", "command_url"]
  let eventUrl ← field given "event_url" defaults.eventUrl text
  let commandUrl ← field given "command_url" defaults.commandUrl text
  pure { eventUrl, commandUrl }

def SemtechUdp.deserialize (value : Value) : Option SemtechUdp := do
  let defaults : SemtechUdp := {}
  let given ← value.fieldsFor ["bind", "time_fallback_enabled"]
  let bind ← field given "bind" defaults.bind text
  let timeFallbackEnabled ←
    field given "time_fallback_enabled" defaults.timeFallbackEnabled boolean
  pure { bind, timeFallbackEnabled }

def Backend.deserialize (formats : Formats) (value : Value) : Option Backend := do
  let defaults : Backend := {}
  let given ← value.fieldsFor ["enabled", "filters", "gateway_id", "semtech_udp", "concentratord"]
  let enabled ← field given "enabled" defaults.enabled text
  let filters ← field given "filters" defaults.filters (Filters.deserialize formats)
  let gatewayId ← field given "gateway_id" defaults.gatewayId text
  let semtechUdp ← field given "semtech_udp" defaults.semtechUdp SemtechUdp.deserialize
  let concentratord ←
    field given "concentratord" defaults.concentratord Concentratord.deserialize
  pure { enabled, filters, gatewayId, semtechUdp, concentratord }

def Metadata.deserialize (value : Value) : Option Metadata := do
  let defaults : Metadata := {}
  let given ← value.fieldsFor ["static", "commands", "split_delimiter"]
  let static ← field given "static" defaults.static (map text)
  let commands ← field given "commands" defaults.commands (map (vec text))
  let splitDelimiter ← field given "split_delimiter" defaults.splitDelimiter text
  pure { static, commands, splitDelimiter }

def Callbacks.deserialize (value : Value) : Option Callbacks := do
  let defaults : Callbacks := {}
  let given ← value.fieldsFor ["on_mqtt_connected", "on_mqtt_connection_error"]
  let onMqttConnected ← field given "on_mqtt_connected" defaults.onMqttConnected (vec text)
  let onMqttConnectionError ←
    field given "on_mqtt_connection_error" defaults.onMqttConnectionError (vec text)
  pure { onMqttConnected, onMqttConnectionError }

def Configuration.deserialize (formats : Formats) (value : Value) : Option Configuration := do
  let defaults : Configuration := {}
  let given ← value.fieldsFor ["logging", "mqtt", "backend", "metadata", "commands", "callbacks"]
  let logging ← field given "logging" defaults.logging Logging.deserialize
  let mqtt ← field given "mqtt" defaults.mqtt (Mqtt.deserialize formats)
  let backend ← field given "backend" defaults.backend (Backend.deserialize formats)
  let metadata ← field given "metadata" defaults.metadata Metadata.deserialize
  let commands ← field given "commands" defaults.commands (map (vec text))
  let callbacks ← field given "callbacks" defaults.callbacks Callbacks.deserialize
  pure { logging, mqtt, backend, metadata, commands, callbacks }

end

/-! ## Texts that are read back -/

/-- The settings that are texts, by their keys. -/
def Logging.texts (logging : Logging) : List (String × String) :=
  [("level", logging.level)]

def Mqtt.texts (mqtt : Mqtt) : List (String × String) :=
  [("topic_prefix", mqtt.topicPrefix), ("server", mqtt.server), ("username", mqtt.username),
    ("password", mqtt.password), ("client_id", mqtt.clientId), ("ca_cert", mqtt.caCert),
    ("tls_cert", mqtt.tlsCert), ("tls_key", mqtt.tlsKey)]

/-- The settings of the logging and of the MQTT client that are texts, by their paths. -/
def Configuration.texts (config : Configuration) : List (List String × String) :=
  config.logging.texts.map (fun setting => (["logging", setting.1], setting.2)) ++
    config.mqtt.texts.map fun setting => (["mqtt", setting.1], setting.2)

theorem text_of_field {given : String → Option Value} {name default text got : String}
    (read : Value.field given name default Value.text = some got)
    (found : given name = some (.scalar (.string text))) : got = text := by
  rw [Value.field_of_some found] at read
  exact (Option.some.inj read).symm

theorem Logging.texts_read {value : Value} {logging : Logging}
    (read : Logging.deserialize value = some logging) {setting : String × String}
    (member : setting ∈ logging.texts) {text : String}
    (found : value.get? setting.1 = some (.scalar (.string text))) : setting.2 = text := by
  obtain ⟨given, fields, read⟩ := Option.bind_eq_some_iff.mp read
  obtain ⟨level, readLevel, read⟩ := Option.bind_eq_some_iff.mp read
  obtain ⟨_, _, read⟩ := Option.bind_eq_some_iff.mp read
  obtain rfl := Option.some.inj read
  obtain ⟨given', same, own⟩ := Value.fieldsFor_of_get? found ["level", "log_to_syslog"]
  obtain rfl := Option.some.inj (fields.symm.trans same)
  obtain rfl := List.mem_singleton.mp member
  exact text_of_field readLevel own

theorem Mqtt.texts_read {formats : Formats} {value : Value} {mqtt : Mqtt}
    (read : Mqtt.deserialize formats value = some mqtt) {setting : String × String}
    (member : setting ∈ mqtt.texts) {text : String}
    (found : value.get? setting.1 = some (.scalar (.string text))) : setting.2 = text := by
  obtain ⟨given, fields, read⟩ := Option.bind_eq_some_iff.mp read
  obtain ⟨topicPrefix, readTopicPrefix, read⟩ := Option.bind_eq_some_iff.mp read
  obtain ⟨_, _, read⟩ := Option.bind_eq_some_iff.mp read
  obtain ⟨server, readServer, read⟩ := Option.bind_eq_some_iff.mp read
  obtain ⟨username, readUsername, read⟩ := Option.bind_eq_some_iff.mp read
  obtain ⟨password, readPassword, read⟩ := Option.bind_eq_some_iff.mp read
  obtain ⟨_, _, read⟩ := Option.bind_eq_some_iff.mp read
  obtain ⟨_, _, read⟩ := Option.bind_eq_some_iff.mp read
  obtain ⟨clientId, readClientId, read⟩ := Option.bind_eq_some_iff.mp read
  obtain ⟨_, _, read⟩ := Option.bind_eq_some_iff.mp read
  obtain ⟨caCert, readCaCert, read⟩ := Option.bind_eq_some_iff.mp read
  obtain ⟨tlsCert, readTlsCert, read⟩ := Option.bind_eq_some_iff.mp read
  obtain ⟨tlsKey, readTlsKey, read⟩ := Option.bind_eq_some_iff.mp read
  obtain ⟨_, _, read⟩ := Option.bind_eq_some_iff.mp read
  obtain ⟨_, _, read⟩ := Option.bind_eq_some_iff.mp read
  obtain rfl := Option.some.inj read
  obtain ⟨given', same, own⟩ := Value.fieldsFor_of_get? found _
  obtain rfl := Option.some.inj (fields.symm.trans same)
  simp only [texts, List.mem_cons, List.not_mem_nil, or_false] at member
  rcases member with rfl | rfl | rfl | rfl | rfl | rfl | rfl | rfl
  · exact text_of_field readTopicPrefix own
  · exact text_of_field readServer own
  · exact text_of_field readUsername own
  · exact text_of_field readPassword own
  · exact text_of_field readClientId own
  · exact text_of_field readCaCert own
  · exact text_of_field readTlsCert own
  · exact text_of_field readTlsKey own

/-- A text of the document is the setting of the configuration that is read from it. -/
theorem Configuration.texts_read {formats : Formats} {root : Value} {config : Configuration}
    (read : Configuration.deserialize formats root = some config)
    {setting : List String × String} (member : setting ∈ config.texts) {text : String}
    (found : root.scalarAt setting.1 = some (.string text)) : setting.2 = text := by
  obtain ⟨given, fields, read⟩ := Option.bind_eq_some_iff.mp read
  obtain ⟨logging, readLogging, read⟩ := Option.bind_eq_some_iff.mp read
  obtain ⟨mqtt, readMqtt, read⟩ := Option.bind_eq_some_iff.mp read
  obtain ⟨_, _, read⟩ := Option.bind_eq_some_iff.mp read
  obtain ⟨_, _, read⟩ := Option.bind_eq_some_iff.mp read
  obtain ⟨_, _, read⟩ := Option.bind_eq_some_iff.mp read
  obtain ⟨_, _, read⟩ := Option.bind_eq_some_iff.mp read
  obtain rfl := Option.some.inj read
  have inner : ∀ {first second : String}, root.scalarAt [first, second] = some (.string text) →
      ∃ value, given first = some value ∧ value.get? second = some (.scalar (.string text)) := by
    intro first second found
    obtain ⟨value, outer, found⟩ := Value.follow_cons.mp (Value.scalarAt_eq_some.mp found)
    obtain ⟨_, found, here⟩ := Value.follow_cons.mp found
    obtain rfl := Option.some.inj here
    obtain ⟨given', same, own⟩ := Value.fieldsFor_of_get? outer _
    obtain rfl := Option.some.inj (fields.symm.trans same)
    exact ⟨value, own, found⟩
  simp only [texts, List.mem_append, List.mem_map] at member
  rcases member with ⟨setting, member, rfl⟩ | ⟨setting, member, rfl⟩
  · obtain ⟨value, own, found⟩ := inner found
    rw [Value.field_of_some own] at readLogging
    exact Logging.texts_read readLogging member found
  · obtain ⟨value, own, found⟩ := inner found
    rw [Value.field_of_some own] at readMqtt
    exact Mqtt.texts_read readMqtt member found

/-! ## Equal configurations -/

/-- The maps have the same entries; their order does not matter. -/
def SameMap {ν : Type} (map other : HashMap String ν) : Prop :=
  ∀ key, map.lookup key = other.lookup key

structure Metadata.Same (metadata other : Metadata) : Prop where
  static : SameMap metadata.static other.static
  commands : SameMap metadata.commands other.commands
  splitDelimiter : metadata.splitDelimiter = other.splitDelimiter

/-- The same configuration: the maps are compared as maps. -/
structure Configuration.Same (config other : Configuration) : Prop where
  logging : config.logging = other.logging
  mqtt : config.mqtt = other.mqtt
  backend : config.backend = other.backend
  metadata : config.metadata.Same other.metadata
  commands : SameMap config.commands other.commands
  callbacks : config.callbacks = other.callbacks

theorem Configuration.Same.texts {config other : Configuration} (same : config.Same other) :
    config.texts = other.texts := by
  unfold Configuration.texts
  rw [same.logging, same.mqtt]

end MqttForwarder.Config
