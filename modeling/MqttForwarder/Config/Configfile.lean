import MqttForwarder.Config.Configuration
import MqttForwarder.Toml.Values

/-!
# The configfile command

`run` prints a template that repeats the structure of the configuration by
hand.  Two of its paths begin with `integration`, which the configuration does
not have, so the publish-channel size is rendered as a key without a value,
and no reader of TOML accepts what is printed.
-/

namespace MqttForwarder.Config.Configfile

open MqttForwarder.Rust MqttForwarder.Handlebars MqttForwarder.Toml

/-! ## The template -/

/-- A line of the template with a value of the configuration: what stands before the value, its
path, and whether it stands between quotes. -/
structure Setting where
  opening : String
  path : List String
  quotes : Bool

def Setting.parts (setting : Setting) : List Part :=
  [.text setting.opening, .path setting.path, .text (if setting.quotes then "\"\n" else "\n")]

def level : Setting where
  opening := r#"
# Logging settings.
[logging]

  # Log level.
  #
  # Valid options are:
  #   * TRACE
  #   * DEBUG
  #   * INFO
  #   * WARN
  #   * ERROR
  #   * OFF
  level=""#
  path := ["logging", "level"]
  quotes := true

def logToSyslog : Setting where
  opening := "
  # Log to syslog.
  #
  # If set to true, log messages are being written to syslog instead of stdout.
  log_to_syslog="
  path := ["logging", "log_to_syslog"]
  quotes := false

def topicPrefix : Setting where
  opening := r#"

# MQTT settings.
[mqtt]

  # Topic prefix.
  #
  # ChirpStack MQTT Forwarder publishes to the following topics:
  #
  #  * [Prefix/]gateway/[Gateway ID]/event/[Event]
  #  * [Prefix/]gateway/[Gateway ID]/state/[State]
  #
  # And subscribes to the following topic:
  #
  #  * [Prefix/]gateway/[Gateway ID]/command/[Command]
  #
  # The topic prefix can be used to define the region of the gateway.
  # Note, there is no need to add a trailing '/' to the prefix. The trailing
  # '/' is automatically added to the prefix if it is configured.
  topic_prefix=""#
  path := ["mqtt", "topic_prefix"]
  quotes := true

def json : Setting where
  opening := "
  # Use JSON encoding instead of Protobuf (binary).
  #
  # Note, only use this for debugging purposes.
  json="
  path := ["mqtt", "json"]
  quotes := false

def server : Setting where
  opening := r#"
  # MQTT server (e.g. scheme://host:port where scheme is tcp, ssl, ws or wss)
  server=""#
  path := ["mqtt", "server"]
  quotes := true

def username : Setting where
  opening := r#"
  # Connect with the given username (optional)
  username=""#
  path := ["mqtt", "username"]
  quotes := true

def password : Setting where
  opening := r#"
  # Connect with the given password (optional)
  password=""#
  path := ["mqtt", "password"]
  quotes := true

def qos : Setting where
  opening := "
  # Quality of service level
  #
  # 0: at most once
  # 1: at least once
  # 2: exactly once
  #
  # Note: an increase of this value will decrease the performance.
  # For more information: https://www.hivemq.com/blog/mqtt-essentials-part-6-mqtt-quality-of-service-levels
  qos="
  path := ["mqtt", "qos"]
  quotes := false

def cleanSession : Setting where
  opening := r#"
  # Clean session
  #
  # Set the "clean session" flag in the connect message when this client
  # connects to an MQTT broker. By setting this flag you are indicating
  # that no messages saved by the broker for this client should be delivered.
  clean_session="#
  path := ["mqtt", "clean_session"]
  quotes := false

def clientId : Setting where
  opening := r#"
  # Client ID
  #
  # Set the client id to be used by this client when connecting to the MQTT
  # broker. A client id must be no longer than 23 characters. If left blank,
  # a random id will be generated by ChirpStack.
  client_id=""#
  path := ["mqtt", "client_id"]
  quotes := true

def keepAliveInterval : Setting where
  opening := r#"
  # Keep alive interval.
  #
  # This defines the maximum time that that should pass without communication
  # between the client and server.
  keep_alive_interval=""#
  path := ["mqtt", "keep_alive_interval"]
  quotes := true

def caCert : Setting where
  opening := r#"
  # CA certificate file (optional)
  #
  # Use this when setting up a secure connection (when server uses ssl://...)
  # but the certificate used by the server is not trusted by any CA certificate
  # on the server (e.g. when self generated).
  ca_cert=""#
  path := ["mqtt", "ca_cert"]
  quotes := true

def tlsCert : Setting where
  opening := r#"
  # TLS certificate file (optional)
  tls_cert=""#
  path := ["mqtt", "tls_cert"]
  quotes := true

def tlsKey : Setting where
  opening := r#"
  # TLS key file (optional)
  tls_key=""#
  path := ["mqtt", "tls_key"]
  quotes := true

def reconnectInterval : Setting where
  opening := r#"
  # Reconnect interval.
  #
  # This defines the reconnection interval to the MQTT broker in case of
  # network issues.
  reconnect_interval=""#
  path := ["integration", "mqtt", "reconnect_interval"]
  quotes := true

def publishChannelSize : Setting where
  opening := "
  # Publish-channel size.
  #
  # This defines the size of the publish channel. If the MQTT client unavailable
  # because of e.g. certificate reload, messages stay in the channel until the
  # MQTT client is back available, until the max. channel size has been reached.
  publish_channel_size="
  path := ["integration", "mqtt", "publish_channel_size"]
  quotes := false

def enabled : Setting where
  opening := r#"

# Backend configuration.
[backend]

  # Enabled backend.
  #
  # Set this to the backend that must be used by the ChirpStack MQTT Forwarder.
  # Valid options are:
  #   * concentratord
  #   * semtech_udp
  enabled=""#
  path := ["backend", "enabled"]
  quotes := true

def forwardCrcOk : Setting where
  opening := "
  # Filters.
  [backend.filters]

    # Forward CRC ok.
    forward_crc_ok="
  path := ["backend", "filters", "forward_crc_ok"]
  quotes := false

def forwardCrcInvalid : Setting where
  opening := "
    # Forward CRC invalid.
    forward_crc_invalid="
  path := ["backend", "filters", "forward_crc_invalid"]
  quotes := false

def forwardCrcMissing : Setting where
  opening := "
    # Forward CRC missing.
    forward_crc_missing="
  path := ["backend", "filters", "forward_crc_missing"]
  quotes := false

def lorawanOnly : Setting where
  opening := "
    # LoRaWAN only.
    lorawan_only="
  path := ["backend", "filters", "lorawan_only"]
  quotes := false

def devAddrPrefixes : List Part := [.text r#"
    # DevAddr prefix filters.
    #
    # Example configuration:
    # dev_addr_prefixes=["0000ff00/24"]
    #
    # The above filter means that the 24MSB of 0000ff00 will be used to
    # filter DevAddrs. Uplinks with DevAddrs that do not match any of the
    # configured filters will not be forwarded. Leaving this option empty
    # disables filtering on DevAddr.
    dev_addr_prefixes=[
"#,
  .each ["backend", "filters", "dev_addr_prefixes"] [.text "      \"", .path [], .text "\",\n"],
  .text "    ]\n"]

def joinEuiPrefixes : List Part := [.text r#"
    # JoinEUI prefix filters.
    #
    # Example configuration:
    # join_eui_prefixes=["0000ff0000000000/24"]
    #
    # The above filter means that the 24MSB of 0000ff0000000000 will be used
    # to filter JoinEUIs. Uplinks with JoinEUIs that do not match any of the
    # configured filters will not be forwarded. Leaving this option empty
    # disables filtering on JoinEUI.
    join_eui_prefixes=[
"#,
  .each ["backend", "filters", "join_eui_prefixes"] [.text "      \"", .path [], .text "\",\n"],
  .text "    ]\n"]

def eventUrl : Setting where
  opening := r#"

  # ChirpStack Concentratord backend configuration.
  [backend.concentratord]

    # Event API URL.
    event_url=""#
  path := ["backend", "concentratord", "event_url"]
  quotes := true

def commandUrl : Setting where
  opening := r#"
    # Command API URL.
    command_url=""#
  path := ["backend", "concentratord", "command_url"]
  quotes := true

def bind : Setting where
  opening := r#"

  # Semtech UDP backend configuration.
  [backend.semtech_udp]

    # ip:port to bind the UDP listener to.
    #
    # Example: 0.0.0.0:1700 to listen on port 1700 for all network interfaces.
    # This is the listener to which the packet-forwarder forwards its data
    # so make sure the 'serv_port_up' and 'serv_port_down' from your
    # packet-forwarder matches this port.
    bind=""#
  path := ["backend", "semtech_udp", "bind"]
  quotes := true

def timeFallbackEnabled : Setting where
  opening := "
    # Time fallback.
    #
    # In case the UDP packet-forwarder does not set the 'time' field, then the
    # server-time will be used as fallback if this option is enabled.
    time_fallback_enabled="
  path := ["backend", "semtech_udp", "time_fallback_enabled"]
  quotes := false

def static : List Part := [.text r#"

# Gateway metadata configuration.
[metadata]

  # Static key / value metadata.
  [metadata.static]
      
    # Example:
    # serial_number="1234"
"#,
  .each ["metadata", "static"] [.text "    ", .key, .text "=\"", .path [], .text "\"\n"]]

def splitDelimiter : Setting where
  opening := r#"

  # Commands returning metadata.
  [metadata.commands]

    # Split delimiter
    #
    # ChirpStack MQTT Forwarder will parse the return value as key / value
    # data in the case:
    #
    #  * The return value contains a single line, which contains the split_delimiter
    #  * In case multiple lines are returned
    #
    # In case a multi-line return value line does not contain the split_delimiter,
    # a warning will be logged.
    #
    # Examples:
    # 
    # * example1 = ["echo", "Hello World"]
    #     -> example1: Hello World
    #
    # * example2 = ["echo", "key1=Hello\nkey2=World\n"]
    #     -> example2_key1: Hello,  example2_key2: World
    #
    split_delimiter=""#
  path := ["metadata", "split_delimiter"]
  quotes := true

def metadataCommands : List Part := [.text r#"
    # Example:
    # datetime=["date", "-R"]
"#,
  .each ["metadata", "commands"] [.text "    ", .key, .text "=[\n",
    .each [] [.text "      \"", .path [], .text "\",\n"],
    .text "    ]\n"]]

def commands : List Part := [.text r#"

# Executable commands.
[commands]

  # Example:
  # reboot=["/usr/bin/reboot"]
"#,
  .each ["commands"] [.text "  ", .key, .text "=[\n",
    .each [] [.text "    \"", .path [], .text "\",\n"],
    .text "  ]\n"]]

def callbacks : List Part := [.text "

# Callback commands.
#
# These are commands that are triggered by certain events (e.g. MQTT connected
# or error). These commands are intended to e.g. trigger a LED of a gateway.
# Commands are configured as an array, where the first item is the path to the
# command, and the (optional) remaining elements are the arguments. An empty
# array disables the callback.
[callbacks]

  # On MQTT connected.
  on_mqtt_connected=[]

  # On MQTT connection error.
  on_mqtt_connection_error=[]
"]

/-- The settings of the logging and of the MQTT client. -/
def beginning : List Setting :=
  [level, logToSyslog, topicPrefix, json, server, username, password, qos, cleanSession, clientId,
    keepAliveInterval, caCert, tlsCert, tlsKey, reconnectInterval, publishChannelSize]

/-- The other settings. -/
def rest : List Part :=
  enabled.parts ++ forwardCrcOk.parts ++ forwardCrcInvalid.parts ++ forwardCrcMissing.parts ++
    lorawanOnly.parts ++ devAddrPrefixes ++ joinEuiPrefixes ++ eventUrl.parts ++
    commandUrl.parts ++ bind.parts ++ timeFallbackEnabled.parts ++ static ++
    splitDelimiter.parts ++ metadataCommands ++ commands ++ callbacks

def template : List Part := beginning.flatMap Setting.parts ++ rest

/-- The registered escape function. -/
def escape (text : String) : String :=
  String.ofList (replaceChar '"' ['\\', '"'] text.toList)

/-- What `run` prints. -/
def run (formats : Formats) (config : Configuration) : String :=
  renderTemplate escape template (config.serialize formats) ++ "\n"

end MqttForwarder.Config.Configfile
