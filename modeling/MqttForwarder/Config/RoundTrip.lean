import MqttForwarder.Config.Configfile

/-!
# The printed configuration is not read back

The template is followed setting by setting.  A text of the configuration is
read back, or the printed text is refused, or another text is read in its
place; and where all texts are read back, the publish-channel size is met,
which is a key without a value.
-/

namespace MqttForwarder.Config.Configfile

open MqttForwarder.Rust MqttForwarder.Handlebars MqttForwarder.Toml

/-! ## Openings -/

/-- The place of a setting in a table of the root. -/
def placeOf (table key : String) : Place := ⟨[table.toList], key.toList⟩

theorem path_placeOf (table key : String) : (placeOf table key).path = [table, key] := by
  simp [placeOf, Place.path]

/-- The opening leads from a table to the value at the place. -/
def Opens (table : List (List Char)) (setting : Setting) (place : Place) : Prop :=
  (scan (.start table) setting.opening.toList).1 =
    if setting.quotes then .string place [] else .value place

/-- An opening is read character by character, and so are the names of its place. -/
theorem opens_at {before : List (List Char)} {setting : Setting} (table key : String)
    {opening tableChars keyChars : List Char} (openingChars : setting.opening = .ofList opening)
    (ofTable : table = .ofList tableChars) (ofKey : key = .ofList keyChars)
    (scanned : (scan (.start before) opening).1 =
      if setting.quotes then .string ⟨[tableChars], keyChars⟩ []
      else .value ⟨[tableChars], keyChars⟩) : Opens before setting (placeOf table key) := by
  rw [Opens, placeOf, openingChars, ofTable, ofKey, String.toList_ofList, String.toList_ofList,
    String.toList_ofList]
  exact scanned

/-! ## Settings -/

/-- The text of the parts. -/
def rendered (data : Data) (parts : List Part) : List Char :=
  (renderParts escape data none parts).toList

/-- The text of the value of a setting. -/
def Setting.text (data : Data) (setting : Setting) : String :=
  match data.follow setting.path with
  | some value => value.render
  | none => ""

theorem toList_escape (text : String) : (escape text).toList = escapeQuotes text.toList := by
  rw [escape, String.toList_ofList]

theorem rendered_setting (data : Data) (setting : Setting) (parts : List Part) :
    rendered data (setting.parts ++ parts) =
      setting.opening.toList ++ (escapeQuotes (setting.text data).toList ++
        ((if setting.quotes then "\"\n" else "\n").toList ++ rendered data parts)) := by
  have value : (Part.path setting.path).render escape data none = escape (setting.text data) := by
    rw [Part.render, Setting.text]
    cases data.follow setting.path <;> rfl
  simp [rendered, Setting.parts, value, toList_escape]

section

variable {wrong : Entry → Prop} {data : Data} {table : List (List Char)} {setting : Setting}
  {place : Place} {parts : List Part}

/-- A setting between quotes is read back or refutes the text. -/
theorem refutes_quoted (opens : Opens table setting place) (quotes : setting.quotes = true)
    {text : String}
    (readable : Plain text.toList ∨ ∀ read, read.length < text.toList.length →
      wrong ⟨place, .string (String.ofList read)⟩)
    (own : setting.text data = text)
    (later : Refutes wrong (.start place.table) (rendered data parts)) :
    Refutes wrong (.start table) (rendered data (setting.parts ++ parts)) := by
  rw [rendered_setting, own, quotes]
  refine .append ?_
  rw [opens, quotes]
  rcases readable with plain | shorter
  · exact .plain plain later []
  · exact .string (Nat.le_of_eq (Nat.zero_add _)) shorter later

/-- A setting without quotes is passed over if its value is. -/
theorem refutes_unquoted (opens : Opens table setting place) (quotes : setting.quotes = false)
    {text : String} (own : setting.text data = text) (noQuote : '"' ∉ text.toList)
    (passed : Refutes wrong (.value place) (text.toList ++ '\n' :: rendered data parts)) :
    Refutes wrong (.start table) (rendered data (setting.parts ++ parts)) := by
  rw [rendered_setting, own, quotes]
  refine .append ?_
  rw [opens, quotes, escapeQuotes, replaceChar_of_notMem noQuote]
  exact passed

theorem refutes_boolean (opens : Opens table setting place) (quotes : setting.quotes = false)
    {value : Bool} (own : setting.text data = toString value)
    (later : Refutes wrong (.start place.table) (rendered data parts)) :
    Refutes wrong (.start table) (rendered data (setting.parts ++ parts)) :=
  refutes_unquoted opens quotes own (by cases value <;> decide) (.boolean value later)

theorem refutes_natural (opens : Opens table setting place) (quotes : setting.quotes = false)
    {value : Nat} (own : setting.text data = toString (value : Int))
    (later : Refutes wrong (.start place.table) (rendered data parts)) :
    Refutes wrong (.start table) (rendered data (setting.parts ++ parts)) := by
  have digits : (toString (value : Int)).toList = Nat.toDigits 10 value := by
    change (Int.repr (value : Int)).toList = Nat.toDigits 10 value
    simp [Int.repr]
  refine refutes_unquoted opens quotes own ?_ ?_
  · rw [digits]
    intro member
    exact absurd (Nat.isDigit_of_mem_toDigits (by decide) (by decide) member) (by decide)
  · rw [digits]
    exact .natural value later

/-- A setting without a value is refused. -/
theorem refutes_missing (opens : Opens table setting place) (quotes : setting.quotes = false)
    (own : setting.text data = "") :
    Refutes wrong (.start table) (rendered data (setting.parts ++ parts)) :=
  refutes_unquoted opens quotes own (by decide) .missing

end

/-! ## The whole text -/

/-- Durations are written with letters, digits and spaces. -/
def PlainDurations (formats : Formats) : Prop :=
  ∀ duration, ∀ c ∈ (formats.formatDuration duration).toList, c.isAlphanum = true ∨ c = ' '

theorem PlainDurations.plain {formats : Formats} (durations : PlainDurations formats)
    (duration : Duration) : Plain (formats.formatDuration duration).toList := by
  constructor
  · intro member
    exact absurd (durations duration '\\' member) (by decide)
  · intro member
    exact absurd (durations duration '\n' member) (by decide)

theorem plain_empty : Plain "".toList := ⟨by decide, by decide⟩

/-- The text is read back at its place, or what is read in its place is wrong. -/
def Readable (wrong : Entry → Prop) (path : List String) (text : String) : Prop :=
  Plain text.toList ∨ ∀ place read, Place.path place = path → read.length < text.toList.length →
    wrong ⟨place, .string (String.ofList read)⟩

theorem Readable.at {wrong : Entry → Prop} {table key text : String}
    (readable : Readable wrong [table, key] text) :
    Plain text.toList ∨ ∀ read, read.length < text.toList.length →
      wrong ⟨placeOf table key, .string (String.ofList read)⟩ :=
  readable.imp_right fun shorter read => shorter _ read (path_placeOf table key)

-- the openings are read character by character
set_option maxRecDepth 20000 in
/-- What is printed is refused if every text of the configuration is read back or refutes it. -/
theorem run_refutes {formats : Formats} (durations : PlainDurations formats)
    {wrong : Entry → Prop} {config : Configuration}
    (readable : ∀ setting ∈ config.texts, Readable wrong setting.1 setting.2) :
    Refutes wrong (.start []) (run formats config).toList := by
  simp only [Configuration.texts, Logging.texts, Mqtt.texts, List.map_cons, List.map_nil,
    List.cons_append, List.nil_append, List.forall_mem_cons] at readable
  obtain ⟨ofLevel, ofTopicPrefix, ofServer, ofUsername, ofPassword, ofClientId, ofCaCert,
    ofTlsCert, ofTlsKey, _⟩ := readable
  rw [run, String.toList_append]
  refine .extend ?_ _
  change Refutes wrong _ (rendered (config.serialize formats) template)
  simp only [template, beginning, List.flatMap_cons, List.append_assoc]
  refine refutes_quoted (opens_at "logging" "level" rfl rfl rfl rfl) rfl ofLevel.at rfl ?_
  refine refutes_boolean (opens_at "logging" "log_to_syslog" rfl rfl rfl rfl) rfl rfl ?_
  refine refutes_quoted (opens_at "mqtt" "topic_prefix" rfl rfl rfl rfl) rfl ofTopicPrefix.at rfl ?_
  refine refutes_boolean (opens_at "mqtt" "json" rfl rfl rfl rfl) rfl rfl ?_
  refine refutes_quoted (opens_at "mqtt" "server" rfl rfl rfl rfl) rfl ofServer.at rfl ?_
  refine refutes_quoted (opens_at "mqtt" "username" rfl rfl rfl rfl) rfl ofUsername.at rfl ?_
  refine refutes_quoted (opens_at "mqtt" "password" rfl rfl rfl rfl) rfl ofPassword.at rfl ?_
  refine refutes_natural (opens_at "mqtt" "qos" rfl rfl rfl rfl) rfl rfl ?_
  refine refutes_boolean (opens_at "mqtt" "clean_session" rfl rfl rfl rfl) rfl rfl ?_
  refine refutes_quoted (opens_at "mqtt" "client_id" rfl rfl rfl rfl) rfl ofClientId.at rfl ?_
  have ofKeepAlive := durations.plain config.mqtt.keepAliveInterval
  refine refutes_quoted (opens_at "mqtt" "keep_alive_interval" rfl rfl rfl rfl) rfl
    (.inl ofKeepAlive) rfl ?_
  refine refutes_quoted (opens_at "mqtt" "ca_cert" rfl rfl rfl rfl) rfl ofCaCert.at rfl ?_
  refine refutes_quoted (opens_at "mqtt" "tls_cert" rfl rfl rfl rfl) rfl ofTlsCert.at rfl ?_
  refine refutes_quoted (opens_at "mqtt" "tls_key" rfl rfl rfl rfl) rfl ofTlsKey.at rfl ?_
  -- `integration` is no field of the configuration
  refine refutes_quoted (opens_at "mqtt" "reconnect_interval" rfl rfl rfl rfl) rfl
    (.inl plain_empty) rfl ?_
  exact refutes_missing (opens_at "mqtt" "publish_channel_size" rfl rfl rfl rfl) rfl rfl

/-! ## Reading it back -/

/-- A configuration whose texts have no backslash and no line break is printed as a text that
every reader of TOML refuses. -/
theorem run_refused {formats : Formats} (durations : PlainDurations formats)
    {parse : String → Option Value} (reads : Reads parse) {config : Configuration}
    (plain : ∀ setting ∈ config.texts, Plain setting.2.toList) :
    parse (run formats config) = none := by
  have refutes : Refutes (fun _ => False) (.start []) (run formats config).toList :=
    run_refutes durations fun setting member => .inl (plain setting member)
  cases accepted : parse (run formats config) with
  | none => rfl
  | some root =>
      obtain ⟨entry, impossible, _⟩ := refutes.exists_wrong reads accepted
      exact impossible.elim

/-- What is printed is accepted, and the same configuration is read from it. -/
def RoundTrips (formats : Formats) (parse : String → Option Value) (config : Configuration) :
    Prop :=
  ∃ root read, parse (run formats config) = some root ∧
    Configuration.deserialize formats root = some read ∧ read.Same config

/-- No configuration is read back from what is printed for it. -/
theorem run_not_roundTrips {formats : Formats} (durations : PlainDurations formats)
    {parse : String → Option Value} (reads : Reads parse) (config : Configuration) :
    ¬ RoundTrips formats parse config := by
  rintro ⟨root, read, accepted, deserialized, same⟩
  let Wrong (entry : Entry) : Prop := ∃ setting ∈ config.texts, entry.place.path = setting.1 ∧
    ∃ text, entry.value = .string text ∧ text ≠ setting.2
  have refutes : Refutes Wrong (.start []) (run formats config).toList := by
    refine run_refutes durations fun setting member => .inr fun place text path shorter => ?_
    refine ⟨setting, member, path, _, rfl, ?_⟩
    rintro same
    rw [← same, String.toList_ofList] at shorter
    exact absurd shorter (Nat.lt_irrefl _)
  obtain ⟨entry, ⟨setting, member, path, text, value, other⟩, found⟩ :=
    refutes.exists_wrong reads accepted
  rw [path, value] at found
  rw [← same.texts] at member
  exact other (Configuration.texts_read deserialized member found).symm

/-- Durations of whole seconds; prefixes do not occur. -/
def wholeSeconds : Formats where
  formatDuration duration := String.ofList (Nat.toDigits 10 (duration / 1000000000) ++ ['s'])
  parseDuration text := (numeral? text.toList.dropLast).map (· * 1000000000)
  formatDevAddrPrefix _ := ""
  parseDevAddrPrefix _ := none
  formatEuiPrefix _ := ""
  parseEuiPrefix _ := none

theorem wholeSeconds_plain : PlainDurations wholeSeconds := by
  intro duration c member
  rw [wholeSeconds, String.toList_ofList, List.mem_append, List.mem_singleton] at member
  rcases member with digit | rfl
  · have isDigit := Nat.isDigit_of_mem_toDigits (by decide) (by decide) digit
    exact .inl (by simp [Char.isAlphanum, isDigit])
  · exact .inl (by decide)

/-- The password has a backslash before a quote, so its quote closes the string. -/
theorem run_not_roundTrips_backslash :
    ¬ RoundTrips wholeSeconds Toml.read { mqtt := { password := "\\\"" } } :=
  run_not_roundTrips wholeSeconds_plain read_reads _

/-- The default configuration is printed as a text that is refused. -/
theorem run_default_not_roundTrips :
    Toml.read (run wholeSeconds {}) = none ∧ ¬ RoundTrips wholeSeconds Toml.read {} := by
  have refused : Toml.read (run wholeSeconds {}) = none := by
    refine run_refused wholeSeconds_plain read_reads fun setting member => ?_
    simp only [Configuration.texts, Logging.texts, Mqtt.texts, List.map_cons, List.map_nil,
      List.cons_append, List.nil_append, List.mem_cons, List.not_mem_nil, or_false] at member
    rcases member with rfl | rfl | rfl | rfl | rfl | rfl | rfl | rfl | rfl <;>
      exact ⟨by decide, by decide⟩
  refine ⟨refused, ?_⟩
  rintro ⟨root, read, accepted, _⟩
  rw [refused] at accepted
  cases accepted

end MqttForwarder.Config.Configfile
