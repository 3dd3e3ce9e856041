import MqttForwarder.Metadata.Commands

/-!
# Merging the metadata of the commands

The commands are run in the arbitrary order of a hash map, and later entries
replace earlier ones.  The result depends on the order if two commands give
different values under one key; and a command that cannot be started, or that
prints something else than UTF-8, takes the entries of all others with it.
-/

namespace MqttForwarder.Metadata

open MqttForwarder.Rust

/-! ## The order of the commands -/

/-- The bytes of a text. -/
def utf8 (text : String) : List UInt8 := text.toUTF8.data.toList

theorem fromUtf8_utf8 (text : String) : fromUtf8 (utf8 text) = .ok text := by
  have bytes : (⟨(utf8 text).toArray⟩ : ByteArray) = text.toUTF8 := rfl
  rw [fromUtf8, bytes, String.fromUTF8?,
    dif_pos (show text.toUTF8.IsValidUTF8 from text.isValidUTF8)]
  rfl

/-- Every command succeeds and prints its text. -/
def printing (texts : String → String) : Outputs := fun k _ => .ok ⟨true, utf8 (texts k)⟩

/-- Whatever the order of the commands, the metadata are the same. -/
def OrderIndependent (outputs : Outputs) (conf : Config.Metadata) : Prop :=
  ∀ commands commands', Yields conf commands → Yields conf commands' →
    ∃ metadata metadata', get outputs conf commands = .ok metadata ∧
      get outputs conf commands' = .ok metadata' ∧
      ∀ key, metadata.lookup key = metadata'.lookup key

/-- Commands that give entries under one key give it the same value. -/
def Agree (texts : String → String) (conf : Config.Metadata) : Prop :=
  ∀ a ∈ conf.commands.entries, ∀ b ∈ conf.commands.entries, a.2 ≠ [] → b.2 ≠ [] →
    ∀ key x y, printed conf.splitDelimiter a.1 (texts a.1) key = some x →
      printed conf.splitDelimiter b.1 (texts b.1) key = some y → x = y

section

variable {texts : String → String} {conf : Config.Metadata}

theorem harmless_printing (texts : String → String) (entry : Entry) :
    Harmless (printing texts) entry :=
  fun _ _ _ => ⟨_, rfl, fun _ => ⟨texts entry.1, fromUtf8_utf8 _⟩⟩

theorem contribution_printing {splitDelimiter key value : String} {entry : Entry} :
    contribution (printing texts) splitDelimiter key entry = some value ↔
      entry.2 ≠ [] ∧ printed splitDelimiter entry.1 (texts entry.1) key = some value := by
  obtain ⟨k, v⟩ := entry
  cases v with
  | nil => exact iff_of_false (fun impossible => by cases impossible) fun both => both.1 rfl
  | cons program args =>
      have text : text? (printing texts) ⟨k, program :: args⟩ = some (texts k) := by
        simp only [text?, printing, if_true, fromUtf8_utf8]
      rw [contribution, text, Option.bind_some]
      exact (and_iff_right (List.cons_ne_nil _ _)).symm

theorem agree_iff :
    Agree texts conf ↔ ∀ key, ∀ a ∈ conf.commands.entries, ∀ b ∈ conf.commands.entries, ∀ x y,
      contribution (printing texts) conf.splitDelimiter key a = some x →
      contribution (printing texts) conf.splitDelimiter key b = some y → x = y := by
  simp only [contribution_printing]
  constructor
  · intro agree key a first b second x y now later
    exact agree a first b second now.1 later.1 key x y now.2 later.2
  · intro agree a first b second given given' key x y now later
    exact agree key a first b second x y ⟨given, now⟩ ⟨given', later⟩

theorem get_printing (texts : String → String) (conf : Config.Metadata)
    (commands : List Entry) :
    ∃ metadata, get (printing texts) conf commands = .ok metadata :=
  ⟨_, (addCommands_eq_ok_iff commands _ _).mpr ⟨fun entry _ => harmless_printing texts entry, rfl⟩⟩

theorem agree_of_orderIndependent (same : OrderIndependent (printing texts) conf) :
    Agree texts conf := by
  have last (key : String) (commands commands' : List Entry) (yields : Yields conf commands)
      (yields' : Yields conf commands') :
      (commands.filterMap
          (contribution (printing texts) conf.splitDelimiter key)).getLast?.or
          ((conf.static.insert versionKey version).lookup key) =
        (commands'.filterMap
          (contribution (printing texts) conf.splitDelimiter key)).getLast?.or
          ((conf.static.insert versionKey version).lookup key) := by
    obtain ⟨metadata, metadata', given, given', equal⟩ := same commands commands' yields yields'
    rw [← lookup_get given, ← lookup_get given', equal]
  exact agree_iff.mpr fun key => getLast?_filterMap_perm_iff.mp (last key)

/-- The order of the commands makes no difference exactly when no two of them give different
values under one key. -/
theorem get_orderIndependent_iff (texts : String → String) (conf : Config.Metadata) :
    OrderIndependent (printing texts) conf ↔ Agree texts conf := by
  refine ⟨agree_of_orderIndependent, fun agree commands commands' yields yields' => ?_⟩
  obtain ⟨metadata, given⟩ := get_printing texts conf commands
  obtain ⟨metadata', given'⟩ := get_printing texts conf commands'
  refine ⟨metadata, metadata', given, given', fun key => ?_⟩
  rw [lookup_get given, lookup_get given']
  exact getLast?_filterMap_perm_iff.mpr (agree_iff.mp agree key) commands commands' yields yields'

end

/-- Two commands, one with the name of the other and a part of its key. -/
def clashing : Config.Metadata where
  commands := (∅ : HashMap String (List String)).insert "a" ["one"] |>.insert "a_b" ["two"]

def clashingTexts (k : String) : String := if k = "a" then "b_c=1" else "c=2"

theorem get_order_dependent :
    ¬ ∀ (texts : String → String) (conf : Config.Metadata),
      OrderIndependent (printing texts) conf := by
  intro always
  have agree := agree_of_orderIndependent (always clashingTexts clashing)
  have first : (⟨"a", ["one"]⟩ : Entry) ∈ clashing.commands.entries := by decide
  have second : (⟨"a_b", ["two"]⟩ : Entry) ∈ clashing.commands.entries := by decide
  have one : printed clashing.splitDelimiter "a" (clashingTexts "a") "a_b_c" = some "1" := by
    decide
  have two : printed clashing.splitDelimiter "a_b" (clashingTexts "a_b") "a_b_c" = some "2" := by
    decide
  exact absurd (agree _ first _ second (by decide) (by decide) "a_b_c" "1" "2" one two) (by decide)

/-! ## Commands that fail -/

/-- A command gives an entry under the key. -/
def Overridden (outputs : Outputs) (conf : Config.Metadata) (key : String) : Prop :=
  ∃ entry ∈ conf.commands.entries, ∃ value,
    contribution outputs conf.splitDelimiter key entry = some value

/-- The commands that succeed with a text. -/
def successful (outputs : Outputs) (commands : List Entry) : List Entry :=
  commands.filter fun entry => (text? outputs entry).isSome

/-- The metadata have what no command overrides, and what the successful commands give. -/
structure Complete (outputs : Outputs) (conf : Config.Metadata) (commands : List Entry)
    (metadata : HashMap String String) : Prop where
  static : ∀ key value, conf.static.lookup key = some value → key ≠ versionKey →
    ¬ Overridden outputs conf key → metadata.lookup key = some value
  version : ¬ Overridden outputs conf versionKey → metadata.lookup versionKey = some version
  commands : ∃ alone, get outputs conf (successful outputs commands) = .ok alone ∧
    ∀ key value, alone.lookup key = some value → metadata.lookup key = some value

/-- No command hides what the others and the configuration give. -/
def Resilient (outputs : Outputs) (conf : Config.Metadata) (commands : List Entry) : Prop :=
  ∃ metadata, get outputs conf commands = .ok metadata ∧ Complete outputs conf commands metadata

section

variable {outputs : Outputs} {conf : Config.Metadata} {commands : List Entry}
  {metadata : HashMap String String}

theorem contributions_eq_nil {key : String} (yields : Yields conf commands)
    (own : ¬ Overridden outputs conf key) :
    commands.filterMap (contribution outputs conf.splitDelimiter key) = [] := by
  refine List.filterMap_eq_nil_iff.mpr fun entry member => ?_
  by_contra gives
  obtain ⟨value, given⟩ := Option.ne_none_iff_exists'.mp gives
  exact own ⟨entry, yields.subset member, value, given⟩

theorem contributions_successful (key : String) :
    (successful outputs commands).filterMap (contribution outputs conf.splitDelimiter key) =
      commands.filterMap (contribution outputs conf.splitDelimiter key) := by
  rw [successful, List.filterMap_filter]
  refine List.filterMap_congr fun entry _ => ?_
  unfold contribution
  cases text? outputs entry <;> rfl

theorem resilient_of_harmless (yields : Yields conf commands)
    (harmless : ∀ entry ∈ commands, Harmless outputs entry) :
    Resilient outputs conf commands := by
  have given : get outputs conf commands = .ok _ :=
    (addCommands_eq_ok_iff _ _ _).mpr ⟨harmless, rfl⟩
  have alone : get outputs conf (successful outputs commands) = .ok _ :=
    (addCommands_eq_ok_iff _ _ _).mpr
      ⟨fun entry member => harmless entry (List.mem_of_mem_filter member), rfl⟩
  refine ⟨_, given, ?_, ?_, _, alone, ?_⟩
  · intro key value configured other own
    rw [lookup_get given, contributions_eq_nil yields own, AList.lookup_insert_ne other]
    exact configured
  · intro own
    rw [lookup_get given, contributions_eq_nil yields own, AList.lookup_insert]
    rfl
  · intro key value found
    rw [lookup_get alone, contributions_successful] at found
    rw [lookup_get given, found]

theorem harmless_of_resilient (resilient : Resilient outputs conf commands) :
    ∀ entry ∈ commands, Harmless outputs entry := by
  obtain ⟨metadata, given, _⟩ := resilient
  exact ((addCommands_eq_ok_iff _ _ _).mp given).1

/-- The metadata survive every mixture of outcomes in which each command can be started and
prints UTF-8 if it succeeds, and no other. -/
theorem get_resilient_iff (yields : Yields conf commands) :
    Resilient outputs conf commands ↔
      ∀ entry ∈ conf.commands.entries, Harmless outputs entry := by
  constructor
  · intro resilient entry member
    exact harmless_of_resilient resilient entry (yields.symm.subset member)
  · intro harmless
    exact resilient_of_harmless yields fun entry member =>
      harmless entry (yields.subset member)

end

/-- A static entry and two commands. -/
def mixed : Config.Metadata where
  static := (∅ : HashMap String String).insert "serial" "1"
  commands := (∅ : HashMap String (List String)).insert "a" ["one"] |>.insert "b" ["echo"]

/-- The first command exits with an error, and the second prints a key and a value. -/
def mixedOutputs : Outputs := fun k _ => .ok ⟨k == "b", utf8 "key=value"⟩

theorem get_resilient_iff_mixed : Resilient mixedOutputs mixed mixed.commands.entries :=
  (get_resilient_iff (List.Perm.refl _)).mpr fun _ _ _ _ _ =>
    ⟨_, rfl, fun _ => ⟨_, fromUtf8_utf8 _⟩⟩

/-- The first command cannot be started, and the second prints a key and a value. -/
def missingOutputs : Outputs := fun k _ =>
  if k = "a" then .error "No such file or directory (os error 2)"
  else .ok ⟨true, utf8 "key=value"⟩

/-- A command that cannot be started hides the static entry and what the other command prints. -/
theorem missing_command_hides_rest :
    ¬ ∀ (outputs : Outputs) (conf : Config.Metadata) (commands : List Entry),
      Yields conf commands → Resilient outputs conf commands := by
  intro resilient
  have harmless := harmless_of_resilient
    (resilient missingOutputs mixed mixed.commands.entries (List.Perm.refl _))
  obtain ⟨out, started, _⟩ := harmless ⟨"a", ["one"]⟩ (by decide) "one" [] rfl
  cases started

end MqttForwarder.Metadata
