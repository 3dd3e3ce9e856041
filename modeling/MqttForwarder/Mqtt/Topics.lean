import MqttForwarder.Rust.Text

/-!
# Topics

A session builds all of its topics from the prefix of the configuration and
from the gateway id that it found when it started.  The broker sends it the
messages whose topic matches the filter that it subscribed to, level by level.
-/

namespace MqttForwarder.Mqtt

open MqttForwarder.Rust

/-! ## Topic filters -/

/-- Whether the levels of a topic match those of a filter.  That a wildcard at the front does
not match a level that begins with `$` is left out. -/
def matchesLevels : List String → List String → Bool
  | ["#"], _ => true
  | filter :: filters, level :: levels =>
      (filter == "+" || filter == level) && matchesLevels filters levels
  | [], [] => true
  | _, _ => false

/-- The levels of a topic, or of a filter. -/
def levels (topic : String) : List String := split '/' topic

def matchesFilter (filter topic : String) : Bool := matchesLevels (levels filter) (levels topic)

theorem matchesLevels_cons {filter level : String} {filters topic : List String}
    (more : filters ≠ []) : matchesLevels (filter :: filters) (level :: topic) =
      ((filter == "+" || filter == level) && matchesLevels filters topic) := by
  rw [matchesLevels]
  rintro rfl rfl
  exact more rfl

/-- A topic that matches a filter in two parts is in two parts itself. -/
theorem split_of_matchesLevels {front back topic : List String} (more : back ≠ [])
    (matched : matchesLevels (front ++ back) topic = true) :
    ∃ first last, topic = first ++ last ∧ first.length = front.length ∧
      matchesLevels back last = true := by
  induction front generalizing topic with
  | nil => exact ⟨[], topic, rfl, rfl, matched⟩
  | cons filter rest ih =>
      have remaining : rest ++ back ≠ [] := List.append_ne_nil_of_right_ne_nil _ more
      cases topic with
      | nil => simp [matchesLevels, remaining] at matched
      | cons level topic =>
          rw [List.cons_append, matchesLevels_cons remaining, Bool.and_eq_true] at matched
          obtain ⟨first, last, rfl, length, later⟩ := ih matched.2
          exact ⟨level :: first, last, rfl, congrArg Nat.succ length, later⟩

/-- A level of a filter that is no wildcard stands for itself. -/
theorem level_of_matchesLevels {name : String} {filters topic : List String}
    (more : filters ≠ []) (plain : name ≠ "+")
    (matched : matchesLevels (name :: filters) topic = true) :
    ∃ rest, topic = name :: rest ∧ matchesLevels filters rest = true := by
  cases topic with
  | nil => simp [matchesLevels, more] at matched
  | cons level rest =>
      rw [matchesLevels_cons more, Bool.and_eq_true, Bool.or_eq_true, beq_iff_eq, beq_iff_eq]
        at matched
      obtain ⟨same, later⟩ := matched
      obtain rfl := same.resolve_left plain
      exact ⟨rest, rfl, later⟩

theorem matchesLevels_plus {topic : List String} (matched : matchesLevels ["+"] topic = true) :
    ∃ level, topic = [level] := by
  cases topic with
  | nil => simp [matchesLevels] at matched
  | cons level rest =>
      cases rest with
      | nil => exact ⟨level, rfl⟩
      | cons second more => simp [matchesLevels] at matched

/-! ## The topics of a session -/

/-- The settings of the MQTT client that its tasks use. -/
structure Conf where
  topicPrefix : String := "eu868"
  json : Bool := false
  publishChannelSize : Nat := 100

/-- The local variable `topic_prefix` of `run`. -/
def topicPrefix (conf : Conf) (gatewayId : String) : String :=
  if conf.topicPrefix.isEmpty then "gateway/" ++ gatewayId
  else conf.topicPrefix ++ "/gateway/" ++ gatewayId

/-- The topic of the (re)subscribe loop. -/
def commandTopic (conf : Conf) (gatewayId : String) : String :=
  topicPrefix conf gatewayId ++ "/command/+"

/-- The topic of the publish loop. -/
def eventTopic (conf : Conf) (gatewayId typ : String) : String :=
  topicPrefix conf gatewayId ++ "/event" ++ "/" ++ typ

/-- The id can be a level of a topic and is no wildcard. -/
def PlainId (gatewayId : String) : Prop :=
  ∀ c ∈ gatewayId.toList, c ≠ '/' ∧ c ≠ '+' ∧ c ≠ '#'

section

variable {conf : Conf} {gatewayId : String}

theorem PlainId.level (plain : PlainId gatewayId) : '/' ∉ gatewayId.toList :=
  fun member => (plain '/' member).1 rfl

theorem PlainId.ne_plus (plain : PlainId gatewayId) : gatewayId ≠ "+" := by
  rintro rfl
  exact (plain '+' (by decide)).2.1 rfl

/-- The levels of the filter end in the gateway id, the word `command` and a wildcard. -/
theorem levels_commandTopic (conf : Conf) (plain : PlainId gatewayId) :
    ∃ front, levels (commandTopic conf gatewayId) =
      front ++ ["gateway", gatewayId, "command", "+"] := by
  have own : split '/' gatewayId = [gatewayId] := split_of_notMem plain.level
  have word : split '/' "gateway" = ["gateway"] := split_of_notMem (by decide)
  have tail : split '/' "command/+" = ["command", "+"] := by
    have whole : "command/+" = "command" ++ String.singleton '/' ++ "+" := by decide
    rw [whole, split_append, split_of_notMem (by decide), split_of_notMem (by decide)]
    rfl
  unfold levels commandTopic topicPrefix
  split
  · have whole : "gateway/" ++ gatewayId ++ "/command/+" =
        "gateway" ++ String.singleton '/' ++
          (gatewayId ++ String.singleton '/' ++ "command/+") := by
      apply String.toList_inj.mp
      simp
    refine ⟨[], ?_⟩
    rw [whole, split_append, split_append, word, own, tail]
    rfl
  · have whole : conf.topicPrefix ++ "/gateway/" ++ gatewayId ++ "/command/+" =
        conf.topicPrefix ++ String.singleton '/' ++ ("gateway" ++ String.singleton '/' ++
          (gatewayId ++ String.singleton '/' ++ "command/+")) := by
      apply String.toList_inj.mp
      simp
    refine ⟨split '/' conf.topicPrefix, ?_⟩
    rw [whole, split_append, split_append, split_append, word, own, tail]
    rfl

/-- So does every topic that matches the filter, with any level for the wildcard. -/
theorem levels_of_subscribed (plain : PlainId gatewayId) {topic : String}
    (subscribed : matchesFilter (commandTopic conf gatewayId) topic = true) :
    ∃ front command, levels topic = front ++ ["gateway", gatewayId, "command", command] := by
  obtain ⟨filters, built⟩ := levels_commandTopic conf plain
  rw [matchesFilter, built] at subscribed
  obtain ⟨front, last, whole, _, word⟩ := split_of_matchesLevels (by simp) subscribed
  obtain ⟨second, rfl, own⟩ := level_of_matchesLevels (by simp) (by decide) word
  obtain ⟨third, rfl, command⟩ := level_of_matchesLevels (by simp) plain.ne_plus own
  obtain ⟨fourth, rfl, wildcard⟩ := level_of_matchesLevels (by simp) (by decide) command
  obtain ⟨level, rfl⟩ := matchesLevels_plus wildcard
  exact ⟨front, level, whole⟩

end

end MqttForwarder.Mqtt
