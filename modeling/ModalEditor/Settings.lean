import ModalEditor.Buffer
import ModalEditor.Json.Value
import ModalEditor.Resync.Debounce
import ModalEditor.Viewport

namespace ModalEditor

/-!
# Settings

The settings of a session can be given as a JSON document.  What it does not
mention keeps its default, and names that mean nothing are passed over.
-/

/-- The settings of a session. -/
structure Settings where
  tabSize : Nat
  /-- How many commands can be undone. -/
  historyCapacity : Nat
  searchCaseSensitive : Bool
  /-- Whether queries are patterns. -/
  searchUsesPattern : Bool
  debounce : DebounceConfig
  viewport : ViewportConfig
  deriving DecidableEq, Repr

namespace DebounceConfig

/-- The fields of the settings of an interval. -/
def fields : List (JsonField DebounceConfig) :=
  [.holding "min_interval_ms" JsonValue.natural fun n config => { config with minInterval := n },
   .holding "max_interval_ms" JsonValue.natural fun n config => { config with maxInterval := n },
   .holding "large_file_threshold" JsonValue.natural fun n config =>
     { config with largeFileThreshold := n },
   .holding "fast_typing_latency_ms" JsonValue.natural fun n config =>
     { config with fastTypingLatency := n },
   .holding "fast_typing_bonus_ms" JsonValue.natural fun n config =>
     { config with fastTypingBonus := n }]

end DebounceConfig

namespace ViewportConfig

/-- The fields of the settings of a viewport. -/
def fields : List (JsonField ViewportConfig) :=
  [.holding "buffer_lines" JsonValue.natural fun n config => { config with bufferLines := n },
   .holding "small_change_threshold" JsonValue.natural fun n config =>
     { config with smallChangeThreshold := n }]

end ViewportConfig

namespace Settings

/-- Tab stops of four columns, a thousand commands to undo, and searches for
patterns whatever the case of their letters. -/
def default : Settings :=
  ⟨Buffer.defaultTabSize, 1000, false, true, DebounceConfig.default, ViewportConfig.default⟩

/-- The fields of the settings. -/
def fields : List (JsonField Settings) :=
  [.holding "tab_size" JsonValue.natural fun n settings => { settings with tabSize := n },
   .holding "history_capacity" JsonValue.natural fun n settings =>
     { settings with historyCapacity := n },
   .holding "search_case_sensitive" JsonValue.truth fun b settings =>
     { settings with searchCaseSensitive := b },
   .holding "search_regex" JsonValue.truth fun b settings =>
     { settings with searchUsesPattern := b },
   .holding "scheduler" (JsonValue.structured DebounceConfig.fields DebounceConfig.default)
     fun debounce settings => { settings with debounce },
   .holding "viewport" (JsonValue.structured ViewportConfig.fields ViewportConfig.default)
     fun viewport settings => { settings with viewport }]

/-- The settings that a document gives.  Nothing may follow them. -/
def read (document : Text) : Except JsonFault Settings :=
  let (value, rest) := JsonValue.read document
  match value.structured fields default with
  | .error fault => .error fault
  | .ok settings =>
      if (JsonValue.skipBlanks rest).isEmpty then .ok settings else .error .malformed

end Settings

end ModalEditor
