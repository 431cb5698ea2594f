import Switchboard.Health.Thresholds

/-!
The settings of a relay, section by section, with their defaults.
-/

namespace Switchboard

structure BudgetSettings where
  monthly : Float := 1000.0
deriving Inhabited

namespace BudgetSettings

open Reader in
def reader : Reader BudgetSettings := record "BudgetConfig" fun fs =>
  BudgetSettings.mk <$> field "monthly_budget" (float [.atLeast 0]) 1000.0 fs

def toData (s : BudgetSettings) : Data := .object [("monthly_budget", .float s.monthly)]

end BudgetSettings

structure HealthSettings where
  minSuccessRate : Float := 0.7
  maxResponseMs : Float := 10000.0
  thresholds : Thresholds := {}
deriving Inhabited

namespace HealthSettings

open Reader in
def reader : Reader HealthSettings := record "HealthConfig" fun fs =>
  HealthSettings.mk <$> field "min_success_rate" share 0.7 fs
    <*> field "max_response_time_ms" (float [.above 0]) 10000.0 fs
    <*> field "thresholds" Thresholds.reader {} fs

def toData (s : HealthSettings) : Data := .object
  [("min_success_rate", .float s.minSuccessRate), ("max_response_time_ms", .float s.maxResponseMs),
    ("thresholds", s.thresholds.toData)]

end HealthSettings

def defaultComponents : Entries String String :=
  [("llmrelay", "INFO"), ("httpx", "WARNING"), ("httpcore", "WARNING"), ("asyncio", "WARNING")]

structure JournalSettings where
  /-- All entries go to the console, not only those marked for display. -/
  consoleEnabled : Bool := false
  consoleLevel : String := "WARNING"
  consolePattern : String := "%(levelname)s - %(message)s"
  fileEnabled : Bool := false
  fileLevel : String := "DEBUG"
  fileDirectory : String := "~/.local/share/llmrelay/logs"
  fileName : String := "\x7bapp\x7d.log"
  filePattern : String :=
    "%(asctime)s [%(levelname)-8s] %(name)-30s - %(message)s (%(filename)s:%(lineno)d)"
  rotationBytes : Nat := 10485760
  rotationBackups : Nat := 5
  displayLevel : String := "INFO"
  /-- Levels of channels by name. -/
  components : Entries String String := defaultComponents
deriving Inhabited

namespace JournalSettings

open Reader in
def reader : Reader JournalSettings := record "LoggingConfig" fun fs =>
  JournalSettings.mk <$> field "console_enabled" bool false fs
    <*> field "console_level" text "WARNING" fs
    <*> field "console_format" text "%(levelname)s - %(message)s" fs
    <*> field "file_enabled" bool false fs <*> field "file_level" text "DEBUG" fs
    <*> field "file_directory" text "~/.local/share/llmrelay/logs" fs
    <*> field "file_name" text "\x7bapp\x7d.log" fs
    <*> field "file_format" text
      "%(asctime)s [%(levelname)-8s] %(name)-30s - %(message)s (%(filename)s:%(lineno)d)" fs
    <*> field "rotation_max_bytes" (nat [.atLeast 0]) 10485760 fs
    <*> field "rotation_backup_count" (nat [.atLeast 0]) 5 fs
    <*> field "display_min_level" text "INFO" fs
    <*> field "components" (entries text) defaultComponents fs

def toData (s : JournalSettings) : Data := .object
  [("console_enabled", .bool s.consoleEnabled), ("console_level", .text s.consoleLevel),
    ("console_format", .text s.consolePattern), ("file_enabled", .bool s.fileEnabled),
    ("file_level", .text s.fileLevel), ("file_directory", .text s.fileDirectory),
    ("file_name", .text s.fileName), ("file_format", .text s.filePattern),
    ("rotation_max_bytes", .int s.rotationBytes), ("rotation_backup_count", .int s.rotationBackups),
    ("display_min_level", .text s.displayLevel),
    ("components", .object (s.components.map fun e => (e.1, .text e.2)))]

end JournalSettings

structure Settings where
  budget : BudgetSettings := {}
  health : HealthSettings := {}
  journal : JournalSettings := {}
  /-- Catalog entries as they were given; without any the packaged catalog applies. -/
  models : List (List (String × Data)) := []
deriving Inhabited

namespace Settings

open Reader in
def reader : Reader Settings := record "RelayConfig" fun fs =>
  Settings.mk <$> field "budget" BudgetSettings.reader {} fs
    <*> field "health" HealthSettings.reader {} fs
    <*> field "logging" JournalSettings.reader {} fs
    <*> field "models" (list object) [] fs

def ofData : Data → Except Fault Settings := reader.readFields .settings "RelayConfig"

def toData (s : Settings) : Data := .object
  [("budget", s.budget.toData), ("health", s.health.toData), ("logging", s.journal.toData),
    ("models", .list (s.models.map .object))]

end Settings
end Switchboard
