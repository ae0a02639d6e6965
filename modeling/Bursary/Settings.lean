import Bursary.Form.Basic
import Bursary.Value.Basic

/-! Settings of the matching service. -/

namespace Bursary

structure Settings where
  /-- How many seconds resolved weights are kept. -/
  cacheLifetime : Binary64 := 300
  /-- The least accuracy of a trained model that is used. -/
  minAccuracy : Binary64 := 0.55
  /-- How many seconds the store of trained models may take. -/
  fetchTimeout : Binary64 := 2
  logLevel : String := "INFO"

namespace Settings

open Form

/-- Reads the fields of settings. -/
def ofRecord (r : Record) : Checked Settings :=
  let d : Settings := {}
  let positive (v : Value) := (number v).bind (above 0)
  let proportion (v : Value) := ((number v).bind (atMost 1)).bind (atLeast 0)
  Settings.mk
    <$> field r "weight_cache_ttl_seconds" d.cacheLifetime positive
    <*> field r "min_model_accuracy" d.minAccuracy proportion
    <*> field r "model_fetch_timeout_seconds" d.fetchTimeout positive
    <*> field r "log_level" d.logLevel text

/-- The names in the environment, with the settings that they hold. -/
def environmentKeys : List (String × String) := [
  ("WEIGHT_CACHE_TTL_SECONDS", "weight_cache_ttl_seconds"),
  ("MIN_MODEL_ACCURACY", "min_model_accuracy"),
  ("MODEL_FETCH_TIMEOUT_SECONDS", "model_fetch_timeout_seconds"),
  ("LOG_LEVEL", "log_level")]

/-- Settings from the environment; an empty variable counts as absent. -/
def ofEnvironment (env : List (String × String)) : Checked Settings :=
  ofRecord (environmentKeys.filterMap fun (name, setting) =>
    match env.lookup name with
    | some s =>
      if s.isEmpty then none
      else some (setting, .text (if setting == "log_level" then Text.upper s else s))
    | none => none)

def toRecord (s : Settings) : Record := [
  ("weight_cache_ttl_seconds", .real s.cacheLifetime),
  ("min_model_accuracy", .real s.minAccuracy),
  ("model_fetch_timeout_seconds", .real s.fetchTimeout),
  ("log_level", .text s.logLevel)]

end Settings

end Bursary
