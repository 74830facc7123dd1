import Signpost.Config.Basic
import Signpost.Linker

/-!
# Links from configuration

The linker and the recordings that a configuration asks for. The base of links is read at once, the
values of placeholders only when a mapping is first asked for.

## Main definitions

* `Configuration.linker`: the linker with the configured base.
* `Configuration.recordings`: no recordings yet, with the configured capacity.
-/

namespace Signpost.Configuration

/-- The linker with the configured base, which takes the values of placeholders from settings. -/
def linker (config : Configuration) : Except ConfigError Linker := do
  let settings ← config.linkSettings
  return { base := ← settings.base, source := .cached .settings }

/-- No recordings yet; as many will be kept as configured. -/
def recordings (config : Configuration) : Except ConfigError Recordings := do
  let settings ← config.linkSettings
  return .ofCapacity settings.capacity

end Signpost.Configuration
