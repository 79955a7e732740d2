import ChatProbe.Logging.Entry
import ChatProbe.Settings.Groups
/-!
# The log as settings describe it

Accepted settings name a level and a format, and the log is configured by them.
-/

namespace ChatProbe
namespace Logging

namespace Root

/-- The root logger configured by settings. -/
def ofSettings (s : Settings.LoggingSettings) : Root :=
  (initial.configure (.str s.level.text) (.str s.format.name) none).2.1

end Root

end Logging
end ChatProbe
