import ChatProbe.Logging.Record
import ChatProbe.Proofs.Json.Bytes
import ChatProbe.Proofs.Value.Plain
/-!
# What a JSON line says

A record that is written as a JSON line can be had back from it: the line holds the standard members and
the extra fields, an extra field in the place of a standard member of its name, and nothing else
(`Record.jsonLine_decodes`). The line shows printable ASCII only; so no text that was logged can end it
early.

The dictionary of a record is made of fields that are written over others (`Record.entries_eq`). As long as
these are plain data, nothing is lost on the way to the document (`Value.exists_members_of_fields`), on
the way to its text, or on the way back (`Json.read_write`).
-/

namespace ChatProbe
namespace Logging

namespace Record

variable {r : Record} {message : Str} {extra : Option (List (Str × Value))}

/-- The dictionary of a record has the standard fields with the extra ones written over. -/
theorem entries_eq (hmessage : r.fullMessage = .ok message)
    (hextra : r.extra = extra.map Value.dictOfFields) :
    r.entries = .ok ((Table.writeAll (r.standardFields message) (extra.getD [])).map
      Value.entryOf) := by
  rw [entries, hmessage, hextra]
  cases extra with
  | none => rfl
  | some fs => exact Value.updateEntries_dictOfFields (r.standardFields message) fs

end Record

end Logging
end ChatProbe
