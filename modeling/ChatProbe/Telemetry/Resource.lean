import ChatProbe.Settings.Groups
import ChatProbe.Text.Percent
/-!
# The resource

A resource says what produces telemetry data: attributes by name. It is put together from the
defaults of the telemetry library, the attributes in the environment, the service name in the
environment, and the service name of the settings, the later ones winning. An empty service name
in the end counts as unknown.
-/

namespace ChatProbe
namespace Telemetry

/-- Attributes with text values, each name once. -/
abbrev TextAttributes := List (String × String)

/-- The attribute that names the service. -/
def serviceNameKey : String := "service.name"

/-- The attribute that names the program file. -/
def executableKey : String := "process.executable.name"

/-- What the telemetry library says of itself. -/
def libraryAttributes : TextAttributes :=
  [("telemetry.sdk.language", "python"), ("telemetry.sdk.name", "opentelemetry"),
   ("telemetry.sdk.version", "1.43.0")]

/-- Characters without the blanks around them. -/
def stripped (cs : List Char) : String := String.ofList (Text.trimList Text.isBlank cs)

/-- One attribute of a list: a name, an equals sign and a value with percent escapes. Items
without an equals sign or without a name say nothing. -/
def attributeOfItem? (item : String) : Option (String × String) :=
  match item.toList.span (· != '=') with
  | (_, []) => none
  | (name, _ :: value) =>
    let name := stripped name
    if name.isEmpty then none else some (name, Text.Percent.decode (stripped value))

/-- The attributes of a list separated by commas. -/
def attributesOfText (s : String) : TextAttributes :=
  (s.splitOn ",").filterMap attributeOfItem?

/-- The attributes that the environment gives. -/
def environmentAttributes (env : Environment) : TextAttributes :=
  let listed := attributesOfText ((env.get? "OTEL_RESOURCE_ATTRIBUTES").getD "")
  match env.get? "OTEL_SERVICE_NAME" with
  | some name => if name.isEmpty then listed else listed ++ [(serviceNameKey, name)]
  | none => listed

/-- The name of a service that is not named. -/
def unknownService (attributes : TextAttributes) : String :=
  match attributes.lookup executableKey with
  | some file => if file.isEmpty then "unknown_service" else "unknown_service:" ++ file
  | none => "unknown_service"

/-- The resource of a process with the given settings. -/
def resource (t : Settings.TelemetrySettings) (env : Environment) : TextAttributes :=
  let attributes := Table.writeAll (Table.writeAll libraryAttributes (environmentAttributes env))
    [(serviceNameKey, t.serviceName)]
  -- Only now, since the name of the program file may be among the attributes.
  if t.serviceName.isEmpty then
    Table.writeAll attributes [(serviceNameKey, unknownService attributes)]
  else attributes

end Telemetry
end ChatProbe
