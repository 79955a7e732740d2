import ChatProbe.Proofs.Table
import ChatProbe.Telemetry.Resource
/-!
# The service name in the resource

Three sources may name the service: the attributes listed in the environment, a variable of its own, and
the settings. The settings win (`lookup_resource`), and they have no say in anything else: under every
other name the resource says what the last item of the list says under it, or what the telemetry library
says of itself (`lookup_detected`). So two resources that are made in one environment differ in the
service name and in nothing else (`resource_apart_from_name`).
-/

namespace ChatProbe
namespace Telemetry

open Settings (TelemetrySettings)

/-! ### What is detected -/

/-- What is detected of a process before its settings are asked. -/
def detected (env : Environment) : TextAttributes :=
  Table.writeAll libraryAttributes (environmentAttributes env)

/-- The attributes that are listed in an environment. -/
def listed (env : Environment) : TextAttributes :=
  attributesOfText ((env.get? "OTEL_RESOURCE_ATTRIBUTES").getD "")

/-- The variable of its own names the service and nothing else. -/
theorem lookup_environmentAttributes {key : String} (hkey : key ≠ serviceNameKey) (env : Environment) :
    (environmentAttributes env).reverse.lookup key = (listed env).reverse.lookup key := by
  -- The variable of the name adds an entry under the name only.
  have hnamed : ∀ name, (listed env ++ [(serviceNameKey, name)]).reverse.lookup key
      = (listed env).reverse.lookup key := by
    intro name
    rw [List.reverse_append, List.reverse_singleton, List.singleton_append, Table.lookup_cons_eq_ite,
      if_neg hkey]
  rw [environmentAttributes]
  cases env.get? "OTEL_SERVICE_NAME" with
  | none => rfl
  | some name =>
    dsimp only
    split
    · rfl
    · exact hnamed name

/-- **What the environment says** counts, and the last item of its list that has the name. -/
theorem lookup_detected {key : String} (hkey : key ≠ serviceNameKey) (env : Environment) :
    (detected env).lookup key
      = ((listed env).reverse.lookup key).or (libraryAttributes.lookup key) := by
  rw [detected, Table.lookup_writeAll, lookup_environmentAttributes hkey]

/-! ### The resource -/

section Resource

variable {t t' : TelemetrySettings}

/-- A service that is named is no unknown service, whatever the process is. -/
theorem resource_of_named (hname : t.serviceName ≠ "") (env : Environment) :
    resource t env = Table.writeAll (detected env) [(serviceNameKey, t.serviceName)] := by
  have hnamed : t.serviceName.isEmpty = false := by
    rw [Bool.eq_false_iff]
    exact fun hempty => hname (String.isEmpty_iff.mp hempty)
  rw [resource, hnamed, if_neg Bool.false_ne_true]
  rfl

/-- **The settings** say the service name, and nothing else. -/
theorem lookup_resource (hname : t.serviceName ≠ "") (env : Environment) (key : String) :
    (resource t env).lookup key
      = if key = serviceNameKey then some t.serviceName else (detected env).lookup key := by
  rw [resource_of_named hname, Table.lookup_writeAll, List.reverse_singleton, Table.lookup_cons_eq_ite]
  by_cases hkey : key = serviceNameKey
  · rw [if_pos hkey, if_pos hkey, Option.some_or]
  · rw [if_neg hkey, if_neg hkey, List.lookup_nil, Option.none_or]

/-- **Resources apart from the name.** Take any environment, and settings that name the service.

* The resource has each name once, and under the service name it says what the settings say, whatever
  the environment says there.
* Every other attribute is the one that it has for any other settings that name the service. It is what
  the last item of the list in the environment says under the name, or else what the library says. -/
theorem resource_apart_from_name (hname : t.serviceName ≠ "") (hname' : t'.serviceName ≠ "")
    (env : Environment) :
    ((resource t env).map (·.1)).Nodup
      ∧ (resource t env).lookup serviceNameKey = some t.serviceName
      ∧ ∀ key, key ≠ serviceNameKey →
        (resource t env).lookup key = (resource t' env).lookup key
          ∧ (resource t env).lookup key
            = ((listed env).reverse.lookup key).or (libraryAttributes.lookup key) := by
  refine ⟨?_, ?_, fun key hkey => ?_⟩
  -- Attributes are written over those of the library, which have distinct names.
  · rw [resource_of_named hname]
    have hlibrary : (libraryAttributes.map (·.1)).Nodup := by decide
    exact Table.nodup_writeAll _ (Table.nodup_writeAll _ hlibrary)
  · rw [lookup_resource hname, if_pos rfl]
  · have hdetected : (resource t env).lookup key = (detected env).lookup key := by
      rw [lookup_resource hname, if_neg hkey]
    have hdetected' : (resource t' env).lookup key = (detected env).lookup key := by
      rw [lookup_resource hname', if_neg hkey]
    exact ⟨hdetected.trans hdetected'.symm, hdetected.trans (lookup_detected hkey env)⟩

/-- Settings that name the service and leave everything else open. -/
def namedSettings (name : String) : TelemetrySettings :=
  ⟨false, name, none, .otlp, .otlp, .otlp, false⟩

/-- An environment that names the service twice, in front of an item that names nothing and a zone. -/
def namingEnvironment : Environment :=
  ⟨[("OTEL_SERVICE_NAME", "variable"),
    ("OTEL_RESOURCE_ATTRIBUTES", "zone=a,service.name=listed,nothing, zone = b%2Cc ")]⟩

/-- The settings win over both names, and the zone is what it is for other settings. -/
theorem resource_apart_from_name_zone :
    (resource (namedSettings "probe") namingEnvironment).lookup serviceNameKey = some "probe"
      ∧ (resource (namedSettings "probe") namingEnvironment).lookup "zone"
        = (resource (namedSettings "other") namingEnvironment).lookup "zone" := by
  have hname : (namedSettings "probe").serviceName ≠ "" := by decide
  have hname' : (namedSettings "other").serviceName ≠ "" := by decide
  obtain ⟨-, hservice, hothers⟩ := resource_apart_from_name hname hname' namingEnvironment
  exact ⟨hservice, (hothers "zone" (by decide)).1⟩

end Resource

end Telemetry
end ChatProbe
