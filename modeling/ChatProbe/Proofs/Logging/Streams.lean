import ChatProbe.Logging.Configured
import ChatProbe.Telemetry.Pipeline
/-!
# Where the program speaks

The output of the program is for its answer alone. Nothing else is written there: the log of accepted
settings, whatever level and format they name, has the program's own handler and no other, and this
one writes to standard error (`Root.onStandardError_emitAll`); and a console exporter, whatever signal it
shows, writes to standard error as well (`Pipeline.onStandardError_written`).
-/

namespace ChatProbe
namespace Logging

/-- All of it is written to standard error. -/
def Written.OnStandardError (w : Written) : Prop := ∀ p ∈ w, p.1 = standardError

namespace Written

variable {v w : Written}

theorem onStandardError_nil : OnStandardError [] := by
  intro p hp
  cases hp

theorem OnStandardError.append (hv : v.OnStandardError) (hw : w.OnStandardError) :
    OnStandardError (v ++ w) := by
  intro p hp
  rcases List.mem_append.mp hp with hp | hp
  · exact hv p hp
  · exact hw p hp

theorem onStandardError_flatMap {α : Type} {f : α → Written} {as : List α}
    (h : ∀ a ∈ as, (f a).OnStandardError) : OnStandardError (as.flatMap f) := by
  intro p hp
  obtain ⟨a, ha, hp⟩ := List.mem_flatMap.mp hp
  exact h a ha p hp

end Written

/-! ### The log -/

namespace Root

variable {s : Root}

/-- Every handler writes to standard error. -/
def Quiet (s : Root) : Prop := ∀ h ∈ s.handlers, h.stream = standardError

theorem onStandardError_write {h : Handler} (hstream : h.stream = standardError) (r : Record) :
    (Handler.write h r).OnStandardError := by
  unfold Handler.write
  cases h.format.line r with
  | error e => exact Written.onStandardError_nil
  | ok line =>
    intro p hp
    rw [List.mem_singleton.mp hp]
    exact hstream

/-- A record is written to standard error: by the handlers, or by the last resort where there is none. -/
theorem onStandardError_emit (hs : s.Quiet) (r : Record) : (s.emit r).OnStandardError := by
  unfold emit
  by_cases henabled : s.enabled r.level = true
  · rw [henabled, Bool.not_true, if_neg Bool.false_ne_true]
    -- Without handlers the last resort writes, to the same stream.
    by_cases hempty : s.handlers.isEmpty = true
    · rw [if_pos hempty, lastResort]
      split
      · exact Written.onStandardError_nil
      · exact onStandardError_write rfl r
    · rw [if_neg hempty]
      exact Written.onStandardError_flatMap fun h hh => onStandardError_write (hs h hh) r
  · rw [Bool.eq_false_iff.mpr henabled, Bool.not_false, if_pos rfl]
    exact Written.onStandardError_nil

theorem onStandardError_emitAll (hs : s.Quiet) (stamp : Stamp) (es : List Entry) :
    (s.emitAll stamp es).OnStandardError :=
  Written.onStandardError_flatMap fun e _ => onStandardError_emit hs (e.record stamp)

/-- Configuring without a stream keeps the log off the output. -/
theorem Quiet.configure (hs : s.Quiet) (level format : Value) :
    (s.configure level format none).2.1.Quiet := by
  have hinstall : (s.install (ownHandler format none)).Quiet := by
    intro h hh
    rw [handlers_install] at hh
    -- The new handler writes to standard error, since no stream was named.
    rcases List.mem_append.mp hh with hh | hh
    · exact hs h (List.mem_filter.mp hh).1
    · rw [List.mem_singleton.mp hh]
      rfl
  unfold Root.configure
  cases thresholdOf level with
  | ok t => exact hinstall
  | error e => exact hinstall

theorem quiet_ofSettings (s : Settings.LoggingSettings) : (ofSettings s).Quiet := by
  have hinitial : initial.Quiet := by
    intro h hh
    cases hh
  exact hinitial.configure _ _

end Root
end Logging

/-! ### Telemetry -/

namespace Telemetry

open Logging (Written)

theorem Exporter.onStandardError_written (e : Exporter) (text : String) :
    (e.written text).OnStandardError := by
  cases e with
  | otlp endpoint => exact Written.onStandardError_nil
  | console =>
    intro p hp
    rw [List.mem_singleton.mp hp]

theorem Sink.onStandardError_written (s : Sink) (texts : List String) :
    (s.written texts).OnStandardError := by
  cases s with
  | exporter e => exact Written.onStandardError_flatMap fun text _ => e.onStandardError_written text
  | memory | nowhere => exact Written.onStandardError_nil

theorem Pipeline.onStandardError_written (p : Pipeline) (texts : Settings.Signal → List String) :
    (p.written texts).OnStandardError :=
  ((p.spanSink.onStandardError_written _).append (p.recordSink.onStandardError_written _)).append
    (p.metricSink.onStandardError_written _)

end Telemetry
end ChatProbe
