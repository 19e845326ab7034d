import BuildWatch.CycleStream

/-!
# Cycles as lines

A consumer may write every cycle as one line of JSON: its number, its scope,
the changed paths in order, and the trace if the message came with one.
-/

namespace BuildWatch

def CycleEvent.toJson (event : CycleEvent) : Json :=
  let scope := match event.scope with
    | none => Json.null
    | some known => Json.string known.name
  Json.object
    ((((KeyMap.empty.insert "cycle_id" (Json.word event.number)).insert
        "scope" scope).insert "sources" (Changes.toJson event.sources)).insertSome
          "trace_id" (event.trace.traceId.map Json.string))

/-- A cycle as a line. -/
def CycleEvent.line (event : CycleEvent) : String := event.toJson.text

end BuildWatch
