import Backlog.Named

/-! # Phases of a generation run

The steps that a run goes through, in order. -/

namespace Backlog

/-- A step of a generation run. -/
inductive Phase where
  | ingestManifest | detectFeatures | synthesizeTickets | buildGraph | resolveConflicts
  | stageContext | orderTickets | finalize | persist
  deriving Repr, DecidableEq, Inhabited

instance : Named Phase where
  noun := "phase"
  values := [.ingestManifest, .detectFeatures, .synthesizeTickets, .buildGraph, .resolveConflicts,
    .stageContext, .orderTickets, .finalize, .persist]
  name
    | .ingestManifest => "ingest_manifest"
    | .detectFeatures => "detect_features"
    | .synthesizeTickets => "synthesize_tickets"
    | .buildGraph => "build_graph"
    | .resolveConflicts => "resolve_conflicts"
    | .stageContext => "stage_context"
    | .orderTickets => "order_tickets"
    | .finalize => "finalize"
    | .persist => "persist"

/-- The position of a phase in a run, from 1. -/
def Phase.number (p : Phase) : Nat := (Named.values (α := Phase)).idxOf p + 1

end Backlog
