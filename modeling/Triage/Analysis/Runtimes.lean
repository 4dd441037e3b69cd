import Triage.Analyzer.Basic
import Triage.Clause.Cluster
import Triage.Cluster.Listing
import Triage.Evidence.Layout
import Triage.Evidence.Store
import Triage.Resolution

/-!
# Checks of container runtimes

The runtime of a node is the scheme of the address that the node gives for it.
-/

namespace Triage

/-- The scheme of an address; there is none without a mark behind it. -/
def Cluster.Node.runtime (node : Cluster.Node) : String :=
  match Text.cutAt? "://".toList node.status.nodeInfo.containerRuntimeVersion.toList with
  | some (scheme, _) => .ofList scheme
  | none => ""

def RuntimeCheck.analyze (store : EvidenceStore) (check : RuntimeCheck) :
    Except AnalysisError Output := do
  let strict ← check.shared.isStrict
  let content ← store.get Layout.clusterNodesPath
  let nodes ← Cluster.decodeList Cluster.Node.decode "node list" content
  let (warnings, resolution) ←
    Resolution.resolve (check.shared.title "Container Runtime") check.outcomes fun clause =>
      Clause.runtime clause (nodes.map Cluster.Node.runtime)
  return (Output.mk [resolution.toResult] warnings).stamp strict

end Triage
