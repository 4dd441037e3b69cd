import Triage.Cluster.Listing
import Triage.Evidence.Layout
import Triage.Evidence.Store
import Triage.Host.Facts

/-!
# Fan-out over nodes

A fact about hosts is either collected on the spot, in one file, or on every node of a list. The
local file wins. Without it every listed node must have its file, and one that is missing fails the
whole fact; without a list there is no evidence at all.
-/

namespace Triage

/-- A file of evidence, and the node it comes from unless it is the local one. -/
structure Collected where
  node : Option String
  content : Bytes

namespace Collected

/-- An empty node name stands for the local file. -/
def ofNode (node : String) (content : Bytes) : Collected :=
  ⟨if node.isEmpty then none else some node, content⟩

/-- The title of a result about this file. -/
def title (base : String) (c : Collected) : String :=
  match c.node with
  | none => base
  | some node => s!"{base} - Node {node}"

end Collected

/-- Where the local file of a fact is, and where those of the nodes are. -/
structure FactPaths where
  own : String
  base : String
  file : String

/-- The paths of a fact in the standard directory. -/
def FactPaths.standard (file : String) : FactPaths :=
  ⟨Layout.hostFactPath file, Layout.systemDir, file⟩

namespace EvidenceStore

/-- A file that may be absent. -/
def get? (store : EvidenceStore) (path : String) : Except StoreError (Option Bytes) :=
  match store.get path with
  | .ok content => .ok (some content)
  | .error (.notFound _) => .ok none
  | .error e => .error e

/-- The file of one node. -/
def collectedFrom (store : EvidenceStore) (paths : FactPaths) (node : String) :
    Except AnalysisError Collected :=
  match store.get (Layout.nodeFactPath paths.base node paths.file) with
  | .ok content => .ok (.ofNode node content)
  | .error e => .error (.fanout node e)

/-- All files of a fact. -/
def collect (store : EvidenceStore) (paths : FactPaths) :
    Except AnalysisError (List Collected) := do
  if let some content ← store.get? paths.own then return [⟨none, content⟩]
  match ← store.get? Layout.nodeListPath with
  | none => return []
  | some manifest =>
    let list ← Cluster.decodeRecord Host.NodeList.decode "node names manifest" manifest
    list.nodes.mapM (store.collectedFrom paths)

end EvidenceStore

end Triage
