import Triage.Analysis.Documents
import Triage.Analysis.Events
import Triage.Analysis.HostFacts
import Triage.Analysis.Pods
import Triage.Analysis.Runtimes
import Triage.Analysis.Texts
import Triage.Analysis.Workloads

/-!
# Analyses

What an analyzer of any kind reports about the evidence in a store.
-/

namespace Triage.Analyzer

def analyze (store : EvidenceStore) : Analyzer → Except AnalysisError Output
  | host fact check => check.analyze store fact
  | pods check => check.analyze store
  | runtime check => check.analyze store
  | workload kind check => check.analyze store kind
  | job check => check.analyzeJob store
  | event check => check.analyze store
  | yaml check => check.analyzeYaml store
  | json check => check.analyze store
  | text check => check.analyze store

end Triage.Analyzer
