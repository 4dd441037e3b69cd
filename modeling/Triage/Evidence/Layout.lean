import Triage.Text.Pieces

/-!
# Where evidence lies in a bundle

Paths are relative to the root of the bundle, with slashes. Facts about hosts have fixed file names
in one directory, or in one directory per node; cluster resources have one file per namespace.
-/

namespace Triage.Layout

def systemDir : String := "host-collectors/system"

def nodeListPath : String := "host-collectors/system/node_list.json"

def diskUsageDir : String := "host-collectors/diskUsage"

def clusterDir : String := "cluster-resources"

def clusterNodesPath : String := "cluster-resources/nodes.json"

/-- The namespace that is meant when none is named. -/
def defaultNamespace : String := "default"

def hostFactPath (file : String) : String := s!"{systemDir}/{file}"

def nodeFactPath (base node file : String) : String := s!"{base}/{node}/{file}"

def diskUsagePath (collector : String) : String := s!"{diskUsageDir}/{collector}.json"

def clusterResourcePath (kind nspace : String) : String := s!"{clusterDir}/{kind}/{nspace}.json"

/-- A glob for the files of all namespaces. -/
def clusterResourceGlob (kind : String) : String := s!"{clusterDir}/{kind}/*.json"

/-- The namespace that a resource file is named after. -/
def namespaceOf (path : String) : String :=
  let file := Text.afterLast '/' path.toList
  .ofList ((Text.dropBack? ".json".toList file).getD file)

/-- Puts a file below a directory with exactly one slash between them. -/
def join (dir file : String) : String :=
  let dir := (dir.toList.reverse.dropWhile (· == '/')).reverse
  let file := file.toList.dropWhile (· == '/')
  if dir.isEmpty then .ofList file
  else if file.isEmpty then .ofList dir
  else .ofList (dir ++ '/' :: file)

end Triage.Layout
