import ClusterAccess.Text.Quoted

namespace ClusterAccess

/-- Why credentials give no connection. -/
inductive ConnectionProblem where
  | unreadableFile
  | malformedDocument
  | malformedStructure
  | differentKinds
  | differentApiVersions
  | contextWithoutBody (context : String)
  | unknownCluster (cluster : String)
  | missingServer
  | malformedServer
  | malformedProxy
  | unreadableAuthority
  | malformedCertificates
  | missingVariable
  | malformedPort
  | unreadableNamespace
  | unreadableBundle
deriving DecidableEq, Repr

def ConnectionProblem.message : ConnectionProblem → String
  | unreadableFile => "failed to read kubeconfig"
  | malformedDocument => "failed to parse kubeconfig YAML"
  | malformedStructure => "the structure of the parsed kubeconfig is invalid"
  | differentKinds => "kubeconfigs with mismatching kind cannot be merged"
  | differentApiVersions => "kubeconfigs with mismatching api version cannot be merged"
  | contextWithoutBody context => s!"failed to load current context: {context}"
  | unknownCluster cluster => s!"failed to load the cluster of context: {cluster}"
  | missingServer => "cluster url is missing on selected cluster"
  | malformedServer => "failed to parse cluster url"
  | malformedProxy => "failed to parse proxy url"
  | unreadableAuthority => "failed to load certificate authority"
  | malformedCertificates => "failed to parse PEM-encoded certificates"
  | missingVariable => "failed to read an incluster environment variable"
  | malformedPort => "failed to parse cluster port"
  | unreadableNamespace => "failed to read the default namespace"
  | unreadableBundle => "failed to read a certificate bundle"

inductive Misconfiguration where
  | stated (reason : String)
  | kubeconfigInCluster (path : String)
  | noCredentials
  | unreadableKubeconfig (paths : List String)
  | kubeconfigOfCluster
  | noCurrentContext
  | unknownContext (name : String)
  | unknownOverride (context cluster : String)
  | noContextFor (cluster : String)
  | currentWithoutCluster (context : String)
  | duplicateValidator (name : String)
  | kubeconfigStrategyInCluster
  | clusterStrategyOutside
  | noSharedManager
  | switchAfterDeriving
  | malformedUserAgent
  | connection (problem : ConnectionProblem)
  /-- The connection's credentials or certificates are not what a client takes. -/
  | unusableConnection
deriving DecidableEq, Repr

def Misconfiguration.message : Misconfiguration → String
  | stated reason => reason
  | kubeconfigInCluster path =>
    s!"kubeconfig file {path} cannot be used with in-cluster deployments"
  | noCredentials => "no kubeconfig found and not running in a cluster"
  | unreadableKubeconfig paths => "unable to read kubeconfig from " ++ ", ".intercalate paths
  | kubeconfigOfCluster => "in-cluster credentials have no kubeconfig"
  | noCurrentContext => "kubeconfig has no current context"
  | unknownContext name => "context " ++ Text.quote name ++ " does not exist"
  | unknownOverride context cluster =>
    "context " ++ Text.quote context ++ " configured for cluster " ++ Text.quote cluster
      ++ " does not exist"
  | noContextFor cluster => "no contexts in kubeconfig can access cluster '" ++ cluster ++ "'"
  | currentWithoutCluster context =>
    "current context " ++ Text.quote context ++ " does not reference a known cluster"
  | duplicateValidator name => "validator " ++ Text.quote name ++ " is already registered"
  | kubeconfigStrategyInCluster => "kubeconfig provider cannot be used in in-cluster deployments"
  | clusterStrategyOutside => "in-cluster provider cannot be used outside of a cluster"
  | noSharedManager =>
    "auth-headers provider has no shared manager; callers must supply connection headers"
  | switchAfterDeriving => "derived managers cannot switch context; switch before deriving"
  | malformedUserAgent => "invalid user agent"
  | connection problem => problem.message
  | unusableConnection => "failed to build client"

end ClusterAccess
