import ClusterAccess.Host
import ClusterAccess.Kubeconfig.Basic
import ClusterAccess.Text.Bytes
import ClusterAccess.Yaml.Node

namespace ClusterAccess.Kubeconfig

open Format (required? default?)

section Reading

variable {ν : Type} (f : Format ν)

def named? {α : Type} (bodyName : String) (decode : ν → Option α) (v : ν) :
    Option (Named α) := do
  match ← f.record? ["name", bodyName] 2 v with
  | [name, body] =>
    some { name := ← required? f.text? name, body := ← f.optional? decode body }
  | _ => none

def extension? (v : ν) : Option (String × Json) := do
  match ← f.record? ["name", "extension"] 2 v with
  | [name, value] => some (← required? f.text? name, ← required? f.json? value)
  | _ => none

def preferences? (v : ν) : Option Preferences := do
  match ← f.record? ["colors", "extensions"] 2 v with
  | [colors, extensions] =>
    some {
      colors := ← f.optional? f.flag? colors
      extensions := ← f.optional? (f.list? (extension? f)) extensions }
  | _ => none

def clusterNames : List String :=
  ["server", "insecure-skip-tls-verify", "certificate-authority", "certificate-authority-data",
    "proxy-url", "disable-compression", "tls-server-name", "extensions"]

def cluster? (v : ν) : Option Cluster := do
  match ← f.record? clusterNames 8 v with
  | [server, insecure, authority, data, proxy, compression, serverName, extensions] =>
    some {
      server := ← f.optional? f.text? server
      insecure := ← f.optional? f.flag? insecure
      authority := ← f.optional? f.text? authority
      authorityData := ← f.optional? f.text? data
      proxyUrl := ← f.optional? f.text? proxy
      disableCompression := ← f.optional? f.flag? compression
      tlsServerName := ← f.optional? f.text? serverName
      extensions := ← f.optional? (f.list? (extension? f)) extensions }
  | _ => none

def authProvider? (v : ν) : Option AuthProvider := do
  match ← f.record? ["name", "config"] 1 v with
  | [name, config] =>
    some { name := ← required? f.text? name, config := ← default? (f.table? f.text?) [] config }
  | _ => none

def Interaction.name : Interaction → String
  | never => "Never"
  | ifAvailable => "IfAvailable"
  | always => "Always"

def Interaction.all : List Interaction :=
  [.never, .ifAvailable, .always]

def Interaction.byName : List (String × Interaction) :=
  Interaction.all.map fun i => (i.name, i)

def commandNames : List String :=
  ["apiVersion", "command", "args", "env", "interactiveMode", "provideClusterInfo"]

def command? (v : ν) : Option CredentialCommand := do
  match ← f.record? commandNames 5 v with
  | [apiVersion, command, arguments, environment, interaction, cluster] =>
    some {
      apiVersion := ← f.optional? f.text? apiVersion
      command := ← f.optional? f.text? command
      arguments := ← f.optional? (f.list? f.text?) arguments
      environment := ← f.optional? (f.list? (f.table? f.text?)) environment
      interaction := ← f.optional? (f.choice? Interaction.byName) interaction
      providesCluster := ← default? f.flag? false cluster }
  | _ => none

def userNames : List String :=
  ["username", "password", "token", "tokenFile", "client-certificate",
    "client-certificate-data", "client-key", "client-key-data", "as", "as-groups",
    "auth-provider", "exec"]

def user? (v : ν) : Option User := do
  match ← f.record? userNames 12 v with
  | [username, password, token, tokenFile, certificate, certificateData, key, keyData,
      impersonate, groups, provider, command] =>
    some {
      username := ← f.optional? f.text? username
      password := ← f.optional? f.text? password
      token := ← f.optional? f.text? token
      tokenFile := ← f.optional? f.text? tokenFile
      clientCertificate := ← f.optional? f.text? certificate
      clientCertificateData := ← f.optional? f.text? certificateData
      clientKey := ← f.optional? f.text? key
      clientKeyData := ← f.optional? f.text? keyData
      impersonate := ← f.optional? f.text? impersonate
      impersonateGroups := ← f.optional? (f.list? f.text?) groups
      authProvider := ← f.optional? (authProvider? f) provider
      command := ← f.optional? (command? f) command }
  | _ => none

def context? (v : ν) : Option Context := do
  match ← f.record? ["cluster", "user", "namespace", "extensions"] 4 v with
  | [cluster, user, ns, extensions] =>
    some {
      cluster := ← required? f.text? cluster
      user := ← f.optional? f.text? user
      namespaceName := ← f.optional? f.text? ns
      extensions := ← f.optional? (f.list? (extension? f)) extensions }
  | _ => none

def fieldNames : List String :=
  ["preferences", "clusters", "users", "contexts", "current-context", "extensions", "kind",
    "apiVersion"]

def read? (v : ν) : Option Kubeconfig := do
  match ← f.record? fieldNames 8 v with
  | [preferences, clusters, users, contexts, current, extensions, kind, apiVersion] =>
    some {
      preferences := ← f.optional? (preferences? f) preferences
      clusters := ← f.listing? (named? f "cluster" (cluster? f)) clusters
      users := ← f.listing? (named? f "user" (user? f)) users
      contexts := ← f.listing? (named? f "context" (context? f)) contexts
      currentContext := ← f.optional? f.text? current
      extensions := ← f.optional? (f.list? (extension? f)) extensions
      kind := ← f.optional? f.text? kind
      apiVersion := ← f.optional? f.text? apiVersion }
  | _ => none

end Reading

def ofJson? (v : Json) : Option Kubeconfig :=
  read? Json.format v

/-- What is not set is left out. -/
def member (name : String) (value : Option Json) : List (String × Json) :=
  (value.map (name, ·)).toList

def textMember (name : String) (value : Option String) : List (String × Json) :=
  member name (value.map .str)

def texts (values : List String) : Json :=
  .arr (values.map .str)

def tableToJson (table : List (String × String)) : Json :=
  .obj (table.map fun e => (e.1, .str e.2))

def extensionsMember (extensions : Option Extensions) : List (String × Json) :=
  member "extensions" (extensions.map fun es =>
    .arr (es.map fun e => .obj [("name", .str e.1), ("extension", e.2)]))

def namedToJson {α : Type} (bodyName : String) (toJson : α → Json) (n : Named α) : Json :=
  .obj (("name", .str n.name) :: member bodyName (n.body.map toJson))

def Preferences.toJson (p : Preferences) : Json :=
  .obj (member "colors" (p.colors.map .bool) ++ extensionsMember p.extensions)

def Cluster.toJson (c : Cluster) : Json :=
  .obj (textMember "server" c.server
    ++ member "insecure-skip-tls-verify" (c.insecure.map .bool)
    ++ textMember "certificate-authority" c.authority
    ++ textMember "certificate-authority-data" c.authorityData
    ++ textMember "proxy-url" c.proxyUrl
    ++ member "disable-compression" (c.disableCompression.map .bool)
    ++ textMember "tls-server-name" c.tlsServerName
    ++ extensionsMember c.extensions)

def AuthProvider.toJson (p : AuthProvider) : Json :=
  .obj [("name", .str p.name), ("config", tableToJson p.config)]

def CredentialCommand.toJson (c : CredentialCommand) : Json :=
  .obj (textMember "apiVersion" c.apiVersion
    ++ textMember "command" c.command
    ++ member "args" (c.arguments.map texts)
    ++ member "env" (c.environment.map fun vs => .arr (vs.map tableToJson))
    ++ textMember "interactiveMode" (c.interaction.map Interaction.name)
    ++ [("provideClusterInfo", .bool c.providesCluster)])

def User.toJson (u : User) : Json :=
  .obj (textMember "username" u.username
    ++ textMember "password" u.password
    ++ textMember "token" u.token
    ++ textMember "tokenFile" u.tokenFile
    ++ textMember "client-certificate" u.clientCertificate
    ++ textMember "client-certificate-data" u.clientCertificateData
    ++ textMember "client-key" u.clientKey
    ++ textMember "client-key-data" u.clientKeyData
    ++ textMember "as" u.impersonate
    ++ member "as-groups" (u.impersonateGroups.map texts)
    ++ member "auth-provider" (u.authProvider.map AuthProvider.toJson)
    ++ member "exec" (u.command.map CredentialCommand.toJson))

def Context.toJson (c : Context) : Json :=
  .obj ([("cluster", .str c.cluster)]
    ++ [("user", (c.user.map Json.str).getD .null)]
    ++ textMember "namespace" c.namespaceName
    ++ extensionsMember c.extensions)

def toJson (k : Kubeconfig) : Json :=
  .obj (member "preferences" (k.preferences.map Preferences.toJson)
    ++ [("clusters", .arr (k.clusters.map (namedToJson "cluster" Cluster.toJson))),
      ("users", .arr (k.users.map (namedToJson "user" User.toJson))),
      ("contexts", .arr (k.contexts.map (namedToJson "context" Context.toJson)))]
    ++ textMember "current-context" k.currentContext
    ++ extensionsMember k.extensions
    ++ textMember "kind" k.kind
    ++ textMember "apiVersion" k.apiVersion)

/-- File names seen from a directory. -/
def Cluster.inDirectory (dir : String) (c : Cluster) : Cluster :=
  { c with authority := c.authority.map (Path.join dir) }

def User.inDirectory (dir : String) (u : User) : User :=
  { u with
    clientCertificate := u.clientCertificate.map (Path.join dir)
    clientKey := u.clientKey.map (Path.join dir)
    tokenFile := u.tokenFile.map (Path.join dir) }

def inDirectory (dir : String) (k : Kubeconfig) : Kubeconfig :=
  { k with
    clusters := k.clusters.map fun n => { n with body := n.body.map (·.inDirectory dir) }
    users := k.users.map fun n => { n with body := n.body.map (·.inDirectory dir) } }

/-- A malformed document comes out only behind those before it. -/
def ofNode : Option Yaml.Node → Except ConnectionProblem Kubeconfig
  | none => .error .malformedDocument
  | some v =>
    match read? Yaml.Node.format v with
    | none => .error .malformedStructure
    | some k => .ok k

/-- The kubeconfigs in a text, merged in their order; a text without any is an empty one. -/
def ofText (dir : Option String) (text : String) : Except ConnectionProblem Kubeconfig := do
  let ks ← (Yaml.documents text).mapM ofNode
  match ks.map fun k => (dir.map k.inDirectory).getD k with
  | [] => return {}
  | k :: ks => ks.foldlM merge k

/-- A file names other files from its own directory. -/
def ofFile (files : Files) (path : String) : Except ConnectionProblem Kubeconfig :=
  match (files.read? path).bind Text.ofFile? with
  | none => .error .unreadableFile
  | some text => ofText (Path.parent? path) text

end ClusterAccess.Kubeconfig
