import ClusterAccess.Json.Printer
import ClusterAccess.Json.Reader
import ClusterAccess.Settings.Basic

namespace ClusterAccess.Settings

open Format (required? default?)

variable {ν : Type} (f : Format ν)

inductive Error where
  | unreadable
  | invalid (problem : Problem)
deriving DecidableEq, Repr

def Error.message : Error → String
  | unreadable => "failed to parse configuration"
  | invalid problem => s!"invalid configuration: {problem.message}"

def rule? (v : ν) : Option DenyRule := do
  match ← f.record? ["group", "version", "kind"] 0 v with
  | [group, version, kind] =>
    some ⟨← default? f.text? "" group, ← required? f.text? version, ← default? f.text? "" kind⟩
  | _ => none

def validation? (v : ν) : Option Bool := do
  match ← f.record? ["enabled"] 0 v with
  | [enabled] => default? f.flag? false enabled
  | _ => none

def selfReview? (v : ν) : Option SelfReview := do
  match ← f.record? ["group", "resource"] 0 v with
  | [group, resource] => some ⟨← required? f.text? group, ← required? f.text? resource⟩
  | _ => none

def watch? (v : ν) : Option WatchTimes := do
  match ← f.record? ["debounce_ms", "poll_interval_ms"] 0 v with
  | [debounce, poll] =>
    let standard : WatchTimes := {}
    some ⟨← default? f.natural? standard.debounce debounce, ← default? f.natural? standard.poll poll⟩
  | _ => none

def fieldNames : List String :=
  ["kubeconfig", "cluster_provider_strategy", "cluster_contexts", "require_identity",
    "denied_resources", "validation", "self_review", "watch", "user_agent"]

/-- Every field may be absent. -/
def read? (v : ν) : Option Settings := do
  match ← f.record? fieldNames 0 v with
  | [kubeconfig, strategy, contexts, identity, denied, validation, review, watch, agent] =>
    some {
      kubeconfig := ← f.optional? f.text? kubeconfig
      strategy := ← default? (f.choice? Strategy.byName) .auto strategy
      contexts := ← default? (f.table? f.text?) [] contexts
      requireIdentity := ← default? f.flag? false identity
      denied := ← default? (f.list? (rule? f)) [] denied
      validation := ← default? (validation? f) false validation
      selfReview := ← default? (selfReview? f) {} review
      watch := ← default? (watch? f) {} watch
      userAgent := ← f.optional? f.text? agent }
  | _ => none

def ofJson? (v : Json) : Option Settings :=
  read? Json.format v

def parse (raw : String) : Except Error Settings :=
  match (Json.document? raw).bind (read? Json.Written.format) with
  | none => .error .unreadable
  | some s =>
    match s.problem? with
    | some problem => .error (.invalid problem)
    | none => .ok s

def jsonOfText? : Option String → Json
  | none => .null
  | some s => .str s

def ruleToJson (rule : DenyRule) : Json :=
  .obj [("group", .str rule.group), ("version", .str rule.version), ("kind", .str rule.kind)]

def toJson (s : Settings) : Json :=
  .obj [
    ("kubeconfig", jsonOfText? s.kubeconfig),
    ("cluster_provider_strategy", .str s.strategy.name),
    ("cluster_contexts", .obj (s.contexts.map fun c => (c.1, .str c.2))),
    ("require_identity", .bool s.requireIdentity),
    ("denied_resources", .arr (s.denied.map ruleToJson)),
    ("validation", .obj [("enabled", .bool s.validation)]),
    ("self_review",
      .obj [("group", .str s.selfReview.group), ("resource", .str s.selfReview.resource)]),
    ("watch",
      .obj [("debounce_ms", .nat s.watch.debounce), ("poll_interval_ms", .nat s.watch.poll)]),
    ("user_agent", jsonOfText? s.userAgent)]

/-- The document that `parse` reads back. -/
def print (s : Settings) : String :=
  (toJson s).print

end ClusterAccess.Settings
