import ClusterAccess.Json.Basic
import ClusterAccess.Text.Pieces

namespace ClusterAccess.Report

/-- A message ends behind one of these; the first one listed that occurs counts. -/
def closings : List String := [
  "failed to parse configuration",
  "Error deserializing response",
  "header is not valid base64",
  "failed to parse kubeconfig YAML",
  "the structure of the parsed kubeconfig is invalid",
  "failed to parse PEM-encoded certificates",
  "failed to build client",
  "failed to parse cluster url",
  "failed to parse proxy url",
  "failed to encode apply body",
  "failed to buffer request body",
  "failed to read the default namespace",
  "failed to read an incluster environment variable",
  "failed to read a certificate bundle",
  "failed to parse cluster port",
  "failed to read kubeconfig",
  "Failed to build request",
  "invalid user agent",
  "failed to initialize tracing subscriber"]

/-- The text through the first occurrence of a part, and what follows it. -/
def through? (part : List Char) : List Char → Option (List Char × List Char)
  | [] => if part.isEmpty then some ([], []) else none
  | c :: cs =>
    if part.isPrefixOf (c :: cs) then some (part, (c :: cs).drop part.length)
    else (through? part cs).map fun p => (c :: p.1, p.2)

/-- A body that was not decoded is named, and why it was not is left out. -/
def closeDecoding (message : List Char) : List Char :=
  match through? "failed to decode ".toList message with
  | none => message
  | some (before, after) =>
    match through? " body: ".toList after with
    | none => message
    | some (kind, _) => before ++ kind.take (kind.length - 2)

/-- Where the wording of a parser would begin, the message ends. -/
def shorten (message : String) : String :=
  match closings.findSome? fun closing => through? closing.toList message.toList with
  | some (before, _) => String.ofList before
  | none => String.ofList (closeDecoding message.toList)

/-- A text, or null. -/
def text? : Option String → Json
  | none => .null
  | some s => .str s

/-- A number, or null. -/
def number? (n : Option Nat) : Json :=
  (n.map Json.nat).getD .null

def texts (values : List String) : Json :=
  .arr (values.map .str)

end ClusterAccess.Report
