import ClusterAccess.Connection.Basic
import ClusterAccess.Host

namespace ClusterAccess

namespace Pod

def directory : String := "/var/run/secrets/kubernetes.io/serviceaccount"

def tokenFile : String := Path.join directory "token"

def certificateFile : String := Path.join directory "ca.crt"

def namespaceFile : String := Path.join directory "namespace"

/-- Decimal digits, after a plus sign or not. -/
def port? (text : String) : Option Nat :=
  let digits := ((Text.dropLead "+" text).getD text).toList
  if digits.isEmpty || !digits.all Char.isDigit then none
  else
    let n := digits.foldl (fun n c => 10 * n + (c.toNat - 48)) 0
    if n < 65536 then some n else none

/-- The standard port is left out. -/
def serverText (host : String) (port : Nat) : String :=
  let authority := Http.Host.print host
  if port = 443 then s!"https://{authority}" else s!"https://{authority}:{port}"

def server (v : Environment) : Except ConnectionProblem Http.Uri := do
  let some host := v.serviceHost | throw .missingVariable
  let some portText := v.servicePort | throw .missingVariable
  let some port := port? portText | throw .malformedPort
  let some uri := Http.Uri.parse? (serverText host port) | throw .malformedServer
  return uri

/-- The connection that a pod's files and variables describe. -/
def connection (host : Host) : Except ConnectionProblem Connection := do
  let server ← server host.environment
  let some ns := (host.files.read? namespaceFile).bind Bytes.text? | throw .unreadableNamespace
  let some bundle := host.files.read? certificateFile | throw .unreadableBundle
  return {
    server
    defaultNamespace := ns
    roots := some (← Connection.certificates bundle)
    credentials := { tokenFile := some tokenFile } }

/-- Whether the process runs in a pod: both variables are set, and the token is there. -/
def isHere (host : Host) : Bool :=
  host.environment.serviceHost.any (· ≠ "") && host.environment.servicePort.any (· ≠ "")
    && host.files.has tokenFile

end Pod

end ClusterAccess
