import ClusterAccess.Objects.Shape

namespace ClusterAccess.Metadata

open Shape (optional required)

def managedField : Shape :=
  .record [optional "apiVersion" .text, optional "fieldsType" .text, optional "fieldsV1" .free,
    optional "manager" .text, optional "operation" .text, optional "subresource" .text,
    optional "time" .moment]

def ownerReference : Shape :=
  .record [required "apiVersion" .text, optional "blockOwnerDeletion" .flag,
    optional "controller" .flag, required "kind" .text, required "name" .text,
    required "uid" .text]

/-- The fields of an object's metadata, in order of their names. -/
def ofObject : Shape :=
  .record [optional "annotations" (.table .text), optional "creationTimestamp" .moment,
    optional "deletionGracePeriodSeconds" .integer, optional "deletionTimestamp" .moment,
    optional "finalizers" (.list .text), optional "generateName" .text,
    optional "generation" .integer, optional "labels" (.table .text),
    optional "managedFields" (.list managedField), optional "name" .text,
    optional "namespace" .text, optional "ownerReferences" (.list ownerReference),
    optional "resourceVersion" .text, optional "selfLink" .text, optional "uid" .text]

def ofList : Shape :=
  .record [optional "continue" .text, optional "remainingItemCount" .integer,
    optional "resourceVersion" .text, optional "selfLink" .text]

def ofBookmark : Shape :=
  .record [optional "annotations" (.table .text), optional "resourceVersion" .text]

/-- Absent metadata is empty; metadata that is null or given twice is not metadata. -/
def ofMembers? {ν : Type} (f : Format ν) (shape : Shape) (members : List (String × ν)) :
    Option Json :=
  match members.filter (·.1 = "metadata") with
  | [] => some (.obj [])
  | [m] => shape.read? f m.2
  | _ => none

end ClusterAccess.Metadata
