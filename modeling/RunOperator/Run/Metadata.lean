import RunOperator.Json.Decode

/-!
# Object metadata

The part of an object that the cluster's interface defines for all objects. Members that it does
not define are dropped, `null` stands for a missing member, and times are written back in whole
seconds of Coordinated Universal Time.
-/

namespace RunOperator

/-- An object that owns the one whose metadata carries the reference. -/
structure OwnerReference where
  apiVersion : String
  blockOwnerDeletion : Option Bool
  controller : Option Bool
  kind : String
  name : String
  uid : String
  deriving DecidableEq, Inhabited

/-- The fields that one writer of an object manages. -/
structure ManagedFields where
  apiVersion : Option String
  fieldsType : Option String
  fields : Option Json
  manager : Option String
  operation : Option String
  subresource : Option String
  time : Option Instant
  deriving Inhabited

/-- The metadata of an object. -/
structure Metadata where
  annotations : Option (List (String × String))
  creationTimestamp : Option Instant
  deletionGracePeriodSeconds : Option Int
  deletionTimestamp : Option Instant
  finalizers : Option (List String)
  generateName : Option String
  generation : Option Int
  labels : Option (List (String × String))
  managedFields : Option (List ManagedFields)
  name : Option String
  ns : Option String
  ownerReferences : Option (List OwnerReference)
  resourceVersion : Option String
  selfLink : Option String
  uid : Option String
  deriving Inhabited

namespace OwnerReference

/-- Reads a reference; a missing text counts as empty. -/
def ofJson? (v : Json) : Option OwnerReference := do
  let ms ← v.members?
  let apiVersion ← Json.textOrEmpty ms "apiVersion"
  let blockOwnerDeletion ← Json.optional ms "blockOwnerDeletion" Json.bool?
  let controller ← Json.optional ms "controller" Json.bool?
  let kind ← Json.textOrEmpty ms "kind"
  let name ← Json.textOrEmpty ms "name"
  let uid ← Json.textOrEmpty ms "uid"
  return { apiVersion, blockOwnerDeletion, controller, kind, name, uid }

/-- Writes a reference. -/
def toJson (r : OwnerReference) : Json :=
  .object (("apiVersion", .string r.apiVersion)
    :: Json.written? "blockOwnerDeletion" .bool r.blockOwnerDeletion
    ++ Json.written? "controller" .bool r.controller
    ++ [("kind", .string r.kind), ("name", .string r.name), ("uid", .string r.uid)])

end OwnerReference

namespace ManagedFields

/-- Reads an entry. -/
def ofJson? (v : Json) : Option ManagedFields := do
  let ms ← v.members?
  let apiVersion ← Json.optional ms "apiVersion" Json.text?
  let fieldsType ← Json.optional ms "fieldsType" Json.text?
  let fields ← Json.optional ms "fieldsV1" some
  let manager ← Json.optional ms "manager" Json.text?
  let operation ← Json.optional ms "operation" Json.text?
  let subresource ← Json.optional ms "subresource" Json.text?
  let time ← Json.optional ms "time" Json.readTime
  return { apiVersion, fieldsType, fields, manager, operation, subresource, time }

/-- Writes an entry. -/
def toJson (f : ManagedFields) : Json :=
  .object (Json.written? "apiVersion" .string f.apiVersion
    ++ Json.written? "fieldsType" .string f.fieldsType
    ++ Json.written? "fieldsV1" id f.fields
    ++ Json.written? "manager" .string f.manager
    ++ Json.written? "operation" .string f.operation
    ++ Json.written? "subresource" .string f.subresource
    ++ Json.written? "time" Json.ofTime f.time)

end ManagedFields

namespace Metadata

/-- Metadata in which nothing is set. -/
def empty : Metadata where
  annotations := none
  creationTimestamp := none
  deletionGracePeriodSeconds := none
  deletionTimestamp := none
  finalizers := none
  generateName := none
  generation := none
  labels := none
  managedFields := none
  name := none
  ns := none
  ownerReferences := none
  resourceVersion := none
  selfLink := none
  uid := none

/-- Reads metadata from an object. -/
def ofJson? (v : Json) : Option Metadata := do
  let ms ← v.members?
  let annotations ← Json.optional ms "annotations" Json.readTexts
  let creationTimestamp ← Json.optional ms "creationTimestamp" Json.readTime
  let deletionGracePeriodSeconds ← Json.optional ms "deletionGracePeriodSeconds" Json.readInt64
  let deletionTimestamp ← Json.optional ms "deletionTimestamp" Json.readTime
  let finalizers ← Json.optional ms "finalizers" (Json.readItems Json.text?)
  let generateName ← Json.optional ms "generateName" Json.text?
  let generation ← Json.optional ms "generation" Json.readInt64
  let labels ← Json.optional ms "labels" Json.readTexts
  let managedFields ← Json.optional ms "managedFields" (Json.readItems ManagedFields.ofJson?)
  let name ← Json.optional ms "name" Json.text?
  let ns ← Json.optional ms "namespace" Json.text?
  let ownerReferences ← Json.optional ms "ownerReferences" (Json.readItems OwnerReference.ofJson?)
  let resourceVersion ← Json.optional ms "resourceVersion" Json.text?
  let selfLink ← Json.optional ms "selfLink" Json.text?
  let uid ← Json.optional ms "uid" Json.text?
  return { annotations, creationTimestamp, deletionGracePeriodSeconds, deletionTimestamp,
           finalizers, generateName, generation, labels, managedFields, name, ns,
           ownerReferences, resourceVersion, selfLink, uid }

/-- Writes metadata. -/
def toJson (m : Metadata) : Json :=
  .object (Json.written? "annotations" Json.ofTexts m.annotations
    ++ Json.written? "creationTimestamp" Json.ofTime m.creationTimestamp
    ++ Json.written? "deletionGracePeriodSeconds" Json.ofInt m.deletionGracePeriodSeconds
    ++ Json.written? "deletionTimestamp" Json.ofTime m.deletionTimestamp
    ++ Json.written? "finalizers" Json.ofTextList m.finalizers
    ++ Json.written? "generateName" .string m.generateName
    ++ Json.written? "generation" Json.ofInt m.generation
    ++ Json.written? "labels" Json.ofTexts m.labels
    ++ Json.written? "managedFields" (fun fs => .array (fs.map ManagedFields.toJson))
        m.managedFields
    ++ Json.written? "name" .string m.name
    ++ Json.written? "namespace" .string m.ns
    ++ Json.written? "ownerReferences" (fun rs => .array (rs.map OwnerReference.toJson))
        m.ownerReferences
    ++ Json.written? "resourceVersion" .string m.resourceVersion
    ++ Json.written? "selfLink" .string m.selfLink
    ++ Json.written? "uid" .string m.uid)

/-- The value of an annotation. -/
def annotation? (m : Metadata) (name : String) : Option String :=
  (m.annotations.getD []).lookup name

/-- The value of a label. -/
def label? (m : Metadata) (name : String) : Option String := (m.labels.getD []).lookup name

/-- Sets an annotation. -/
def setAnnotation (m : Metadata) (name value : String) : Metadata :=
  let kept := (m.annotations.getD []).filter fun a => a.1 != name
  { m with annotations := some (kept ++ [(name, value)]) }

end Metadata

end RunOperator
