import PushGateway.Document
import PushGateway.Foundation.AssocMap

/-!
# The durable relationship map

A map of opaque byte keys and values, written to its own snapshot in the same way as the handle
store.
-/

namespace PushGateway

/-- `RelationshipFileKv`: the guarded map, and whether a snapshot is due. -/
structure RelationshipFileKv where
  map : AssocMap (List UInt8) (List UInt8)
  dirty : Bool

/-- A call on the map which may change it. -/
inductive RelationshipCall where
  | put (key value : List UInt8)
  | delete (key : List UInt8)
  deriving DecidableEq, Repr

namespace RelationshipFileKv

def put (kv : RelationshipFileKv) (key value : List UInt8) : RelationshipFileKv where
  map := AList.insert key value kv.map
  dirty := true

def delete (kv : RelationshipFileKv) (key : List UInt8) : RelationshipFileKv where
  map := AList.erase key kv.map
  dirty := kv.dirty || (kv.map.lookup key).isSome

/-- Perform a call. -/
def perform (kv : RelationshipFileKv) : RelationshipCall → RelationshipFileKv
  | .put key value => kv.put key value
  | .delete key => kv.delete key

end RelationshipFileKv

/-- `Snapshot`: keys and values in base64, oldest entry first. -/
def Value.encodeRelationships (b64 : List UInt8 → String)
    (map : AssocMap (List UInt8) (List UInt8)) : Value :=
  .object (map.entries.reverse.map fun entry => (b64 entry.1, .string (b64 entry.2)))

end PushGateway
