/-! What can go wrong around subscriptions, apart from the failures of subscriber code itself. -/

namespace EventFeed

/-- Why reading or writing a file failed. -/
inductive FileFault where
  /-- The file ends before the bytes that are expected. -/
  | truncated
  /-- The file or its folder cannot be used. -/
  | inaccessible
deriving DecidableEq

/-- A failure of a store, of the lock, of the file format or of a declaration. -/
inductive EngineError where
  /-- A file could not be used. -/
  | io (fault : FileFault)
  /-- A store reported a failure of its own. -/
  | store (reason : String)
  | subscriptionNotFound (id : String)
  | subscriptionExists (id : String)
  /-- Somebody else holds the lock. -/
  | locked
  /-- The lock did not do its work. -/
  | lock (reason : String)
  /-- A value has no written form, or a written form has no value. -/
  | serialization
  /-- The bytes of a file are not a list of subscriptions. -/
  | deserialization
  | invalidFormat (reason : String)
  /-- The checksum of a file does not belong to its contents. -/
  | checksumMismatch (expected got : UInt32)
  | duplicateSetup (id : String)
  | duplicateTeardown (id : String)
  | duplicateSubscriber (id : String)
  | missingSubscriberId (typeName : String)
  /-- There is no error to retry from. -/
  | noErrorToRetry (id : String)
deriving DecidableEq

namespace EngineError

/-- The text of an error. -/
def message : EngineError → String
  | io .truncated => "IO error: failed to fill whole buffer"
  | io .inaccessible => "IO error: file is not accessible"
  | store reason => "Store error: " ++ reason
  | subscriptionNotFound id => "Subscription not found: " ++ id
  | subscriptionExists id => "Subscription already exists: " ++ id
  | locked => "Subscription store is locked by another process"
  | lock reason => "Lock error: " ++ reason
  | serialization => "Serialization error"
  | deserialization => "Deserialization error"
  | invalidFormat reason => "Invalid store format: " ++ reason
  | checksumMismatch expected got =>
    "Checksum mismatch: expected " ++ toString expected.toNat ++ ", got " ++ toString got.toNat
  | duplicateSetup id => "Subscriber " ++ id ++ " declares more than one setup hook"
  | duplicateTeardown id => "Subscriber " ++ id ++ " declares more than one teardown hook"
  | duplicateSubscriber id => "Subscriber id registered twice: " ++ id
  | missingSubscriberId typeName => "Subscriber type " ++ typeName ++ " does not declare an id"
  | noErrorToRetry id => "Subscription " ++ id ++ " has no error to retry"

end EngineError

end EventFeed
