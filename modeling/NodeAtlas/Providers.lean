import NodeAtlas.Runtime

/-! What the panel exchanges with a cloud provider. -/

set_option autoImplicit false

namespace NodeAtlas.Providers

/-- `ServerState` is a Go string; `inventory.State` has the same values. -/
inductive ServerState where
  | pending
  | running
  | stopping
  | stopped
  | rebooting
  | suspended
  | error
  | unknown
  | other (name : GoString)
  deriving DecidableEq, Repr

structure Capability where
  available : Bool
  reason : GoString
  deriving DecidableEq, Repr

structure Capabilities where
  canStart : Capability
  canStop : Capability
  canReboot : Capability
  canEmbedConsole : Capability
  canOpenConsoleWindow : Capability
  hasProviderPortal : Capability
  deriving DecidableEq, Repr

structure ServerRef where
  externalID : GoString
  scope : GoString
  deriving DecidableEq, Repr

structure RemoteServer where
  externalID : GoString
  scope : GoString
  name : GoString
  state : ServerState
  remoteState : GoString
  spec : GoString
  addresses : GoString
  capabilities : Capabilities
  deriving DecidableEq, Repr

structure ActionReceipt where
  requestID : GoString
  deriving DecidableEq, Repr

structure ConnectionConfig where
  id : GoString
  type : GoString
  endpoint : GoString
  settings : GoString
  credentials : GoString
  deriving DecidableEq, Repr

end NodeAtlas.Providers
