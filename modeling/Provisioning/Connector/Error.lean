set_option autoImplicit false

/-!
# Connector errors

What can go wrong when a resource is reached or operated on.
-/

namespace Provisioning

/-- A failure of a connector call. -/
inductive ConnectorError where
  /-- The resource could not be reached. -/
  | connectionFailed (detail : String)
  /-- The resource rejected the credentials. -/
  | authenticationFailed (detail : String)
  /-- The connector is not set up correctly. -/
  | invalidConfiguration (detail : String)
  /-- The addressed object does not exist. -/
  | objectNotFound (detail : String)
  /-- An object with the same identifier exists already. -/
  | alreadyExists (detail : String)
  /-- The connector does not offer the operation. -/
  | unsupported (detail : String)
  /-- The receiver of the deltas went away while the connector was sending. -/
  | channelClosed
  /-- Any other failure that the resource reports. -/
  | operationFailed (detail : String)
  deriving DecidableEq, Repr, Inhabited

namespace ConnectorError

/-- The text of an error. -/
def message : ConnectorError → String
  | connectionFailed detail => "connection failed: " ++ detail
  | authenticationFailed detail => "authentication failed: " ++ detail
  | invalidConfiguration detail => "invalid configuration: " ++ detail
  | objectNotFound detail => "object not found: " ++ detail
  | alreadyExists detail => "object already exists: " ++ detail
  | unsupported detail => "operation not supported: " ++ detail
  | channelClosed => "delta consumer closed the channel"
  | operationFailed detail => "operation failed: " ++ detail

end ConnectorError

end Provisioning
