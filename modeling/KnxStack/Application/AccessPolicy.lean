import KnxStack.Application.Apci
import KnxStack.Types

/-!
# Access policies for management services

`application/security_access_policy.cpp`: which property of the Security Interface Object a request
may touch, and which services a device in Security Mode accepts. Both depend on how the request was
protected on the bus.
-/

set_option autoImplicit false

namespace KnxStack.Application

/-- `kSecurityInterfaceObjectType`. -/
def securityInterfaceObjectType : UInt16 := 17

/-- `securityObjectAccessPermitted`. The tool may do everything. Others may read the identity of the
object, its load state and mode, and what it reports; the rest is key material, or the state that
protects it, or not known to the policy. -/
def securityObjectAccessPermitted (propertyId : UInt16) (write : Bool) (security : RequestSecurity) :
    Bool :=
  if security.toolSecured then true
  else if write then false
  else propertyId ∈ ([1, 2, 5, 51, 55, 57, 58] : List UInt16)

/-- `isManagementWriteService`. -/
def isManagementWriteService : APCIService → Bool
  | .propertyValueWrite | .propertyExtValueWriteCon | .propertyExtValueWriteUnCon
  | .functionPropertyCommand | .functionPropertyExtCommand | .memoryWrite | .memoryExtendedWrite
  | .individualAddressWrite | .individualAddressSerialNumberWrite | .networkParameterWrite
  | .systemNetworkParameterWrite | .authorizeRequest | .keyWrite | .restart => true
  | _ => false

/-- `managementWritePermitted`. -/
def managementWritePermitted (service : APCIService) (securityModeEnabled : Bool)
    (security : RequestSecurity) : Bool :=
  if !isManagementWriteService service then true
  else if !securityModeEnabled then true
  else security.toolSecured

/-- `isPropertyAccessPermitted`: the policy is about one object. -/
def isPropertyAccessPermitted (objectType propertyId : UInt16) (write : Bool)
    (security : RequestSecurity) : Bool :=
  if objectType = securityInterfaceObjectType then
    securityObjectAccessPermitted propertyId write security
  else true

theorem not_isManagementWriteService_of_permitted {service : APCIService}
    {security : RequestSecurity} (htool : security.toolSecured = false)
    (hpermitted : managementWritePermitted service true security = true) :
    isManagementWriteService service = false := by
  rw [managementWritePermitted] at hpermitted
  cases hwrite : isManagementWriteService service with
  | false => rfl
  | true =>
    rw [hwrite, htool] at hpermitted
    cases hpermitted

end KnxStack.Application
