import RequestTelemetry.Chain.Stock
import RequestTelemetry.Json.Basic
import RequestTelemetry.Tracking.Layer
import RequestTelemetry.Tracking.Section

/-!
# The registry

Interceptors are registered under names, each with a factory that makes a layer from a
configuration section. A host builds layers by name alone; every build runs the factory again. Of
several registrations of one name the first counts.
-/

namespace RequestTelemetry

open Http Tracking

/-- Why an interceptor could not be built. -/
inductive RegistryError where
  /-- Nothing is registered under the name. -/
  | notFound (name : String)
  /-- The section is no configuration of the interceptor. -/
  | invalidConfig (name message : String)
  deriving DecidableEq, Repr

/-- The text of an error. -/
def RegistryError.message : RegistryError → String
  | notFound name => "no interceptor registered as \x60" ++ name ++ "\x60"
  | invalidConfig name message =>
    "invalid configuration for interceptor \x60" ++ name ++ "\x60: " ++ message

/-- A name with a factory. -/
structure Registration where
  name : String
  create : Json → Except RegistryError Layer

/-- The registrations of a host. -/
structure Registry where
  registrations : List Registration

namespace Registry

/-- The registration of a name. -/
def lookup (r : Registry) (name : String) : Option Registration :=
  r.registrations.find? fun entry ↦ entry.name = name

/-- The registered names in increasing order, each once. -/
def names (r : Registry) : List String :=
  ((r.registrations.map Registration.name).mergeSort fun a b ↦ !(b < a)).eraseReps

/-- Builds the interceptor of a name, and what is logged about it. -/
def build (r : Registry) (name : String) (config : Json) :
    Except RegistryError Layer × List LogLine :=
  match r.lookup name with
  | none => (.error (.notFound name), [])
  | some entry => (entry.create config, [.building name])

end Registry

namespace Registration

/-- The name of the tracking layer. -/
def trackingName : String := "analytics"

/-- Registers the tracking layer; a layer makes its collector from its configuration. -/
def trackingWith (make : Config → Except DeliveryError Collector) : Registration where
  name := trackingName
  create value :=
    match Config.ofSection value with
    | .error e => .error (.invalidConfig trackingName e.loadMessage)
    | .ok config =>
      match TrackingLayer.connect make config with
      | .error e => .error (.invalidConfig trackingName e.message)
      | .ok layer => .ok layer.toLayer

/-- Registers the tracking layer, with the collector that each configuration leads to. -/
def tracking (collectorOf : Config → Collector) : Registration :=
  trackingWith fun config ↦ .ok (collectorOf config)

/-- Registers a layer that leaves the mark `pass`; its section holds members or nothing. -/
def passThrough (name : String) : Registration where
  name
  create
    | .null | .object _ => .ok (.mark "pass")
    | _ => .error (.invalidConfig "pass-through" "expected an object")

/-- The number that a section gives for a status, zero if there is none. -/
def statusOf (value : Json) : Nat :=
  match value.field? "status" with
  | some (.number (.integer n)) => n.toNat
  | _ => 0

/-- Registers a layer that answers with the status in its section. -/
def deny : Registration where
  name := "deny"
  create value :=
    match Status.ofNat? (statusOf value) with
    | some s => .ok (.answer (.status s))
    | none => .error (.invalidConfig "deny" "invalid status code")

end Registration
end RequestTelemetry
