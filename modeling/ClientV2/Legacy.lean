import Mathlib.Control.Lawful

/-!
# The legacy client

`clientv2` reaches the service only through the flat legacy client, `legacy.Client` of the
package `go/dpservice-go/client`. Its interface is the part of it `clientv2` calls, with the
signatures those calls use: one method per remote operation, each taking a context, its required
arguments and the variadic groups of ignored error codes, and returning a domain object and an
error.

A legacy client is a handler `LegacyClient A m`: given a method, its arguments and the ignored
groups, a computation in any monad `m`. The Go types the facade only passes along are the fields
of `Api`. `LegacyClient.traced` records every call in a log before running it; it observes which
calls a computation over a legacy client makes (`run_traced`).
-/

namespace ClientV2

/-- The Go types `clientv2` passes through without looking inside: `context.Context`, the
generated gRPC client, `error`, `*netip.Addr`, `*netip.Prefix` and the `*api` types. -/
structure Api where
  Context : Type
  DPDKironcoreClient : Type
  Error : Type
  NetipAddr : Type
  NetipPrefix : Type
  LoadBalancer : Type
  LoadBalancerList : Type
  LoadBalancerPrefix : Type
  LoadBalancerTarget : Type
  LoadBalancerTargetList : Type
  PrefixList : Type
  Interface : Type
  InterfaceList : Type
  VirtualIP : Type
  Prefix : Type
  Route : Type
  RouteList : Type
  Nat : Type
  NatList : Type
  NeighborNat : Type
  FirewallRule : Type
  FirewallRuleList : Type
  Initialized : Type
  Vni : Type
  Version : Type
  CaptureStart : Type
  CaptureStop : Type
  CaptureStatus : Type

/-- The methods of `legacy.Client` that `clientv2` calls. -/
inductive LegacyMethod
  | getLoadBalancer | listLoadBalancers | createLoadBalancer | deleteLoadBalancer
  | listLoadBalancerPrefixes | createLoadBalancerPrefix | deleteLoadBalancerPrefix
  | listLoadBalancerTargets | createLoadBalancerTarget | deleteLoadBalancerTarget
  | getInterface | listInterfaces | createInterface | deleteInterface
  | getVirtualIP | createVirtualIP | deleteVirtualIP
  | listPrefixes | createPrefix | deletePrefix
  | listRoutes | createRoute | deleteRoute
  | getNat | createNat | deleteNat | listNats | listLocalNats | listNeighborNats
  | createNeighborNat | deleteNeighborNat
  | listFirewallRules | getFirewallRule | createFirewallRule | deleteFirewallRule
  | checkInitialized | initialize' | getVni | resetVni | getVersion
  | captureStart | captureStop | captureStatus
  deriving DecidableEq, Repr

namespace LegacyMethod

variable (A : Api)

/-- The arguments of a legacy method before its ignored groups: the context, then the required
arguments in the order of the Go signature. -/
def Args : LegacyMethod → Type
  | getLoadBalancer | deleteLoadBalancer => A.Context × String
  | listLoadBalancers => A.Context
  | createLoadBalancer => A.Context × A.LoadBalancer
  | listLoadBalancerPrefixes => A.Context × String
  | createLoadBalancerPrefix => A.Context × A.LoadBalancerPrefix
  | deleteLoadBalancerPrefix => A.Context × String × A.NetipPrefix
  | listLoadBalancerTargets => A.Context × String
  | createLoadBalancerTarget => A.Context × A.LoadBalancerTarget
  | deleteLoadBalancerTarget => A.Context × String × A.NetipAddr
  | getInterface | deleteInterface => A.Context × String
  | listInterfaces => A.Context
  | createInterface => A.Context × A.Interface
  | getVirtualIP | deleteVirtualIP => A.Context × String
  | createVirtualIP => A.Context × A.VirtualIP
  | listPrefixes => A.Context × String
  | createPrefix => A.Context × A.Prefix
  | deletePrefix => A.Context × String × A.NetipPrefix
  | listRoutes => A.Context × UInt32
  | createRoute => A.Context × A.Route
  | deleteRoute => A.Context × UInt32 × A.NetipPrefix
  | getNat | deleteNat => A.Context × String
  | createNat => A.Context × A.Nat
  | listNats => A.Context × A.NetipAddr × String
  | listLocalNats | listNeighborNats => A.Context × A.NetipAddr
  | createNeighborNat | deleteNeighborNat => A.Context × A.NeighborNat
  | listFirewallRules => A.Context × String
  | getFirewallRule | deleteFirewallRule => A.Context × String × String
  | createFirewallRule => A.Context × A.FirewallRule
  | checkInitialized | initialize' => A.Context
  | getVni | resetVni => A.Context × UInt32 × UInt8
  | getVersion => A.Context × A.Version
  | captureStart => A.Context × A.CaptureStart
  | captureStop | captureStatus => A.Context

/-- What a legacy method returns: its domain object and its error. -/
def Ret : LegacyMethod → Type
  | getLoadBalancer | createLoadBalancer | deleteLoadBalancer => A.LoadBalancer × A.Error
  | listLoadBalancers => A.LoadBalancerList × A.Error
  | listLoadBalancerPrefixes | listPrefixes => A.PrefixList × A.Error
  | createLoadBalancerPrefix | deleteLoadBalancerPrefix => A.LoadBalancerPrefix × A.Error
  | listLoadBalancerTargets => A.LoadBalancerTargetList × A.Error
  | createLoadBalancerTarget | deleteLoadBalancerTarget => A.LoadBalancerTarget × A.Error
  | getInterface | createInterface | deleteInterface => A.Interface × A.Error
  | listInterfaces => A.InterfaceList × A.Error
  | getVirtualIP | createVirtualIP | deleteVirtualIP => A.VirtualIP × A.Error
  | createPrefix | deletePrefix => A.Prefix × A.Error
  | listRoutes => A.RouteList × A.Error
  | createRoute | deleteRoute => A.Route × A.Error
  | getNat | createNat | deleteNat => A.Nat × A.Error
  | listNats | listLocalNats | listNeighborNats => A.NatList × A.Error
  | createNeighborNat | deleteNeighborNat => A.NeighborNat × A.Error
  | listFirewallRules => A.FirewallRuleList × A.Error
  | getFirewallRule | createFirewallRule | deleteFirewallRule => A.FirewallRule × A.Error
  | checkInitialized | initialize' => A.Initialized × A.Error
  | getVni | resetVni => A.Vni × A.Error
  | getVersion => A.Version × A.Error
  | captureStart => A.CaptureStart × A.Error
  | captureStop => A.CaptureStop × A.Error
  | captureStatus => A.CaptureStatus × A.Error

end LegacyMethod

/-- A value of `legacy.Client`, with its methods' effects in the monad `m`. -/
def LegacyClient (A : Api) (m : Type → Type) : Type :=
  (meth : LegacyMethod) → meth.Args A → List (List UInt32) → m (meth.Ret A)

/-- One call on a legacy client: the method, its arguments and its ignored groups. -/
structure LegacyCall (A : Api) where
  method : LegacyMethod
  args : method.Args A
  ignored : List (List UInt32)

variable {A : Api} {m : Type → Type} [Monad m]

/-- `L` with each call appended to a log before `L` runs it. -/
def LegacyClient.traced (L : LegacyClient A m) :
    LegacyClient A (StateT (List (LegacyCall A)) m) :=
  fun meth args ignored => do
    modify (· ++ [⟨meth, args, ignored⟩])
    StateT.lift (L meth args ignored)

/-- A call on the traced client logs exactly that call, and returns what `L` returns. -/
theorem LegacyClient.run_traced [LawfulMonad m] (L : LegacyClient A m) (meth : LegacyMethod)
    (args : meth.Args A) (ignored : List (List UInt32)) (log : List (LegacyCall A)) :
    (L.traced meth args ignored).run log =
      (·, log ++ [⟨meth, args, ignored⟩]) <$> L meth args ignored := by
  rw [traced, StateT.run_bind, StateT.run_modify, pure_bind, StateT.run_lift, map_eq_pure_bind]

end ClientV2
