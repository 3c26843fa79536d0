import Mathlib.Logic.Equiv.Defs
import ClientV2.Navigation

/-!
# Operations and their legacy calls

`Operation k` lists the operations the interface `k` declares, and `Operation.invoke` calls one on
a handle: the Go method call `h.Op(ctx, args..., opts...)`. The design pairs each operation with the
legacy method named after it (`Operation.target`) and the same arguments in the same order
(`Operation.legacyArgs`, where `ListAny` adds the NAT type `"any"`).

The code refines this table: on every handle an operation is `forward` of its target and its
arguments (`Operation.invoke_eq`). With `Path.follow_legacy` this gives `invoke_forwards_once`: on a
handle that any navigation reaches from a root built by `NewFromProto` or `AsV2`, an operation is,
in every monad, the one legacy call the table names; on a traced client it logs exactly that call
and returns its result; and no two operations reach one legacy method, since the table is a
bijection between operations and legacy methods (`Operation.targetEquiv`).
-/

namespace ClientV2

/-- The operations of `clientv2`, by the interface that declares them. -/
inductive Operation : HandleKind → Type
  | lbGet : Operation .loadBalancers
  | lbList : Operation .loadBalancers
  | lbCreate : Operation .loadBalancers
  | lbDelete : Operation .loadBalancers
  | lbPrefixesList : Operation .loadBalancerPrefixes
  | lbPrefixesCreate : Operation .loadBalancerPrefixes
  | lbPrefixesDelete : Operation .loadBalancerPrefixes
  | lbTargetsList : Operation .loadBalancerTargets
  | lbTargetsCreate : Operation .loadBalancerTargets
  | lbTargetsDelete : Operation .loadBalancerTargets
  | ifaceGet : Operation .interfaces
  | ifaceList : Operation .interfaces
  | ifaceCreate : Operation .interfaces
  | ifaceDelete : Operation .interfaces
  | vipGet : Operation .virtualIPs
  | vipCreate : Operation .virtualIPs
  | vipDelete : Operation .virtualIPs
  | ifacePrefixesList : Operation .interfacePrefixes
  | ifacePrefixesCreate : Operation .interfacePrefixes
  | ifacePrefixesDelete : Operation .interfacePrefixes
  | routeList : Operation .routes
  | routeCreate : Operation .routes
  | routeDelete : Operation .routes
  | natGet : Operation .nats
  | natCreate : Operation .nats
  | natDelete : Operation .nats
  | natListAny : Operation .nats
  | natListLocal : Operation .nats
  | natListNeighbors : Operation .nats
  | natCreateNeighbor : Operation .nats
  | natDeleteNeighbor : Operation .nats
  | fwList : Operation .firewall
  | fwGet : Operation .firewall
  | fwCreate : Operation .firewall
  | fwDelete : Operation .firewall
  | systemCheckInitialized : Operation .system
  | systemInitialize : Operation .system
  | systemGetVni : Operation .system
  | systemResetVni : Operation .system
  | systemGetVersion : Operation .system
  | captureStart : Operation .capture
  | captureStop : Operation .capture
  | captureStatus : Operation .capture

variable {A : Api} {m : Type → Type} {k : HandleKind}

namespace Operation

/-- The arguments of an operation before its options, as its interface declares them. -/
def Args (A : Api) : Operation k → Type
  | lbGet => A.Context × String
  | lbList => A.Context
  | lbCreate => A.Context × A.LoadBalancer
  | lbDelete => A.Context × String
  | lbPrefixesList => A.Context × String
  | lbPrefixesCreate => A.Context × A.LoadBalancerPrefix
  | lbPrefixesDelete => A.Context × String × A.NetipPrefix
  | lbTargetsList => A.Context × String
  | lbTargetsCreate => A.Context × A.LoadBalancerTarget
  | lbTargetsDelete => A.Context × String × A.NetipAddr
  | ifaceGet => A.Context × String
  | ifaceList => A.Context
  | ifaceCreate => A.Context × A.Interface
  | ifaceDelete => A.Context × String
  | vipGet => A.Context × String
  | vipCreate => A.Context × A.VirtualIP
  | vipDelete => A.Context × String
  | ifacePrefixesList => A.Context × String
  | ifacePrefixesCreate => A.Context × A.Prefix
  | ifacePrefixesDelete => A.Context × String × A.NetipPrefix
  | routeList => A.Context × UInt32
  | routeCreate => A.Context × A.Route
  | routeDelete => A.Context × UInt32 × A.NetipPrefix
  | natGet => A.Context × String
  | natCreate => A.Context × A.Nat
  | natDelete => A.Context × String
  | natListAny => A.Context × A.NetipAddr
  | natListLocal => A.Context × A.NetipAddr
  | natListNeighbors => A.Context × A.NetipAddr
  | natCreateNeighbor => A.Context × A.NeighborNat
  | natDeleteNeighbor => A.Context × A.NeighborNat
  | fwList => A.Context × String
  | fwGet => A.Context × String × String
  | fwCreate => A.Context × A.FirewallRule
  | fwDelete => A.Context × String × String
  | systemCheckInitialized => A.Context
  | systemInitialize => A.Context
  | systemGetVni => A.Context × UInt32 × UInt8
  | systemResetVni => A.Context × UInt32 × UInt8
  | systemGetVersion => A.Context × A.Version
  | captureStart => A.Context × A.CaptureStart
  | captureStop => A.Context
  | captureStatus => A.Context

/-- The legacy method the design pairs with each operation. -/
def target : Operation k → LegacyMethod
  | lbGet => .getLoadBalancer
  | lbList => .listLoadBalancers
  | lbCreate => .createLoadBalancer
  | lbDelete => .deleteLoadBalancer
  | lbPrefixesList => .listLoadBalancerPrefixes
  | lbPrefixesCreate => .createLoadBalancerPrefix
  | lbPrefixesDelete => .deleteLoadBalancerPrefix
  | lbTargetsList => .listLoadBalancerTargets
  | lbTargetsCreate => .createLoadBalancerTarget
  | lbTargetsDelete => .deleteLoadBalancerTarget
  | ifaceGet => .getInterface
  | ifaceList => .listInterfaces
  | ifaceCreate => .createInterface
  | ifaceDelete => .deleteInterface
  | vipGet => .getVirtualIP
  | vipCreate => .createVirtualIP
  | vipDelete => .deleteVirtualIP
  | ifacePrefixesList => .listPrefixes
  | ifacePrefixesCreate => .createPrefix
  | ifacePrefixesDelete => .deletePrefix
  | routeList => .listRoutes
  | routeCreate => .createRoute
  | routeDelete => .deleteRoute
  | natGet => .getNat
  | natCreate => .createNat
  | natDelete => .deleteNat
  | natListAny => .listNats
  | natListLocal => .listLocalNats
  | natListNeighbors => .listNeighborNats
  | natCreateNeighbor => .createNeighborNat
  | natDeleteNeighbor => .deleteNeighborNat
  | fwList => .listFirewallRules
  | fwGet => .getFirewallRule
  | fwCreate => .createFirewallRule
  | fwDelete => .deleteFirewallRule
  | systemCheckInitialized => .checkInitialized
  | systemInitialize => .initialize'
  | systemGetVni => .getVni
  | systemResetVni => .resetVni
  | systemGetVersion => .getVersion
  | captureStart => .captureStart
  | captureStop => .captureStop
  | captureStatus => .captureStatus

/-- The legacy arguments of an operation's arguments: the same values in the same order, and
for `ListAny` the NAT type `"any"` after the address. -/
def legacyArgs : (o : Operation k) → o.Args A → o.target.Args A
  | lbGet, args => args
  | lbList, args => args
  | lbCreate, args => args
  | lbDelete, args => args
  | lbPrefixesList, args => args
  | lbPrefixesCreate, args => args
  | lbPrefixesDelete, args => args
  | lbTargetsList, args => args
  | lbTargetsCreate, args => args
  | lbTargetsDelete, args => args
  | ifaceGet, args => args
  | ifaceList, args => args
  | ifaceCreate, args => args
  | ifaceDelete, args => args
  | vipGet, args => args
  | vipCreate, args => args
  | vipDelete, args => args
  | ifacePrefixesList, args => args
  | ifacePrefixesCreate, args => args
  | ifacePrefixesDelete, args => args
  | routeList, args => args
  | routeCreate, args => args
  | routeDelete, args => args
  | natGet, args => args
  | natCreate, args => args
  | natDelete, args => args
  | natListAny, (ctx, natIP) => (ctx, natIP, "any")
  | natListLocal, args => args
  | natListNeighbors, args => args
  | natCreateNeighbor, args => args
  | natDeleteNeighbor, args => args
  | fwList, args => args
  | fwGet, args => args
  | fwCreate, args => args
  | fwDelete, args => args
  | systemCheckInitialized, args => args
  | systemInitialize, args => args
  | systemGetVni, args => args
  | systemResetVni, args => args
  | systemGetVersion, args => args
  | captureStart, args => args
  | captureStop, args => args
  | captureStatus, args => args

/-- Calling an operation on a handle: the method of the handle's struct. -/
def invoke : (o : Operation k) → Handle A m k → o.Args A → List CallOption →
    m (o.target.Ret A)
  | .lbGet, c, (ctx, id), opts => LbClient.get c ctx id opts
  | .lbList, c, ctx, opts => LbClient.list c ctx opts
  | .lbCreate, c, (ctx, lb), opts => LbClient.create c ctx lb opts
  | .lbDelete, c, (ctx, id), opts => LbClient.delete c ctx id opts
  | .lbPrefixesList, c, (ctx, interfaceID), opts => LbPrefixesClient.list c ctx interfaceID opts
  | .lbPrefixesCreate, c, (ctx, prefix'), opts => LbPrefixesClient.create c ctx prefix' opts
  | .lbPrefixesDelete, c, (ctx, interfaceID, prefix'), opts =>
    LbPrefixesClient.delete c ctx interfaceID prefix' opts
  | .lbTargetsList, c, (ctx, loadBalancerID), opts => LbTargetsClient.list c ctx loadBalancerID opts
  | .lbTargetsCreate, c, (ctx, target), opts => LbTargetsClient.create c ctx target opts
  | .lbTargetsDelete, c, (ctx, lbID, targetIP), opts =>
    LbTargetsClient.delete c ctx lbID targetIP opts
  | .ifaceGet, c, (ctx, id), opts => IfaceClient.get c ctx id opts
  | .ifaceList, c, ctx, opts => IfaceClient.list c ctx opts
  | .ifaceCreate, c, (ctx, iface), opts => IfaceClient.create c ctx iface opts
  | .ifaceDelete, c, (ctx, id), opts => IfaceClient.delete c ctx id opts
  | .vipGet, c, (ctx, interfaceID), opts => VipClient.get c ctx interfaceID opts
  | .vipCreate, c, (ctx, vip), opts => VipClient.create c ctx vip opts
  | .vipDelete, c, (ctx, interfaceID), opts => VipClient.delete c ctx interfaceID opts
  | .ifacePrefixesList, c, (ctx, interfaceID), opts =>
    IfacePrefixesClient.list c ctx interfaceID opts
  | .ifacePrefixesCreate, c, (ctx, prefix'), opts => IfacePrefixesClient.create c ctx prefix' opts
  | .ifacePrefixesDelete, c, (ctx, interfaceID, prefix'), opts =>
    IfacePrefixesClient.delete c ctx interfaceID prefix' opts
  | .routeList, c, (ctx, vni), opts => RouteClient.list c ctx vni opts
  | .routeCreate, c, (ctx, route), opts => RouteClient.create c ctx route opts
  | .routeDelete, c, (ctx, vni, prefix'), opts => RouteClient.delete c ctx vni prefix' opts
  | .natGet, c, (ctx, interfaceID), opts => NatClient.get c ctx interfaceID opts
  | .natCreate, c, (ctx, nat), opts => NatClient.create c ctx nat opts
  | .natDelete, c, (ctx, interfaceID), opts => NatClient.delete c ctx interfaceID opts
  | .natListAny, c, (ctx, natIP), opts => NatClient.listAny c ctx natIP opts
  | .natListLocal, c, (ctx, natIP), opts => NatClient.listLocal c ctx natIP opts
  | .natListNeighbors, c, (ctx, natIP), opts => NatClient.listNeighbors c ctx natIP opts
  | .natCreateNeighbor, c, (ctx, n), opts => NatClient.createNeighbor c ctx n opts
  | .natDeleteNeighbor, c, (ctx, n), opts => NatClient.deleteNeighbor c ctx n opts
  | .fwList, c, (ctx, interfaceID), opts => FwClient.list c ctx interfaceID opts
  | .fwGet, c, (ctx, interfaceID, ruleID), opts => FwClient.get c ctx interfaceID ruleID opts
  | .fwCreate, c, (ctx, rule), opts => FwClient.create c ctx rule opts
  | .fwDelete, c, (ctx, interfaceID, ruleID), opts => FwClient.delete c ctx interfaceID ruleID opts
  | .systemCheckInitialized, c, ctx, opts => SystemClient.checkInitialized c ctx opts
  | .systemInitialize, c, ctx, opts => SystemClient.initialize' c ctx opts
  | .systemGetVni, c, (ctx, vni, vniType), opts => SystemClient.getVni c ctx vni vniType opts
  | .systemResetVni, c, (ctx, vni, vniType), opts => SystemClient.resetVni c ctx vni vniType opts
  | .systemGetVersion, c, (ctx, version), opts => SystemClient.getVersion c ctx version opts
  | .captureStart, c, (ctx, capture), opts => CaptureClient.start c ctx capture opts
  | .captureStop, c, ctx, opts => CaptureClient.stop c ctx opts
  | .captureStatus, c, ctx, opts => CaptureClient.status c ctx opts

/-- The legacy call the design pairs with an operation applied to `args` and `opts`. -/
def call (o : Operation k) (args : o.Args A) (opts : List CallOption) : LegacyCall A :=
  ⟨o.target, o.legacyArgs args, toLegacyIgnored opts⟩

/-- On every handle an operation is `forward` of its target and its arguments. -/
theorem invoke_eq (o : Operation k) (h : Handle A m k) (args : o.Args A) (opts : List CallOption) :
    o.invoke h args opts = forward h.legacy o.target (o.legacyArgs args) opts := by
  cases o <;> rfl

/-- After any navigation from `h`, an operation is its legacy call on the client of `h`. -/
theorem invoke_follow {k₀} (h : Handle A m k₀) (p : Path k₀ k) (o : Operation k)
    (args : o.Args A) (opts : List CallOption) :
    o.invoke (p.follow h) args opts =
      h.legacy o.target (o.legacyArgs args) (toLegacyIgnored opts) := by
  rw [invoke_eq, p.follow_legacy]
  rfl

example (c : LegacyClient A m) (ctx : A.Context) :
    (asV2 c).routes.list ctx 42 [] = c .listRoutes (ctx, 42) [] := rfl

example (c : LegacyClient A m) (ctx : A.Context) :
    (asV2 c).nats.get ctx "iface-1" [withIgnoredCodes [1001], withIgnoredCodes [1002, 1003]] =
      c .getNat (ctx, "iface-1") [[1001, 1002, 1003]] := rfl

/-- Options enter an operation only through the codes they build: any options act as the one
option `WithIgnoredCodes` of those codes. -/
theorem invoke_eq_single_option (o : Operation k) (h : Handle A m k) (args : o.Args A)
    (opts : List CallOption) :
    o.invoke h args opts =
      o.invoke h args [withIgnoredCodes (buildCallOptions opts).ignoredCodes] := by
  rw [invoke_eq, invoke_eq]
  rfl

/-- After any navigation from a handle over a traced client, an operation logs exactly its legacy
call and returns what the client returns. -/
theorem run_invoke_traced [Monad m] [LawfulMonad m] {k₀} (L : LegacyClient A m) (p : Path k₀ k)
    (o : Operation k) (args : o.Args A) (opts : List CallOption) (log : List (LegacyCall A)) :
    (o.invoke (p.follow ⟨L.traced⟩) args opts).run log =
      (·, log ++ [o.call args opts]) <$>
        L o.target (o.legacyArgs args) (toLegacyIgnored opts) := by
  rw [invoke_eq, p.follow_legacy]
  exact run_forward_traced L _ _ opts log

end Operation

/-- The operation that wraps each legacy method. -/
def LegacyMethod.operation : LegacyMethod → (k : HandleKind) × Operation k
  | .getLoadBalancer => ⟨_, .lbGet⟩
  | .listLoadBalancers => ⟨_, .lbList⟩
  | .createLoadBalancer => ⟨_, .lbCreate⟩
  | .deleteLoadBalancer => ⟨_, .lbDelete⟩
  | .listLoadBalancerPrefixes => ⟨_, .lbPrefixesList⟩
  | .createLoadBalancerPrefix => ⟨_, .lbPrefixesCreate⟩
  | .deleteLoadBalancerPrefix => ⟨_, .lbPrefixesDelete⟩
  | .listLoadBalancerTargets => ⟨_, .lbTargetsList⟩
  | .createLoadBalancerTarget => ⟨_, .lbTargetsCreate⟩
  | .deleteLoadBalancerTarget => ⟨_, .lbTargetsDelete⟩
  | .getInterface => ⟨_, .ifaceGet⟩
  | .listInterfaces => ⟨_, .ifaceList⟩
  | .createInterface => ⟨_, .ifaceCreate⟩
  | .deleteInterface => ⟨_, .ifaceDelete⟩
  | .getVirtualIP => ⟨_, .vipGet⟩
  | .createVirtualIP => ⟨_, .vipCreate⟩
  | .deleteVirtualIP => ⟨_, .vipDelete⟩
  | .listPrefixes => ⟨_, .ifacePrefixesList⟩
  | .createPrefix => ⟨_, .ifacePrefixesCreate⟩
  | .deletePrefix => ⟨_, .ifacePrefixesDelete⟩
  | .listRoutes => ⟨_, .routeList⟩
  | .createRoute => ⟨_, .routeCreate⟩
  | .deleteRoute => ⟨_, .routeDelete⟩
  | .getNat => ⟨_, .natGet⟩
  | .createNat => ⟨_, .natCreate⟩
  | .deleteNat => ⟨_, .natDelete⟩
  | .listNats => ⟨_, .natListAny⟩
  | .listLocalNats => ⟨_, .natListLocal⟩
  | .listNeighborNats => ⟨_, .natListNeighbors⟩
  | .createNeighborNat => ⟨_, .natCreateNeighbor⟩
  | .deleteNeighborNat => ⟨_, .natDeleteNeighbor⟩
  | .listFirewallRules => ⟨_, .fwList⟩
  | .getFirewallRule => ⟨_, .fwGet⟩
  | .createFirewallRule => ⟨_, .fwCreate⟩
  | .deleteFirewallRule => ⟨_, .fwDelete⟩
  | .checkInitialized => ⟨_, .systemCheckInitialized⟩
  | .initialize' => ⟨_, .systemInitialize⟩
  | .getVni => ⟨_, .systemGetVni⟩
  | .resetVni => ⟨_, .systemResetVni⟩
  | .getVersion => ⟨_, .systemGetVersion⟩
  | .captureStart => ⟨_, .captureStart⟩
  | .captureStop => ⟨_, .captureStop⟩
  | .captureStatus => ⟨_, .captureStatus⟩

theorem Operation.operation_target (o : Operation k) : o.target.operation = ⟨k, o⟩ := by
  cases o <;> rfl

theorem LegacyMethod.target_operation (meth : LegacyMethod) : meth.operation.2.target = meth := by
  cases meth <;> rfl

/-- The design table pairs the operations and the legacy methods one to one. -/
def Operation.targetEquiv : ((k : HandleKind) × Operation k) ≃ LegacyMethod where
  toFun o := o.2.target
  invFun := LegacyMethod.operation
  left_inv o := o.2.operation_target
  right_inv := LegacyMethod.target_operation

/-- **Forwarding.** On a handle that any navigation reaches from a root built by `NewFromProto` or
`AsV2`, every operation, for all arguments and options, is in every monad exactly the legacy call
the design names: its method, its arguments in order, and the ignored groups `toLegacyIgnored opts`.
On traced clients it logs exactly that one call and returns the client's result unchanged. No two
operations name the same legacy method. -/
theorem invoke_forwards_once [Monad m] [LawfulMonad m] :
    (∀ (newClient : A.DPDKironcoreClient → LegacyClient A m) rpc (p : Path .client k)
        (o : Operation k) args opts,
      o.invoke (p.follow (newFromProto newClient rpc)) args opts =
        newClient rpc o.target (o.legacyArgs args) (toLegacyIgnored opts)) ∧
    (∀ (c : LegacyClient A m) (p : Path .client k) (o : Operation k) args opts,
      o.invoke (p.follow (asV2 c)) args opts =
        c o.target (o.legacyArgs args) (toLegacyIgnored opts)) ∧
    (∀ (newClient : A.DPDKironcoreClient → LegacyClient A m) rpc (p : Path .client k)
        (o : Operation k) args opts log,
      (o.invoke (p.follow (newFromProto (fun rpc => (newClient rpc).traced) rpc)) args opts).run
          log =
        (·, log ++ [o.call args opts]) <$>
          newClient rpc o.target (o.legacyArgs args) (toLegacyIgnored opts)) ∧
    (∀ (c : LegacyClient A m) (p : Path .client k) (o : Operation k) args opts log,
      (o.invoke (p.follow (asV2 c.traced)) args opts).run log =
        (·, log ++ [o.call args opts]) <$>
          c o.target (o.legacyArgs args) (toLegacyIgnored opts)) ∧
    ∀ {k₁ k₂} (o₁ : Operation k₁) (o₂ : Operation k₂), o₁.target = o₂.target →
      (⟨k₁, o₁⟩ : (k : HandleKind) × Operation k) = ⟨k₂, o₂⟩ :=
  ⟨fun newClient rpc p => Operation.invoke_follow (newFromProto newClient rpc) p,
    fun c p => Operation.invoke_follow (asV2 c) p,
    fun newClient rpc p => Operation.run_invoke_traced (newClient rpc) p,
    fun c p => Operation.run_invoke_traced c p,
    fun _ _ h => Operation.targetEquiv.injective h⟩

/-- Every Go type the facade passes along at `Unit`: a closed instance of the model. -/
def Api.unit : Api :=
  ⟨Unit, Unit, Unit, Unit, Unit, Unit, Unit, Unit, Unit, Unit, Unit, Unit, Unit, Unit,
    Unit, Unit, Unit, Unit, Unit, Unit, Unit, Unit, Unit, Unit, Unit, Unit, Unit, Unit⟩

/-- A legacy client that fails every call with the call itself as its error. -/
def LegacyClient.reporting : LegacyClient A (Except (LegacyCall A)) :=
  fun meth args ignored => throw ⟨meth, args, ignored⟩

/-- A scenario of the design on the reporting client: `NATs().Get` of `"iface-1"` with
`WithIgnoredCodes(1001)` then `WithIgnoredCodes(1002, 1003)` reaches `GetNat` with the one group
`[1001, 1002, 1003]`. -/
theorem natGet_forwards_once :
    Operation.natGet.invoke ((Path.cons .nats .nil).follow (asV2 LegacyClient.reporting))
        ((), "iface-1") [withIgnoredCodes [1001], withIgnoredCodes [1002, 1003]] =
      throw (⟨.getNat, ((), "iface-1"), [[1001, 1002, 1003]]⟩ : LegacyCall Api.unit) :=
  (invoke_forwards_once.2.1 _ _ _ _ _).trans rfl

end ClientV2
