import ClientV2.CallOptions
import ClientV2.Legacy

/-!
# Handles

The root client, its resource handles and their operations, as the `clientv2` package
(`go/dpservice-go/clientv2`) defines them after its call options.
Every handle struct of `clientv2` holds the legacy client and nothing else, so a handle is one
structure `Handle A m k` tagged with the Go interface `k` it implements; the structs are its
instances under their Go names. Accessors build a new handle over the same client. Every
operation is `forward` applied to its legacy method and its arguments: one call on the legacy
client with the ignored groups of `toLegacyIgnored`.
-/

namespace ClientV2

/-- The interfaces of `clientv2` a handle implements. -/
inductive HandleKind
  | client | loadBalancers | loadBalancerPrefixes | loadBalancerTargets
  | interfaces | virtualIPs | interfacePrefixes
  | routes | nats | firewall | system | capture
  deriving DecidableEq, Repr

/-- A handle of kind `k`: the struct `{ legacy legacy.Client }` behind that interface. -/
@[ext] structure Handle (A : Api) (m : Type → Type) (k : HandleKind) where
  legacy : LegacyClient A m

abbrev RootAdapter (A m) := Handle A m .client
abbrev LbClient (A m) := Handle A m .loadBalancers
abbrev LbPrefixesClient (A m) := Handle A m .loadBalancerPrefixes
abbrev LbTargetsClient (A m) := Handle A m .loadBalancerTargets
abbrev IfaceClient (A m) := Handle A m .interfaces
abbrev VipClient (A m) := Handle A m .virtualIPs
abbrev IfacePrefixesClient (A m) := Handle A m .interfacePrefixes
abbrev RouteClient (A m) := Handle A m .routes
abbrev NatClient (A m) := Handle A m .nats
abbrev FwClient (A m) := Handle A m .firewall
abbrev SystemClient (A m) := Handle A m .system
abbrev CaptureClient (A m) := Handle A m .capture

variable {A : Api} {m : Type → Type}

/-! ## Construction and accessors -/

/-- `NewFromProto(rpc)`, for the legacy constructor `newClient` (`legacy.NewClient`). -/
def newFromProto (newClient : A.DPDKironcoreClient → LegacyClient A m)
    (rpc : A.DPDKironcoreClient) : RootAdapter A m :=
  ⟨newClient rpc⟩

/-- `AsV2(c)`. -/
def asV2 (c : LegacyClient A m) : RootAdapter A m := ⟨c⟩

def RootAdapter.loadBalancers (r : RootAdapter A m) : LbClient A m := ⟨r.legacy⟩
def RootAdapter.interfaces (r : RootAdapter A m) : IfaceClient A m := ⟨r.legacy⟩
def RootAdapter.routes (r : RootAdapter A m) : RouteClient A m := ⟨r.legacy⟩
def RootAdapter.nats (r : RootAdapter A m) : NatClient A m := ⟨r.legacy⟩
def RootAdapter.firewall (r : RootAdapter A m) : FwClient A m := ⟨r.legacy⟩
def RootAdapter.system (r : RootAdapter A m) : SystemClient A m := ⟨r.legacy⟩
def RootAdapter.capture (r : RootAdapter A m) : CaptureClient A m := ⟨r.legacy⟩

def LbClient.prefixes (c : LbClient A m) : LbPrefixesClient A m := ⟨c.legacy⟩
def LbClient.targets (c : LbClient A m) : LbTargetsClient A m := ⟨c.legacy⟩

def IfaceClient.vip (c : IfaceClient A m) : VipClient A m := ⟨c.legacy⟩
def IfaceClient.prefixes (c : IfaceClient A m) : IfacePrefixesClient A m := ⟨c.legacy⟩
def IfaceClient.firewall (c : IfaceClient A m) : FwClient A m := ⟨c.legacy⟩

/-! ## Operations -/

/-- The body shared by every operation: `legacy.M(args..., toLegacyIgnored(opts...)...)`. -/
def forward (legacy : LegacyClient A m) (meth : LegacyMethod) (args : meth.Args A)
    (opts : List CallOption) : m (meth.Ret A) :=
  legacy meth args (toLegacyIgnored opts)

/-- On a traced client, `forward` logs exactly its one call and returns what the client returns. -/
theorem run_forward_traced [Monad m] [LawfulMonad m] (L : LegacyClient A m) (meth : LegacyMethod)
    (args : meth.Args A) (opts : List CallOption) (log : List (LegacyCall A)) :
    (forward L.traced meth args opts).run log =
      (·, log ++ [⟨meth, args, toLegacyIgnored opts⟩]) <$>
        L meth args (toLegacyIgnored opts) :=
  L.run_traced meth args _ log

/-! ### Load balancers -/

def LbClient.get (c : LbClient A m) (ctx : A.Context) (id : String) (opts : List CallOption) :
    m (A.LoadBalancer × A.Error) :=
  forward c.legacy .getLoadBalancer (ctx, id) opts
def LbClient.list (c : LbClient A m) (ctx : A.Context) (opts : List CallOption) :
    m (A.LoadBalancerList × A.Error) :=
  forward c.legacy .listLoadBalancers ctx opts
def LbClient.create (c : LbClient A m) (ctx : A.Context)
    (lb : A.LoadBalancer) (opts : List CallOption) : m (A.LoadBalancer × A.Error) :=
  forward c.legacy .createLoadBalancer (ctx, lb) opts
def LbClient.delete (c : LbClient A m) (ctx : A.Context) (id : String) (opts : List CallOption) :
    m (A.LoadBalancer × A.Error) :=
  forward c.legacy .deleteLoadBalancer (ctx, id) opts

def LbPrefixesClient.list (c : LbPrefixesClient A m) (ctx : A.Context)
    (interfaceID : String) (opts : List CallOption) : m (A.PrefixList × A.Error) :=
  forward c.legacy .listLoadBalancerPrefixes (ctx, interfaceID) opts
def LbPrefixesClient.create (c : LbPrefixesClient A m) (ctx : A.Context)
    (prefix' : A.LoadBalancerPrefix) (opts : List CallOption) :
    m (A.LoadBalancerPrefix × A.Error) :=
  forward c.legacy .createLoadBalancerPrefix (ctx, prefix') opts
def LbPrefixesClient.delete (c : LbPrefixesClient A m) (ctx : A.Context)
    (interfaceID : String) (prefix' : A.NetipPrefix) (opts : List CallOption) :
    m (A.LoadBalancerPrefix × A.Error) :=
  forward c.legacy .deleteLoadBalancerPrefix (ctx, interfaceID, prefix') opts

def LbTargetsClient.list (c : LbTargetsClient A m) (ctx : A.Context)
    (loadBalancerID : String) (opts : List CallOption) : m (A.LoadBalancerTargetList × A.Error) :=
  forward c.legacy .listLoadBalancerTargets (ctx, loadBalancerID) opts
def LbTargetsClient.create (c : LbTargetsClient A m) (ctx : A.Context)
    (target : A.LoadBalancerTarget) (opts : List CallOption) :
    m (A.LoadBalancerTarget × A.Error) :=
  forward c.legacy .createLoadBalancerTarget (ctx, target) opts
def LbTargetsClient.delete (c : LbTargetsClient A m) (ctx : A.Context)
    (lbID : String) (targetIP : A.NetipAddr) (opts : List CallOption) :
    m (A.LoadBalancerTarget × A.Error) :=
  forward c.legacy .deleteLoadBalancerTarget (ctx, lbID, targetIP) opts

/-! ### Interfaces and sub-resources -/

def IfaceClient.get (c : IfaceClient A m) (ctx : A.Context) (id : String) (opts : List CallOption) :
    m (A.Interface × A.Error) :=
  forward c.legacy .getInterface (ctx, id) opts
def IfaceClient.list (c : IfaceClient A m) (ctx : A.Context) (opts : List CallOption) :
    m (A.InterfaceList × A.Error) :=
  forward c.legacy .listInterfaces ctx opts
def IfaceClient.create (c : IfaceClient A m) (ctx : A.Context)
    (iface : A.Interface) (opts : List CallOption) : m (A.Interface × A.Error) :=
  forward c.legacy .createInterface (ctx, iface) opts
def IfaceClient.delete (c : IfaceClient A m) (ctx : A.Context)
    (id : String) (opts : List CallOption) : m (A.Interface × A.Error) :=
  forward c.legacy .deleteInterface (ctx, id) opts

def VipClient.get (c : VipClient A m) (ctx : A.Context)
    (interfaceID : String) (opts : List CallOption) : m (A.VirtualIP × A.Error) :=
  forward c.legacy .getVirtualIP (ctx, interfaceID) opts
def VipClient.create (c : VipClient A m) (ctx : A.Context)
    (vip : A.VirtualIP) (opts : List CallOption) : m (A.VirtualIP × A.Error) :=
  forward c.legacy .createVirtualIP (ctx, vip) opts
def VipClient.delete (c : VipClient A m) (ctx : A.Context)
    (interfaceID : String) (opts : List CallOption) : m (A.VirtualIP × A.Error) :=
  forward c.legacy .deleteVirtualIP (ctx, interfaceID) opts

def IfacePrefixesClient.list (c : IfacePrefixesClient A m) (ctx : A.Context)
    (interfaceID : String) (opts : List CallOption) : m (A.PrefixList × A.Error) :=
  forward c.legacy .listPrefixes (ctx, interfaceID) opts
def IfacePrefixesClient.create (c : IfacePrefixesClient A m) (ctx : A.Context)
    (prefix' : A.Prefix) (opts : List CallOption) : m (A.Prefix × A.Error) :=
  forward c.legacy .createPrefix (ctx, prefix') opts
def IfacePrefixesClient.delete (c : IfacePrefixesClient A m) (ctx : A.Context)
    (interfaceID : String) (prefix' : A.NetipPrefix) (opts : List CallOption) :
    m (A.Prefix × A.Error) :=
  forward c.legacy .deletePrefix (ctx, interfaceID, prefix') opts

/-! ### Routes -/

def RouteClient.list (c : RouteClient A m) (ctx : A.Context)
    (vni : UInt32) (opts : List CallOption) : m (A.RouteList × A.Error) :=
  forward c.legacy .listRoutes (ctx, vni) opts
def RouteClient.create (c : RouteClient A m) (ctx : A.Context)
    (route : A.Route) (opts : List CallOption) : m (A.Route × A.Error) :=
  forward c.legacy .createRoute (ctx, route) opts
def RouteClient.delete (c : RouteClient A m) (ctx : A.Context)
    (vni : UInt32) (prefix' : A.NetipPrefix) (opts : List CallOption) : m (A.Route × A.Error) :=
  forward c.legacy .deleteRoute (ctx, vni, prefix') opts

/-! ### NATs -/

def NatClient.get (c : NatClient A m) (ctx : A.Context)
    (interfaceID : String) (opts : List CallOption) : m (A.Nat × A.Error) :=
  forward c.legacy .getNat (ctx, interfaceID) opts
def NatClient.create (c : NatClient A m) (ctx : A.Context) (nat : A.Nat) (opts : List CallOption) :
    m (A.Nat × A.Error) :=
  forward c.legacy .createNat (ctx, nat) opts
def NatClient.delete (c : NatClient A m) (ctx : A.Context)
    (interfaceID : String) (opts : List CallOption) : m (A.Nat × A.Error) :=
  forward c.legacy .deleteNat (ctx, interfaceID) opts
def NatClient.listAny (c : NatClient A m) (ctx : A.Context)
    (natIP : A.NetipAddr) (opts : List CallOption) : m (A.NatList × A.Error) :=
  forward c.legacy .listNats (ctx, natIP, "any") opts
def NatClient.listLocal (c : NatClient A m) (ctx : A.Context)
    (natIP : A.NetipAddr) (opts : List CallOption) : m (A.NatList × A.Error) :=
  forward c.legacy .listLocalNats (ctx, natIP) opts
def NatClient.listNeighbors (c : NatClient A m) (ctx : A.Context)
    (natIP : A.NetipAddr) (opts : List CallOption) : m (A.NatList × A.Error) :=
  forward c.legacy .listNeighborNats (ctx, natIP) opts
def NatClient.createNeighbor (c : NatClient A m) (ctx : A.Context)
    (n : A.NeighborNat) (opts : List CallOption) : m (A.NeighborNat × A.Error) :=
  forward c.legacy .createNeighborNat (ctx, n) opts
def NatClient.deleteNeighbor (c : NatClient A m) (ctx : A.Context)
    (n : A.NeighborNat) (opts : List CallOption) : m (A.NeighborNat × A.Error) :=
  forward c.legacy .deleteNeighborNat (ctx, n) opts

/-! ### Firewall -/

def FwClient.list (c : FwClient A m) (ctx : A.Context)
    (interfaceID : String) (opts : List CallOption) : m (A.FirewallRuleList × A.Error) :=
  forward c.legacy .listFirewallRules (ctx, interfaceID) opts
def FwClient.get (c : FwClient A m) (ctx : A.Context)
    (interfaceID ruleID : String) (opts : List CallOption) : m (A.FirewallRule × A.Error) :=
  forward c.legacy .getFirewallRule (ctx, interfaceID, ruleID) opts
def FwClient.create (c : FwClient A m) (ctx : A.Context)
    (rule : A.FirewallRule) (opts : List CallOption) : m (A.FirewallRule × A.Error) :=
  forward c.legacy .createFirewallRule (ctx, rule) opts
def FwClient.delete (c : FwClient A m) (ctx : A.Context)
    (interfaceID ruleID : String) (opts : List CallOption) : m (A.FirewallRule × A.Error) :=
  forward c.legacy .deleteFirewallRule (ctx, interfaceID, ruleID) opts

/-! ### System -/

def SystemClient.checkInitialized (c : SystemClient A m) (ctx : A.Context)
    (opts : List CallOption) : m (A.Initialized × A.Error) :=
  forward c.legacy .checkInitialized ctx opts
def SystemClient.initialize' (c : SystemClient A m) (ctx : A.Context) (opts : List CallOption) :
    m (A.Initialized × A.Error) :=
  forward c.legacy .initialize' ctx opts
def SystemClient.getVni (c : SystemClient A m) (ctx : A.Context)
    (vni : UInt32) (vniType : UInt8) (opts : List CallOption) : m (A.Vni × A.Error) :=
  forward c.legacy .getVni (ctx, vni, vniType) opts
def SystemClient.resetVni (c : SystemClient A m) (ctx : A.Context)
    (vni : UInt32) (vniType : UInt8) (opts : List CallOption) : m (A.Vni × A.Error) :=
  forward c.legacy .resetVni (ctx, vni, vniType) opts
def SystemClient.getVersion (c : SystemClient A m) (ctx : A.Context)
    (version : A.Version) (opts : List CallOption) : m (A.Version × A.Error) :=
  forward c.legacy .getVersion (ctx, version) opts

/-! ### Capture -/

def CaptureClient.start (c : CaptureClient A m) (ctx : A.Context)
    (capture : A.CaptureStart) (opts : List CallOption) : m (A.CaptureStart × A.Error) :=
  forward c.legacy .captureStart (ctx, capture) opts
def CaptureClient.stop (c : CaptureClient A m) (ctx : A.Context) (opts : List CallOption) :
    m (A.CaptureStop × A.Error) :=
  forward c.legacy .captureStop ctx opts
def CaptureClient.status (c : CaptureClient A m) (ctx : A.Context) (opts : List CallOption) :
    m (A.CaptureStatus × A.Error) :=
  forward c.legacy .captureStatus ctx opts

end ClientV2
