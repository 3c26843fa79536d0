import ClientV2.Handles

/-!
# Navigation

A navigation is a chain of accessor calls, `Path k k'` from a handle of kind `k` to one of kind
`k'`. Each accessor builds a handle over its receiver's legacy client (`Accessor.call_legacy`),
so every handle a navigation reaches shares the client it started from (`Path.follow_legacy`).

Go allocates a new `*xClient` at each accessor call; a `Handle` is that struct's value, so the
model keeps what the handle holds and not the identity of its pointer.
-/

namespace ClientV2

/-- The accessor methods of `clientv2`, from the kind of handle that declares each to the kind of
handle it returns. -/
inductive Accessor : HandleKind → HandleKind → Type
  | loadBalancers : Accessor .client .loadBalancers
  | interfaces : Accessor .client .interfaces
  | routes : Accessor .client .routes
  | nats : Accessor .client .nats
  | firewall : Accessor .client .firewall
  | system : Accessor .client .system
  | capture : Accessor .client .capture
  | lbPrefixes : Accessor .loadBalancers .loadBalancerPrefixes
  | lbTargets : Accessor .loadBalancers .loadBalancerTargets
  | vip : Accessor .interfaces .virtualIPs
  | ifacePrefixes : Accessor .interfaces .interfacePrefixes
  | ifaceFirewall : Accessor .interfaces .firewall

/-- A navigation: accessor calls one after the other. -/
inductive Path : HandleKind → HandleKind → Type
  | nil {k} : Path k k
  | cons {k k' k''} : Accessor k k' → Path k' k'' → Path k k''

variable {A : Api} {m : Type → Type} {k k' : HandleKind}

/-- Calling an accessor: the method of the receiver's struct. -/
def Accessor.call : Accessor k k' → Handle A m k → Handle A m k'
  | .loadBalancers, r => RootAdapter.loadBalancers r
  | .interfaces, r => RootAdapter.interfaces r
  | .routes, r => RootAdapter.routes r
  | .nats, r => RootAdapter.nats r
  | .firewall, r => RootAdapter.firewall r
  | .system, r => RootAdapter.system r
  | .capture, r => RootAdapter.capture r
  | .lbPrefixes, c => LbClient.prefixes c
  | .lbTargets, c => LbClient.targets c
  | .vip, c => IfaceClient.vip c
  | .ifacePrefixes, c => IfaceClient.prefixes c
  | .ifaceFirewall, c => IfaceClient.firewall c

/-- The handle a navigation reaches from `h`. -/
def Path.follow {k k'} : Path k k' → Handle A m k → Handle A m k'
  | .nil, h => h
  | .cons a p, h => p.follow (a.call h)

/-- An accessor keeps its receiver's legacy client. -/
@[simp] theorem Accessor.call_legacy (a : Accessor k k') (h : Handle A m k) :
    (a.call h).legacy = h.legacy := by
  cases a <;> rfl

/-- Every handle a navigation reaches shares the client of the handle it started from. -/
@[simp] theorem Path.follow_legacy {k k'} : (p : Path k k') → (h : Handle A m k) →
    (p.follow h).legacy = h.legacy
  | .nil, _ => rfl
  | .cons a p, h => (p.follow_legacy (a.call h)).trans (a.call_legacy h)

end ClientV2
