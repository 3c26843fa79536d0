import ClientV2.Session
import Mathlib.Data.Set.List

/-!
# The translation to legacy calls

Through the facade a request sends its legacy call (`Request.send_asV2`); on the reporting client
that call comes back as the error (`Request.send_reporting`). This module says which calls those
are and what they keep of the request.

* `exists_send_iff_issuable`: a legacy call is sent by some request from the root exactly when it
  is `Issuable`: its ignored groups omitted or one nonempty group, and for `ListNats` the NAT type
  `"any"`. Every other call of the legacy client is reachable through the facade.
* `decode_send`: the call sent decodes (`LegacyCall.decode`) back to the request's operation, its
  arguments and the codes of its `WithIgnoredCodes` options, concatenated in order. The
  translation forgets only the navigation and how the codes were split among the options.
* `exists_session_eq_legacySession`: every sequence of issuable legacy calls is, on every legacy
  client and in every monad, the session of some list of requests, so code written against the
  legacy client migrates to the facade call for call. Issuable calls lift to requests along
  `Request.call` (a `CanLift` instance), so lists of them lift with Mathlib's list instance.
-/

namespace ClientV2

variable {A : Api} {k : HandleKind}

/-- `ListNats` called with the NAT type `"any"`; every other call satisfies it. -/
def LegacyCall.NatTypeAny : LegacyCall A → Prop
  | ⟨.listNats, (_, _, natType), _⟩ => natType = "any"
  | _ => True

/-- The legacy calls `clientv2` can make. -/
def LegacyCall.Issuable (c : LegacyCall A) : Prop :=
  LegacyIgnoredForm c.ignored ∧ c.NatTypeAny

/-- Every handle kind is reached from the root by some navigation. -/
theorem HandleKind.reachable : (k : HandleKind) → Nonempty (Path .client k)
  | .client => ⟨.nil⟩
  | .loadBalancers => ⟨.cons .loadBalancers .nil⟩
  | .loadBalancerPrefixes => ⟨.cons .loadBalancers (.cons .lbPrefixes .nil)⟩
  | .loadBalancerTargets => ⟨.cons .loadBalancers (.cons .lbTargets .nil)⟩
  | .interfaces => ⟨.cons .interfaces .nil⟩
  | .virtualIPs => ⟨.cons .interfaces (.cons .vip .nil)⟩
  | .interfacePrefixes => ⟨.cons .interfaces (.cons .ifacePrefixes .nil)⟩
  | .routes => ⟨.cons .routes .nil⟩
  | .nats => ⟨.cons .nats .nil⟩
  | .firewall => ⟨.cons .firewall .nil⟩
  | .system => ⟨.cons .system .nil⟩
  | .capture => ⟨.cons .capture .nil⟩

theorem Operation.natTypeAny_call (o : Operation k) (args : o.Args A) (opts : List CallOption) :
    (o.call args opts).NatTypeAny := by
  cases o <;> trivial

/-- Legacy arguments with the NAT type `"any"` where there is one are those of the operation
wrapping the method. -/
theorem LegacyMethod.exists_legacyArgs (meth : LegacyMethod) (args : meth.Args A)
    (ignored : List (List UInt32)) (h : LegacyCall.NatTypeAny ⟨meth, args, ignored⟩) :
    ∃ a : meth.operation.2.Args A, HEq (meth.operation.2.legacyArgs a) args := by
  cases meth
  case listNats =>
    obtain ⟨ctx, natIP, natType⟩ := args
    cases (h : natType = "any")
    exact ⟨(ctx, natIP), .rfl⟩
  all_goals exact ⟨args, .rfl⟩

theorem Request.send_reporting (req : Request A) :
    req.send (asV2 LegacyClient.reporting) = .error req.call := by
  rw [send_asV2]
  rfl

/-- A legacy call of the shape the facade makes is the call of a request from the root. -/
theorem LegacyCall.exists_request (c : LegacyCall A) (h : c.Issuable) :
    ∃ req : Request A, req.call = c := by
  obtain ⟨meth, args, ignored⟩ := c
  obtain ⟨hform, hnat⟩ := h
  obtain ⟨opts, rfl⟩ := (exists_toLegacyIgnored_iff ignored).2 hform
  obtain ⟨a, ha⟩ := meth.exists_legacyArgs args _ hnat
  obtain ⟨path⟩ := HandleKind.reachable meth.operation.1
  refine ⟨⟨path, meth.operation.2, a, opts⟩, ?_⟩
  simp only [Request.call, Operation.call, LegacyCall.mk.injEq]
  exact ⟨meth.target_operation, ha, trivial⟩

/-- **The calls the facade can make.** A legacy call is sent by a request along some navigation
from the root exactly when its ignored groups are omitted or one nonempty group and, for
`ListNats`, its NAT type is `"any"`. -/
theorem exists_send_iff_issuable (c : LegacyCall A) :
    (∃ req : Request A, req.send (asV2 LegacyClient.reporting) = .error c) ↔ c.Issuable := by
  simp only [Request.send_reporting, Except.error.injEq]
  refine ⟨?_, c.exists_request⟩
  rintro ⟨⟨path, op, args, opts⟩, rfl⟩
  exact ⟨(exists_toLegacyIgnored_iff _).1 ⟨opts, rfl⟩, op.natTypeAny_call args opts⟩

/-- Legacy calls of the shape the facade makes lift to requests, and lists of them to lists. -/
instance : CanLift (LegacyCall A) (Request A) Request.call LegacyCall.Issuable :=
  ⟨LegacyCall.exists_request⟩

/-- **Migration.** A sequence of legacy calls of the shape the facade makes is, on every legacy
client and in every monad, the session of some list of requests from the root. -/
theorem exists_session_eq_legacySession (calls : List (LegacyCall A))
    (h : ∀ c ∈ calls, c.Issuable) :
    ∃ reqs : List (Request A), ∀ {m : Type → Type} [Monad m] (L : LegacyClient A m),
      session (asV2 L) reqs = legacySession L calls := by
  lift calls to List (Request A) using h with reqs
  exact ⟨reqs, fun L => session_asV2 L reqs⟩

/-- Three legacy calls, `GetNat` ignoring `1001`, `ListNats` of the NAT type `"any"` and
`DeleteRoute` ignoring `1001` and `1002`, migrate to a session of requests. -/
theorem exists_session_eq_legacySession_three :
    ∃ reqs : List (Request Api.unit), ∀ {m : Type → Type} [Monad m] (L : LegacyClient Api.unit m),
      session (asV2 L) reqs = legacySession L
        [⟨.getNat, ((), "iface-1"), [[1001]]⟩, ⟨.listNats, ((), (), "any"), []⟩,
          ⟨.deleteRoute, ((), 42, ()), [[1001, 1002]]⟩] :=
  exists_session_eq_legacySession _ (by
    simp [LegacyCall.Issuable, LegacyIgnoredForm, LegacyCall.NatTypeAny])

/-! ### Decoding a legacy call -/

/-- An operation with its arguments, whatever interface declares it. -/
abbrev Invocation (A : Api) := (o : (k : HandleKind) × Operation k) × o.2.Args A

/-- The arguments of the operation wrapping a legacy method, read off the method's arguments: the
same values, and for `ListNats` without the NAT type. -/
def LegacyMethod.operationArgs : (meth : LegacyMethod) → meth.Args A → meth.operation.2.Args A
  | .listNats => fun (ctx, natIP, _) => (ctx, natIP)
  | .getLoadBalancer | .listLoadBalancers | .createLoadBalancer | .deleteLoadBalancer
  | .listLoadBalancerPrefixes | .createLoadBalancerPrefix | .deleteLoadBalancerPrefix
  | .listLoadBalancerTargets | .createLoadBalancerTarget | .deleteLoadBalancerTarget
  | .getInterface | .listInterfaces | .createInterface | .deleteInterface
  | .getVirtualIP | .createVirtualIP | .deleteVirtualIP
  | .listPrefixes | .createPrefix | .deletePrefix
  | .listRoutes | .createRoute | .deleteRoute
  | .getNat | .createNat | .deleteNat | .listLocalNats | .listNeighborNats
  | .createNeighborNat | .deleteNeighborNat
  | .listFirewallRules | .getFirewallRule | .createFirewallRule | .deleteFirewallRule
  | .checkInitialized | .initialize' | .getVni | .resetVni | .getVersion
  | .captureStart | .captureStop | .captureStatus => id

/-- What a legacy call says of the request that made it: the operation wrapping its method with
that operation's arguments, and the codes of all its ignored groups in order. -/
def LegacyCall.decode (c : LegacyCall A) : Invocation A × List UInt32 :=
  (⟨c.method.operation, c.method.operationArgs c.args⟩, c.ignored.flatten)

/-- The legacy arguments of an operation read back to the operation and its arguments. -/
theorem Operation.operationArgs_legacyArgs (o : Operation k) (args : o.Args A) :
    (⟨o.target.operation, o.target.operationArgs (o.legacyArgs args)⟩ : Invocation A) =
      ⟨⟨k, o⟩, args⟩ := by
  cases o <;> rfl

/-- A request's legacy call decodes to its operation, its arguments and the codes its options
build. -/
theorem Request.decode_call (req : Request A) :
    req.call.decode = (⟨⟨_, req.op⟩, req.args⟩, (buildCallOptions req.opts).ignoredCodes) := by
  obtain ⟨path, op, args, opts⟩ := req
  exact Prod.ext (op.operationArgs_legacyArgs args) (flatten_toLegacyIgnored opts)

/-- **Round trip.** Along any navigation, the legacy call the facade sends for an operation, its
arguments and options each nil or `WithIgnoredCodes(csᵢ)` decodes back to that operation, those
arguments and the `csᵢ` concatenated in order. -/
theorem decode_send (path : Path .client k) (op : Operation k) (args : op.Args A)
    (specs : List (Option (List UInt32))) :
    (Request.send (asV2 LegacyClient.reporting)
        ⟨path, op, args, specs.map nilOrWithIgnoredCodes⟩).mapError LegacyCall.decode =
      .error (⟨⟨k, op⟩, args⟩, (specs.filterMap id).flatten) := by
  rw [Request.send_reporting, Except.mapError, Request.decode_call,
    ignoredCodes_buildCallOptions_map]

end ClientV2
