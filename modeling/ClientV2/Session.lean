import ClientV2.Operations

/-!
# Sessions

A caller's session is a list of v2 calls, each a navigation from the root, an operation of the
handle it reaches, its arguments and its options (`Request`). Run through the facade, a session is
in every monad the session of the legacy calls the design table names, one per request and in the
same order (`session_asV2`). On a traced legacy client such a session logs exactly those calls and
returns the client's results (`run_session_traced`): over a whole run the facade adds, drops and
reorders no call.
-/

namespace ClientV2

/-- One v2 call made from the root. -/
structure Request (A : Api) where
  {kind : HandleKind}
  path : Path .client kind
  op : Operation kind
  args : op.Args A
  opts : List CallOption

/-- A legacy result, with the method it came from. -/
abbrev Reply (A : Api) := (meth : LegacyMethod) × meth.Ret A

variable {A : Api} {m : Type → Type}

/-- A call on the legacy client `L`, its result paired with its method. -/
def LegacyCall.send [Functor m] (L : LegacyClient A m) (c : LegacyCall A) : m (Reply A) :=
  (⟨c.method, ·⟩) <$> L c.method c.args c.ignored

namespace Request

/-- The legacy call the design pairs with a request. -/
def call : Request A → LegacyCall A
  | ⟨_, op, args, opts⟩ => op.call args opts

/-- Making the request on the root `r`: navigate, then invoke the operation. -/
def send [Functor m] (r : RootAdapter A m) : Request A → m (Reply A)
  | ⟨path, op, args, opts⟩ => (⟨op.target, ·⟩) <$> op.invoke (path.follow r) args opts

/-- A request through the facade is its legacy call. -/
theorem send_asV2 [Functor m] (L : LegacyClient A m) (req : Request A) :
    req.send (asV2 L) = req.call.send L := by
  obtain ⟨path, op, args, opts⟩ := req
  exact congrArg _ (op.invoke_follow _ path args opts)

end Request

section Runs

variable [Monad m]

/-- A session through the facade: the requests made one after the other from the root `r`. -/
def session (r : RootAdapter A m) : List (Request A) → m (List (Reply A))
  | [] => pure []
  | req :: reqs => do
    let reply ← req.send r
    let replies ← session r reqs
    pure (reply :: replies)

/-- A session made directly on a legacy client, one call after the other. -/
def legacySession (L : LegacyClient A m) : List (LegacyCall A) → m (List (Reply A))
  | [] => pure []
  | c :: calls => do
    let reply ← c.send L
    let replies ← legacySession L calls
    pure (reply :: replies)

/-- In every monad, a session through the facade is the legacy session of its requests' calls. -/
theorem session_asV2 (L : LegacyClient A m) (reqs : List (Request A)) :
    session (asV2 L) reqs = legacySession L (reqs.map Request.call) := by
  induction reqs with
  | nil => rfl
  | cons req reqs ih => simp only [session, legacySession, req.send_asV2, ih, List.map_cons]

theorem LegacyCall.run_send_traced [LawfulMonad m] (L : LegacyClient A m) (c : LegacyCall A)
    (log : List (LegacyCall A)) :
    (c.send L.traced).run log = (·, log ++ [c]) <$> c.send L := by
  simp only [LegacyCall.send, StateT.run_map, L.run_traced, Functor.map_map]

/-- A legacy session on a traced client logs its calls, in order, and returns their results. -/
theorem run_legacySession_traced [LawfulMonad m] (L : LegacyClient A m)
    (calls : List (LegacyCall A)) (log : List (LegacyCall A)) :
    (legacySession L.traced calls).run log = (·, log ++ calls) <$> legacySession L calls := by
  induction calls generalizing log with
  | nil => simp [legacySession]
  | cons c calls ih =>
    simp only [legacySession, StateT.run_bind, c.run_send_traced, bind_map_left, ih,
      StateT.run_pure, map_bind, map_pure, List.append_assoc, List.singleton_append]

/-- **Whole runs.** A session through the facade on a traced legacy client logs exactly the legacy
calls of its requests, in order, and returns the results of the legacy session of those calls. -/
theorem run_session_traced [LawfulMonad m] (L : LegacyClient A m) (reqs : List (Request A))
    (log : List (LegacyCall A)) :
    (session (asV2 L.traced) reqs).run log =
      (·, log ++ reqs.map Request.call) <$> legacySession L (reqs.map Request.call) := by
  rw [session_asV2, run_legacySession_traced]

/-- A legacy client of the closed instance on which every call succeeds, with unit values. -/
def LegacyClient.succeeding : LegacyClient Api.unit Id := fun meth _ _ =>
  match meth with
  | .getLoadBalancer | .listLoadBalancers | .createLoadBalancer | .deleteLoadBalancer
  | .listLoadBalancerPrefixes | .createLoadBalancerPrefix | .deleteLoadBalancerPrefix
  | .listLoadBalancerTargets | .createLoadBalancerTarget | .deleteLoadBalancerTarget
  | .getInterface | .listInterfaces | .createInterface | .deleteInterface
  | .getVirtualIP | .createVirtualIP | .deleteVirtualIP
  | .listPrefixes | .createPrefix | .deletePrefix
  | .listRoutes | .createRoute | .deleteRoute
  | .getNat | .createNat | .deleteNat | .listNats | .listLocalNats | .listNeighborNats
  | .createNeighborNat | .deleteNeighborNat
  | .listFirewallRules | .getFirewallRule | .createFirewallRule | .deleteFirewallRule
  | .checkInitialized | .initialize' | .getVni | .resetVni | .getVersion
  | .captureStart | .captureStop | .captureStatus => ((), ())

/-- Two requests on the traced succeeding client: `NATs().Get` with `WithIgnoredCodes(1001)`,
then `Routes().List` of VNI 42 with a nil option. The session logs `GetNat` with the group
`[1001]`, then `ListRoutes` with no group, and returns both results in order. -/
theorem run_session_traced_natGet_routeList :
    (session (asV2 LegacyClient.succeeding.traced)
        [⟨.cons .nats .nil, .natGet, ((), "iface-1"), [withIgnoredCodes [1001]]⟩,
          ⟨.cons .routes .nil, .routeList, ((), 42), [none]⟩]).run [] =
      ([⟨.getNat, ((), ())⟩, ⟨.listRoutes, ((), ())⟩],
        [⟨.getNat, ((), "iface-1"), [[1001]]⟩, ⟨.listRoutes, ((), 42), []⟩]) :=
  (run_session_traced _ _ _).trans rfl

end Runs

end ClientV2
