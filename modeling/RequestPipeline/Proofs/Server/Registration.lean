import RequestPipeline.Proofs.Server.Precedence
import RequestPipeline.Proofs.Server.Routing
import RequestPipeline.Server.Plan

/-!
# The routes of a plan

A plan lists its registrations in the order in which they were asked for.  Some have a limit of their own, and the
others get the limit of the server.  The router is told of the latter first (`router_eq`), so for a method and a path the
last registration with a limit of its own counts, and the last one of all only if there is none with such a limit
(`lookup_router`).

`own_limit_first`: **the last registration counts exactly when it has a limit of its own or no registration there has
one.**
-/

namespace RequestPipeline

open Socket (Gateway)

/-- whether a registration is for a method and a path -/
def Registration.Serves (reg : Registration) (method path : String) : Prop :=
  reg.method = method ∧ Router.normalize reg.path = path

instance (reg : Registration) (method path : String) : Decidable (reg.Serves method path) :=
  inferInstanceAs (Decidable (_ ∧ _))

namespace ServerPlan

/-! ## what the router is told -/

section
variable (p : ServerPlan)

/-- the endpoint of a registration, with its own limit or that of the server -/
def serve (reg : Registration) : HttpEndpoint := ⟨reg.endpoint, reg.maxBody.getD p.options.maxBody⟩

/-- what a router is told of a registration -/
def call (reg : Registration) : Router.Call := .route reg.method reg.path (p.serve reg)

/-- what the router of a plan is told, in order -/
def calls : List Router.Call :=
  (p.routes.filter fun reg => reg.maxBody.isNone).map p.call ++
    ((p.routes.filter fun reg => reg.maxBody.isSome).map p.call ++
      p.gateways.map fun (path, events) => .webSocket path (.ofEvents events (p.factory.getD .default)))

/-- the registrations for a method and a path, in the order in which they were asked for -/
def registered (method path : String) : List Registration := p.routes.filter fun reg => reg.Serves method path

/-- the registration that counts: the last one with a limit of its own, or else the last one -/
def taken? (method path : String) : Option Registration :=
  ((p.registered method path).filter fun reg => reg.maxBody.isSome).getLast?.or (p.registered method path).getLast?

theorem router_eq : p.router = Router.ofCalls p.calls := by
  unfold router Router.ofCalls calls
  rw [List.foldl_append, List.foldl_append, List.foldl_map, List.foldl_map, List.foldl_map]
  rfl

theorem endpointsAt_map_call (method path : String) (regs : List Registration) :
    Router.endpointsAt method path (regs.map p.call) = (regs.filter fun reg => reg.Serves method path).map p.serve := by
  unfold Router.endpointsAt
  rw [List.filterMap_map]
  induction regs with
  | nil => rfl
  | cons reg regs ih =>
    by_cases h : reg.Serves method path
    · rw [List.filter_cons_of_pos (by simpa using h), List.map_cons, ← ih]
      exact List.filterMap_cons_some (if_pos h)
    · rw [List.filter_cons_of_neg (by simpa using h), ← ih]
      exact List.filterMap_cons_none (if_neg h)

/-- the registrations for a method and a path, those with the limit of the server first -/
theorem endpointsAt_calls (method path : String) : Router.endpointsAt method path p.calls
    = ((p.registered method path).filter fun reg => reg.maxBody.isNone).map p.serve ++
        ((p.registered method path).filter fun reg => reg.maxBody.isSome).map p.serve := by
  have gateways : Router.endpointsAt method path (p.gateways.map fun (path, events) =>
      .webSocket path (.ofEvents events (p.factory.getD .default))) = [] := by
    unfold Router.endpointsAt
    rw [List.filterMap_map]
    exact List.filterMap_eq_nil_iff.mpr fun _ _ => rfl
  unfold calls registered
  rw [Router.endpointsAt_append, Router.endpointsAt_append, endpointsAt_map_call, endpointsAt_map_call, gateways,
    List.append_nil, List.filter_comm,
    List.filter_comm fun reg : Registration => reg.maxBody.isSome]

end

/-! ## which registration counts -/

/-- what is last among those with a property and then among the others is last among those with it, or last -/
theorem getLast?_filter_or {α : Type} {own others : α → Bool} (cover : ∀ a, own a = true ∨ others a = true)
    (l : List α) :
    (l.filter own).getLast?.or (l.filter others).getLast? = (l.filter own).getLast?.or l.getLast? := by
  by_cases h : l.filter own = []
  · have hl : l.filter others = l := by
      rw [List.filter_eq_self]
      exact fun a ha => (cover a).resolve_left (List.filter_eq_nil_iff.mp h a ha)
    rw [hl]
  · rw [List.getLast?_eq_some_getLast h]
    rfl

theorem getLast?_filter_of_getLast? {α : Type} {own : α → Bool} {l : List α} {a : α} (h : l.getLast? = some a)
    (ha : own a = true) : (l.filter own).getLast? = some a := by
  obtain ⟨before, rfl⟩ := List.getLast?_eq_some_iff.mp h
  rw [List.filter_append, List.filter_cons_of_pos ha]
  exact List.getLast?_concat

section
variable (p : ServerPlan) (method path : String)

/-- **For a method and a path the router has the registration that counts.** -/
theorem lookup_router : p.router.endpoints.lookup (method, path) = (p.taken? method path).map p.serve := by
  have cover : ∀ reg : Registration, reg.maxBody.isSome = true ∨ reg.maxBody.isNone = true := fun reg => by
    cases reg.maxBody <;> simp
  unfold taken?
  rw [router_eq, Router.lookup_endpoints, endpointsAt_calls, List.getLast?_append, List.getLast?_map,
    List.getLast?_map, ← getLast?_filter_or cover, Option.map_or]

theorem taken?_eq_none_iff : p.taken? method path = none ↔ p.registered method path = [] := by
  unfold taken?
  rw [Option.or_eq_none_iff, List.getLast?_eq_none_iff, List.getLast?_eq_none_iff]
  exact and_iff_right_of_imp fun h => by rw [h]; rfl

/-- the last registration counts if it has a limit of its own, or none there has one -/
theorem taken?_eq_getLast?_iff : p.taken? method path = (p.registered method path).getLast? ↔
    (∃ reg, (p.registered method path).getLast? = some reg ∧ reg.maxBody.isSome = true) ∨
      ∀ reg ∈ p.registered method path, reg.maxBody = none := by
  unfold taken?
  generalize p.registered method path = regs
  by_cases h : (regs.filter fun reg => reg.maxBody.isSome) = []
  · rw [h]
    refine iff_of_true rfl (.inr fun reg hr => ?_)
    simpa using List.filter_eq_nil_iff.mp h reg hr
  · have hlast := List.getLast?_eq_some_getLast h
    have hmem := List.mem_filter.mp (List.getLast_mem h)
    rw [hlast, Option.some_or]
    constructor
    · intro heq
      exact .inl ⟨_, heq.symm, hmem.2⟩
    · rintro (⟨reg, hr, hown⟩ | hnone)
      · rw [← hlast, hr, getLast?_filter_of_getLast? hr hown]
      · have hown : (none : Option Nat).isSome = true := hnone _ hmem.1 ▸ hmem.2
        exact absurd hown Bool.false_ne_true

end

/-! ## what a request gets -/

/-- what becomes of a request in the server of a plan, by the registrations for its method and path -/
structure Routes (p : ServerPlan) (r : IncomingRequest) (fresh : CorrelationId) (uptime : Nat) : Prop where
  /-- it goes to the registration that counts -/
  served : p.build.handle r fresh uptime
    = p.build.serveHttp ((p.taken? r.method r.target.path).map p.serve) r fresh
  /-- that is the last one, unless it has the limit of the server and one before it has a limit of its own -/
  last_iff : p.taken? r.method r.target.path = (p.registered r.method r.target.path).getLast? ↔
    (∃ reg, (p.registered r.method r.target.path).getLast? = some reg ∧ reg.maxBody.isSome = true) ∨
      ∀ reg ∈ p.registered r.method r.target.path, reg.maxBody = none
  /-- once the caller is known and the body is read, the response is what its endpoint gives in time -/
  answered : ∀ reg caller, p.taken? r.method r.target.path = some reg → p.build.caller r fresh = .ok caller →
    p.build.unread? r = none → (p.build.handle r fresh uptime).observed
      = (p.build.handleInTime (p.serve reg) (p.build.contextOf r fresh caller) (p.build.requestId r fresh)
          (p.build.correlated r fresh)).observed.map id (p.build.echo r fresh)
  /-- and without a registration it says that there is no route -/
  missing : ∀ caller, p.registered r.method r.target.path = [] → p.build.caller r fresh = .ok caller →
    p.build.unread? r = none → (p.build.handle r fresh uptime).observed
      = ([], p.build.report r fresh (Server.noRoute (p.build.correlated r fresh))) ∧
    (p.build.handle r fresh uptime).value.status = 404

/-- **The last registration for a method and a path counts exactly when it has a limit of its own or no registration there
has one**, and otherwise the last one that has a limit of its own; a request without a registration finds no route. -/
theorem own_limit_first (p : ServerPlan) {r : IncomingRequest} (plain : r.isUpgrade = false)
    (other : ¬ p.build.Shows r) (fresh : CorrelationId) (uptime : Nat) : p.Routes r fresh uptime := by
  have stays : ¬ p.build.Upgrades r := fun h => absurd (plain.symm.trans h.2.1) Bool.false_ne_true
  have served : p.build.handle r fresh uptime
      = p.build.serveHttp ((p.taken? r.method r.target.path).map p.serve) r fresh := by
    rw [Server.handle_of_pipeline other stays]
    exact congrArg (p.build.serveHttp · r fresh) (p.lookup_router _ _)
  constructor
  case served => exact served
  case last_iff => exact p.taken?_eq_getLast?_iff _ _
  case answered =>
    intro reg caller taken identified read
    rw [served, taken]
    exact Server.observed_serveHttp_of_routed identified read (p.serve reg)
  case missing =>
    intro caller none identified read
    have observed : (p.build.handle r fresh uptime).observed
        = ([], p.build.report r fresh (Server.noRoute (p.build.correlated r fresh))) := by
      rw [served, (p.taken?_eq_none_iff _ _).mpr none]
      exact Server.observed_serveHttp_of_unrouted identified read
    refine ⟨observed, ?_⟩
    rw [show (p.build.handle r fresh uptime).value = _ from congrArg Prod.snd observed]
    rfl

/-- rooms behind a limit of their own, and then, for the same method and path, who asks -/
def rooms : ServerPlan :=
  { ServerPlan.default with
    routes := [⟨"GET", "/rooms", Samples.rooms.endpoint, some 100⟩, ⟨"GET", "rooms", Samples.whoami.endpoint, none⟩] }

/-- a request for the rooms -/
def roomsRequest : IncomingRequest := ⟨"GET", ⟨"/rooms", none⟩, [], [], .complete⟩

theorem registered_rooms : rooms.registered "GET" "/rooms" = rooms.routes := by
  have slash : Router.normalize "/rooms" = "/rooms" := by decide +kernel
  have noSlash : Router.normalize "rooms" = "/rooms" := by decide +kernel
  exact List.filter_eq_self.mpr (List.forall_mem_cons.mpr
    ⟨decide_eq_true ⟨rfl, slash⟩, List.forall_mem_singleton.mpr (decide_eq_true ⟨rfl, noSlash⟩)⟩)

theorem taken?_rooms : rooms.taken? "GET" "/rooms" = some ⟨"GET", "/rooms", Samples.rooms.endpoint, some 100⟩ := by
  unfold taken?
  rw [registered_rooms]
  rfl

theorem own_limit_first_rooms : roomsRequest.isUpgrade = false ∧ ¬ rooms.build.Shows roomsRequest ∧
    rooms.build.handle roomsRequest ⟨7⟩ 0
      = rooms.build.serveHttp (some ⟨Samples.rooms.endpoint, 100⟩) roomsRequest ⟨7⟩ := by
  have plain : roomsRequest.isUpgrade = false := rfl
  have other : ¬ rooms.build.Shows roomsRequest := by decide
  have taken : rooms.taken? roomsRequest.method roomsRequest.target.path
      = some ⟨"GET", "/rooms", Samples.rooms.endpoint, some 100⟩ := taken?_rooms
  have served := (own_limit_first rooms plain other ⟨7⟩ 0).served
  rw [taken] at served
  exact ⟨plain, other, served⟩

/-- the last registration asks for a known caller, and the request gets the rooms -/
theorem last_passed_over :
    (rooms.registered "GET" "/rooms").getLast? = some ⟨"GET", "rooms", Samples.whoami.endpoint, none⟩ ∧
    (rooms.build.serveHttp (some ⟨Samples.whoami.endpoint, rooms.options.maxBody⟩) roomsRequest ⟨7⟩).value.status = 401 ∧
    (rooms.build.handle roomsRequest ⟨7⟩ 0).value.status = 200 := by
  have other : ¬ rooms.build.Shows roomsRequest := by decide
  have stays : ¬ rooms.build.Upgrades roomsRequest := fun h => absurd h.2.1 Bool.false_ne_true
  have routed : rooms.build.router.endpoints.lookup ("GET", "/rooms") = some ⟨Samples.rooms.endpoint, 100⟩ :=
    (rooms.lookup_router "GET" "/rooms").trans (congrArg (Option.map rooms.serve) taken?_rooms)
  have handled : rooms.build.handle roomsRequest ⟨7⟩ 0
      = rooms.build.serveHttp (some ⟨Samples.rooms.endpoint, 100⟩) roomsRequest ⟨7⟩ :=
    (Server.handle_of_pipeline other stays ⟨7⟩ 0).trans
      (congrArg (rooms.build.serveHttp · roomsRequest ⟨7⟩) routed)
  refine ⟨by rw [registered_rooms]; rfl, rfl, ?_⟩
  rw [handled]
  rfl

end ServerPlan

end RequestPipeline
