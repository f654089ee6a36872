import Mathlib.Data.Finset.Card
import RequestPipeline.Proofs.Keyed
import RequestPipeline.Server.Router

/-!
# A router and its history

A router is made by calls, one after the other, each of which registers an endpoint or a gateway
(`Router.ofCalls`).  A registration replaces what its key had and leaves the other keys alone (`lookup_assign`), so
that after any number of them

* `lookup_assignAll`   a key leads to the last value that it got;
* `length_assignAll`   there are as many entries as there are different keys.

`reflects_history`: **what a router answers is read off the calls that made it.**
-/

namespace RequestPipeline.Router

open Socket (Gateway)

/-! ## assignments -/

section
variable {κ α : Type} [BEq κ]

theorem keys_assign (key : κ) (value : α) (entries : List (κ × α)) :
    (assign key value entries).map Prod.fst = (entries.map Prod.fst).filter (· != key) ++ [key] := by
  unfold assign
  rw [List.map_append, List.filter_map]
  rfl

/-- gives keys values, one after the other -/
def assignAll (news entries : List (κ × α)) : List (κ × α) :=
  news.foldl (fun made e => assign e.1 e.2 made) entries

/-- the values that a key gets, in order -/
def valuesAt (key : κ) (news : List (κ × α)) : List α := (news.filter fun e => e.1 == key).map Prod.snd

variable [LawfulBEq κ]

theorem lookup_assign (key k : κ) (value : α) (entries : List (κ × α)) :
    (assign key value entries).lookup k = if k == key then some value else entries.lookup k := by
  unfold assign
  rw [List.lookup_append, Keyed.lookup_filter_ne, List.lookup_cons, List.lookup_nil]
  cases k == key with
  | true => rfl
  | false => exact Option.or_none

/-- a key leads to the last value that it got, and to what it led to before if it got none -/
theorem lookup_assignAll (news entries : List (κ × α)) (k : κ) :
    (assignAll news entries).lookup k = (valuesAt k news).getLast?.or (entries.lookup k) := by
  induction news generalizing entries with
  | nil => rfl
  | cons e news ih =>
    show (assignAll news (assign e.1 e.2 entries)).lookup k = _
    rw [ih, lookup_assign]
    by_cases hk : e.1 = k
    · have hv : valuesAt k (e :: news) = e.2 :: valuesAt k news := by simp [valuesAt, hk]
      rw [hv, hk, beq_self_eq_true, if_pos rfl, List.getLast?_cons]
      cases (valuesAt k news).getLast? <;> rfl
    · have hv : valuesAt k (e :: news) = valuesAt k news := by simp [valuesAt, hk]
      rw [hv, beq_eq_false_iff_ne.mpr (Ne.symm hk), if_neg Bool.false_ne_true]

theorem mem_keys_assign {key k : κ} {value : α} {entries : List (κ × α)} :
    k ∈ (assign key value entries).map Prod.fst ↔ k = key ∨ k ∈ entries.map Prod.fst := by
  rw [keys_assign, List.mem_append, List.mem_singleton, List.mem_filter, or_comm]
  by_cases h : k = key <;> simp [h]

theorem nodup_keys_assign {entries : List (κ × α)} (nodup : (entries.map Prod.fst).Nodup) (key : κ) (value : α) :
    ((assign key value entries).map Prod.fst).Nodup := by
  rw [keys_assign, List.nodup_append]
  refine ⟨nodup.filter _, List.nodup_singleton key, fun k hk k' hk' => ?_⟩
  rw [List.mem_singleton.mp hk']
  simpa using (List.mem_filter.mp hk).2

theorem mem_keys_assignAll {news entries : List (κ × α)} {k : κ} :
    k ∈ (assignAll news entries).map Prod.fst ↔ k ∈ news.map Prod.fst ∨ k ∈ entries.map Prod.fst := by
  induction news generalizing entries with
  | nil => exact (or_iff_right List.not_mem_nil).symm
  | cons e news ih =>
    show k ∈ (assignAll news (assign e.1 e.2 entries)).map Prod.fst ↔ _
    rw [ih, mem_keys_assign, List.map_cons, List.mem_cons, or_left_comm, or_assoc]

theorem nodup_keys_assignAll (news : List (κ × α)) {entries : List (κ × α)} (nodup : (entries.map Prod.fst).Nodup) :
    ((assignAll news entries).map Prod.fst).Nodup := by
  induction news generalizing entries with
  | nil => exact nodup
  | cons e news ih => exact ih (nodup_keys_assign nodup e.1 e.2)

/-- each key has one entry -/
theorem length_assignAll [DecidableEq κ] (news : List (κ × α)) :
    (assignAll news []).length = (news.map Prod.fst).toFinset.card := by
  have hset : ((assignAll news []).map Prod.fst).toFinset = (news.map Prod.fst).toFinset := by
    ext k
    rw [List.mem_toFinset, List.mem_toFinset, mem_keys_assignAll]
    exact or_iff_left List.not_mem_nil
  have hnodup : ((assignAll news []).map Prod.fst).Nodup := nodup_keys_assignAll news List.nodup_nil
  rw [← List.length_map Prod.fst, ← List.toFinset_card_of_nodup hnodup, hset]

end

/-! ## histories -/

/-- what is registered with a router -/
inductive Call where
  | route (method path : String) (e : HttpEndpoint)
  | webSocket (path : String) (g : Gateway)

namespace Call

/-- the method and the path that a call registers an endpoint for -/
def endpoint? : Call → Option ((String × String) × HttpEndpoint)
  | .route method path e => some ((method, normalize path), e)
  | .webSocket _ _ => none

/-- the path that a call registers a gateway for -/
def gateway? : Call → Option (String × Gateway)
  | .route _ _ _ => none
  | .webSocket path g => some (normalize path, g)

end Call

/-- a router after one more call -/
def tell (r : Router) : Call → Router
  | .route method path e => r.addRoute method path e
  | .webSocket path g => r.addGateway path g

/-- the router that calls make, in order -/
def ofCalls (calls : List Call) : Router := calls.foldl tell .empty

theorem tell_route (r : Router) (method path : String) (e : HttpEndpoint) :
    r.tell (.route method path e) = r.addRoute method path e := rfl

theorem tell_webSocket (r : Router) (path : String) (g : Gateway) :
    r.tell (.webSocket path g) = r.addGateway path g := rfl

theorem tell_ofCalls (calls : List Call) (c : Call) : (ofCalls calls).tell c = ofCalls (calls ++ [c]) := by
  unfold ofCalls
  rw [List.foldl_append]
  rfl

/-- the endpoints that calls register for a method and a path, in order -/
def endpointsAt (method path : String) (calls : List Call) : List HttpEndpoint :=
  calls.filterMap fun
    | .route m p e => if m = method ∧ normalize p = path then some e else none
    | .webSocket _ _ => none

/-- the gateways that calls register for a path, in order -/
def gatewaysAt (path : String) (calls : List Call) : List Gateway :=
  calls.filterMap fun
    | .route _ _ _ => none
    | .webSocket p g => if normalize p = path then some g else none

theorem endpointsAt_append (method path : String) (calls more : List Call) :
    endpointsAt method path (calls ++ more) = endpointsAt method path calls ++ endpointsAt method path more :=
  List.filterMap_append

theorem gatewaysAt_append (path : String) (calls more : List Call) :
    gatewaysAt path (calls ++ more) = gatewaysAt path calls ++ gatewaysAt path more :=
  List.filterMap_append

theorem endpoints_foldl_tell (calls : List Call) (r : Router) :
    (calls.foldl tell r).endpoints = assignAll (calls.filterMap Call.endpoint?) r.endpoints := by
  induction calls generalizing r with
  | nil => rfl
  | cons c calls ih =>
    rw [List.foldl_cons, ih]
    cases c <;> rfl

theorem gateways_foldl_tell (calls : List Call) (r : Router) :
    (calls.foldl tell r).gateways = assignAll (calls.filterMap Call.gateway?) r.gateways := by
  induction calls generalizing r with
  | nil => rfl
  | cons c calls ih =>
    rw [List.foldl_cons, ih]
    cases c <;> rfl

theorem valuesAt_endpoint? (method path : String) (calls : List Call) :
    valuesAt (method, path) (calls.filterMap Call.endpoint?) = endpointsAt method path calls := by
  unfold valuesAt endpointsAt
  rw [List.filter_filterMap, List.map_filterMap]
  refine List.filterMap_congr fun c _ => ?_
  cases c with
  | route m p e => by_cases h : m = method ∧ normalize p = path <;> simp [Call.endpoint?, h]
  | webSocket p g => rfl

theorem valuesAt_gateway? (path : String) (calls : List Call) :
    valuesAt path (calls.filterMap Call.gateway?) = gatewaysAt path calls := by
  unfold valuesAt gatewaysAt
  rw [List.filter_filterMap, List.map_filterMap]
  refine List.filterMap_congr fun c _ => ?_
  cases c with
  | route m p e => rfl
  | webSocket p g => by_cases h : normalize p = path <;> simp [Call.gateway?, h]

/-! ## what a router answers -/

section
variable (calls : List Call)

theorem lookup_endpoints (method path : String) :
    (ofCalls calls).endpoints.lookup (method, path) = (endpointsAt method path calls).getLast? := by
  unfold ofCalls
  rw [endpoints_foldl_tell, lookup_assignAll, valuesAt_endpoint?]
  exact Option.or_none

theorem lookup_gateways (path : String) :
    (ofCalls calls).gateways.lookup path = (gatewaysAt path calls).getLast? := by
  unfold ofCalls
  rw [gateways_foldl_tell, lookup_assignAll, valuesAt_gateway?]
  exact Option.or_none

/-- a request that asks for an upgrade where there is a gateway goes to the last one, and any other to the last
endpoint -/
theorem find?_ofCalls (method path : String) (upgrade : Bool) : (ofCalls calls).find? method path upgrade
    = if upgrade = true ∧ method = "GET" ∧ gatewaysAt path calls ≠ [] then
        (gatewaysAt path calls).getLast?.map .webSocket
      else (endpointsAt method path calls).getLast?.map .http := by
  unfold find?
  rw [lookup_endpoints, lookup_gateways]
  by_cases hu : upgrade = true ∧ method = "GET"
  · by_cases hg : gatewaysAt path calls = []
    · rw [if_pos hu, if_neg fun h => h.2.2 hg, hg]
      rfl
    · rw [if_pos hu, if_pos ⟨hu.1, hu.2, hg⟩, List.getLast?_eq_some_getLast hg]
      rfl
  · rw [if_neg hu, if_neg fun h => hu ⟨h.1, h.2.1⟩]

theorem routeCount_ofCalls : (ofCalls calls).routeCount
    = ((calls.filterMap Call.endpoint?).map Prod.fst).toFinset.card
      + ((calls.filterMap Call.gateway?).map Prod.fst).toFinset.card := by
  unfold routeCount ofCalls
  rw [endpoints_foldl_tell, gateways_foldl_tell, ← length_assignAll, ← length_assignAll]
  rfl

end

/-- something is registered under a path if some request finds it there -/
theorem hasPath_iff (r : Router) (path : String) :
    r.hasPath path = true ↔ ∃ method upgrade, r.find? method path upgrade ≠ none := by
  have hkey : (∃ e ∈ r.endpoints, e.1.2 = path) ↔ ∃ method, (r.endpoints.lookup (method, path)).isSome = true := by
    simp only [List.lookup_isSome_iff, beq_iff_eq]
    constructor
    · rintro ⟨e, he, rfl⟩
      exact ⟨e.1.1, e, he, rfl⟩
    · rintro ⟨method, e, he, hk⟩
      exact ⟨e, he, congrArg Prod.snd hk.symm⟩
  have hfind : ∀ method upgrade, r.find? method path upgrade ≠ none ↔
      (upgrade = true ∧ method = "GET") ∧ (r.gateways.lookup path).isSome = true ∨
        (r.endpoints.lookup (method, path)).isSome = true := by
    intro method upgrade
    unfold find?
    by_cases hu : upgrade = true ∧ method = "GET"
    · rw [if_pos hu]
      cases r.gateways.lookup path <;> simp [hu, Option.isSome_iff_ne_none]
    · rw [if_neg hu]
      simp [hu, Option.isSome_iff_ne_none]
  unfold hasPath
  rw [Bool.or_eq_true, List.any_eq_true]
  simp only [beq_iff_eq, hkey, hfind]
  constructor
  · rintro (hg | ⟨method, he⟩)
    · exact ⟨"GET", true, .inl ⟨⟨rfl, rfl⟩, hg⟩⟩
    · exact ⟨method, false, .inr he⟩
  · rintro ⟨method, upgrade, ⟨-, hg⟩ | he⟩
    · exact .inl hg
    · exact .inr ⟨method, he⟩

/-- what a router answers, by the calls that made it -/
structure Reflects (r : Router) (calls : List Call) : Prop where
  /-- a request that asks for an upgrade goes to the last gateway of its path, if there is one -/
  upgraded : ∀ path, gatewaysAt path calls ≠ [] →
    r.find? "GET" path true = (gatewaysAt path calls).getLast?.map .webSocket
  /-- any other goes to the last endpoint of its method and path, if there is one -/
  routed : ∀ method path upgrade, ¬ (upgrade = true ∧ method = "GET" ∧ gatewaysAt path calls ≠ []) →
    r.find? method path upgrade = (endpointsAt method path calls).getLast?.map .http
  /-- one more gateway hides no endpoint from a request that asks for no upgrade -/
  plain : ∀ p g method path, (r.addGateway p g).find? method path false = r.find? method path false
  /-- and one more endpoint hides no gateway from a request that asks for one -/
  upgrading : ∀ m p e path, gatewaysAt path calls ≠ [] →
    (r.addRoute m p e).find? "GET" path true = r.find? "GET" path true
  hasPath : ∀ path, r.hasPath path = true ↔ ∃ method upgrade, r.find? method path upgrade ≠ none
  /-- each pair of a method and a path counts once, and so does each path of a gateway -/
  routeCount : r.routeCount = ((calls.filterMap Call.endpoint?).map Prod.fst).toFinset.card
    + ((calls.filterMap Call.gateway?).map Prod.fst).toFinset.card

/-- **A router reflects its history.** -/
theorem reflects_history (calls : List Call) : (ofCalls calls).Reflects calls := by
  constructor
  case upgraded =>
    intro path hg
    rw [find?_ofCalls, if_pos ⟨rfl, rfl, hg⟩]
  case routed =>
    intro method path upgrade hn
    rw [find?_ofCalls, if_neg hn]
  case plain =>
    intro p g method path
    have hn : ∀ {calls}, ¬ (false = true ∧ method = "GET" ∧ gatewaysAt path calls ≠ []) := fun h => nomatch h.1
    have hsame : endpointsAt method path (calls ++ [.webSocket p g]) = endpointsAt method path calls :=
      (endpointsAt_append ..).trans (List.append_nil _)
    rw [← tell_webSocket, tell_ofCalls, find?_ofCalls, find?_ofCalls, hsame, if_neg hn, if_neg hn]
  case upgrading =>
    intro m p e path hg
    have hsame : gatewaysAt path (calls ++ [.route m p e]) = gatewaysAt path calls :=
      (gatewaysAt_append ..).trans (List.append_nil _)
    rw [← tell_route, tell_ofCalls, find?_ofCalls, find?_ofCalls, hsame, if_pos ⟨rfl, rfl, hg⟩, if_pos ⟨rfl, rfl, hg⟩]
  case hasPath => exact (ofCalls calls).hasPath_iff
  case routeCount => exact routeCount_ofCalls calls

end RequestPipeline.Router
