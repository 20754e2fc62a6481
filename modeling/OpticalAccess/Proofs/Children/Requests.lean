import OpticalAccess.Proofs.Provisioning

/-!
# Registries that are provisioned bit by bit

A child may be provisioned at any time and for any port. A request that is refused changes nothing:
so the first request for a port settles what is behind it, and none does so for the uplink.
-/

namespace OpticalAccess.Registry

/-- A registry after a request to provision a child, which may have been refused. -/
def request (r : Registry) (child : Child) : Registry :=
  match r.provision child with
  | .ok next => next
  | .error _ => r

/-- The registry after some requests, the first of which found it empty. -/
def requested (requests : List Child) : Registry := requests.foldl request empty

/-- What requests put behind a port. -/
def granted (requests : List Child) (port : Int32) : Option Location :=
  if port = uplinkPort then none
  else (requests.find? fun child => child.uniPort = port).map Child.location

theorem granted_uplink (requests : List Child) : granted requests uplinkPort = none := rfl

theorem granted_cons (child : Child) (rest : List Child) (port : Int32) :
    granted (child :: rest) port = (granted [child] port).or (granted rest port) := by
  unfold granted
  by_cases uplink : port = uplinkPort
  · simp only [uplink, ↓reduceIte, Option.or_none]
  · by_cases same : child.uniPort = port <;> simp [uplink, same]

theorem granted_other {child : Child} {port : Int32} (other : child.uniPort ≠ port) :
    granted [child] port = none := by
  simp [granted, other]

/-- A request adds its child if its port is neither the uplink nor provisioned. -/
theorem find?_request (r : Registry) (child : Child) (port : Int32) :
    (r.request child).find? port = (r.find? port).or (granted [child] port) := by
  have provisioned := r.provision_provisioned child
  unfold request
  generalize r.provision child = outcome at provisioned
  cases provisioned with
  | uplink same =>
    have nothing : granted [child] port = none := by
      by_cases here : child.uniPort = port
      · rw [← here, same, granted_uplink]
      · exact granted_other here
    rw [nothing, Option.or_none]
  | taken apart member =>
    by_cases here : child.uniPort = port
    · obtain ⟨earlier, listed, same⟩ := List.mem_map.mp member
      obtain ⟨location, found⟩ := find?_of_mem listed
      rw [← here, ← same, found, Option.some_or]
    · rw [granted_other here, Option.or_none]
  | added apart free next grown =>
    have alone : granted [child] port =
        ([child].find? fun c => c.uniPort = port).map Child.location := by
      unfold granted
      split
      · rename_i uplink
        have other : child.uniPort ≠ port := uplink ▸ apart
        simp [other]
      · rfl
    rw [alone, find?, find?, grown, List.find?_append, Option.map_or]

/-- The first request for a port settles what is behind it. -/
theorem find?_requests (r : Registry) (requests : List Child) (port : Int32) :
    (requests.foldl request r).find? port = (r.find? port).or (granted requests port) := by
  induction requests generalizing r with
  | nil => simp [granted]
  | cons child rest ih =>
    rw [List.foldl_cons, ih, find?_request, granted_cons child rest, Option.or_assoc]

theorem find?_requested (requests : List Child) (port : Int32) :
    (requested requests).find? port = granted requests port :=
  find?_requests empty requests port

end OpticalAccess.Registry
