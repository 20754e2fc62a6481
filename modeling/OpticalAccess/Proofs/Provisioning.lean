import OpticalAccess.Config.Reader
import OpticalAccess.Proofs.Lookup

/-!
# What provisioning accepts

A list of children is provisioned if its ports differ from one another and none of them is the
uplink port. No other port is refused. The check of a configuration refuses the same lists, at the
same child and for the same reason.
-/

namespace OpticalAccess

namespace Registry

/-- What becomes of a child that is to be provisioned. -/
inductive Provisioned (r : Registry) (child : Child) : Except Error Registry → Prop where
  | uplink (same : child.uniPort = uplinkPort) : Provisioned r child (.error .uplinkPort)
  | taken (apart : child.uniPort ≠ uplinkPort) (member : child.uniPort ∈ r.ports) :
      Provisioned r child (.error (.duplicatePort child.uniPort))
  | added (apart : child.uniPort ≠ uplinkPort) (free : child.uniPort ∉ r.ports) (next : Registry)
      (grown : next.children = r.children ++ [child]) : Provisioned r child (.ok next)

theorem provision_provisioned (r : Registry) (child : Child) :
    Provisioned r child (r.provision child) := by
  unfold provision
  split
  · rename_i same
    exact .uplink same
  · rename_i apart
    split
    · rename_i member
      exact .taken apart member
    · rename_i free
      exact .added apart free _ rfl

theorem find?_declared {r : Registry} {child : Child} (member : child ∈ r.children) :
    r.find? child.uniPort = some child.location := by
  rw [find?, find?_of_nodup_map r.nodup member]
  rfl

theorem find?_of_mem {r : Registry} {child : Child} (member : child ∈ r.children) :
    ∃ location, r.find? child.uniPort = some location := ⟨_, find?_declared member⟩

theorem find?_eq_none_iff {r : Registry} {port : Int32} : r.find? port = none ↔ port ∉ r.ports := by
  simp [find?, ports]

end Registry

namespace Config

/-- A child that is refused behind others, with the words of both checks for the one reason. -/
inductive Refused (before : List Child) (child : Child) : Invalid → Registry.Error → Prop where
  | uplink (same : child.uniPort = uplinkPort) :
      Refused before child (.reservedPort child.location) .uplinkPort
  | taken (apart : child.uniPort ≠ uplinkPort) (member : child.uniPort ∈ before.map Child.uniPort) :
      Refused before child (.duplicatePort child.uniPort) (.duplicatePort child.uniPort)

/--
What checking a list of children and provisioning it say: both take all of it, or both stop at the
first child that is refused.
-/
inductive Agreed (children : List Child) :
    Except Invalid Unit → Except Registry.Error Registry → Prop where
  | accepted (registry : Registry) (same : registry.children = children) :
      Agreed children (.ok ()) (.ok registry)
  | refused (before after : List Child) (child : Child)
      (split : children = before ++ child :: after) (reason : Invalid) (error : Registry.Error)
      (refused : Refused before child reason error)
      -- Nothing before that child is refused.
      (fit : (before.map Child.uniPort).Nodup) (free : uplinkPort ∉ before.map Child.uniPort) :
      Agreed children (.error reason) (.error error)

/-- Behind children that both checks have taken, they go on alike. -/
theorem agreed_behind {r : Registry} {seen : List Int32} (rest : List Child)
    (same : ∀ port, port ∈ seen ↔ port ∈ r.ports) :
    Agreed (r.children ++ rest) (checkChildren seen rest) (rest.foldlM Registry.provision r) := by
  induction rest generalizing r seen with
  | nil => exact .accepted r (List.append_nil _).symm
  | cons child rest ih =>
    rw [List.foldlM_cons]
    have provisioned := r.provision_provisioned child
    generalize r.provision child = outcome at provisioned
    cases provisioned with
    | uplink uplink =>
      rw [checkChildren, if_pos uplink]
      exact .refused _ _ child rfl _ _ (.uplink uplink) r.nodup r.uplink_free
    | taken apart member =>
      rw [checkChildren, if_neg apart, if_pos ((same _).mpr member)]
      exact .refused _ _ child rfl _ _ (.taken apart member) r.nodup r.uplink_free
    | added apart free next grown =>
      rw [checkChildren, if_neg apart, if_neg (mt (same _).mp free)]
      have same' : ∀ port, port ∈ child.uniPort :: seen ↔ port ∈ next.ports := by
        simp [Registry.ports, grown, or_comm, same]
      have agreed := ih same'
      rwa [grown, List.append_assoc, List.singleton_append] at agreed

theorem checkChildren_agreed (children : List Child) :
    Agreed children (checkChildren [] children) (Registry.ofChildren children) :=
  agreed_behind (r := .empty) children fun _ => Iff.rfl

theorem check_children {c : Config} (checked : c.check = .ok ()) :
    checkChildren [] c.children = .ok () := by
  cases outcome : checkChildren [] c.children with
  | ok => rfl
  | error reason =>
    unfold check at checked
    rw [outcome] at checked
    by_cases leaf : c.device.role = .subscriber ∧ c.children ≠ []
    · rw [if_pos leaf] at checked
      cases checked
    · rw [if_neg leaf] at checked
      cases checked

/-- The children of a configuration that passes the check can be provisioned, all of them. -/
theorem check_provisions {c : Config} (checked : c.check = .ok ()) :
    ∃ registry, Registry.ofChildren c.children = .ok registry ∧ registry.children = c.children := by
  have agreed := checkChildren_agreed c.children
  rw [check_children checked] at agreed
  generalize Registry.ofChildren c.children = outcome at agreed
  obtain ⟨registry, same⟩ := agreed
  exact ⟨registry, rfl, same⟩

end Config

namespace Registry

theorem ofChildren_children {r : Registry} {children : List Child}
    (provisioned : ofChildren children = .ok r) : r.children = children := by
  have agreed := Config.checkChildren_agreed children
  rw [provisioned] at agreed
  generalize Config.checkChildren [] children = verdict at agreed
  cases agreed with
  | accepted _ same => exact same

end Registry
end OpticalAccess
