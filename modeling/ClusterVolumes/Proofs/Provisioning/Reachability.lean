import ClusterVolumes.NodeVolume.Info
import ClusterVolumes.Proofs.Provisioning.LockKeys

/-!
# Volumes are reachable from the nodes that they are made for

A node reports where it is, by its labels, and a volume is made where a requirement wants it, by the labels of its
entries. The node looks at its labels by `NodeVolume.firstLabel?` and the controller by `Topology.region?` and
`Topology.zone?`, which come to the same (`region?_eq_firstLabel?`). So an entry that a node reported is resolved to
what the node reported (`Reported.resolve`), and a volume that is made for it is told to be reachable from there
(`Reported.reached`), whatever other entries the requirement has.
-/

namespace ClusterVolumes

open Orchestrator
open Service

/-! ## Labels -/

@[simp] theorem NodeVolume.firstLabel?_nil (labels : StringMap) : firstLabel? labels [] = none :=
  rfl

/-- The labels are looked at in turn. -/
@[simp] theorem NodeVolume.firstLabel?_cons (labels : StringMap) (key : String) (keys : List String) :
    firstLabel? labels (key :: keys) = ((Topology.mk labels).get? key <|> firstLabel? labels keys) := by
  unfold firstLabel? Topology.get?
  rw [List.filterMap_cons]
  cases labels.get? key with
  | none => rfl
  | some s => by_cases blank : s.isEmpty <;> simp [blank, Option.filter]

theorem Topology.region?_eq_firstLabel? (t : Topology) :
    t.region? = NodeVolume.firstLabel? t.segments [Label.region, Label.generalRegion] := by
  simp [region?]

theorem Topology.zone?_eq_firstLabel? (t : Topology) :
    t.zone? = NodeVolume.firstLabel? t.segments [Label.zone, Label.generalZone] := by
  simp [zone?]

/-- The zone of an entry is not empty. -/
theorem Topology.zone?_ne {t : Topology} {z : String} (h : t.zone? = some z) : z.isEmpty = false := by
  unfold zone? at h
  cases hown : t.get? Label.zone with
  | some z' =>
    rw [hown] at h
    exact get?_ne (hown.trans h)
  | none =>
    rw [hown] at h
    exact get?_ne h

/-- Region and zone as a map: first the region, then the zone. -/
theorem Label.entries_region_zone (region zone : String) :
    (((∅ : StringMap).insert Label.region region).insert Label.zone zone).entries =
      [(Label.region, region), (Label.zone, zone)] := by
  have later : ¬Label.zone < Label.region ∧ Label.zone ≠ Label.region := by decide
  show TextMap.insertEntry Label.zone zone [(Label.region, region)] = _
  simp [TextMap.insertEntry, later]

/-! ## What a node reports -/

namespace NodeVolume

/-- A node with some labels reports the region and the zone that are read from them. -/
structure Reports (labels told : Topology) (region zone : String) : Prop where
  inRegion : labels.region? = some region
  inZone : labels.zone? = some zone
  entries : told.segments.entries = [(Label.region, region), (Label.zone, zone)]

theorem topologyOf_reports {node : String} {labels : StringMap} {told : Topology}
    (h : topologyOf node labels = .ok told) : ∃ region zone, Reports ⟨labels⟩ told region zone := by
  unfold topologyOf at h
  rw [← (Topology.mk labels).region?_eq_firstLabel?, ← (Topology.mk labels).zone?_eq_firstLabel?] at h
  cases inRegion : (Topology.mk labels).region? with
  | none =>
    rw [inRegion] at h
    cases h
  | some region =>
    cases inZone : (Topology.mk labels).zone? with
    | none =>
      rw [inRegion, inZone] at h
      cases h
    | some zone =>
      rw [inRegion, inZone] at h
      cases h
      exact ⟨region, zone, inRegion, inZone, Label.entries_region_zone region zone⟩

/-- The node is asked for once, and it is there with the labels of what it reports. -/
theorem info_reports (nodeId : String) (past : History) :
    Ensures anyAnswers (fun _ _ => True) (info nodeId)
      (fun told t => ∃ node region zone topology, t = Exchange.orchestrator (.node nodeId) (.ok (some node)) :: past ∧
        told.accessibleTopology = some topology ∧ Reports ⟨node.metadata.labels.getD ∅⟩ topology region zone)
      (fun _ _ => True) past := by
  unfold info
  refine ensures_bind.mpr (ask_orchestrator trivial (fun found => ?_) fun _ => trivial)
  refine ensures_bind.mpr (ensures_require.mpr ⟨?_, fun _ => trivial⟩)
  rintro node rfl
  refine ensures_bind.mpr (ensures_ofExcept.mpr ?_)
  cases placed : topologyOf nodeId (node.metadata.labels.getD ∅) with
  | error f => trivial
  | ok topology =>
    obtain ⟨region, zone, reports⟩ := topologyOf_reports placed
    exact ⟨node, region, zone, topology, rfl, rfl, reports⟩

namespace Reports

variable {labels told : Topology} {region zone : String}

theorem get?_region (h : Reports labels told region zone) : told.get? Label.region = some region := by
  simp [Topology.get?, TextMap.get?, h.entries, Topology.region?_ne h.inRegion]

theorem get?_zone (h : Reports labels told region zone) : told.get? Label.zone = some zone := by
  have other : (Label.zone == Label.region) = false := by decide
  simp [Topology.get?, TextMap.get?, h.entries, List.lookup_cons, other, Topology.zone?_ne h.inZone]

theorem node?_eq_none (h : Reports labels told region zone) : told.node? = none := by
  have other : (Label.node == Label.region) = false ∧ (Label.node == Label.zone) = false := by decide
  simp [Topology.node?, Topology.get?, TextMap.get?, h.entries, List.lookup_cons, other]

/-- A requirement that prefers what a node reported is resolved to that, whatever else it says. -/
theorem resolve (h : Reports labels told region zone) {requirement : TopologyRequirement} {others : List Topology}
    (first : requirement.preferred = told :: others) :
    Placement.resolve requirement = { region := some region, zone := some zone } := by
  have absorbed : Placement.absorb {} told = { region := some region, zone := some zone } := by
    simp [Placement.absorb, Topology.region?, Topology.zone?, h.get?_region, h.get?_zone, h.node?_eq_none]
  unfold Placement.resolve
  rw [first, List.cons_append, Placement.gather, absorbed]
  rfl

end Reports

end NodeVolume

/-! ## What is made for it -/

namespace Provisioning

open Csi

/-- The placement of a plan is that of the requirement. -/
theorem planOf_placement {κ : Type} {fleet : Fleet κ} {request : CreateVolumeRequest} {plan : Plan}
    (h : planOf fleet request = .ok plan) :
    plan.placement = Placement.resolve (request.accessibilityRequirements.getD {}) := by
  simp only [planOf, bind, Except.bind, throw, throwThe, MonadExceptOf.throw, pure, Except.pure] at h
  repeat' split at h
  all_goals cases h
  rfl

theorem entries_reaching (plan : Plan) (name : String) (shared : Bool) {zone : String} (hz : zone.isEmpty = false) :
    (Topology.reaching (handleOf plan name (zoneFor shared zone))).segments.entries =
      if shared then [(Label.region, plan.region)] else [(Label.region, plan.region), (Label.zone, zone)] := by
  cases shared with
  | true => rfl
  | false =>
    have alone : (handleOf plan name zone).isShared = false := hz
    show (Topology.reaching (handleOf plan name zone)).segments.entries = _
    unfold Topology.reaching
    rw [alone]
    exact Label.entries_region_zone plan.region zone

/-- A volume that is wanted on a node is made as the node tells of the storage. -/
theorem createVolume_told {κ : Type} (fleet : Fleet κ) {request : CreateVolumeRequest} {region zone : String}
    (resolved : Placement.resolve (request.accessibilityRequirements.getD {}) =
      { region := some region, zone := some zone }) (hz : zone.isEmpty = false) :
    Ensures anyAnswers (fun _ _ => True) (createVolume fleet request)
      (fun response t => ∃ plan status, planOf fleet request = .ok plan ∧ plan.region = region ∧
        Exchange.cluster region (.storageStatus zone plan.options.storage) (.ok status) ∈ t ∧
        response = responseFor plan (handleOf plan request.name (zoneFor status.shared zone)))
      (fun _ _ => True) [] := by
  unfold createVolume
  refine ensures_bind.mpr (ensures_ofExcept.mpr ?_)
  cases planned : planOf fleet request with
  | error f => trivial
  | ok plan =>
    have landed : plan.placement.landsOn = zone := by
      rw [planOf_placement planned, resolved]
      rfl
    obtain rfl : plan.region = region := by
      have read := (planOf_read planned).2.2.2
      rw [resolved] at read
      exact (Option.some.inj read).symm
    simp only [onOutcome]
    rw [landed, if_neg (by simp [hz])]
    refine ensures_bind.mpr (ensures_pure.mpr (ensures_bind.mpr (ensures_rewording.mpr (ask_cluster trivial ?_
      fun _ => trivial))))
    intro status
    refine Ensures.recalling ?_
    refine ensures_bind.mpr (ensures_ofExcept.mpr ?_)
    cases chosen : zoneOf plan zone status with
    | error f => exact fun _ => trivial
    | ok z =>
      obtain ⟨rfl, -⟩ := zoneOf_eq_ok chosen
      refine ensures_bind.mpr (ensures_trivial.post (fun _ t _ => ?_) fun _ _ _ _ => trivial)
      exact fun grown => ⟨plan, status, rfl, rfl, grown.subset List.mem_cons_self, rfl⟩

/-- A volume is told to be reachable as the node tells of the storage: in the region if all nodes share it, and else in
the zone. So it can be reached from where it was wanted. -/
structure Reached (told : Topology) (region zone : String) (request : CreateVolumeRequest)
    (response : CreateVolumeResponse) (t : History) : Prop where
  byStorage : ∃ options status reached, VolumeOptions.ofMap request.parameters = .ok options ∧
    Exchange.cluster region (.storageStatus zone options.storage) (.ok status) ∈ t ∧
    response.volume.accessibleTopology = [reached] ∧
    reached.segments.entries = if status.shared then [(Label.region, region)] else told.segments.entries
  within : ∀ reached ∈ response.volume.accessibleTopology, reached.segments.entries ⊆ told.segments.entries

theorem createVolume_reached {κ : Type} {fleet : Fleet κ} {request : CreateVolumeRequest} {labels told : Topology}
    {region zone : String} {requirement : TopologyRequirement} {others : List Topology}
    (reports : NodeVolume.Reports labels told region zone) (first : requirement.preferred = told :: others)
    (wanted : request.accessibilityRequirements = some requirement) {response : CreateVolumeResponse} {t : History}
    (run : (createVolume fleet request).RunsTo anyAnswers [] (.ok response) t) :
    Reached told region zone request response t := by
  have named := Topology.zone?_ne reports.inZone
  have resolved : Placement.resolve (request.accessibilityRequirements.getD {}) =
      { region := some region, zone := some zone } := by
    rw [wanted]
    exact reports.resolve first
  obtain ⟨plan, status, planned, rfl, asked, rfl⟩ := (createVolume_told fleet resolved named).runsTo_ok run
  have reaching := entries_reaching plan request.name status.shared named
  refine ⟨⟨plan.options, status, _, (planOf_read planned).1, asked, rfl, ?_⟩, fun reached mem => ?_⟩
  · rw [reaching, reports.entries]
  · obtain rfl := List.mem_singleton.mp mem
    rw [reaching, reports.entries]
    cases status.shared <;> simp

/-- **A volume that is made for a node can be reached from there.** If a node can say where it is, it says the region
and the zone that are read from its labels. A requirement that prefers this to all else is resolved to just that, and
every volume that is made for such a requirement is told to be reachable from there: by the region alone if all nodes
share the storage, and else by what the node said. -/
theorem volumes_are_reachable {nodeId : String} {told : NodeGetInfoResponse} {past t : History}
    (run : (NodeVolume.info nodeId).RunsTo anyAnswers past (.ok told) t) :
    ∃ node region zone topology, t = Exchange.orchestrator (.node nodeId) (.ok (some node)) :: past ∧
      told.accessibleTopology = some topology ∧
      NodeVolume.Reports ⟨node.metadata.labels.getD ∅⟩ topology region zone ∧
      ∀ (requirement : TopologyRequirement) (others : List Topology), requirement.preferred = topology :: others →
        Placement.resolve requirement = { region := some region, zone := some zone } ∧
        ∀ {κ : Type} (fleet : Fleet κ) (request : CreateVolumeRequest) (response : CreateVolumeResponse) (u : History),
          request.accessibilityRequirements = some requirement →
            (createVolume fleet request).RunsTo anyAnswers [] (.ok response) u →
              Reached topology region zone request response u := by
  obtain ⟨node, region, zone, topology, rfl, said, reports⟩ := (NodeVolume.info_reports nodeId past).runsTo_ok run
  refine ⟨node, region, zone, topology, rfl, said, reports, fun requirement others first => ?_⟩
  exact ⟨reports.resolve first, fun fleet request response u wanted run =>
    createVolume_reached reports first wanted run⟩

namespace Labelled

/-- What a node in the second zone says of itself. -/
def topology : Topology :=
  ⟨((∅ : StringMap).insert Label.region "r1").insert Label.zone "z2"⟩

/-- The labels of the node: its region stands under the general label, and the driver's own label is blank. -/
def labels : StringMap :=
  TextMap.ofList [(Label.region, ""), (Label.generalRegion, "r1"), (Label.zone, "z2")]

/-- The region, in which every node has its own storage, and the node. -/
def site : Site where
  clusters := Keyed.empty.put "r1" (some { storages := [⟨"z2", "data", {}⟩] })
  orchestrator :=
    { nodes := Keyed.empty.put "w2" (some { metadata := { name := some "w2", labels := some labels } }) }

/-- A volume for the node, or else for another region. -/
def request : CreateVolumeRequest :=
  { Uneven.request with
    accessibilityRequirements := some
      { preferred := [topology, ⟨(∅ : StringMap).insert Label.region "r2"⟩] } }

end Labelled

set_option maxRecDepth 4000 in
/-- A volume that is made for a node in a zone can be reached from there. -/
theorem volumes_are_reachable_labelled : ∃ told response,
    (Site.run (NodeVolume.info "w2") Labelled.site).1 = .ok told ∧ told.accessibleTopology = some Labelled.topology ∧
      (Site.run (createVolume Uneven.fleet Labelled.request) Labelled.site).1 = .ok response ∧
      Reached Labelled.topology "r1" "z2" Labelled.request response
        (Site.exchanges (createVolume Uneven.fleet Labelled.request) Labelled.site) := by
  have said : (Site.run (NodeVolume.info "w2") Labelled.site).1 = .ok ⟨"w2", 24, some Labelled.topology⟩ :=
    eq_ok_of_toOption (by decide +kernel)
  have made : ∃ response, (Site.run (createVolume Uneven.fleet Labelled.request) Labelled.site).1 = .ok response := by
    have well : (Site.run (createVolume Uneven.fleet Labelled.request) Labelled.site).1.isOk = true := by decide +kernel
    obtain ⟨response, t, run⟩ := Site.run_of_isOk well
    exact ⟨response, congrArg Prod.fst run⟩
  obtain ⟨response, made⟩ := made
  have asks := Site.runsTo_exchanges (NodeVolume.info "w2") Labelled.site
  rw [said] at asks
  have creates := Site.runsTo_exchanges (createVolume Uneven.fleet Labelled.request) Labelled.site
  rw [made] at creates
  obtain ⟨node, region, zone, topology, -, told, reports, reachable⟩ := volumes_are_reachable asks
  obtain rfl := Option.some.inj told
  obtain ⟨rfl, rfl⟩ : region = "r1" ∧ zone = "z2" := by
    have entries : [(Label.region, region), (Label.zone, zone)] = [(Label.region, "r1"), (Label.zone, "z2")] :=
      reports.entries.symm.trans (Label.entries_region_zone "r1" "z2")
    simpa using entries
  exact ⟨_, response, said, rfl, made, (reachable _ _ rfl).2 Uneven.fleet Labelled.request response _ rfl creates⟩

end Provisioning

end ClusterVolumes
