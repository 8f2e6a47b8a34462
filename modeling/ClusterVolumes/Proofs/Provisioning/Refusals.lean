import ClusterVolumes.Proofs.Hypervisor.Refusals
import ClusterVolumes.Proofs.Provisioning.DeletionCalls
import ClusterVolumes.Provisioning.Capacity
import ClusterVolumes.Site

/-!
# What services make of a refusal

A storage that the addressed node does not have is told by a rejection of parameters. So a service that asks for free
space tells of none then (`getCapacity_takes`), and a deletion goes on to the next storage.

Whether a reply without success counts as a rejection is decided by its text (`CountsAsRejection`), so both services
make the same of a reply which only mentions one. `refusals_classified` tells exactly when they do.
-/

namespace ClusterVolumes

open Csi Service
open Http (Reply)
open Hypervisor

namespace Provisioning

/-! ## Free space -/

/-- The exchange in which a node is asked for the state of a storage. -/
abbrev measuring (region zone storage : String) (x : Except Failure StorageStatus) : Program.Exchange collaborators :=
  Exchange.cluster region (.storageStatus zone storage) x

/-- How a request for free space goes: it asks nobody, or one node for one storage. -/
inductive Measures : Except Failure GetCapacityResponse → History → Prop
  | unasked (f : Failure) : Measures (.error f) []
  | told {region zone storage : String} (status : StorageStatus) :
      Measures (.ok { availableCapacity := status.avail }) [measuring region zone storage (.ok status)]
  | absent {region zone storage : String} {f : Failure} (rejected : f.isParameterVerification = true) :
      Measures (.ok { availableCapacity := 0 }) [measuring region zone storage (.error f)]
  | failed {region zone storage : String} {f : Failure} (other : f.isParameterVerification = false) :
      Measures (.error (.invalidArgument f.message)) [measuring region zone storage (.error f)]

theorem getCapacity_takes {κ : Type} (fleet : Fleet κ) (request : GetCapacityRequest) :
    (getCapacity fleet request).Takes Measures := by
  -- a check of the request asks nobody
  have check {α : Type} {guard : Service α} {next : α → Service GetCapacityResponse}
      (silent : guard.Takes fun _ made => made = []) (rest : ∀ a, (next a).Takes Measures) :
      (guard >>= next).Takes Measures := by
    refine silent.bind ?_ ?_
    · rintro a _ rfl
      simpa using rest a
    · rintro f _ rfl
      exact .unasked f
  have required {α : Type} {o : Option α} {f : Failure} : (Service.require o f).Takes fun _ made => made = [] :=
    takes_require (fun _ _ => rfl) fun _ => rfl
  unfold getCapacity
  refine check required fun topology => check required fun region => check required fun zone => ?_
  refine check required fun storage => check (takes_ofExcept rfl) fun _ => ?_
  have asked : Takes (cluster region (.storageStatus zone storage)).attempt
      fun o made => ∃ x, o = .ok x ∧ made = [measuring region zone storage x] :=
    Takes.attempt (takes_cluster fun x => ⟨x, rfl, rfl⟩)
  refine asked.bind ?_ (by rintro f _ ⟨x, e, -⟩; cases e)
  rintro x _ ⟨_, ⟨⟩, rfl⟩
  cases x with
  | ok status => exact takes_pure (.told status)
  | error f =>
    dsimp only
    split
    · rename_i rejected
      exact takes_pure (.absent rejected)
    · rename_i other
      exact takes_throw (.failed (by simpa using other))

/-- The space that is told if the node fails to tell it. -/
theorem Measures.of_failed {outcome : Except Failure GetCapacityResponse} {made : History}
    {region zone storage : String} {f : Failure} (h : Measures outcome made)
    (mem : measuring region zone storage (.error f) ∈ made) :
    outcome = if f.isParameterVerification then .ok { availableCapacity := 0 } else .error (.invalidArgument f.message) := by
  cases h with
  | unasked => cases mem
  | told => cases List.mem_singleton.mp mem
  | absent rejected =>
    cases List.mem_singleton.mp mem
    exact (if_pos rejected).symm
  | failed other =>
    cases List.mem_singleton.mp mem
    exact (if_neg (Bool.eq_false_iff.mp other)).symm

/-! ## Deletions -/

/-- The search of a storage whose node fails to list it. -/
theorem Searched.of_failed {id node storage : String} {v : VolumeHandle} {outcome : Except Failure Bool} {made : History}
    {f : Failure} (h : Searched id node v storage outcome made) (mem : lookup v node storage (.error f) ∈ made) :
    outcome = if meansAbsent f then .ok false else .error (whileDeleting id f) := by
  cases h with
  | missed missed =>
    cases List.mem_singleton.mp mem
    exact (if_pos missed).symm
  | refused other =>
    cases List.mem_singleton.mp mem
    exact (if_neg (Bool.eq_false_iff.mp other)).symm
  | deleted =>
    rcases List.mem_cons.mp mem with mem | mem
    · cases mem
    · cases List.mem_singleton.mp mem
  | undeleted =>
    rcases List.mem_cons.mp mem with mem | mem
    · cases mem
    · cases List.mem_singleton.mp mem

/-- A refusal means that a storage is absent if it has status 404 or counts as a rejection. -/
theorem meansAbsent_refusal_iff (region : String) (reply : Reply) :
    meansAbsent (refusal region reply) = true ↔ reply.status = 404 ∨ CountsAsRejection reply := by
  rw [meansAbsent, Bool.or_eq_true, refusal_isParameterVerification_iff]
  simp [refusal, Failure.isNotFound]

/-! ## Refusals -/

/-- What becomes of a reply without success. -/
structure Classified (c : Client) (reply : Reply) : Prop where
  /-- Its refusal is told. -/
  told : ∀ {α : Type} (codec : Codec α) held past outcome held' now,
    (c.read codec reply).RunsTo held past outcome held' now → outcome = .error (refusal c.region reply)
  /-- It is taken for a rejection of parameters if it counts as one. -/
  counts_iff : (refusal c.region reply).isParameterVerification = true ↔ CountsAsRejection reply
  /-- So if it does not mention one, it is taken for one exactly if it tells of rejected parameters with status 400. -/
  plainly : ¬MentionsRejection reply.body → ∀ j, Json.parse? reply.body = some j → Plainly j →
    ((refusal c.region reply).isParameterVerification = true ↔ reply.status = 400 ∧ TellsRejections j)
  noValue : ¬MentionsRejection reply.body → Json.parse? reply.body = none →
    (refusal c.region reply).isParameterVerification = false
  /-- There is no free space on a storage exactly if it is taken for one. -/
  capacity : ∀ {κ : Type} (fleet : Fleet κ) request outcome made region zone storage,
    (getCapacity fleet request).RunsTo anyAnswers [] outcome made →
      measuring region zone storage (.error (refusal c.region reply)) ∈ made →
        (CountsAsRejection reply → outcome = .ok { availableCapacity := 0 }) ∧
          (¬CountsAsRejection reply → outcome = .error (.invalidArgument (refusal c.region reply).message))
  /-- A storage is passed over in a deletion exactly if it is taken for one, or has status 404. -/
  search : ∀ id node v outcome made, (deleteFrom id node v).RunsTo anyAnswers [] outcome made →
    lookup v node v.storage (.error (refusal c.region reply)) ∈ made →
      (reply.status = 404 ∨ CountsAsRejection reply → outcome = .ok false) ∧
        (¬(reply.status = 404 ∨ CountsAsRejection reply) →
          outcome = .error (whileDeleting id (refusal c.region reply)))
  /-- Otherwise the whole deletion ends with it. -/
  deletion : ∀ {κ : Type} (fleet : Fleet κ) (request : DeleteVolumeRequest) outcome made v node storage,
    (deleteVolume fleet request).RunsTo anyAnswers [] outcome made →
      lookup v node storage (.error (refusal c.region reply)) ∈ made →
        ¬(reply.status = 404 ∨ CountsAsRejection reply) →
          outcome = .error (whileDeleting request.volumeId (refusal c.region reply))

theorem classified (c : Client) {reply : Reply} (refused : Http.isSuccess reply.status = false) :
    Classified c reply where
  told := by
    intro α codec held past outcome held' now run
    obtain ⟨rfl, -, -⟩ := c.runsTo_read.mp run
    unfold Client.reading
    rw [if_neg (Bool.eq_false_iff.mp refused)]
    rfl
  counts_iff := refusal_isParameterVerification_iff c.region reply
  plainly := by
    intro silent j parsed plain
    rw [refusal_isParameterVerification_iff, CountsAsRejection, or_iff_left silent, ← plain.readsRejections_iff, parsed]
    simp
  noValue := by
    intro silent unparsed
    rw [← Bool.not_eq_true, refusal_isParameterVerification_iff, CountsAsRejection, or_iff_left silent, unparsed]
    simp
  capacity := by
    intro κ fleet request outcome made region zone storage run mem
    have ends := (getCapacity_takes fleet request outcome made run).of_failed mem
    rw [← refusal_isParameterVerification_iff c.region]
    exact ⟨fun rejected => ends.trans (if_pos rejected), fun other => ends.trans (if_neg other)⟩
  search := by
    intro id node v outcome made run mem
    have ends := (deleteFrom_takes v.storage outcome made run).of_failed mem
    rw [← meansAbsent_refusal_iff c.region]
    exact ⟨fun absent => ends.trans (if_pos absent), fun other => ends.trans (if_neg other)⟩
  deletion := by
    intro κ fleet request outcome made v node storage run mem other
    rw [← meansAbsent_refusal_iff c.region] at other
    rcases (deleteVolume_takes fleet request outcome made run).confined.reports _ _ _ mem with ⟨absent, -⟩ | ⟨ended, -⟩
    · exact absurd absent other
    · exact ended

/-- **Refusals.** Of a reply without success the client tells a failure that is taken for a rejection of parameters
exactly if the reply counts as one: if it tells of rejected parameters with status 400, or if the words for that stand
anywhere in it, whatever its status is. So it is with every call of the client. Only on such a failure a storage is told
to have no free space; on such a failure, and on status 404, a deletion takes the storage for absent, and on any other
one it ends. -/
theorem refusals_classified (c : Client) :
    (∀ reply, Http.isSuccess reply.status = false → Classified c reply) ∧
      ∀ (r : Hypervisor.Request) held past f held' now, (c.perform r).RunsTo held past (.error f) held' now →
        (f.isParameterVerification = true ↔
          ∃ reply, Client.Refused past now reply ∧ f = refusal c.region reply ∧ CountsAsRejection reply) :=
  ⟨fun _ refused => classified c refused, fun _ _ _ _ _ _ run => Client.perform_isParameterVerification_iff run⟩

/-! ### A cluster that mentions rejected parameters -/

namespace Misled

/-- A client with a token. -/
def client : Client :=
  ⟨"r1", "https://pve", .token "driver" "secret"⟩

/-- The cluster fails, and mentions rejected parameters as it does. -/
def reply : Http.Reply :=
  ⟨500, "Parameter verification failed."⟩

/-- A node is asked for the state of a storage. -/
@[irreducible] def asked :
    (Except Failure StorageStatus × Option Ticket) × Site.ScriptedServer × Http.Sent :=
  ((client.perform (.storageStatus "z1" "data")).run.run none).run (Program.recording Site.ScriptedServer.answer)
    (({ script := [reply] } : Site.ScriptedServer), [])

theorem run : (client.perform (.storageStatus "z1" "data")).RunsTo none [] asked.1.1 asked.1.2 asked.2.2 := by
  rw [asked]
  exact Program.runsTo_recording _ _ _ _

/-- The driver's one region. -/
def fleet : Fleet Unit :=
  ⟨(∅ : TextMap Unit).insert "r1" ()⟩

/-- A node with a storage that has space, and a disk on it; all that is asked about the storage fails. -/
def site : Site where
  clusters := Keyed.empty.put "r1" (some
    { members := [{ kind := "node", name := "z1", online := true }]
      storages := [⟨"z1", "data", { avail := 1073741824 }⟩]
      disks := [⟨"z1", "data", { volid := "data:vm-9999-pvc-1", size := 1073741824, format := "raw" }⟩] })
  faults := [{ concerns := fun call => match call with
                 | .cluster _ (.storageStatus ..) => true
                 | .cluster _ (.storageContent ..) => true
                 | _ => false
               failure := refusal "r1" reply }]

/-- A request for the free space on the storage. -/
def capacity : GetCapacityRequest where
  parameters := (∅ : StringMap).insert "storage" "data"
  accessibleTopology := some ⟨((∅ : StringMap).insert Label.region "r1").insert Label.zone "z1"⟩

end Misled

set_option maxRecDepth 4000 in
/-- The failure of the cluster is taken for a rejection, because its reply mentions one. -/
theorem refusals_classified_misled : Http.isSuccess Misled.reply.status = false ∧
    Classified Misled.client Misled.reply ∧ ∃ f, Misled.asked.1.1 = .error f ∧ f.isParameterVerification = true ∧
      ∃ reply, Client.Refused [] Misled.asked.2.2 reply ∧ f = refusal "r1" reply ∧ CountsAsRejection reply := by
  have refused : Http.isSuccess Misled.reply.status = false := by decide
  have failed : (match Misled.asked.1.1 with
    | .error f => f.isParameterVerification
    | .ok _ => false) = true := by decide +kernel
  have told := refusals_classified Misled.client
  refine ⟨refused, told.1 Misled.reply refused, ?_⟩
  cases ended : Misled.asked.1.1 with
  | ok status =>
    rw [ended] at failed
    cases failed
  | error f =>
    have run := Misled.run
    rw [ended] at run failed
    exact ⟨f, rfl, failed, (told.2 _ _ _ _ _ _ run).mp failed⟩

set_option maxRecDepth 4000 in
/-- A reply with status 500 and no value in its text is taken for a rejection of parameters. So a storage with space is
told to have none, and a disk that is there is not deleted. -/
theorem refusal_misleads :
    Http.isSuccess Misled.reply.status = false ∧ Misled.reply.status ≠ 400 ∧ Json.parse? Misled.reply.body = none ∧
      (refusal "r1" Misled.reply).isParameterVerification = true ∧
      (Site.run (getCapacity Misled.fleet Misled.capacity) Misled.site).1.toOption = some { availableCapacity := 0 } ∧
      (Site.run (deleteVolume Misled.fleet ⟨"r1/z1/data/vm-9999-pvc-1"⟩) Misled.site).1.isOk = true ∧
      (((Site.run (deleteVolume Misled.fleet ⟨"r1/z1/data/vm-9999-pvc-1"⟩) Misled.site).2.clusters "r1").any
        fun c => !c.disks.isEmpty) = true := by
  decide +kernel

end Provisioning

end ClusterVolumes
