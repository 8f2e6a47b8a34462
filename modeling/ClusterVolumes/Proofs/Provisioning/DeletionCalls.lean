import ClusterVolumes.Proofs.Courses
import ClusterVolumes.Provisioning.Delete

/-!
# The calls of a deletion

A deletion reads its handle, finds the node to ask (`Placed`) and the storages to search (`Stored`), and searches them
one after the other (`Searched`, `Scan`). `deleteVolume_takes` says that this is how it goes, whatever the clusters
answer.

So nothing is deleted but the disk that was listed just before (`Scan.removes`), a deletion that ends well without it
has searched all storages in vain (`Scan.passes`), and every failure but that of an absent storage ends it
(`Scan.reports`). `deleteVolume_takes_confined` puts them together.
-/

namespace ClusterVolumes

open Csi Service
open Hypervisor (StorageVolume ClusterMember ClusterResource)

namespace Provisioning

/-! ## The parts of a deletion -/

/-- The exchange in which a node is asked for the disks of a storage. -/
abbrev lookup (v : VolumeHandle) (node storage : String) (x : Except Failure (List StorageVolume)) :
    Program.Exchange collaborators :=
  Exchange.cluster v.region (.storageContent node storage) x

/-- The exchange in which a node is told to delete the disk of a volume from a storage. -/
abbrev removal (v : VolumeHandle) (node storage : String) (x : Except Failure Unit) : Program.Exchange collaborators :=
  Exchange.cluster v.region (.deleteDisk node storage (storage ++ ":" ++ v.disk)) x

/-- The disk of a volume is not on a storage, as the answer of a node says: it lists others, or the storage is absent.
-/
def Misses (v : VolumeHandle) (storage : String) : Except Failure (List StorageVolume) → Prop
  | .ok content => ∀ d ∈ content, d.volid ≠ storage ++ ":" ++ v.disk
  | .error f => meansAbsent f = true

section

variable (id node : String) (v : VolumeHandle)

/-- How one storage is searched: the disk is not there, or the node fails to tell, or the disk is there and is deleted
or fails to be. -/
inductive Searched (storage : String) : Except Failure Bool → History → Prop
  | missed {x : Except Failure (List StorageVolume)} :
      Misses v storage x → Searched storage (.ok false) [lookup v node storage x]
  | refused {f : Failure} :
      meansAbsent f = false → Searched storage (.error (whileDeleting id f)) [lookup v node storage (.error f)]
  | deleted {content : List StorageVolume} :
      (∃ d ∈ content, d.volid = storage ++ ":" ++ v.disk) →
        Searched storage (.ok true) [removal v node storage (.ok ()), lookup v node storage (.ok content)]
  | undeleted {content : List StorageVolume} {f : Failure} :
      (∃ d ∈ content, d.volid = storage ++ ":" ++ v.disk) →
        Searched storage (.error (whileDeleting id f))
          [removal v node storage (.error f), lookup v node storage (.ok content)]

/-- The lock under which a storage is searched. -/
def lockOn (v : VolumeHandle) (storage : String) : String :=
  VolumeHandle.text { v with storage := storage }

/-- How storages are searched one after the other, up to the first that has the disk or fails. -/
inductive Scan : List String → Except Failure Unit → History → Prop
  | nil : Scan [] (.ok ()) []
  | next {storage : String} {rest : List String} {outcome : Except Failure Unit} {made more : History} :
      Searched id node v storage (.ok false) made → Scan rest outcome more →
        Scan (storage :: rest) outcome (more ++ made.locked (lockOn v storage))
  | found {storage : String} {rest : List String} {made : History} :
      Searched id node v storage (.ok true) made → Scan (storage :: rest) (.ok ()) (made.locked (lockOn v storage))
  | failed {storage : String} {rest : List String} {f : Failure} {made : History} :
      Searched id node v storage (.error f) made →
        Scan (storage :: rest) (.error f) (made.locked (lockOn v storage))

/-- How the node to ask is found: it is that of the handle, or the first one that is online. -/
inductive Placed : Except Failure String → History → Prop
  | named : v.zone ≠ "" → Placed (.ok v.zone) []
  | online {members : List ClusterMember} {m : ClusterMember} :
      v.zone = "" → members.find? Fleet.isOnlineNode = some m →
        Placed (.ok m.name) [Exchange.cluster v.region .members (.ok members)]
  | offline {members : List ClusterMember} (f : Failure) :
      v.zone = "" → members.find? Fleet.isOnlineNode = none →
        Placed (.error f) [Exchange.cluster v.region .members (.ok members)]
  | refused (f : Failure) :
      v.zone = "" → Placed (.error (whileDeleting id f)) [Exchange.cluster v.region .members (.error f)]

/-- The storages of a node among the resources of its cluster. -/
def storagesIn (node : String) (resources : List ClusterResource) : List String :=
  (resources.filter fun r => r.node = node).filterMap (·.storage)

/-- How the storages to search are found: it is the one of the handle, or all that are listed for the node. -/
inductive Stored : Except Failure (List String) → History → Prop
  | named : v.storage ≠ "" → Stored (.ok [v.storage]) []
  | told (resources : List ClusterResource) :
      v.storage = "" →
        Stored (.ok (storagesIn node resources)) [Exchange.cluster v.region (.resources .storage) (.ok resources)]
  | refused (f : Failure) :
      v.storage = "" →
        Stored (.error (whileDeleting id f)) [Exchange.cluster v.region (.resources .storage) (.error f)]

end

/-- How a deletion goes: it stops before it asks anyone, or finds no node, or no storages, or searches them. -/
inductive Deletion (id : String) : Except Failure Unit → History → Prop
  | unread (f : Failure) : Deletion id (.error f) []
  | unplaced {v : VolumeHandle} {f : Failure} {made : History} :
      VolumeHandle.parseLegacy id = .ok v → Placed id v (.error f) made → Deletion id (.error f) made
  | unlisted {v : VolumeHandle} {node : String} {f : Failure} {made more : History} :
      VolumeHandle.parseLegacy id = .ok v → Placed id v (.ok node) made → Stored id node v (.error f) more →
        Deletion id (.error f) (more ++ made)
  | scanned {v : VolumeHandle} {node : String} {storages : List String} {outcome : Except Failure Unit}
      {made more last : History} :
      VolumeHandle.parseLegacy id = .ok v → Placed id v (.ok node) made → Stored id node v (.ok storages) more →
        Scan id node v storages outcome last → Deletion id outcome (last ++ (more ++ made))

section

variable {id node : String} {v : VolumeHandle}

/-- The search of one storage, in the words of the handle that is deleted. -/
theorem deleteFrom_storage (id node : String) (v : VolumeHandle) (storage : String) :
    deleteFrom id node { v with storage := storage } = (do
      match ← (cluster v.region (.storageContent node storage)).attempt with
      | .error f => if meansAbsent f then pure false else throw (whileDeleting id f)
      | .ok content =>
        if content.any fun d => d.volid = storage ++ ":" ++ v.disk then
          (cluster v.region (.deleteDisk node storage (storage ++ ":" ++ v.disk))).rewording (whileDeleting id)
          pure true
        else pure false) := by
  unfold deleteFrom
  refine bind_congr fun x => ?_
  cases x <;> rfl

theorem deleteFrom_takes (storage : String) :
    (deleteFrom id node { v with storage := storage }).Takes (Searched id node v storage) := by
  rw [deleteFrom_storage]
  have asked : Takes (cluster v.region (.storageContent node storage)).attempt
      fun o made => ∃ x, o = .ok x ∧ made = [lookup v node storage x] :=
    Takes.attempt (takes_cluster fun x => ⟨x, rfl, rfl⟩)
  refine asked.bind ?_ ?_
  · rintro x _ ⟨_, e, rfl⟩
    cases e
    cases x with
    | error f =>
      dsimp only
      split
      · rename_i absent
        exact takes_pure (.missed absent)
      · rename_i present
        exact takes_throw (.refused (by simpa using present))
    | ok content =>
      dsimp only
      split
      · rename_i listed
        obtain ⟨d, mem, name⟩ := List.any_eq_true.mp listed
        have held : ∃ d ∈ content, d.volid = storage ++ ":" ++ v.disk := ⟨d, mem, of_decide_eq_true name⟩
        have deleted : Takes ((cluster v.region (.deleteDisk node storage (storage ++ ":" ++ v.disk))).rewording
            (whileDeleting id)) fun o made =>
              ∃ x, o = x.mapError (whileDeleting id) ∧ made = [removal v node storage x] :=
          Takes.rewording (takes_cluster fun x => ⟨x, rfl, rfl⟩)
        refine deleted.bind ?_ ?_
        · rintro _ _ ⟨x, e, rfl⟩
          cases x with
          | error f => cases e
          | ok => exact takes_pure (.deleted held)
        · rintro _ _ ⟨x, e, rfl⟩
          cases x with
          | error f =>
            cases e
            exact .undeleted held
          | ok => cases e
      · rename_i unlisted
        refine takes_pure (.missed fun d mem name => unlisted ?_)
        exact List.any_eq_true.mpr ⟨d, mem, decide_eq_true name⟩
  · rintro f _ ⟨x, e, -⟩
    cases e

theorem deleteFromFirst_takes : ∀ storages, (deleteFromFirst id node v storages).Takes (Scan id node v storages)
  | [] => takes_pure .nil
  | storage :: rest => by
    unfold deleteFromFirst
    have searched : (Service.holding (lockOn v storage) (deleteFrom id node { v with storage := storage })).Takes
        fun o made => ∃ within, made = within.locked (lockOn v storage) ∧ Searched id node v storage o within :=
      ((deleteFrom_takes storage).mono fun o made h => ⟨made, rfl, h⟩).holding
    refine searched.bind ?_ ?_
    · rintro deleted _ ⟨made, rfl, searched⟩
      split
      · rename_i yes
        subst yes
        exact takes_pure (.found searched)
      · rename_i no
        obtain rfl : deleted = false := by simpa using no
        exact (deleteFromFirst_takes rest).mono fun o more h => .next searched h
    · rintro f _ ⟨made, rfl, searched⟩
      exact .failed searched

theorem storagesOf_takes : (storagesOf id node v).Takes (Stored id node v) := by
  unfold storagesOf
  split
  · rename_i unnamed
    have anywhere := String.isEmpty_iff.mp unnamed
    have told : Takes ((cluster v.region (.resources .storage)).rewording (whileDeleting id)) fun o made =>
        ∃ x, o = x.mapError (whileDeleting id) ∧ made = [Exchange.cluster v.region (.resources .storage) x] :=
      Takes.rewording (takes_cluster fun x => ⟨x, rfl, rfl⟩)
    refine told.bind ?_ ?_
    · rintro resources _ ⟨x, e, rfl⟩
      cases x with
      | error f => cases e
      | ok _ =>
        cases e
        exact takes_pure (.told resources anywhere)
    · rintro f _ ⟨x, e, rfl⟩
      cases x with
      | ok _ => cases e
      | error f =>
        cases e
        exact .refused f anywhere
  · rename_i named
    exact takes_pure (.named fun e => named (String.isEmpty_iff.mpr e))

/-- Where no zone is named, the first node that is online is asked. -/
theorem firstOnlineNode_takes (anywhere : v.zone = "") :
    ((Fleet.firstOnlineNode v.region).rewording (whileDeleting id)).Takes (Placed id v) := by
  unfold Fleet.firstOnlineNode
  have told : Takes (cluster v.region .members) fun x made => made = [Exchange.cluster v.region .members x] :=
    takes_cluster fun x => rfl
  refine Takes.rewording (told.bind ?_ ?_)
  · rintro members _ rfl
    split
    · rename_i m first
      exact takes_pure (.online anywhere first)
    · rename_i offline
      exact takes_throw (.offline _ anywhere offline)
  · rintro f _ rfl
    exact .refused f anywhere

/-- **The course of a deletion**, whatever the clusters answer. -/
theorem deleteVolume_takes {κ : Type} (fleet : Fleet κ) (request : DeleteVolumeRequest) :
    (deleteVolume fleet request).Takes (Deletion request.volumeId) := by
  unfold deleteVolume
  simp only
  split
  · exact takes_throw (.unread _)
  have read : (Service.ofExcept (VolumeHandle.parseLegacy request.volumeId)).Takes fun o made =>
      o = VolumeHandle.parseLegacy request.volumeId ∧ made = [] := takes_ofExcept ⟨rfl, rfl⟩
  refine read.bind ?_ fun f _ h => ?_
  · rintro v _ ⟨parsed, rfl⟩
    have known : (Service.ofExcept (fleet.get v.region)).Takes fun _ made => made = [] := takes_ofExcept rfl
    refine known.bind ?_ fun f _ h => ?_
    · rintro _ _ rfl
      -- the storages are searched in the same way wherever the node is known from
      have scanned {node : String} {made : History} (placed : Placed request.volumeId v (.ok node) made) :
          Takes (storagesOf request.volumeId node v >>= fun l => deleteFromFirst request.volumeId node v l)
            fun o more => Deletion request.volumeId o (more ++ made) := by
        refine storagesOf_takes.bind ?_ fun f more stored => .unlisted parsed.symm placed stored
        intro storages more stored
        refine (deleteFromFirst_takes storages).mono fun o last scan => ?_
        rw [List.append_assoc]
        exact .scanned parsed.symm placed stored scan
      have rest : Takes (if v.zone.isEmpty then
          ((Fleet.firstOnlineNode v.region).rewording (whileDeleting request.volumeId) >>= fun node =>
            storagesOf request.volumeId node v >>= fun l => deleteFromFirst request.volumeId node v l)
          else (pure v.zone >>= fun node =>
            storagesOf request.volumeId node v >>= fun l => deleteFromFirst request.volumeId node v l))
          (Deletion request.volumeId) := by
        split
        · rename_i unnamed
          refine (firstOnlineNode_takes (String.isEmpty_iff.mp unnamed)).bind (fun _ _ placed => scanned placed) ?_
          intro f made placed
          exact .unplaced parsed.symm placed
        · rename_i named
          have placed : Placed request.volumeId v (.ok v.zone) [] := .named fun e => named (String.isEmpty_iff.mpr e)
          exact (scanned placed).mono fun o more h => by rwa [List.append_nil] at h
      simpa using rest
    · subst h
      exact .unread f
  · obtain ⟨-, rfl⟩ := h
    exact .unread f

end

/-! ## What the parts have in common -/

/-- Every failure of a cluster is that of a storage which is absent, or the deletion ends with it and asks nothing more.
-/
def Reports {α : Type} (id : String) (outcome : Except Failure α) (made : History) : Prop :=
  ∀ region r f, Exchange.cluster region r (.error f) ∈ made →
    (meansAbsent f = true ∧ ∃ node storage, r = .storageContent node storage) ∨
      outcome = .error (whileDeleting id f) ∧ made.asked.head? = some (Exchange.cluster region r (.error f))

/-- The last call deletes the disk of a volume from a storage, the one before it listed the disk there, and nothing else
was changed. The deletion ends as the last call does. -/
def Removes (id : String) (v : VolumeHandle) (node storage : String) (outcome : Except Failure Unit) (made : History) :
    Prop :=
  ∃ x content earlier, made.asked = removal v node storage x :: lookup v node storage (.ok content) :: earlier ∧
    (∃ d ∈ content, d.volid = storage ++ ":" ++ v.disk) ∧
    made.changing = [.cluster v.region (.deleteDisk node storage (storage ++ ":" ++ v.disk))] ∧
    outcome = x.mapError (whileDeleting id)

/-- No other than the cluster of a region is asked. -/
def AsksIn (region : String) (made : History) : Prop :=
  ∀ e ∈ made.asked, ∃ r x, e = Exchange.cluster region r x

/-- The members or resources of clusters were asked for, and were told. -/
def Informed (made : History) : Prop :=
  ∀ e ∈ made, ∃ region r a, e = Exchange.cluster region r (.ok a) ∧ (r = .members ∨ r = .resources .storage)

section

variable {id node : String} {v : VolumeHandle} {storages : List String} {made more : History}
  {outcome : Except Failure Unit}

theorem AsksIn.append {region : String} (h : AsksIn region more) (h' : AsksIn region made) :
    AsksIn region (more ++ made) := by
  intro e mem
  rw [History.asked_append] at mem
  rcases List.mem_append.mp mem with mem | mem
  · exact h e mem
  · exact h' e mem

theorem AsksIn.locked {region : String} (h : AsksIn region made) (key : String) : AsksIn region (made.locked key) := by
  unfold AsksIn
  rw [History.asked_locked]
  exact h

theorem Informed.append (h : Informed more) (h' : Informed made) : Informed (more ++ made) := by
  intro e mem
  rcases List.mem_append.mp mem with mem | mem
  · exact h e mem
  · exact h' e mem

theorem Informed.changing (h : Informed made) : History.changing made = [] := by
  induction made with
  | nil => rfl
  | cons e made ih =>
    have rest : History.changing made = [] := ih fun e mem => h e (List.mem_cons_of_mem _ mem)
    obtain ⟨region, r, a, rfl, rfl | rfl⟩ := h e List.mem_cons_self
    · exact rest
    · exact rest

/-- After exchanges in which nothing failed but that storages are absent, a failure is told as it was. -/
theorem Reports.append (h : Reports id outcome more)
    (calm : ∀ region r f, Exchange.cluster region r (.error f) ∈ made →
      meansAbsent f = true ∧ ∃ node storage, r = .storageContent node storage) : Reports id outcome (more ++ made) := by
  intro region r f mem
  rcases List.mem_append.mp mem with mem | mem
  · rcases h region r f mem with absent | ⟨ended, last⟩
    · exact .inl absent
    · refine .inr ⟨ended, ?_⟩
      rw [History.asked_append, List.head?_append, last]
      rfl
  · exact .inl (calm region r f mem)

/-- What was told before has not failed. -/
theorem Reports.after (h : Reports id outcome more) (told : Informed made) : Reports id outcome (more ++ made) := by
  refine h.append fun region r f mem => ?_
  obtain ⟨region', r', a, e, -⟩ := told _ mem
  cases e

theorem removes_held {storage : String} {content : List StorageVolume}
    (held : ∃ d ∈ content, d.volid = storage ++ ":" ++ v.disk) (x : Except Failure Unit) :
    Removes id v node storage (x.mapError (whileDeleting id))
      [removal v node storage x, lookup v node storage (.ok content)] :=
  ⟨x, content, [], rfl, held, rfl, rfl⟩

theorem Removes.after {storage : String} (h : Removes id v node storage outcome more) (told : made.changing = []) :
    Removes id v node storage outcome (more ++ made) := by
  obtain ⟨x, content, earlier, asked, held, changing, ended⟩ := h
  refine ⟨x, content, earlier ++ made.asked, ?_, held, ?_, ended⟩
  · rw [History.asked_append, asked]
    rfl
  · rw [History.changing_append, changing, told, List.append_nil]

theorem Removes.locked {storage : String} (h : Removes id v node storage outcome made) (key : String) :
    Removes id v node storage outcome (made.locked key) := by
  unfold Removes
  rw [History.asked_locked, History.changing_locked]
  exact h

/-! ### Finding the node and the storages -/

theorem Placed.informed (h : Placed id v (.ok node) made) : Informed made := by
  intro e mem
  cases h with
  | named => cases mem
  | online => exact ⟨_, _, _, List.mem_singleton.mp mem, .inl rfl⟩

theorem Stored.informed (h : Stored id node v (.ok storages) made) : Informed made := by
  intro e mem
  cases h with
  | named => cases mem
  | told => exact ⟨_, _, _, List.mem_singleton.mp mem, .inr rfl⟩

theorem Placed.asks {placed : Except Failure String} (h : Placed id v placed made) : AsksIn v.region made := by
  intro e mem
  cases h with
  | named => cases mem
  | _ => exact ⟨_, _, List.mem_singleton.mp mem⟩

theorem Stored.asks {stored : Except Failure (List String)} (h : Stored id node v stored made) :
    AsksIn v.region made := by
  intro e mem
  cases h with
  | named => cases mem
  | _ => exact ⟨_, _, List.mem_singleton.mp mem⟩

theorem Placed.reports {f : Failure} (h : Placed id v (.error f) made) :
    Reports id (.error f : Except Failure Unit) made := by
  intro region r f' mem
  cases h with
  | offline => cases List.mem_singleton.mp mem
  | refused f =>
    cases List.mem_singleton.mp mem
    exact .inr ⟨rfl, rfl⟩

theorem Stored.reports {f : Failure} (h : Stored id node v (.error f) made) :
    Reports id (.error f : Except Failure Unit) made := by
  intro region r f' mem
  cases h with
  | refused f =>
    cases List.mem_singleton.mp mem
    exact .inr ⟨rfl, rfl⟩

/-! ### Searching -/

theorem Searched.reports {storage : String} {deleted : Except Failure Bool}
    (h : Searched id node v storage deleted made) : Reports id deleted made := by
  intro region r f mem
  cases h with
  | missed absent =>
    cases List.mem_singleton.mp mem
    exact .inl ⟨absent, node, storage, rfl⟩
  | refused =>
    cases List.mem_singleton.mp mem
    exact .inr ⟨rfl, rfl⟩
  | deleted =>
    rcases List.mem_cons.mp mem with mem | mem
    · cases mem
    · cases List.mem_singleton.mp mem
  | undeleted =>
    rcases List.mem_cons.mp mem with mem | mem
    · cases mem
      exact .inr ⟨rfl, rfl⟩
    · cases List.mem_singleton.mp mem

theorem Searched.asks {storage : String} {deleted : Except Failure Bool}
    (h : Searched id node v storage deleted made) : AsksIn v.region made := by
  intro e mem
  cases h with
  | missed => exact ⟨_, _, List.mem_singleton.mp mem⟩
  | refused => exact ⟨_, _, List.mem_singleton.mp mem⟩
  | _ =>
    rcases List.mem_cons.mp mem with rfl | mem
    · exact ⟨_, _, rfl⟩
    · exact ⟨_, _, List.mem_singleton.mp mem⟩

theorem Scan.asks (h : Scan id node v storages outcome made) : AsksIn v.region made := by
  induction h with
  | nil => exact fun _ mem => nomatch mem
  | next searched _ ih => exact ih.append (searched.asks.locked _)
  | found searched => exact searched.asks.locked _
  | failed searched => exact searched.asks.locked _

theorem Scan.reports (h : Scan id node v storages outcome made) : Reports id outcome made := by
  induction h with
  | nil => exact fun _ _ _ mem => nomatch mem
  | next searched _ ih =>
    refine ih.append fun region r f mem => ?_
    rcases searched.reports region r f (History.cluster_mem_locked.mp mem) with absent | ⟨ended, -⟩
    · exact absent
    · cases ended
  | found searched =>
    intro region r f mem
    rcases searched.reports region r f (History.cluster_mem_locked.mp mem) with absent | ⟨ended, -⟩
    · exact .inl absent
    · cases ended
  | failed searched =>
    intro region r f mem
    rw [History.asked_locked]
    refine (searched.reports region r f (History.cluster_mem_locked.mp mem)).imp_right ?_
    rintro ⟨ended, last⟩
    cases ended
    exact ⟨rfl, last⟩

/-- One disk is deleted at most, and from a storage that is searched. -/
theorem Scan.removes (h : Scan id node v storages outcome made) :
    made.changing = [] ∨ ∃ storage ∈ storages, Removes id v node storage outcome made := by
  induction h with
  | nil => exact .inl rfl
  | @next storage rest outcome made more searched _ ih =>
    have kept : (made.locked (lockOn v storage)).changing = [] := by
      rw [History.changing_locked]
      cases searched
      rfl
    rcases ih with none | ⟨found, mem, removes⟩
    · rw [History.changing_append, none, kept]
      exact .inl rfl
    · exact .inr ⟨found, List.mem_cons_of_mem _ mem, removes.after kept⟩
  | @found storage rest made searched =>
    cases searched with
    | deleted held => exact .inr ⟨storage, List.mem_cons_self, (removes_held held (.ok ())).locked _⟩
  | @failed storage rest f made searched =>
    cases searched with
    | refused => exact .inl (by rw [History.changing_locked]; rfl)
    | @undeleted content f held => exact .inr ⟨storage, List.mem_cons_self, (removes_held held (.error f)).locked _⟩

/-- Where nothing is deleted, all storages were searched in vain. -/
theorem Scan.passes (h : Scan id node v storages outcome made) (ended : outcome = .ok ()) (kept : made.changing = []) :
    ∀ storage ∈ storages, ∃ x, lookup v node storage x ∈ made ∧ Misses v storage x := by
  induction h with
  | nil => exact fun _ mem => nomatch mem
  | @next storage rest outcome made more searched _ ih =>
    rw [History.changing_append, List.append_eq_nil_iff] at kept
    intro other mem
    rcases List.mem_cons.mp mem with rfl | mem
    · cases searched with
      | missed absent =>
        refine ⟨_, List.mem_append_right _ ?_, absent⟩
        exact History.cluster_mem_locked.mpr List.mem_cons_self
    · obtain ⟨x, asked, absent⟩ := ih ended kept.1 other mem
      exact ⟨x, List.mem_append_left _ asked, absent⟩
  | found searched =>
    rw [History.changing_locked] at kept
    cases searched
    cases kept
  | failed => cases ended

/-! ## The whole deletion -/

/-- Which disk a deletion is after: the id is the text of a handle, the node is that of the handle or the first one that
was told to be online, and the storages are that of the handle or all that were listed for the node. -/
structure Sought (id : String) (v : VolumeHandle) (node : String) (storages : List String) (made : History) : Prop where
  read : VolumeHandle.parseLegacy id = .ok v
  asked : if v.zone = "" then ∃ members m, Exchange.cluster v.region .members (.ok members) ∈ made ∧
    members.find? Fleet.isOnlineNode = some m ∧ m.name = node else node = v.zone
  searched : if v.storage = "" then
    ∃ resources, Exchange.cluster v.region (.resources .storage) (.ok resources) ∈ made ∧
      storages = storagesIn node resources else storages = [v.storage]

theorem sought_of {last : History} (read : VolumeHandle.parseLegacy id = .ok v) (placed : Placed id v (.ok node) made)
    (stored : Stored id node v (.ok storages) more) : Sought id v node storages (last ++ (more ++ made)) where
  read := read
  asked := by
    cases placed with
    | named zone => rw [if_neg zone]
    | @online members m anywhere first =>
      rw [if_pos anywhere]
      exact ⟨members, m, by simp, first, rfl⟩
  searched := by
    cases stored with
    | named storage => rw [if_neg storage]
    | told resources anywhere =>
      rw [if_pos anywhere]
      exact ⟨resources, by simp, rfl⟩

/-- A deletion removes nothing but its disk, overlooks no storage, and tells of every failure.
- `asks`: no other than the cluster of the handle's region is asked;
- `removes`: at most one call changes anything, and it deletes the disk of the handle where it was listed just before;
- `passes`: without such a call, all storages were searched in vain if the deletion ends well;
- `reports`: failures other than those of absent storages end the deletion. -/
structure Confined (id : String) (outcome : Except Failure Unit) (made : History) : Prop where
  asks : ∀ e ∈ made.asked, ∃ v r x, VolumeHandle.parseLegacy id = .ok v ∧ e = Exchange.cluster v.region r x
  removes : made.changing = [] ∨ ∃ v node storages, Sought id v node storages made ∧
    ∃ storage ∈ storages, Removes id v node storage outcome made
  passes : outcome = .ok () → made.changing = [] → ∃ v node storages, Sought id v node storages made ∧
    ∀ storage ∈ storages, ∃ x, lookup v node storage x ∈ made ∧ Misses v storage x
  reports : Reports id outcome made

theorem Deletion.confined (h : Deletion id outcome made) : Confined id outcome made := by
  cases h with
  | unread f =>
    refine ⟨fun e mem => ?_, .inl rfl, nofun, fun region r f mem => ?_⟩
    · cases mem
    · cases mem
  | unplaced read placed =>
    refine ⟨fun e mem => ?_, .inl ?_, nofun, placed.reports⟩
    · obtain ⟨r, x, rfl⟩ := placed.asks e mem
      exact ⟨_, r, x, read, rfl⟩
    · cases placed <;> rfl
  | @unlisted v node f made more read placed stored =>
    have asks := stored.asks.append placed.asks
    refine ⟨fun e mem => ?_, .inl ?_, nofun, stored.reports.after placed.informed⟩
    · obtain ⟨r, x, rfl⟩ := asks e mem
      exact ⟨v, r, x, read, rfl⟩
    · rw [History.changing_append, placed.informed.changing]
      cases stored
      rfl
  | @scanned v node storages outcome made more last read placed stored scan =>
    have asks := scan.asks.append (stored.asks.append placed.asks)
    have told := stored.informed.append placed.informed
    have sought : Sought id v node storages (last ++ (more ++ made)) := sought_of read placed stored
    refine ⟨fun e mem => ?_, ?_, fun ended kept => ?_, scan.reports.after told⟩
    · obtain ⟨r, x, rfl⟩ := asks e mem
      exact ⟨v, r, x, read, rfl⟩
    · rcases scan.removes with none | ⟨storage, mem, removes⟩
      · rw [History.changing_append, none, told.changing]
        exact .inl rfl
      · exact .inr ⟨v, node, storages, sought, storage, mem, removes.after told.changing⟩
    · rw [History.changing_append, List.append_eq_nil_iff] at kept
      refine ⟨v, node, storages, sought, fun storage mem => ?_⟩
      obtain ⟨x, asked, absent⟩ := scan.passes ended kept.1 storage mem
      exact ⟨x, List.mem_append_left _ asked, absent⟩

/-- If a deletion fails, every call of it failed that would have changed anything. -/
theorem Confined.undone {f : Failure} (h : Confined id (.error f) made) {region : String} {r : Hypervisor.Request}
    {x : Except Failure r.Answer} (mem : Exchange.cluster region r x ∈ made) (mutates : r.mutates = true) :
    ∃ g, x = .error g := by
  have changed : Call.cluster region r ∈ made.changing := History.mem_changing mem mutates
  rcases h.removes with none | ⟨v, node, storages, -, storage, -, y, content, earlier, asked, -, changing, ended⟩
  · rw [none] at changed
    cases changed
  · -- nothing changed before the deletion of the disk, which failed
    have before : History.changing earlier = [] := by
      have whole := History.changing_asked made
      rw [asked, changing] at whole
      exact (List.cons.inj whole).2
    have mem := (History.mem_asked.mpr ⟨mem, rfl⟩ : _ ∈ made.asked)
    rw [asked] at mem
    rcases List.mem_cons.mp mem with e | mem
    · cases e
      cases y with
      | error g => exact ⟨g, rfl⟩
      | ok => cases ended
    rcases List.mem_cons.mp mem with e | mem
    · cases e
      cases mutates
    · have late : Call.cluster region r ∈ History.changing earlier := History.mem_changing mem mutates
      rw [before] at late
      cases late

/-- Whatever the clusters answer, a deletion is confined to its disk. -/
theorem deleteVolume_takes_confined {κ : Type} (fleet : Fleet κ) (request : DeleteVolumeRequest) :
    (deleteVolume fleet request).Takes (Confined request.volumeId) :=
  (deleteVolume_takes fleet request).mono fun _ _ h => h.confined

end

end Provisioning

end ClusterVolumes
