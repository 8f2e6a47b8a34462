import ClusterVolumes.Configuration
import ClusterVolumes.Proofs.Text.ByteOrder
import Mathlib.Data.List.Forall2
import Mathlib.Tactic.Common

/-!
# The fleet that is configured

A configuration is looked up by the first entry of a region, and the fleet that is made of it by a map. Both come to the
same, since a fleet is only made if no two entries have one region.

`ClusterSettings.UsedWith` says with which credentials a cluster can be used, by its settings and the files that they
name (`credentials_eq_ok_iff`), and `client_eq_ok_iff` what is kept of the cluster then. `Fleet.gather_isOk_iff` and
`Fleet.get?_gather` say when clusters can be put into a map and what is found there. The main result is `fleet_agrees`.
-/

namespace ClusterVolumes

open Hypervisor (Client Credentials)

/-! ## Credentials -/

/-- The text is given: it is there and not empty. -/
def IsGiven (o : Option String) (s : String) : Prop :=
  o = some s ∧ s ≠ ""

theorem given_eq_some_iff {o : Option String} {s : String} : given o = some s ↔ IsGiven o s := by
  simp [given, IsGiven, Option.filter_eq_some_iff]

/-- A file can be read and holds a text between its blanks. -/
def HoldsSecret (files : FileTree) (path s : String) : Prop :=
  ∃ text, files.read path = .ok text ∧ Text.trim text = s ∧ s ≠ ""

theorem readSecret_eq_ok_iff {files : FileTree} {path s : String} :
    readSecret files path = .ok s ↔ HoldsSecret files path s := by
  simp only [readSecret, HoldsSecret, bind, Except.bind, throw, throwThe, MonadExceptOf.throw, pure, Except.pure]
  cases files.read path with
  | error e => simp [Except.mapError]
  | ok text =>
    by_cases blank : (Text.trim text).isEmpty
    · simp only [Except.mapError, blank, if_true, reduceCtorEq, Except.ok.injEq, exists_eq_left', false_iff, not_and,
        not_not]
      exact fun same => same ▸ String.isEmpty_iff.mp blank
    · have some : Text.trim text ≠ "" := mt String.isEmpty_iff.mpr blank
      simp only [Except.mapError, blank, Bool.false_eq_true, if_false, Except.ok.injEq, exists_eq_left']
      exact ⟨fun same => ⟨same, same ▸ some⟩, fun same => same.1⟩

/-- A part of a token can be had: from the file that is named for it, or from the setting if none is named. -/
def HasTokenPart (files : FileTree) (file value : Option String) (s : String) : Prop :=
  (∃ path, file = some path ∧ HoldsSecret files path s) ∨ file = none ∧ IsGiven value s

theorem tokenPart_iff {files : FileTree} {file value : Option String} {s : String} :
    tokenPart files file value = .ok s ∧ s ≠ "" ↔ HasTokenPart files file value s := by
  unfold tokenPart HasTokenPart
  cases file with
  | some path =>
    simp only [readSecret_eq_ok_iff, Option.some.injEq, exists_eq_left', reduceCtorEq, false_and, or_false]
    constructor
    · exact fun h => h.1
    · intro held
      obtain ⟨text, read, same, some⟩ := held
      exact ⟨⟨text, read, same, some⟩, some⟩
  | none =>
    simp only [reduceCtorEq, false_and, exists_false, false_or, true_and, Except.ok.injEq, ← given_eq_some_iff]
    cases h : given value with
    | none => simp
    | some t =>
      have filled := (given_eq_some_iff.mp h).2
      simp only [Option.getD_some, Option.some.injEq]
      exact ⟨fun same => same.1, fun same => ⟨same, same ▸ filled⟩⟩

namespace ClusterSettings

variable {files : FileTree} {s : ClusterSettings}

/-- A username and a password are given. -/
def HasLogin (s : ClusterSettings) : Prop :=
  ∃ username password, IsGiven s.username username ∧ IsGiven s.password password

/-- The cluster can be used with some credentials: with a username and a password if both are given, and otherwise with
a token of which both parts can be had. -/
inductive UsedWith (files : FileTree) (s : ClusterSettings) : Credentials → Prop
  | login {username password : String} : IsGiven s.username username → IsGiven s.password password →
      UsedWith files s (.password username password)
  | token {id secret : String} : ¬s.HasLogin → HasTokenPart files s.tokenIdFile s.tokenId id →
      HasTokenPart files s.tokenSecretFile s.tokenSecret secret → UsedWith files s (.token id secret)

theorem login?_eq_some_iff {username password : String} :
    s.login? = some (username, password) ↔ IsGiven s.username username ∧ IsGiven s.password password := by
  simp only [login?, ← given_eq_some_iff]
  cases given s.username with
  | none => simp
  | some u => cases given s.password <;> simp

theorem login?_eq_none_iff : s.login? = none ↔ ¬s.HasLogin := by
  constructor
  · intro none login
    obtain ⟨username, password, both⟩ := login
    rw [login?_eq_some_iff.mpr both] at none
    cases none
  · intro no_login
    cases h : s.login? with
    | none => rfl
    | some l => exact absurd ⟨l.1, l.2, login?_eq_some_iff.mp h⟩ no_login

/-- Both parts of a token must be had before one of them can be found empty. -/
theorem token_eq_ok_iff {first second : Except Failure String} {bare : Failure} {c : Credentials} :
    (do
      let id ← first
      let secret ← second
      if id.isEmpty || secret.isEmpty then throw bare else pure (.token id secret) : Except Failure Credentials) = .ok c ↔
      ∃ id secret, (first = .ok id ∧ id ≠ "") ∧ (second = .ok secret ∧ secret ≠ "") ∧ c = .token id secret := by
  cases first with
  | error e => simp [bind, Except.bind]
  | ok id =>
    cases second with
    | error e => simp [bind, Except.bind]
    | ok secret =>
      simp only [bind, Except.bind, throw, throwThe, MonadExceptOf.throw, pure, Except.pure, Except.ok.injEq,
        and_assoc, exists_and_left, exists_eq_left']
      by_cases empty : id = "" ∨ secret = ""
      · have none : ¬(id ≠ "" ∧ secret ≠ "" ∧ c = .token id secret) := fun h => empty.elim h.1 h.2.1
        simp [empty, none]
      · obtain ⟨hid, hsecret⟩ := not_or.mp empty
        simp [hid, hsecret, eq_comm (a := c)]

theorem credentials_eq_ok_iff {c : Credentials} : s.credentials files = .ok c ↔ s.UsedWith files c := by
  unfold credentials
  cases h : s.login? with
  | some l =>
    obtain ⟨hu, hp⟩ := login?_eq_some_iff.mp h
    constructor
    · intro used
      cases used
      exact .login hu hp
    · intro used
      cases used with
      | login hu' hp' =>
        rw [login?_eq_some_iff.mpr ⟨hu', hp'⟩] at h
        cases h
        rfl
      | token no_login => exact absurd ⟨_, _, hu, hp⟩ no_login
  | none =>
    have no_login := login?_eq_none_iff.mp h
    refine token_eq_ok_iff.trans ?_
    simp only [tokenPart_iff]
    constructor
    · intro both
      obtain ⟨id, secret, hid, hsecret, rfl⟩ := both
      exact .token no_login hid hsecret
    · intro used
      cases used with
      | login hu hp => exact absurd ⟨_, _, hu, hp⟩ no_login
      | token _ hid hsecret => exact ⟨_, _, hid, hsecret, rfl⟩

/-- A cluster can be used if it has a url and credentials, and they are what is kept of it. -/
theorem client_eq_ok_iff {client : Client} : s.client files = .ok client ↔
    s.url ≠ "" ∧ s.UsedWith files client.credentials ∧ client.region = s.region ∧ client.address = s.address := by
  unfold ClusterSettings.client
  by_cases bare : s.url = ""
  · simp [bare]
  · simp only [String.isEmpty_iff, bare, if_false, not_false_eq_true, ne_eq, true_and, ← credentials_eq_ok_iff]
    cases s.credentials files with
    | error e => simp [Except.map]
    | ok credentials =>
      obtain ⟨region, address, shown⟩ := client
      simp only [Except.map, Except.ok.injEq, Client.mk.injEq]
      constructor
      · rintro ⟨rfl, rfl, rfl⟩
        exact ⟨rfl, rfl, rfl⟩
      · rintro ⟨rfl, rfl, rfl⟩
        exact ⟨rfl, rfl, rfl⟩

theorem client_region {client : Client} (h : s.client files = .ok client) : client.region = s.region :=
  (client_eq_ok_iff.mp h).2.2.1

/-- A cluster can be used if it has a url and can be used with some credentials. -/
theorem client_isOk_iff : (∃ client, s.client files = .ok client) ↔
    s.url ≠ "" ∧ ∃ credentials, s.UsedWith files credentials := by
  constructor
  · rintro ⟨client, built⟩
    obtain ⟨url, used, -⟩ := client_eq_ok_iff.mp built
    exact ⟨url, _, used⟩
  · rintro ⟨url, credentials, used⟩
    exact ⟨⟨s.region, s.address, credentials⟩, client_eq_ok_iff.mpr ⟨url, used, rfl, rfl⟩⟩

/-- The driver logs in as a user exactly where a username and a password are given. -/
theorem isPrivileged_iff : s.isPrivileged files = true ↔ s.HasLogin := by
  unfold isPrivileged
  constructor
  · intro privileged
    cases h : s.credentials files with
    | error e =>
      rw [h] at privileged
      cases privileged
    | ok c =>
      rw [h] at privileged
      cases credentials_eq_ok_iff.mp h with
      | login hu hp => exact ⟨_, _, hu, hp⟩
      | token => cases privileged
  · rintro ⟨username, password, hu, hp⟩
    rw [credentials_eq_ok_iff.mpr (.login hu hp)]
    rfl

/-- What is kept of a cluster tells as well whether the driver logs in. -/
theorem isLogin_eq_isPrivileged {client : Client} (h : s.client files = .ok client) :
    client.credentials.isLogin = s.isPrivileged files := by
  have used := credentials_eq_ok_iff.mpr (client_eq_ok_iff.mp h).2.1
  unfold isPrivileged
  rw [used]

end ClusterSettings

/-! ## Clusters in a map -/

namespace Fleet

variable {κ μ : Type}

/-- Clusters can be put into a map if no region is there twice. -/
theorem gather_isOk_iff {l : List (String × κ)} {m : TextMap κ} : (∃ m', gather l m = .ok m') ↔
    (l.map Prod.fst).Nodup ∧ ∀ region ∈ l.map Prod.fst, m.contains region = false := by
  induction l generalizing m with
  | nil => simp [gather]
  | cons e l ih =>
    obtain ⟨region, cluster⟩ := e
    unfold gather
    cases taken : m.contains region with
    | true => simp [taken]
    | false =>
      have other {r : String} : (m.insert region cluster).contains r = false ↔ r ≠ region ∧ m.contains r = false := by
        unfold TextMap.contains
        rw [TextMap.get?_insert]
        by_cases same : r = region <;> simp [same]
      rw [if_neg Bool.false_ne_true, ih]
      simp only [other, List.map_cons, List.nodup_cons, List.forall_mem_cons, taken, true_and]
      constructor
      · intro h
        obtain ⟨nodup, apart⟩ := h
        exact ⟨⟨fun mem => (apart region mem).1 rfl, nodup⟩, fun r mem => (apart r mem).2⟩
      · intro h
        obtain ⟨⟨fresh, nodup⟩, apart⟩ := h
        exact ⟨nodup, fun r mem => ⟨fun same => fresh (same ▸ mem), apart r mem⟩⟩

/-- In the map is what stands first in the list, or was there before. -/
theorem get?_gather {l : List (String × κ)} {m m' : TextMap κ} (h : gather l m = .ok m') (region : String) :
    m'.get? region = (l.lookup region).or (m.get? region) := by
  induction l generalizing m with
  | nil =>
    cases h
    rfl
  | cons e l ih =>
    obtain ⟨r, cluster⟩ := e
    have fresh := (List.nodup_cons.mp (gather_isOk_iff.mp ⟨m', h⟩).1).1
    unfold gather at h
    split at h
    · cases h
    · rw [ih h, TextMap.get?_insert, TextMap.lookup_cons]
      by_cases same : region = r
      · subst same
        have none : l.lookup region = none := by
          refine List.lookup_eq_none_iff.mpr fun e mem => bne_iff_ne.mpr fun same => fresh ?_
          exact List.mem_map.mpr ⟨e, mem, same.symm⟩
        simp [none]
      · simp [same]

theorem ofClusters_isOk_iff {l : List (String × κ)} :
    (∃ f, ofClusters l = .ok f) ↔ l ≠ [] ∧ (l.map Prod.fst).Nodup := by
  unfold ofClusters
  cases l with
  | nil => simp
  | cons e l =>
    have empty (region : String) : (∅ : TextMap κ).contains region = false := rfl
    have gathers := gather_isOk_iff (l := e :: l) (m := (∅ : TextMap κ))
    simp only [empty, implies_true, and_true] at gathers
    rw [List.isEmpty_cons, if_neg Bool.false_ne_true, ← gathers]
    cases gather (e :: l) ∅ <;> simp [Except.map]

theorem get_ofClusters {l : List (String × κ)} {f : Fleet κ} (h : ofClusters l = .ok f) (region : String) :
    f.clusters.get? region = l.lookup region := by
  unfold ofClusters at h
  split at h
  · cases h
  · cases gathered : gather l ∅ with
    | error e =>
      rw [gathered] at h
      cases h
    | ok m =>
      rw [gathered] at h
      cases h
      rw [get?_gather gathered]
      exact Option.or_none

theorem get_eq_ok_iff {f : Fleet κ} {region : String} {cluster : κ} :
    f.get region = .ok cluster ↔ f.clusters.get? region = some cluster := by
  unfold get
  cases f.clusters.get? region <;> simp

/-- The regions are those under which there is a cluster. -/
theorem mem_regions_iff {f : Fleet κ} {region : String} :
    region ∈ f.regions ↔ ∃ cluster, f.get region = .ok cluster := by
  unfold regions
  rw [f.clusters.mem_keys_iff, TextMap.contains, Option.isSome_iff_exists]
  simp only [get_eq_ok_iff]

/-- Regions are listed in the order of their bytes, each once. -/
theorem regions_rising (f : Fleet κ) : (f.regions.map Text.bytes).Pairwise (· < ·) := by
  unfold regions TextMap.keys
  rw [List.map_map]
  exact List.pairwise_map.mpr (f.clusters.sorted.imp fun lt => Text.bytes_lt_iff.mpr lt)

theorem lookup_map_snd (g : κ → μ) (l : List (String × κ)) (region : String) :
    (l.map fun e => (e.1, g e.2)).lookup region = (l.lookup region).map g := by
  induction l with
  | nil => rfl
  | cons e l ih =>
    rw [List.map_cons, TextMap.lookup_cons, TextMap.lookup_cons, ih]
    split <;> rfl

theorem get_map (g : κ → μ) (f : Fleet κ) (region : String) : (f.map g).get region = (f.get region).map g := by
  have found : (f.map g).clusters.get? region = (f.clusters.get? region).map g := lookup_map_snd g _ _
  unfold get
  rw [found]
  cases f.clusters.get? region <;> rfl

/-- What the clusters let the driver do. -/
def access (f : Fleet Client) : Fleet ClusterAccess :=
  f.map fun client => ⟨client.credentials.isLogin⟩

end Fleet

/-! ## The fleet of a configuration -/

/-- A list is gone through without a failure if no item has one. -/
theorem mapM_eq_ok_iff {α β ε : Type} {f : α → Except ε β} {l : List α} {bs : List β} :
    l.mapM f = .ok bs ↔ List.Forall₂ (fun a b => f a = .ok b) l bs := by
  induction l generalizing bs with
  | nil => cases bs <;> simp [pure, Except.pure]
  | cons a l ih =>
    rw [List.mapM_cons]
    cases first : f a with
    | error e => cases bs <;> simp [bind, Except.bind, first]
    | ok b =>
      cases rest : l.mapM f with
      | error e => cases bs <;> simp [bind, Except.bind, first, rest, ← ih]
      | ok more => cases bs <;> simp [bind, Except.bind, pure, Except.pure, first, rest, ← ih]

theorem exists_forall₂_iff {α β : Type} {R : α → β → Prop} {l : List α} :
    (∃ bs, List.Forall₂ R l bs) ↔ ∀ a ∈ l, ∃ b, R a b := by
  induction l with
  | nil => simp
  | cons a l ih =>
    rw [List.forall_mem_cons, ← ih]
    constructor
    · rintro ⟨_, _ | ⟨first, rest⟩⟩
      exact ⟨⟨_, first⟩, _, rest⟩
    · rintro ⟨⟨b, first⟩, bs, rest⟩
      exact ⟨b :: bs, .cons first rest⟩

namespace Configuration

section

variable {files : FileTree} {settings : List ClusterSettings} {clients : List Client}

/-- The clients are those of the clusters, one of each and in their order. -/
def Built (files : FileTree) (settings : List ClusterSettings) (clients : List Client) : Prop :=
  List.Forall₂ (fun s client => s.client files = .ok client) settings clients

/-- Clients by their regions. -/
def byRegion (clients : List Client) : List (String × Client) :=
  clients.map fun client => (client.region, client)

/-- The clients of some clusters are under their regions, -/
theorem regions_byRegion (built : Built files settings clients) :
    (byRegion clients).map Prod.fst = settings.map (·.region) := by
  induction built with
  | nil => rfl
  | cons first _ ih => exact congrArg₂ _ (ClusterSettings.client_region first) ih

/-- and the first one of a region is that of the first cluster that is configured for it. -/
theorem lookup_byRegion (built : Built files settings clients)
    (region : String) (client : Client) : (byRegion clients).lookup region = some client ↔
      ∃ s, settings.find? (fun s => s.region = region) = some s ∧ s.client files = .ok client := by
  induction built with
  | nil => simp [byRegion]
  | @cons s first settings clients hfirst _ ih =>
    have here := ClusterSettings.client_region hfirst
    rw [byRegion, List.map_cons, TextMap.lookup_cons, List.find?_cons]
    by_cases same : region = s.region
    · simp [same, here, hfirst]
    · simp only [here, if_neg same, decide_eq_false (Ne.symm same)]
      exact ih

/-- A fleet is made of the clients of all clusters. -/
theorem fleet_eq_ok_iff {c : Configuration} {f : Fleet Client} : c.fleet files = .ok f ↔ ∃ clients,
    Built files c.clusters clients ∧ Fleet.ofClusters (byRegion clients) = .ok f := by
  unfold fleet Built
  simp only [← mapM_eq_ok_iff]
  cases c.clusters.mapM (ClusterSettings.client files) with
  | error e => simp [bind, Except.bind]
  | ok clients => simp [bind, Except.bind, byRegion]

theorem fleet_isOk_iff {c : Configuration} : (∃ f, c.fleet files = .ok f) ↔
    c.clusters ≠ [] ∧ (∀ s ∈ c.clusters, s.url ≠ "" ∧ ∃ credentials, s.UsedWith files credentials) ∧
      (c.clusters.map (·.region)).Nodup := by
  simp only [← ClusterSettings.client_isOk_iff, ← exists_forall₂_iff, fleet_eq_ok_iff]
  have nonempty {clients : List Client}
      (built : Built files c.clusters clients) :
      byRegion clients ≠ [] ↔ c.clusters ≠ [] := by
    rw [ne_eq, ne_eq, ← List.map_eq_nil_iff (f := Prod.fst), regions_byRegion built, List.map_eq_nil_iff]
  constructor
  · rintro ⟨f, clients, built, made⟩
    obtain ⟨some, nodup⟩ := Fleet.ofClusters_isOk_iff.mp ⟨f, made⟩
    exact ⟨(nonempty built).mp some, ⟨clients, built⟩, regions_byRegion built ▸ nodup⟩
  · rintro ⟨some, ⟨clients, built⟩, nodup⟩
    have fits := Fleet.ofClusters_isOk_iff.mpr ⟨(nonempty built).mpr some, (regions_byRegion built).symm ▸ nodup⟩
    obtain ⟨f, made⟩ := fits
    exact ⟨f, clients, built, made⟩

/-- A fleet and the configuration that it was made of tell the same.
- `rising`, `regions`: the regions are the configured ones in the order of their bytes, each once;
- `get`: the cluster of a region is the client of the very entry that is configured for it;
- `known`: so it is found exactly where an entry is;
- `privileged`: and the driver logs in to it exactly if it does by that entry. -/
structure Agrees (files : FileTree) (c : Configuration) (f : Fleet Client) : Prop where
  rising : (f.regions.map Text.bytes).Pairwise (· < ·)
  regions : ∀ region, region ∈ f.regions ↔ ∃ s ∈ c.clusters, s.region = region
  get : ∀ region client, f.get region = .ok client ↔ ∃ s, c.get? region = some s ∧ s.client files = .ok client
  known : ∀ region, (∃ client, f.get region = .ok client) ↔ ∃ s, c.get? region = some s
  privileged : ∀ region s, c.get? region = some s → f.access.isPrivileged region = .ok (s.isPrivileged files)

theorem agrees_of_fleet {c : Configuration} {f : Fleet Client} (made : c.fleet files = .ok f) : Agrees files c f := by
  obtain ⟨clients, built, gathered⟩ := fleet_eq_ok_iff.mp made
  obtain ⟨-, usable, -⟩ := fleet_isOk_iff.mp ⟨f, made⟩
  have get (region : String) (client : Client) :
      f.get region = .ok client ↔ ∃ s, c.get? region = some s ∧ s.client files = .ok client := by
    rw [Fleet.get_eq_ok_iff, Fleet.get_ofClusters gathered, lookup_byRegion built]
    rfl
  -- every entry has its client, so one is found where an entry is
  have client_of {region : String} {s : ClusterSettings} (entry : c.get? region = some s) :
      ∃ client, s.client files = .ok client :=
    ClusterSettings.client_isOk_iff.mpr (usable s (List.mem_of_find?_eq_some entry))
  have known (region : String) : (∃ client, f.get region = .ok client) ↔ ∃ s, c.get? region = some s := by
    simp only [get]
    constructor
    · rintro ⟨client, s, entry, -⟩
      exact ⟨s, entry⟩
    · rintro ⟨s, entry⟩
      obtain ⟨client, built⟩ := client_of entry
      exact ⟨client, s, entry, built⟩
  refine ⟨f.regions_rising, fun region => ?_, get, known, fun region s entry => ?_⟩
  · rw [Fleet.mem_regions_iff, known, ← Option.isSome_iff_exists, Configuration.get?, List.find?_isSome]
    simp only [decide_eq_true_eq]
  · obtain ⟨client, built⟩ := client_of entry
    have found : f.get region = .ok client := (get region client).mpr ⟨s, entry, built⟩
    unfold Fleet.isPrivileged Fleet.access
    rw [Fleet.get_map, found]
    exact congrArg Except.ok (ClusterSettings.isLogin_eq_isPrivileged built)

/-- **Fleet and configuration agree.** A fleet can be made of a configuration exactly if it has entries, each of them a
url and usable credentials, and no two of them one region; it tells the same as the configuration then. What is kept of
a cluster is what its entry says, and the driver logs in to it exactly if a username and a password are given there,
whatever is said of a token. -/
theorem fleet_agrees (files : FileTree) (c : Configuration) :
    ((∃ f, c.fleet files = .ok f) ↔
      c.clusters ≠ [] ∧ (∀ s ∈ c.clusters, s.url ≠ "" ∧ ∃ credentials, s.UsedWith files credentials) ∧
        (c.clusters.map (·.region)).Nodup) ∧
    (∀ f, c.fleet files = .ok f → Agrees files c f) ∧
    (∀ (s : ClusterSettings) (client : Client), s.client files = .ok client ↔
      s.url ≠ "" ∧ s.UsedWith files client.credentials ∧ client.region = s.region ∧ client.address = s.address) ∧
    ∀ s : ClusterSettings, s.isPrivileged files = true ↔
      ∃ username password, IsGiven s.username username ∧ IsGiven s.password password := by
  refine ⟨fleet_isOk_iff, fun f made => agrees_of_fleet made, fun s client => ?_, fun s => ?_⟩
  · exact ClusterSettings.client_eq_ok_iff
  · exact ClusterSettings.isPrivileged_iff

end

/-! ### Two clusters -/

namespace TwoClusters

/-- One cluster with a login, beside which a token is named whose secret is in no file, and one with a token. -/
def configuration : Configuration where
  clusters :=
    [ { url := "https://b.example/", region := "r2", username := some "root@pam", password := some "pw",
        tokenId := some "root@pam!csi", tokenSecretFile := some "/secret" },
      { url := "https://a.example", region := "r1", tokenId := some "root@pam!csi", tokenSecret := some "s3cret" } ]

def fleet : Fleet Client :=
  ⟨((∅ : TextMap Client).insert "r2" ⟨"r2", "https://b.example", .password "root@pam" "pw"⟩).insert "r1"
    ⟨"r1", "https://a.example", .token "root@pam!csi" "s3cret"⟩⟩

end TwoClusters

/-- Two clusters are told apart by their regions, whose order is not that of the configuration. -/
theorem fleet_agrees_two :
    TwoClusters.configuration.fleet .empty = .ok TwoClusters.fleet ∧
      Agrees .empty TwoClusters.configuration TwoClusters.fleet ∧
      TwoClusters.fleet.regions = ["r1", "r2"] ∧
      TwoClusters.fleet.access.isPrivileged "r2" = .ok true := by
  have made : TwoClusters.configuration.fleet .empty = .ok TwoClusters.fleet := by rfl
  obtain ⟨-, agrees, -, -⟩ := fleet_agrees .empty TwoClusters.configuration
  exact ⟨made, agrees _ made, by rfl, by rfl⟩

end Configuration

end ClusterVolumes
