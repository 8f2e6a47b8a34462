import ClusterVolumes.Mount.Tools
import ClusterVolumes.Proofs.Runs
import ClusterVolumes.Proofs.Text.Decimal

/-!
# Making file systems on empty disks only

A device that is to be mounted is probed first, and a file system is made on it only if the probe says that there is
none. `Prepares` lists the ways of this, with the programs that are run in each one and how they end, and
`formatAndMount_ways` finds every run among them, part by part. What this tells of the data on the device is
`formatAndMount_sparing`.
-/

namespace ClusterVolumes.Mount

open Program (Exchange anyAnswers)

/-- The exchanges with a host so far, the latest first. -/
abbrev HostHistory : Type := List (Exchange tools)

/-! ## How programs end -/

/-- The program was started and ended well. -/
def Succeeded (x : Except SystemFailure ToolOutcome) : Prop :=
  ∃ o, x = .ok o ∧ o.code = some 0

/-- The probe found no file system: it ended with code 2, or it ended well and printed nothing but blanks. -/
def FoundNone (x : Except SystemFailure ToolOutcome) : Prop :=
  ∃ o, x = .ok o ∧ (o.code = some 2 ∨ o.code = some 0 ∧ ∀ c ∈ o.output.toList, Text.isBlank c = true)

/-- The probe found a file system: it ended well and printed a type. -/
def FoundOne (x : Except SystemFailure ToolOutcome) : Prop :=
  ∃ o, x = .ok o ∧ o.code = some 0 ∧ ∃ c ∈ o.output.toList, Text.isBlank c = false

/-! ## Which programs are run -/

/-- Probing a device for a file system. -/
def probing (device : String) : ToolCall :=
  .run "blkid" ["-p", "-s", "TYPE", "-o", "value", device]

/-- Making a file system on a device, by force if it is one of the ext family. -/
def making (device fsType : String) (arguments : List String) : ToolCall :=
  .run ("mkfs." ++ fsType) ((if "ext".toList <+: fsType.toList then ["-F"] else []) ++ arguments ++ [device])

/-- Mounting a device at a path, with a type and options if there are any. -/
def mounting (source target fsType : String) (options : List String) : ToolCall :=
  .run "mount" ((if fsType = "" then [] else ["-t", fsType]) ++
    (if ",".intercalate options = "" then [] else ["-o", ",".intercalate options]) ++ [source, target])

/-- Does the call look for a file system? -/
def ToolCall.probes : ToolCall → Bool
  | .run program _ => program = "blkid"
  | _ => false

/-- Does the call make a file system? -/
def ToolCall.formats : ToolCall → Bool
  | .run program _ => "mkfs.".toList.isPrefixOf program.toList
  | _ => false

/-- Does the call mount anything? -/
def ToolCall.mounts : ToolCall → Bool
  | .run program _ => program = "mount"
  | _ => false

/-- The ways of making a device ready and mounting it: how it ends, and which programs were run. -/
inductive Prepares (source target fsType : String) (options arguments : List String) :
    Except Failure Unit → HostHistory → Prop
  | unclear {f : Failure} {x : Except SystemFailure ToolOutcome} (notNone : ¬FoundNone x) (notOne : ¬FoundOne x) :
      Prepares source target fsType options arguments (.error f) [⟨probing source, x⟩]
  | kept {outcome : Except Failure Unit} {x y : Except SystemFailure ToolOutcome} (found : FoundOne x)
      (ends : outcome = .ok () ↔ Succeeded y) :
      Prepares source target fsType options arguments outcome
        [⟨mounting source target fsType options, y⟩, ⟨probing source, x⟩]
  | unmade {f : Failure} {x y : Except SystemFailure ToolOutcome} (none : FoundNone x) (failed : ¬Succeeded y) :
      Prepares source target fsType options arguments (.error f)
        [⟨making source fsType arguments, y⟩, ⟨probing source, x⟩]
  | made {outcome : Except Failure Unit} {x y z : Except SystemFailure ToolOutcome} (none : FoundNone x)
      (succeeded : Succeeded y) (ends : outcome = .ok () ↔ Succeeded z) :
      Prepares source target fsType options arguments outcome
        [⟨mounting source target fsType options, z⟩, ⟨making source fsType arguments, y⟩, ⟨probing source, x⟩]

/-! ## Programs of a host -/

section

variable {program path device source target fsType : String} {arguments options : List String}
  {past now : HostHistory}

/-- To run a program is one exchange; what it prints is trimmed. -/
theorem start_runsTo {outcome : Except Failure ToolOutcome}
    (run : (start program arguments).run.RunsTo anyAnswers past outcome now) :
    ∃ x : Except SystemFailure ToolOutcome, now = ⟨.run program arguments, x⟩ :: past ∧
      ((∃ o, x = .ok o ∧ outcome = .ok { o with output := Text.trim o.output, complaint := Text.trim o.complaint }) ∨
        ∃ e f, x = .error e ∧ outcome = .error f) := by
  obtain ⟨x, _, rfl, rest⟩ := Program.runsTo_ask.mp run
  refine ⟨x, ?_⟩
  cases x with
  | error e =>
    obtain ⟨rfl, rfl⟩ := Program.runsTo_done.mp rest
    exact ⟨rfl, .inr ⟨e, _, rfl, rfl⟩⟩
  | ok o =>
    obtain ⟨rfl, rfl⟩ := Program.runsTo_done.mp rest
    exact ⟨rfl, .inl ⟨o, rfl, rfl⟩⟩

/-- To run a program that must end well is one exchange, and it goes well exactly if the program did. -/
theorem succeed_runsTo {outcome : Except Failure String}
    (run : (succeed program arguments path).run.RunsTo anyAnswers past outcome now) :
    ∃ x, now = ⟨.run program arguments, x⟩ :: past ∧
      (Succeeded x ∧ (∃ text, outcome = .ok text) ∨ ¬Succeeded x ∧ ∃ f, outcome = .error f) := by
  rcases Program.runsTo_exceptBind.mp run with ⟨o, u, started, rest⟩ | ⟨f, rfl, unstarted⟩
  · obtain ⟨x, rfl, ⟨o', rfl, same⟩ | ⟨e, f, rfl, impossible⟩⟩ := start_runsTo started
    · cases same
      refine ⟨.ok o', ?_⟩
      by_cases code : o'.code = some 0
      · rw [if_pos (by simpa [ToolOutcome.isSuccess] using code)] at rest
        obtain ⟨rfl, rfl⟩ := Program.runsTo_done.mp rest
        exact ⟨rfl, .inl ⟨⟨o', rfl, code⟩, _, rfl⟩⟩
      · rw [if_neg (by simpa [ToolOutcome.isSuccess] using code)] at rest
        obtain ⟨rfl, rfl⟩ := Program.runsTo_done.mp rest
        refine ⟨rfl, .inr ⟨?_, _, rfl⟩⟩
        rintro ⟨_, ⟨⟩, well⟩
        exact code well
    · cases impossible
  · obtain ⟨x, rfl, ⟨o, rfl, impossible⟩ | ⟨e, _, rfl, same⟩⟩ := start_runsTo unstarted
    · cases impossible
    · refine ⟨.error e, rfl, .inr ⟨?_, f, rfl⟩⟩
      rintro ⟨_, ⟨⟩, _⟩

/-- The end of a call that goes well exactly if its program did. -/
theorem ok_iff_of_ends {outcome : Except Failure Unit} {x : Except SystemFailure ToolOutcome}
    (ends : Succeeded x ∧ outcome = .ok () ∨ ¬Succeeded x ∧ ∃ f, outcome = .error f) :
    outcome = .ok () ↔ Succeeded x := by
  rcases ends with ⟨well, rfl⟩ | ⟨ill, f, rfl⟩
  · exact ⟨fun _ => well, fun _ => rfl⟩
  · exact ⟨nofun, fun well => absurd well ill⟩

/-- A program whose output does not matter. -/
theorem succeed_unit_runsTo {outcome : Except Failure Unit}
    (run : (do let _ ← succeed program arguments path : ToolUse Unit).run.RunsTo anyAnswers past outcome now) :
    ∃ x, now = ⟨.run program arguments, x⟩ :: past ∧
      (Succeeded x ∧ outcome = .ok () ∨ ¬Succeeded x ∧ ∃ f, outcome = .error f) := by
  rcases Program.runsTo_exceptBind.mp run with ⟨_, u, started, rest⟩ | ⟨f, rfl, failed⟩
  · obtain ⟨rfl, rfl⟩ := Program.runsTo_done.mp rest
    obtain ⟨x, rfl, ⟨well, -⟩ | ⟨-, f, impossible⟩⟩ := succeed_runsTo started
    · exact ⟨x, rfl, .inl ⟨well, rfl⟩⟩
    · cases impossible
  · obtain ⟨x, rfl, ⟨-, text, impossible⟩ | ⟨ill, -⟩⟩ := succeed_runsTo failed
    · cases impossible
    · exact ⟨x, rfl, .inr ⟨ill, f, rfl⟩⟩

/-- To look for a file system is to probe the device. -/
theorem fileSystemOn_runsTo {outcome : Except Failure (Option String)}
    (run : (fileSystemOn device).run.RunsTo anyAnswers past outcome now) :
    ∃ x, now = ⟨probing device, x⟩ :: past ∧
      (FoundNone x ∧ outcome = .ok none ∨ FoundOne x ∧ (∃ text, outcome = .ok (some text)) ∨
        (¬FoundNone x ∧ ¬FoundOne x) ∧ ∃ f, outcome = .error f) := by
  rcases Program.runsTo_exceptBind.mp run with ⟨_, u, started, rest⟩ | ⟨f, rfl, unstarted⟩
  · obtain ⟨x, rfl, ⟨o, rfl, same⟩ | ⟨e, f, rfl, impossible⟩⟩ := start_runsTo started
    · cases same
      refine ⟨.ok o, ?_⟩
      dsimp only at rest
      split at rest
      · rename_i well
        obtain ⟨rfl, rfl⟩ := Program.runsTo_done.mp rest
        refine ⟨rfl, ?_⟩
        by_cases blank : ∀ c ∈ o.output.toList, Text.isBlank c = true
        · rw [if_pos (Text.isEmpty_trim_iff.mpr blank)]
          exact .inl ⟨⟨o, rfl, .inr ⟨well, blank⟩⟩, rfl⟩
        · rw [if_neg (mt Text.isEmpty_trim_iff.mp blank)]
          exact .inr (.inl ⟨⟨o, rfl, well, by simpa using blank⟩, _, rfl⟩)
      · rename_i nothing
        obtain ⟨rfl, rfl⟩ := Program.runsTo_done.mp rest
        exact ⟨rfl, .inl ⟨⟨o, rfl, .inl nothing⟩, rfl⟩⟩
      · rename_i notWell notNothing
        obtain ⟨rfl, rfl⟩ := Program.runsTo_done.mp rest
        refine ⟨rfl, .inr (.inr ⟨⟨?_, ?_⟩, _, rfl⟩)⟩
        · rintro ⟨_, ⟨⟩, nothing | ⟨well, -⟩⟩
          · exact notNothing nothing
          · exact notWell well
        · rintro ⟨_, ⟨⟩, well, -⟩
          exact notWell well
    · cases impossible
  · obtain ⟨x, rfl, ⟨o, rfl, impossible⟩ | ⟨e, _, rfl, same⟩⟩ := start_runsTo unstarted
    · cases impossible
    · refine ⟨.error e, rfl, .inr (.inr ⟨⟨?_, ?_⟩, f, rfl⟩)⟩
      · rintro ⟨_, ⟨⟩, _⟩
      · rintro ⟨_, ⟨⟩, _⟩

/-- To make a file system is one exchange. -/
theorem makeFileSystem_runsTo {outcome : Except Failure Unit}
    (run : (makeFileSystem device fsType arguments).run.RunsTo anyAnswers past outcome now) :
    ∃ x, now = ⟨making device fsType arguments, x⟩ :: past ∧
      (Succeeded x ∧ outcome = .ok () ∨ ¬Succeeded x ∧ ∃ f, outcome = .error f) := by
  have force : (if (Text.dropStart? "ext".toList fsType.toList).isSome = true then ["-F"] else []) =
      if "ext".toList <+: fsType.toList then ["-F"] else [] := by
    refine if_congr ?_ rfl rfl
    rw [← not_iff_not, Bool.not_eq_true, Option.isSome_eq_false_iff, Text.isNone_dropStart?_iff]
  unfold makeFileSystem at run
  dsimp only at run
  rw [force] at run
  exact succeed_unit_runsTo run

/-- To mount is one exchange. -/
theorem mount_runsTo {outcome : Except Failure Unit}
    (run : (mount source target (some fsType) options).run.RunsTo anyAnswers past outcome now) :
    ∃ x, now = ⟨mounting source target fsType options, x⟩ :: past ∧
      (Succeeded x ∧ outcome = .ok () ∨ ¬Succeeded x ∧ ∃ f, outcome = .error f) := by
  have arguments : optionWith "-t" ((some fsType).getD "") ++ optionWith "-o" (Text.joinWith "," options) ++
      [source, target] = (if fsType = "" then [] else ["-t", fsType]) ++
        (if ",".intercalate options = "" then [] else ["-o", ",".intercalate options]) ++ [source, target] := by
    simp [optionWith, Text.joinWith_eq_intercalate, String.isEmpty_iff]
  unfold mount at run
  dsimp only at run
  rw [arguments] at run
  exact succeed_unit_runsTo run

/-- Every run is one of the ways. -/
theorem formatAndMount_ways {outcome : Except Failure Unit} {made : HostHistory}
    (run : (formatAndMount source target fsType options arguments).run.RunsTo anyAnswers [] outcome made) :
    Prepares source target fsType options arguments outcome made := by
  rcases Program.runsTo_exceptBind.mp run with ⟨found, _, probed, rest⟩ | ⟨f, rfl, unclear⟩
  · obtain ⟨x, rfl, ⟨none, same⟩ | ⟨one, text, same⟩ | ⟨-, f, impossible⟩⟩ := fileSystemOn_runsTo probed
    · cases same
      rcases Program.runsTo_exceptBind.mp rest with ⟨_, _, formatted, rest⟩ | ⟨f, rfl, failed⟩
      · obtain ⟨y, rfl, ⟨succeeded, -⟩ | ⟨-, f, impossible⟩⟩ := makeFileSystem_runsTo formatted
        · obtain ⟨z, rfl, ends⟩ := mount_runsTo rest
          exact .made none succeeded (ok_iff_of_ends ends)
        · cases impossible
      · obtain ⟨y, rfl, ⟨-, impossible⟩ | ⟨ill, -⟩⟩ := makeFileSystem_runsTo failed
        · cases impossible
        · exact .unmade none ill
    · cases same
      obtain ⟨y, rfl, ends⟩ := mount_runsTo rest
      exact .kept one (ok_iff_of_ends ends)
    · cases impossible
  · obtain ⟨x, rfl, ⟨-, impossible⟩ | ⟨-, text, impossible⟩ | ⟨⟨notNone, notOne⟩, -⟩⟩ := fileSystemOn_runsTo unclear
    · cases impossible
    · cases impossible
    · exact .unclear notNone notOne

end

/-! ## What is told of the data on a device -/

section

variable {device source target fsType : String} {options arguments : List String}

@[simp] theorem probes_probing : (probing device).probes = true := rfl

@[simp] theorem probes_mounting : (mounting source target fsType options).probes = false := rfl

/-- A program that makes file systems is told from the others by its name. -/
theorem maker_ne {program : String} (other : ¬"mkfs.".toList <+: program.toList) : "mkfs." ++ fsType ≠ program := by
  rintro rfl
  refine other ?_
  rw [String.toList_append]
  exact List.prefix_append _ _

@[simp] theorem probes_making : (making device fsType arguments).probes = false := by
  have other : "mkfs." ++ fsType ≠ "blkid" := maker_ne (by decide)
  simpa [making, ToolCall.probes] using other

@[simp] theorem formats_probing : (probing device).formats = false := rfl

@[simp] theorem mounts_probing : (probing device).mounts = false := rfl

@[simp] theorem formats_mounting : (mounting source target fsType options).formats = false := rfl

@[simp] theorem mounts_mounting : (mounting source target fsType options).mounts = true := rfl

@[simp] theorem formats_making : (making device fsType arguments).formats = true := by
  simp [making, ToolCall.formats]

@[simp] theorem mounts_making : (making device fsType arguments).mounts = false := by
  have other : "mkfs." ++ fsType ≠ "mount" := maker_ne (by decide)
  simpa [making, ToolCall.mounts] using other

/-- The device is probed first and never again. -/
theorem Prepares.probes {outcome : Except Failure Unit} {made : HostHistory}
    (way : Prepares source target fsType options arguments outcome made) :
    ∃ later x, made = later ++ [⟨probing source, x⟩] ∧ ∀ e ∈ later, ToolCall.probes e.request = false := by
  cases way with
  | unclear _ _ => exact ⟨[], _, rfl, by simp⟩
  | kept _ _ => exact ⟨[_], _, rfl, by simp⟩
  | unmade _ _ => exact ⟨[_], _, rfl, by simp⟩
  | made _ _ _ => exact ⟨[_, _], _, rfl, by simp⟩

/-- Either nothing is formatted, or the device right after the probe, which found it empty. -/
theorem Prepares.formats {outcome : Except Failure Unit} {made : HostHistory}
    (way : Prepares source target fsType options arguments outcome made) :
    (∀ e ∈ made, ToolCall.formats e.request = false) ∨
      ∃ later x y, made = later ++ ⟨making source fsType arguments, y⟩ :: [⟨probing source, x⟩] ∧ FoundNone x ∧
        ∀ e ∈ later, ToolCall.formats e.request = false := by
  cases way with
  | unclear _ _ => exact .inl (by simp)
  | kept _ _ => exact .inl (by simp)
  | unmade none _ => exact .inr ⟨[], _, _, rfl, none, by simp⟩
  | made none _ _ => exact .inr ⟨[_], _, _, rfl, none, by simp⟩

/-- Either nothing is mounted, or the device at the end, when it is known to hold a file system. -/
theorem Prepares.mounts {outcome : Except Failure Unit} {made : HostHistory}
    (way : Prepares source target fsType options arguments outcome made) :
    ((∀ e ∈ made, ToolCall.mounts e.request = false) ∧ ∃ f, outcome = .error f) ∨
      ∃ before z, made = ⟨mounting source target fsType options, z⟩ :: before ∧ (outcome = .ok () ↔ Succeeded z) ∧
        (∀ e ∈ before, ToolCall.mounts e.request = false) ∧
        ((∃ x, FoundOne x ∧ before = [⟨probing source, x⟩]) ∨
          ∃ x y, FoundNone x ∧ Succeeded y ∧ before = [⟨making source fsType arguments, y⟩, ⟨probing source, x⟩]) := by
  cases way with
  | @unclear f _ _ _ => exact .inl ⟨by simp, f, rfl⟩
  | kept one ends => exact .inr ⟨_, _, rfl, ends, by simp, .inl ⟨_, one, rfl⟩⟩
  | @unmade f _ _ _ _ => exact .inl ⟨by simp, f, rfl⟩
  | made none succeeded ends => exact .inr ⟨_, _, rfl, ends, by simp, .inr ⟨_, _, none, succeeded, rfl⟩⟩

/-- A device is formatted once at most and only after a probe found it empty, and it is mounted only if it holds a file
system. -/
structure SparesData (source target fsType : String) (options arguments : List String)
    (outcome : Except Failure Unit) (made : HostHistory) : Prop where
  way : Prepares source target fsType options arguments outcome made
  once : (made.filter fun e => ToolCall.formats e.request).length ≤ 1
  formatted : ∀ later e earlier, made = later ++ e :: earlier → ToolCall.formats e.request = true →
    e.request = making source fsType arguments ∧ ∃ x, FoundNone x ∧ earlier = [⟨probing source, x⟩]
  spared : ∀ x, ⟨probing source, x⟩ ∈ made → ¬FoundNone x → ∀ e ∈ made, ToolCall.formats e.request = false
  mounted : ∀ later e earlier, made = later ++ e :: earlier → ToolCall.mounts e.request = true →
    e.request = mounting source target fsType options ∧
      ((∃ x, FoundOne x ∧ earlier = [⟨probing source, x⟩]) ∨
        ∃ x y, FoundNone x ∧ Succeeded y ∧ earlier = [⟨making source fsType arguments, y⟩, ⟨probing source, x⟩])
  ok_iff : outcome = .ok () ↔ ∃ x, ⟨mounting source target fsType options, x⟩ ∈ made ∧ Succeeded x

/-- In each of its ways a run spares the data on the device. -/
theorem Prepares.sparesData {outcome : Except Failure Unit} {made : HostHistory}
    (way : Prepares source target fsType options arguments outcome made) :
    SparesData source target fsType options arguments outcome made where
  way := way
  once := by cases way <;> simp
  formatted := by
    intro later e earlier split formats
    rcases way.formats with calm | ⟨later', x, y, rfl, none, calm⟩
    · rw [calm e (by simp [split])] at formats
      cases formats
    · obtain ⟨rfl, rfl⟩ := Program.eq_of_alone calm (by simp) split formats
      exact ⟨rfl, x, none, rfl⟩
  spared := by
    intro x mem notNone
    rcases way.formats with calm | ⟨later, x', y, split, none, -⟩
    · exact calm
    · obtain ⟨others, z, last, unprobed⟩ := way.probes
      obtain ⟨after, before, found⟩ := List.append_of_mem mem
      rw [List.append_cons, last] at split
      obtain ⟨same, -⟩ := Program.eq_of_alone unprobed (by simp) split probes_probing
      obtain ⟨same', -⟩ := Program.eq_of_alone unprobed (by simp) (last.symm.trans found) probes_probing
      cases same
      cases same'
      exact absurd none notNone
  mounted := by
    intro later e earlier split mounts
    rcases way.mounts with ⟨calm, -⟩ | ⟨before, z, rfl, -, calm, ready⟩
    · rw [calm e (by simp [split])] at mounts
      cases mounts
    · have nothing : ∀ x ∈ ([] : HostHistory), ToolCall.mounts x.request = false := by simp
      obtain ⟨rfl, rfl⟩ := Program.eq_of_alone nothing calm split mounts
      exact ⟨rfl, ready⟩
  ok_iff := by
    rcases way.mounts with ⟨calm, f, rfl⟩ | ⟨before, z, rfl, ends, calm, -⟩
    · refine ⟨nofun, ?_⟩
      rintro ⟨x, mem, -⟩
      have quiet := calm _ mem
      rw [mounts_mounting] at quiet
      cases quiet
    · refine ends.trans ⟨fun well => ⟨z, List.mem_cons_self, well⟩, ?_⟩
      rintro ⟨x, mem, well⟩
      rcases List.mem_cons.mp mem with same | mem
      · cases same
        exact well
      · have quiet := calm _ mem
        rw [mounts_mounting] at quiet
        cases quiet

/-- **No data is formatted over.** However the programs of a host end, or if they do not start, a file system is made once
at most, on the device that was to be mounted and by one command. Before that the same device was probed, and the probe
found no file system: it ended with code 2, or it ended well with nothing but blanks. The device is then mounted, by one
command, only if the probe found a file system or one was made; and the whole goes well exactly if the mount did. -/
theorem formatAndMount_sparing (source target fsType : String) (options arguments : List String)
    (outcome : Except Failure Unit) (made : HostHistory)
    (run : (formatAndMount source target fsType options arguments).run.RunsTo anyAnswers [] outcome made) :
    SparesData source target fsType options arguments outcome made :=
  (formatAndMount_ways run).sparesData

end

/-! ### An empty disk -/

namespace EmptyDisk

/-- The probe finds nothing, a file system is made by force, and the disk is mounted. -/
def made : HostHistory :=
  [⟨mounting "/dev/sdb" "/pod" "ext4" ["ro", "noatime"], .ok {}⟩, ⟨making "/dev/sdb" "ext4" ["-m0"], .ok {}⟩,
    ⟨probing "/dev/sdb", .ok { code := some 2 }⟩]

theorem runs : (formatAndMount "/dev/sdb" "/pod" "ext4" ["ro", "noatime"] ["-m0"]).run.RunsTo anyAnswers [] (.ok ())
    made := by
  refine .ask (.ok { code := some 2 }) rfl (.ask (.ok {}) rfl (.ask (.ok {}) ?_ (.done _ _)))
  rfl

end EmptyDisk

/-- The disk that was formatted and mounted is one that was found empty. -/
theorem formatAndMount_sparing_emptyDisk :
    (formatAndMount "/dev/sdb" "/pod" "ext4" ["ro", "noatime"] ["-m0"]).run.RunsTo anyAnswers [] (.ok ()) EmptyDisk.made ∧
      SparesData "/dev/sdb" "/pod" "ext4" ["ro", "noatime"] ["-m0"] (.ok ()) EmptyDisk.made :=
  ⟨EmptyDisk.runs, formatAndMount_sparing _ _ _ _ _ _ _ EmptyDisk.runs⟩

end ClusterVolumes.Mount
