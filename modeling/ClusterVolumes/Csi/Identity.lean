import ClusterVolumes.Csi.Message

/-!
# The driver as it presents itself

Its name and version, and what it can do as a whole: it manages volumes of a cluster only where it
has clusters.
-/

namespace ClusterVolumes.Csi

/-- The name and version of the driver. -/
structure DriverInfo where
  name : String := "csi.pve.billyronks.io"
  version : String := "0.2.0"
  deriving DecidableEq, Repr

namespace DriverInfo

/-- The name and version as an answer. -/
def pluginInfo (d : DriverInfo) : GetPluginInfoResponse :=
  { name := d.name, vendorVersion := d.version }

end DriverInfo

/-- What the driver can do, with or without clusters of its own. -/
def pluginCapabilities (hasClusters : Bool) : List PluginCapability :=
  (if hasClusters then [.controllerService] else []) ++
    [.volumeAccessibilityConstraints, .expandOnline]

end ClusterVolumes.Csi
