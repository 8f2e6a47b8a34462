import ClusterVolumes.Text.Quoted

/-!
# Credentials

A cluster is used either as a user who logs in with a password or by a token that was issued for the
driver. Only a user who logged in may copy disks.
-/

namespace ClusterVolumes.Hypervisor

/-- What the driver shows a cluster to be let in. -/
inductive Credentials
  | password (username password : String)
  | token (id secret : String)
  deriving DecidableEq, Repr

namespace Credentials

/-- Does the driver log in as a user? -/
def isLogin : Credentials → Bool
  | password .. => true
  | token .. => false

/-- Credentials as messages show them: without what is secret. -/
def text : Credentials → String
  | password username _ => "Password \x7b username: " ++ Text.quoted username ++ " \x7d"
  | token id _ => "Token \x7b id: " ++ Text.quoted id ++ " \x7d"

end Credentials

end ClusterVolumes.Hypervisor
