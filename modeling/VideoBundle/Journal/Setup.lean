import VideoBundle.FileTree.Basic
import VideoBundle.Journal.Basic
import VideoBundle.Settings

/-!
# The journal's credentials

The environment names credentials in two ways: by the path of a file, and as a JSON text.  A path that
leads to no file counts as none.
-/

namespace VideoBundle
namespace Credentials

/-- The file with credentials that an environment names, as its path is shown. -/
def fileOf (env : Environment) (disk : Disk) : Option String :=
  ((env.value? "GOOGLE_APPLICATION_CREDENTIALS").map FilePath.ofText).bind fun path =>
    if disk.isFile path then some path.render else none

/-- The credentials that an environment names, with warnings. -/
def ofEnvironment (env : Environment) (library : Option CredentialLibrary) (disk : Disk) :
    Option Credentials × List String :=
  find library (fileOf env disk) (env.value? "GOOGLE_CREDENTIALS_JSON")

end Credentials
end VideoBundle
