import CameraServer.Accounts.Location
import CameraServer.Pipeline.Config
import CameraServer.Text.Quoted

/-!
What can be wrong with settings.
-/

set_option autoImplicit false

namespace CameraServer.Settings

inductive ReadFault where
  | os (cause : Disk.OsError)
  | notText
deriving DecidableEq, Repr

def ReadFault.message : ReadFault → String
  | .os cause => cause.message
  | .notText => "stream did not contain valid UTF-8"

inductive InvalidSetting where
  | videoSize (width height : Nat)
  | framerate (rate : Framerate)
  | segmentDuration
  | noListener
  | mountPointNotBelowRoot (path : String)
  | mountPointReserved (path : String)
  | mountPointCaptures (path : String)
deriving DecidableEq, Repr

def InvalidSetting.message : InvalidSetting → String
  | .videoSize width height =>
      "video size " ++ Text.decimal width ++ "x" ++ Text.decimal height ++ " must be positive"
  | .framerate rate => "framerate " ++ rate.text ++ " must be positive"
  | .segmentDuration => "recording segment duration must be positive"
  | .noListener => "no valid listen address"
  | .mountPointNotBelowRoot path =>
      "mount point " ++ Text.quoted path ++ " must be an absolute path below /"
  | .mountPointReserved path => "mount point " ++ path ++ " collides with a built-in route"
  | .mountPointCaptures path => "mount point " ++ path ++ " must not contain route captures"

inductive ConfigError where
  | read (path : FilePath) (fault : ReadFault)
  | parse (path : FilePath)
  | invalid (setting : InvalidSetting)
  | unsupportedUserDb (location : String)
deriving DecidableEq, Repr

def ConfigError.message : ConfigError → String
  | .read path fault => "failed to read " ++ path.text ++ ": " ++ fault.message
  | .parse path => "failed to parse " ++ path.text
  | .invalid setting => "invalid configuration: " ++ setting.message
  | .unsupportedUserDb location => Accounts.unsupportedText location

end CameraServer.Settings
