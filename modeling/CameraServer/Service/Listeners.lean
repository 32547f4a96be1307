import CameraServer.Settings.Resolve

/-!
Bringing up the listeners. TLS material is loaded first if any listener needs it; a listener that
cannot be bound is left out, but one has to come up.
-/

set_option autoImplicit false

namespace CameraServer.Service

structure Network where
  canBind : Net.SocketAddress → Bool
  canReach : Bool

inductive ListenFault where
  | tlsMaterial (cert key : FilePath) (unread : FilePath) (cause : Disk.OsError)
  | noneBound
deriving DecidableEq, Repr

def ListenFault.message : ListenFault → String
  | .tlsMaterial cert key unread cause =>
      "failed to load TLS material " ++ cert.text ++ " / " ++ key.text
        ++ ": failed to read from file `" ++ unread.text ++ "`: " ++ cause.message
  | .noneBound => "no listener could be started"

def loadTls (d : Disk) (s : ServerSettings) : Except ListenFault Unit :=
  let fault := ListenFault.tlsMaterial s.tlsCert s.tlsKey
  match d.read s.tlsCert with
  | .error cause => .error (fault s.tlsCert cause)
  | .ok _ =>
      match d.read s.tlsKey with
      | .error cause => .error (fault s.tlsKey cause)
      | .ok _ => .ok ()

def startListeners (net : Network) (d : Disk) (s : ServerSettings) :
    Except ListenFault (List Net.ListenUrl) :=
  match if s.needsTls then loadTls d s else .ok () with
  | .error fault => .error fault
  | .ok () =>
      match s.listeners.filter fun url => net.canBind url.address with
      | [] => .error .noneBound
      | bound => .ok bound

end CameraServer.Service
