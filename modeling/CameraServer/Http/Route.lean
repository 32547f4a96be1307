import CameraServer.Text.Split

/-!
Which paths can be registered as routes. Braces around a name stand for a capture; settings accept
no path with braces, so the server matches its routes letter by letter.
-/

set_option autoImplicit false

namespace CameraServer.Http

inductive RouteFault where
  | notBelowRoot
  | captureMark
  | unbalancedBraces
  | taken
deriving DecidableEq, Repr

def startsCapture (segment : List Char) : Bool :=
  segment.head? == some ':' || segment.head? == some '*'

def bracesClose : Nat → List Char → Bool
  | depth, [] => depth = 0
  | depth, c :: rest =>
      if c = '\x7b' then bracesClose (depth + 1) rest
      else if c = '\x7d' then depth ≠ 0 && bracesClose (depth - 1) rest
      else bracesClose depth rest

def checkRoute (registered : List String) (path : String) : Except RouteFault Unit :=
  if path.toList.head? ≠ some '/' then .error .notBelowRoot
  else if (Text.splitAt '/' path.toList).any startsCapture then .error .captureMark
  else if !bracesClose 0 path.toList then .error .unbalancedBraces
  else if registered.contains path then .error .taken
  else .ok ()

def builtInRoutes : List String :=
  ["/status", "/index.html"]

def buildRoutes (mountPoint : String) : Except RouteFault (List String) :=
  (checkRoute builtInRoutes mountPoint).map fun _ => mountPoint :: builtInRoutes

end CameraServer.Http
