import CameraServer.Pipeline.Destinations
import CameraServer.Pipeline.Lifecycle

/-!
Changing the configuration. A change of the capture or recording layout rebuilds the graph and adds
the destinations back. When the rebuild fails the previous configuration is kept and the next
change tries again.
-/

set_option autoImplicit false

namespace CameraServer.Engine

open Media

def teardown (e : Engine) : Engine :=
  { e.resetGraph with constructed := false, playing := false, orphans := [] }

def adopt (config : PipelineConfig) (e : Engine) : Engine :=
  { e with
    config := config
    site := { e.site with store := e.site.store.apply config } }

def restore : List Endpoint → Engine → Engine
  | [], e => e
  | endpoint :: rest, e => restore rest (e.addEndpoint endpoint).2

def rebuild (resume : Bool) (e : Engine) : Outcome Unit :=
  e.construct.next fun e =>
    let destinations := e.destinations
    let e := restore destinations { e with destinations := [] }
    if resume then
      match e.start with
      | (.ok (), e) => (.ok (), e)
      | (.error x, e) => (.error x, { e.teardown with destinations := destinations })
    else (.ok (), e)

def retryRebuild (config : PipelineConfig) (resume : Bool) (e : Engine) : Outcome Unit :=
  let previous := e.config
  match (adopt config { e with pending := some resume }).rebuild resume with
  | (.ok (), e) => (.ok (), { e with pending := none })
  | (.error x, e) => (.error x, e.adopt previous)

/-- Whether to play again after a rebuild: as a failed rebuild has left it, else as the graph
shows. -/
def resumes (e : Engine) : Bool × Engine :=
  match e.pending with
  | some resume => (resume, e)
  | none => e.runs

def setConfig (config : PipelineConfig) (e : Engine) : Outcome Unit :=
  if e.rebuildPending || (e.constructed && e.config.requiresRebuild config) then
    let (resume, e) := e.resumes
    if e.constructed then
      (e.shutdown true).next fun e => e.teardown.retryRebuild config resume
    else e.retryRebuild config resume
  else (.ok (), e.adopt config)

end CameraServer.Engine
