import CameraServer.Pipeline.Engine

/-!
Branches behind the fan-out: attaching and detaching them, and undoing what a failure left half
done.
-/

set_option autoImplicit false

namespace CameraServer.Engine

open Media

def discardFloating (name : String) (e : Engine) : Engine :=
  (e.releaseStage name).2

def discardParented (name : String) (e : Engine) : Engine :=
  match e.removeStage name with
  | (.ok (), e) => e.discardFloating name
  | (.error _, e) => e

def clearName (name : String) (e : Engine) : Outcome Unit :=
  if e.graph.hasStage name then e.releaseStage name else (.ok (), e)

def joinBranch (name : String) (e : Engine) : Outcome Unit :=
  match e.addStage name with
  | (.error x, e) => (.error x, e.discardFloating name)
  | (.ok (), e) =>
      match e.link fanOutName name with
      | (.error x, e) => (.error x, e.discardParented name)
      | (.ok (), e) =>
          match e.syncStage name with
          | (.error x, e) => (.error x, (e.unlink fanOutName name).2.discardParented name)
          | (.ok (), e) => (.ok (), e.dump "pipeline-attached")

def attachBranch (spec : StageSpec) (e : Engine) : Outcome Unit :=
  e.ifConstructed .attachBranch <|
    if e.graph.hasParent spec.name then (.error (.branchHasParent spec.name), e)
    else if !e.graph.hasParent fanOutName then (.error .fanOutMissing, e)
    else
      ((e.clearName spec.name).next (buildStage spec)).next (joinBranch spec.name)

def retireBranch (name : String) (e : Engine) : Engine :=
  ((e.setStageState name .null).2.releaseStage name).2.dump "pipeline-detached"

def detachBranch (name : String) (e : Engine) : Outcome Unit :=
  e.ifConstructed .detachBranch <|
    if e.graph.hasParent name then
      (e.unlink fanOutName name).next fun e =>
        match e.removeStage name with
        | (.error x, e) => (.error x, (e.link fanOutName name).2)
        | (.ok (), e) => (.ok (), e.retireBranch name)
    else (.error (.branchNotAttached name), e)

end CameraServer.Engine
