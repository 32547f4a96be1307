import CameraServer.Pipeline.Branch

/-!
Destinations of the egress branch. A move adds the new destination before it removes the old one,
so at least one of them is always receiving.
-/

set_option autoImplicit false

namespace CameraServer.Engine

open Media

def emitAdd (endpoint : Endpoint) (e : Engine) : Outcome Unit :=
  e.emit (.stage egressName) (.addDestination endpoint)

def emitRemove (endpoint : Endpoint) (e : Engine) : Outcome Unit :=
  e.emit (.stage egressName) (.removeDestination endpoint)

def detachIfIdle (e : Engine) : Engine :=
  if e.destinations.isEmpty && e.orphans.isEmpty && e.graph.hasParent egressName then
    (e.detachBranch egressName).2
  else e

/-- Removes each of the given orphans from the sink; those that stay are orphans again. -/
def reapEach : List Endpoint → Engine → Engine
  | [], e => e
  | endpoint :: rest, e =>
      match e.emitRemove endpoint with
      | (.ok (), e) => reapEach rest e
      | (.error _, e) => reapEach rest { e with orphans := e.orphans ++ [endpoint] }

def reapOrphans (e : Engine) : Engine :=
  if e.orphans.isEmpty || !e.constructed then e
  else (reapEach e.orphans { e with orphans := [] }).detachIfIdle

def addEndpoint (endpoint : Endpoint) (e : Engine) : Outcome Unit :=
  e.ifConstructed .addEndpoint <|
    let e := e.reapOrphans
    let attach := !e.graph.hasParent egressName
    (if attach then e.attachBranch .egress else (.ok (), e)).next fun e =>
      match e.emitAdd endpoint with
      | (.error x, e) => (.error x, if attach then (e.detachBranch egressName).2 else e)
      | (.ok (), e) => (.ok (), { e with destinations := e.destinations ++ [endpoint] })

def removeEndpoint (endpoint : Endpoint) (e : Engine) : Outcome Unit :=
  if e.destinations.contains endpoint then
    if e.constructed then
      (e.reapOrphans.emitRemove endpoint).next fun e =>
        (.ok (), detachIfIdle { e with destinations := e.destinations.erase endpoint })
    else (.ok (), { e with destinations := e.destinations.erase endpoint })
  else (.ok (), e)

def eraseLast (list : List Endpoint) (endpoint : Endpoint) : List Endpoint :=
  (list.reverse.erase endpoint).reverse

def orphan (endpoint : Endpoint) (e : Engine) : Engine :=
  if e.destinations.contains endpoint then
    { e with
      destinations := eraseLast e.destinations endpoint
      orphans := e.orphans ++ [endpoint] }
  else e

/-- Moves a destination. When the old one cannot be removed the new one is withdrawn again, and
becomes an orphan when that fails too. -/
def changeEndpoint (old new : Endpoint) (e : Engine) : Outcome Unit :=
  if old = new then (.ok (), e)
  else
    (e.addEndpoint new).next fun e =>
      match e.removeEndpoint old with
      | (.ok (), e) => (.ok (), e)
      | (.error x, e) =>
          match e.removeEndpoint new with
          | (.ok (), e) => (.error x, e)
          | (.error _, e) => (.error x, e.orphan new)

end CameraServer.Engine
