import GlobeView.Page.RefreshClock

/-! # The host of a page

A `Host` shows at most one globe on its page.  Mounting acquires what the globe needs, one thing
after another: an observer of the element, two canvases, an animation frame and four listeners on the
upper canvas.  Unmounting gives all of it back.  In between the page calls the host: at animation
frames, when the element is resized, and at pointer events.

A call whose owner is gone does nothing but show up in the log. -/

namespace GlobeView

open Scalar

/-- What the click handler of a page does with a marker it is called with. -/
inductive ClickHandler where
  | ignore
  | fail (reason : String)
  /-- Takes the globe off the page. -/
  | unmount
  /-- Replaces the markers by none. -/
  | clearMarkers
  /-- Takes itself away. -/
  | uninstall
deriving DecidableEq, Repr

/-- A globe on a page and all that it holds there. -/
structure MountedGlobe (σ α : Type) where
  /-- The element it is mounted in. -/
  element : String
  controller : Controller σ α
  clock : RefreshClock Unit α
  /-- Its callback on the clock, which draws. -/
  callback : Nat
  /-- Its observer of the element. -/
  observer : Nat
  sphere : Nat
  overlay : Nat
  handler : Option ClickHandler := none

namespace MountedGlobe

variable {σ α : Type} [Scalar α]

/-- The cursor that shows what the pointer is about. -/
def cursor (g : MountedGlobe σ α) : Cursor :=
  if g.controller.rotation.isDragging then .grabbing
  else if g.controller.hover.isSome then .pointer
  else .grab

/-- Shows the cursor on the upper canvas. -/
def showCursor (g : MountedGlobe σ α) (p : Page α) : Page α := p.setCursor g.overlay g.cursor

/-- Gives back what a globe holds on the page that listens to some kinds of pointer events. -/
def releaseHearing (heard : List PointerKind) (g : MountedGlobe σ α) (p : Page α) : Page α :=
  let (_, clock, p) := g.clock.unregister g.callback p
  let p := p.disconnect g.observer
  let p := heard.foldl (fun p kind => p.unlisten g.overlay kind) p
  let p := (p.remove g.overlay).remove g.sphere
  (clock.stop p).2

/-- Gives back everything that a globe holds on the page. -/
def release (g : MountedGlobe σ α) (p : Page α) : Page α := g.releaseHearing PointerKind.all p

/-- Starts a globe on two canvases in its element and listens to the pointer over them.  Without all
its listeners it is taken off the page again. -/
def furnish (source : σ) (id : String) (config : Config α) (size : ContainerSize α)
    (observer sphere overlay : Nat) (p : Page α) : Except PageFault (MountedGlobe σ α) × Page α :=
  let (steps, controller) := (Controller.create config source).mount size p.now
  let p := p.drawAll sphere overlay steps
  let (callback, clock, p) := RefreshClock.idle.register () p
  let (heard, p) := p.tryListen overlay PointerKind.all
  let g : MountedGlobe σ α :=
    { element := id
      controller := controller
      clock := clock
      callback := callback
      observer := observer
      sphere := sphere
      overlay := overlay }
  if heard = PointerKind.all then (.ok g, g.showCursor p)
  else (.error .listenFailed, g.releaseHearing heard p)

/-- Puts a globe into an element.  What was acquired before it has started stays on the page after a
fault. -/
def mount (source : σ) (id : String) (config : Config α) (p : Page α) :
    Except PageFault (MountedGlobe σ α) × Page α :=
  match p.container id with
  | .error e => (.error e, p)
  | .ok size =>
    match p.tryObserve id with
    | (.error e, p) => (.error e, p)
    | (.ok observer, p) =>
      match p.createCanvas with
      | (.error e, p) => (.error e, p)
      | (.ok sphere, p) =>
        match p.createCanvas with
        | (.error e, p) => (.error e, p)
        | (.ok overlay, p) =>
          match p.tryAppend id sphere with
          | (.error e, p) => (.error e, p)
          | (.ok (), p) =>
            match p.tryAppend id overlay with
            | (.error e, p) => (.error e, p)
            | (.ok (), p) => furnish source id config size observer sphere overlay p

/-- Draws one frame. -/
def draw [PhaseSource σ α] (frame : Frame α) (g : MountedGlobe σ α) (p : Page α) :
    MountedGlobe σ α × Page α :=
  let (steps, controller) := g.controller.drawFrame (p.measure g.element) frame
  ({ g with controller := controller }, p.drawAll g.sphere g.overlay steps)

/-- An animation frame of the globe has come. -/
def refresh [PhaseSource σ α] (stamp : α) (g : MountedGlobe σ α) (p : Page α) :
    MountedGlobe σ α × Page α :=
  let ((frame, taken), clock) := g.clock.beginFrame stamp
  let (g, p) := taken.foldl (fun (g, p) _ => g.draw frame p) ({ g with clock := clock }, p)
  let (clock, p) := g.clock.finishFrame taken p
  ({ g with clock := clock }, p)

/-- The element of the globe was resized. -/
def resized (g : MountedGlobe σ α) (p : Page α) : MountedGlobe σ α × Page α :=
  let ((_, steps), controller) := g.controller.containerResized (p.measure g.element) p.now
  ({ g with controller := controller }, p.drawAll g.sphere g.overlay steps)

/-- The pointer did something over the globe.  Answers the clicked marker. -/
def handle (event : PointerEvent α) (g : MountedGlobe σ α) (p : Page α) :
    Option (Marker α) × MountedGlobe σ α × Page α :=
  let (clicked, controller) := g.controller.handle event
  let g := { g with controller := controller }
  (clicked, g, g.showCursor p)

/-- The label of the hovered marker and where it is drawn. -/
def hover? (g : MountedGlobe σ α) : Option (String × Vec2 α) :=
  g.controller.hover.map fun hit => (hit.marker.label, hit.position)

/-- Numbers about the globe, by name. -/
def stats (g : MountedGlobe σ α) : List (String × α) :=
  let c := g.controller
  let counter (key : String) : α := ofNat (c.metrics.counter key)
  [("phi", c.rotation.phi), ("velocity", c.rotation.velocity),
   ("displayWidth", c.surfaceSize.display), ("renderWidth", c.surfaceSize.render),
   ("frames", counter "frames"), ("glows", counter "overlay.glows"),
   ("arcs", counter "overlay.arcs"), ("clicks", counter "clicks")]

end MountedGlobe

/-- A page and the globe on it. -/
structure Host (σ α : Type) where
  page : Page α
  globe : Option (MountedGlobe σ α) := none

namespace Host

variable {σ α : Type} [Scalar α]

def isMounted (h : Host σ α) : Bool := h.globe.isSome

/-- Has crashes reported. -/
def start (h : Host σ α) : Host σ α := { h with page := h.page.write [.reportCrashes] }

/-- Takes the globe off the page, if there is one. -/
def unmount (h : Host σ α) : Host σ α :=
  match h.globe with
  | some g => { page := g.release h.page, globe := none }
  | none => h

/-- Replaces the globe by a new one. -/
def mount (source : σ) (id : String) (config : Config α) (h : Host σ α) :
    Except PageFault Unit × Host σ α :=
  match MountedGlobe.mount source id config h.unmount.page with
  | (.ok g, page) => (.ok (), { page := page, globe := some g })
  | (.error e, page) => (.error e, { page := page, globe := none })

/-- Changes the controller of the globe.  Answers whether there is one. -/
def modifyController (f : Controller σ α → Controller σ α) (h : Host σ α) : Bool × Host σ α :=
  match h.globe with
  | some g => (true, { h with globe := some { g with controller := f g.controller } })
  | none => (false, h)

/-- Installs a click handler, or none.  Answers whether there is a globe. -/
def setHandler (handler : Option ClickHandler) (h : Host σ α) : Bool × Host σ α :=
  match h.globe with
  | some g => (true, { h with globe := some { g with handler := handler } })
  | none => (false, h)

/-! ### Calls of the page -/

/-- Calls the click handler. -/
def callHandler (handler : ClickHandler) (marker : Marker α) (h : Host σ α) : Host σ α :=
  let called := { h with page := h.page.write [.callHandler marker] }
  match handler with
  | .ignore => called
  | .fail reason => { called with page := called.page.write [.handlerFailed reason] }
  | .unmount => called.unmount
  | .clearMarkers => (called.modifyController (·.setMarkers [])).2
  | .uninstall => (called.setHandler none).2

/-- A listener on a canvas is called. -/
def pointerCall (canvas : Nat) (event : PointerEvent α) (h : Host σ α) : Host σ α :=
  match h.globe with
  | some g =>
    if g.overlay = canvas then
      let (clicked, g, page) := g.handle event h.page
      let h : Host σ α := { page := page, globe := some g }
      match clicked, g.handler with
      | some marker, some handler => h.callHandler handler marker
      | _, _ => h
    else { h with page := h.page.write [.uncaught .listener] }
  | none => { h with page := h.page.write [.uncaught .listener] }

/-- A pointer event on a canvas calls its listeners.  Answers how many. -/
def pointer (canvas : Nat) (kind : PointerKind) (position : Vec2 α) (h : Host σ α) :
    Nat × Host σ α :=
  let count := h.page.listenerCount canvas kind
  (count, Nat.repeat (pointerCall canvas (kind.event position)) count h)

/-- An observer is called. -/
def observerCall (h : Host σ α) (observer : Nat) : Host σ α :=
  match h.globe with
  | some g =>
    if g.observer = observer then
      let (g, page) := g.resized h.page
      { page := page, globe := some g }
    else { h with page := h.page.write [.uncaught .observer] }
  | none => { h with page := h.page.write [.uncaught .observer] }

/-- The page calls the observers of an element.  Answers how many. -/
def elementResized (id : String) (h : Host σ α) : Nat × Host σ α :=
  let observers := h.page.observersOf id
  (observers.length, observers.foldl observerCall h)

variable [PhaseSource σ α]

/-- A requested animation frame comes. -/
def frameCall (stamp : α) (h : Host σ α) (request : Nat) : Host σ α :=
  match h.globe with
  | some g =>
    if g.clock.request = some request then
      let (g, page) := g.refresh stamp h.page
      { page := page, globe := some g }
    else { h with page := h.page.write [.uncaught .frame] }
  | none => { h with page := h.page.write [.uncaught .frame] }

/-- All animation frames come that are requested by now.  Answers how many. -/
def animationFrames (stamp : α) (h : Host σ α) : Nat × Host σ α :=
  let (requests, page) := h.page.takePending
  (requests.length, requests.foldl (frameCall stamp) { h with page := page })

end Host
end GlobeView
