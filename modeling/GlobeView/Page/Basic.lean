import GlobeView.Page.Painting
import GlobeView.Pointer

/-! # The page

A page has elements with sizes, and a host puts canvases into them.  What the host holds on the page
is kept as lists: the canvases in an element, the listeners on a canvas, the observers of an element
and the animation frames that are requested and have not come yet.  Each operation says what it does
to these lists and writes an `Act` into the log.

A page may lack abilities (`Features`): it may have no window, refuse observers and animation frames,
or run out of elements, of drawing contexts and of room for canvases and listeners. -/

namespace GlobeView

open Scalar

/-- The pointer events that a host listens to. -/
inductive PointerKind where
  | down
  | move
  | up
  | leave
deriving DecidableEq, Repr

namespace PointerKind

/-- All kinds, in the order in which a host asks for them. -/
def all : List PointerKind := [.down, .move, .up, .leave]

/-- The name of a kind on the page. -/
def name : PointerKind → String
  | .down => "pointerdown"
  | .move => "pointermove"
  | .up => "pointerup"
  | .leave => "pointerleave"

/-- The kind with a name. -/
def ofName? (name : String) : Option PointerKind := all.find? (·.name == name)

/-- The event of a kind at a position. -/
def event {α : Type} (position : Vec2 α) : PointerKind → PointerEvent α
  | .down => .down position
  | .move => .move position
  | .up => .up position
  | .leave => .leave

end PointerKind

/-- The shape of the pointer over a canvas. -/
inductive Cursor where
  | grab
  | grabbing
  | pointer
deriving DecidableEq, Repr

def Cursor.name : Cursor → String
  | .grab => "grab"
  | .grabbing => "grabbing"
  | .pointer => "pointer"

/-- What a page calls back. -/
inductive CallSource where
  | observer
  | frame
  | listener
deriving DecidableEq, Repr

/-- What a host does to a page.  Canvases and observers go by number, in the order of creation. -/
inductive Act (α : Type) where
  /-- Crashes are reported from now on. -/
  | reportCrashes
  | observe (observer : Nat) (id : String)
  | disconnect (observer : Nat)
  /-- Makes a canvas and lays it over whatever holds it. -/
  | create (canvas : Nat)
  | append (id : String) (canvas : Nat)
  | remove (canvas : Nat)
  | resize (canvas : Nat) (size : SurfaceSize α)
  | setCursor (canvas : Nat) (cursor : Cursor)
  | listen (canvas : Nat) (kind : PointerKind)
  | unlisten (canvas : Nat) (kind : PointerKind)
  | requestFrame
  | frameRefused
  | cancelFrame
  | paint (canvas : Nat) (steps : List (Paint α))
  /-- The click handler is called with a marker. -/
  | callHandler (marker : Marker α)
  /-- The click handler fails with a reason. -/
  | handlerFailed (reason : String)
  /-- Something is called whose owner is gone. -/
  | uncaught (source : CallSource)
deriving DecidableEq, Repr

/-- What a page is able to do. -/
structure Features where
  hasWindow : Bool := true
  hasDocument : Bool := true
  hasPerformance : Bool := true
  grantsFrames : Bool := true
  /-- Whether it makes new elements at all. -/
  createsElements : Bool := true
  /-- How many more elements it makes, if that is limited. -/
  creations : Option Nat := none
  /-- How many drawing contexts are left, if they are limited. -/
  contexts : Option Nat := none
  createsObservers : Bool := true
  /-- How many more canvases its elements take, if that is limited. -/
  appends : Option Nat := none
  /-- How many more listeners its canvases take, if that is limited. -/
  listens : Option Nat := none
deriving DecidableEq, Repr

/-- Why a page cannot hold a globe. -/
inductive PageFault where
  | noWindow
  | noDocument
  | noElement (id : String)
  | observeFailed
  | createFailed
  | noContext
  | appendFailed
  | listenFailed
deriving DecidableEq, Repr

def PageFault.message : PageFault → String
  | .noWindow => "no window"
  | .noDocument => "no document"
  | .noElement id => "no element #" ++ id
  | .observeFailed => "ResizeObserver failed"
  | .createFailed => "createElement failed"
  | .noContext => "2d context unavailable"
  | .appendFailed => "appendChild failed"
  | .listenFailed => "addEventListener failed"

/-- Takes one of what may be limited.  Answers whether one was left, and how many are now. -/
def takeOne : Option Nat → Bool × Option Nat
  | none => (true, none)
  | some 0 => (false, some 0)
  | some (n + 1) => (true, some n)

/-- A page with everything that hosts hold on it. -/
structure Page (α : Type) where
  elements : List (String × ContainerSize α)
  features : Features := {}
  /-- The clock of the display, in milliseconds. -/
  displayClock : α
  /-- The clock of the wall, in milliseconds. -/
  wallClock : α
  /-- How many canvases were made. -/
  canvases : Nat := 0
  gradients : Nat := 0
  observers : Nat := 0
  requests : Nat := 0
  /-- The canvases in elements, each above those before it. -/
  attached : List (String × Nat) := []
  cursors : List (Nat × Cursor) := []
  listeners : List (Nat × PointerKind) := []
  observing : List (Nat × String) := []
  /-- The animation frames that are still to come. -/
  pending : List Nat := []
  log : List (Act α) := []
deriving DecidableEq, Repr

namespace Page

variable {α : Type}

/-- Writes acts into the log. -/
def write (acts : List (Act α)) (p : Page α) : Page α := { p with log := p.log ++ acts }

/-- Takes the log out. -/
def takeLog (p : Page α) : List (Act α) × Page α := (p.log, { p with log := [] })

/-! ### Elements -/

def size? (id : String) (p : Page α) : Option (ContainerSize α) :=
  (p.elements.find? (·.1 == id)).map (·.2)

/-- Gives an element another size. -/
def setSize (id : String) (size : ContainerSize α) (p : Page α) : Page α :=
  { p with elements := p.elements.map fun e => if e.1 == id then (id, size) else e }

/-- Looks up an element on a page that has a window and a document. -/
def container (id : String) (p : Page α) : Except PageFault (ContainerSize α) :=
  if !p.features.hasWindow then .error .noWindow
  else if !p.features.hasDocument then .error .noDocument
  else match p.size? id with
    | some size => .ok size
    | none => .error (.noElement id)

/-! ### Observers -/

/-- Observes the size of an element.  Answers the number of the observer. -/
def observe (id : String) (p : Page α) : Nat × Page α :=
  (p.observers,
    { p with observers := p.observers + 1, observing := p.observing ++ [(p.observers, id)] }.write
      [.observe p.observers id])

/-- Observes the size of an element, if the page has observers for it. -/
def tryObserve (id : String) (p : Page α) : Except PageFault Nat × Page α :=
  if p.features.createsObservers then
    let (observer, p) := p.observe id
    (.ok observer, p)
  else (.error .observeFailed, p)

def disconnect (observer : Nat) (p : Page α) : Page α :=
  { p with observing := p.observing.filter (·.1 != observer) }.write [.disconnect observer]

/-- The observers of an element, in the order of creation. -/
def observersOf (id : String) (p : Page α) : List Nat :=
  (p.observing.filter (·.2 == id)).map (·.1)

/-! ### Canvases -/

/-- The features after one more element was asked for, and whether it was made. -/
def takeElement (f : Features) : Bool × Features :=
  if f.createsElements then
    let (made, left) := takeOne f.creations
    (made, { f with creations := left })
  else (false, f)

/-- The features after one more drawing context was asked for, and whether it was given. -/
def takeContext (f : Features) : Bool × Features :=
  let (given, left) := takeOne f.contexts
  (given, { f with contexts := left })

/-- Makes a canvas with a drawing context.  Answers its number. -/
def createCanvas (p : Page α) : Except PageFault Nat × Page α :=
  match takeElement p.features with
  | (true, features) =>
    let (given, features) := takeContext features
    let made := { p with canvases := p.canvases + 1, features := features }.write
      [.create p.canvases]
    (if given then .ok p.canvases else .error .noContext, made)
  | (false, _) => (.error .createFailed, p)

/-- Puts a canvas into an element, above those that are there. -/
def append (id : String) (canvas : Nat) (p : Page α) : Page α :=
  { p with attached := p.attached ++ [(id, canvas)] }.write [.append id canvas]

/-- Puts a canvas into an element, if there is room for it. -/
def tryAppend (id : String) (canvas : Nat) (p : Page α) : Except PageFault Unit × Page α :=
  match takeOne p.features.appends with
  | (true, left) =>
    (.ok (), { p with features := { p.features with appends := left } }.append id canvas)
  | (false, _) => (.error .appendFailed, p)

/-- Takes a canvas out of its element. -/
def remove (canvas : Nat) (p : Page α) : Page α :=
  { p with attached := p.attached.filter (·.2 != canvas) }.write [.remove canvas]

def setCursor (canvas : Nat) (cursor : Cursor) (p : Page α) : Page α :=
  { p with cursors := (canvas, cursor) :: p.cursors.filter (·.1 != canvas) }.write
    [.setCursor canvas cursor]

/-- The cursor that a canvas was given. -/
def cursor? (canvas : Nat) (p : Page α) : Option Cursor :=
  (p.cursors.find? (·.1 == canvas)).map (·.2)

/-- The name of a canvas on the page. -/
def canvasName (canvas : Nat) : String := "c" ++ toString canvas

/-- The canvas with a name. -/
def canvasNamed? (name : String) (p : Page α) : Option Nat :=
  (List.range p.canvases).find? (canvasName · == name)

/-- The canvas made last. -/
def newestCanvas? (p : Page α) : Option Nat :=
  if p.canvases = 0 then none else some (p.canvases - 1)

/-! ### Listeners -/

/-- Listens to a kind of pointer event on a canvas. -/
def listen (canvas : Nat) (kind : PointerKind) (p : Page α) : Page α :=
  { p with listeners := p.listeners ++ [(canvas, kind)] }.write [.listen canvas kind]

/-- Listens to kinds of pointer events on a canvas one after another, while there is room for another
listener.  Answers the kinds that are listened to. -/
def tryListen (canvas : Nat) : List PointerKind → Page α → List PointerKind × Page α
  | [], p => ([], p)
  | kind :: rest, p =>
    match takeOne p.features.listens with
    | (true, left) =>
      let (heard, p) := tryListen canvas rest
        ({ p with features := { p.features with listens := left } }.listen canvas kind)
      (kind :: heard, p)
    | (false, _) => ([], p)

def unlisten (canvas : Nat) (kind : PointerKind) (p : Page α) : Page α :=
  { p with listeners := p.listeners.filter (· != (canvas, kind)) }.write [.unlisten canvas kind]

/-- How many listeners a kind of event has on a canvas. -/
def listenerCount (canvas : Nat) (kind : PointerKind) (p : Page α) : Nat :=
  p.listeners.count (canvas, kind)

/-! ### Animation frames -/

/-- Asks for an animation frame.  Answers its number, if the page grants one. -/
def requestFrame (p : Page α) : Option Nat × Page α :=
  if !p.features.hasWindow then (none, p)
  else if !p.features.grantsFrames then (none, p.write [.frameRefused])
  else
    (some p.requests,
      { p with requests := p.requests + 1, pending := p.pending ++ [p.requests] }.write
        [.requestFrame])

/-- Takes back a request, if the page has a window. -/
def cancelFrame (request : Nat) (p : Page α) : Page α :=
  if p.features.hasWindow then
    { p with pending := p.pending.filter (· != request) }.write [.cancelFrame]
  else p

/-- Takes all requests out, for their frames have come. -/
def takePending (p : Page α) : List Nat × Page α := (p.pending, { p with pending := [] })

/-! ### Clocks and drawing -/

variable [Scalar α]

/-- The time in seconds: by the clock of the display if there is one, else by the wall. -/
def now (p : Page α) : α :=
  if p.features.hasWindow && p.features.hasPerformance then p.displayClock / 1000
  else p.wallClock / 1000

/-- The size of an element that is on the page. -/
def measure (id : String) (p : Page α) : ContainerSize α := (p.size? id).getD ⟨0, 0⟩

/-- Carries out one step of drawing on a pair of canvases. -/
def draw (sphere overlay : Nat) (p : Page α) : Drawing α → Page α
  | .resize size => p.write [.resize sphere size, .resize overlay size]
  | .sphere frame => p.write [.paint sphere frame.paint]
  | .overlay frame =>
    let (steps, gradients) := frame.paint p.gradients
    { p with gradients := gradients }.write [.paint overlay steps]

/-- Carries out steps of drawing in order. -/
def drawAll (sphere overlay : Nat) (steps : List (Drawing α)) (p : Page α) : Page α :=
  steps.foldl (draw sphere overlay) p

end Page
end GlobeView
