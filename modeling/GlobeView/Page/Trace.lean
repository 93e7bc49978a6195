import GlobeView.Double.Text
import GlobeView.Page.Basic
import GlobeView.SceneJson
import GlobeView.Text.Characters

/-! # The trace of a page

What a host did to a page, line by line: who, what, and with which arguments.  Numbers are written
coarsely.

* A disc is one line, and a row of eight discs or more is one line as well: their number, the sums of
  their coordinates and radii, the first and the last of them.
* While markers are painted radii are left open, because they breathe at phases of their own. -/

namespace GlobeView

/-- The text of a colour whose alpha is written by `text`. -/
def Rgba.cssWith {α : Type} [Scalar α] (text : α → String) (c : Rgba α) : String :=
  "rgba(" ++ toString c.r.toNat ++ "," ++ toString c.g.toNat ++ "," ++ toString c.b.toNat ++ "," ++
    text c.opacity ++ ")"

/-- The text of a colour. -/
def Rgba.css (c : Rgba Float) : String := c.cssWith Double.plain

namespace Trace

open Json (Value)

/-- A line: its words are texts, numbers or lists of these. -/
abbrev Line := List Value

def coarse (x : Float) : Value := .text (Double.coarse x)

/-- A sum is written with three places. -/
def total (xs : List Float) : Value := .text (Double.fixed 3 (xs.foldl (· + ·) 0))

def count (n : Nat) : Value := .text (toString n)

/-! ### Painting -/

/-- A disc that was painted. -/
structure Disc where
  center : Vec2 Float
  radius : Float

/-- How many discs in a row make one line. -/
def rowLength : Nat := 8

/-- A radius, unless it is left open. -/
def radiusValue (isOpen : Bool) (r : Float) : Value := if isOpen then .null else coarse r

def discValue (isOpen : Bool) (d : Disc) : Value :=
  .list [coarse d.center.x, coarse d.center.y, radiusValue isOpen d.radius]

/-- The sums over a row of discs. -/
def rowTotals (isOpen : Bool) (discs : List Disc) : Value :=
  .list <|
    [total (discs.map (·.center.x)), total (discs.map (·.center.y))] ++
      if isOpen then [] else [total (discs.map (·.radius))]

/-- The lines of discs that follow each other. -/
def rowLines (isOpen : Bool) (discs : List Disc) : List Line :=
  match discs.head?, discs.getLast? with
  | some first, some last =>
    if rowLength ≤ discs.length then
      [[.text "circles", .count discs.length, rowTotals isOpen discs, discValue isOpen first,
        discValue isOpen last]]
    else discs.map fun d => [.text "circle", discValue isOpen d]
  | _, _ => []

/-- The line of an arc around a full turn. -/
def arcLine (word : String) (isOpen : Bool) (center : Vec2 Float) (radius : Float) : Line :=
  [.text word, coarse center.x, coarse center.y, radiusValue isOpen radius, coarse 0,
    coarse Scalar.tau]

/-- The arguments of a gradient around a centre. -/
def gradientArguments (center : Vec2 Float) (radius : Float) : Line :=
  [coarse center.x, coarse center.y, coarse 0, coarse center.x, coarse center.y, coarse radius]

/-- The lines of a step that belong to the context itself. -/
def paintLines (isOpen : Bool) : Paint Float → List Line
  | .clear width => [[.text "clearRect", coarse 0, coarse 0, coarse width, coarse width]]
  | .fillWith color => [[.text "set", .text "fillStyle", .text color.css]]
  | .fillWithGradient gradient =>
    [[.text "set", .text "fillStyle", .text ("g" ++ toString gradient)]]
  | .strokeWith color => [[.text "set", .text "strokeStyle", .text color.css]]
  | .lineWidth width => [[.text "lineWidth", coarse width]]
  | .disc center radius =>
    if radius < 0 then [[.text "beginPath"], arcLine "arcThrows" isOpen center radius]
    else rowLines isOpen [⟨center, radius⟩]
  | .ring center radius =>
    if radius < 0 then [[.text "beginPath"], arcLine "arcThrows" isOpen center radius]
    else [[.text "beginPath"], arcLine "arc" isOpen center radius, [.text "stroke"]]
  | .curve start control finish =>
    [[.text "beginPath"], [.text "moveTo", coarse start.x, coarse start.y],
     [.text "quadraticCurveTo", coarse control.x, coarse control.y, coarse finish.x,
      coarse finish.y],
     [.text "stroke"]]
  | .blend mode => [[.text "composite", .text mode.name]]
  | .gradient _ center radius _ => [.text "radialGradient" :: gradientArguments center radius]
  | .gradientRefused center radius =>
    [.text "radialGradientThrows" :: gradientArguments center radius]

/-- The lines of a step that belong to a gradient. -/
def gradientLines : Paint Float → List Line
  | .gradient number _ _ stops =>
    stops.map fun s =>
      [.text ("g" ++ toString number), .text "addColorStop", coarse s.offset, .text s.color.css]
  | _ => []

/-- Lines of a canvas. -/
def onCanvas (canvas : Nat) (lines : List Line) : List Line :=
  lines.map (.text (Page.canvasName canvas) :: ·)

/-- Where the trace of a painting has got to. -/
structure Progress where
  /-- Whether radii are left open. -/
  isOpen : Bool := false
  /-- The discs of the row that is being read, the last one first. -/
  row : List Disc := []
  lines : Array Line := #[]

namespace Progress

/-- Writes the row. -/
def flush (canvas : Nat) (s : Progress) : Progress :=
  { s with row := [], lines := s.lines ++ onCanvas canvas (rowLines s.isOpen s.row.reverse) }

/-- Whether radii are left open after a step. -/
def openAfter (isOpen : Bool) : Paint Float → Bool
  | .fillWith color => color.css == (Palette.marker : Rgba Float).css
  | .fillWithGradient _ => false
  | _ => isOpen

/-- Reads a step that belongs to no row. -/
def single (canvas : Nat) (s : Progress) (paint : Paint Float) : Progress :=
  let s := s.flush canvas
  { s with
    isOpen := openAfter s.isOpen paint
    lines := s.lines ++ onCanvas canvas (paintLines s.isOpen paint) ++ gradientLines paint }

/-- Reads one step.  An arc with a negative radius is refused, so it breaks a row. -/
def step (canvas : Nat) (s : Progress) : Paint Float → Progress
  | .disc center radius =>
    if radius < 0 then s.single canvas (.disc center radius)
    else { s with row := ⟨center, radius⟩ :: s.row }
  | paint => s.single canvas paint

end Progress

/-- The lines of a painting. -/
def painting (canvas : Nat) (steps : List (Paint Float)) : List Line :=
  ((steps.foldl (Progress.step canvas) {}).flush canvas).lines.toList

/-! ### Acts -/

/-- Who is called in vain. -/
def sourceName : CallSource → String
  | .observer => "observer"
  | .frame => "raf"
  | .listener => "listener"

def observerName (observer : Nat) : String := "o" ++ toString observer

def elementName (id : String) : String := "#" ++ id

/-- A line of words. -/
def words (ws : List String) : Line := ws.map .text

/-- A canvas gets a size. -/
def sizeLines (size : SurfaceSize Float) : List Line :=
  let pixels := count size.bufferPixels.toNat
  let display := Double.plain size.display ++ "px"
  [[.text "width", pixels], [.text "height", pixels], words ["style", "width", display],
    words ["style", "height", display]]

/-- The lines of an act. -/
def actLines : Act Float → List Line
  | .reportCrashes => [words ["host", "panic_hook"]]
  | .observe observer id => [words [observerName observer, "observe", elementName id]]
  | .disconnect observer => [words [observerName observer, "disconnect"]]
  | .create canvas =>
    onCanvas canvas
      [words ["create", "canvas"], words ["style", "position", "absolute"],
       words ["style", "left", "0"], words ["style", "top", "0"]]
  | .append id canvas => [words [elementName id, "appendChild", Page.canvasName canvas]]
  | .remove canvas => onCanvas canvas [words ["remove"]]
  | .resize canvas size => onCanvas canvas (sizeLines size)
  | .setCursor canvas cursor => onCanvas canvas [words ["style", "cursor", cursor.name]]
  | .listen canvas kind => onCanvas canvas [words ["addEventListener", kind.name]]
  | .unlisten canvas kind => onCanvas canvas [words ["removeEventListener", kind.name]]
  | .requestFrame => [words ["window", "requestAnimationFrame"]]
  | .frameRefused => [words ["console", "log", "requestAnimationFrame failed"]]
  | .cancelFrame => [words ["window", "cancelAnimationFrame"]]
  | .paint canvas steps => painting canvas steps
  | .callHandler marker => [words ["handler", "call", marker.toJson.compact]]
  | .handlerFailed reason =>
    [words ["console", "log", "marker click handler: JsValue(" ++ Text.quoted reason ++ ")"]]
  | .uncaught source =>
    [words
      [sourceName source, "uncaught", "closure invoked recursively or after being dropped"]]

/-- The lines of acts, as a value to be written. -/
def ofActs (acts : List (Act Float)) : Value := .list ((acts.flatMap actLines).map .list)

end Trace
end GlobeView
