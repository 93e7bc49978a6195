import GlobeView.Double.Arithmetic
import GlobeView.Json.Reader
import GlobeView.Json.Value
import GlobeView.Scene

/-! # Scenes as JSON

A location is written as a pair, every other part of a scene as an object.  Missing lists are empty,
a missing tooltip is none and a missing pulse is false. -/

namespace GlobeView

open Json (Reader RecordField Fault Value)

namespace LatLon

/-- A location from a pair of latitude and longitude. -/
def reader : Reader (LatLon Float) := fun cs =>
  match Json.pair Json.float Json.float cs with
  | .ok ((lat, lon), rest) => .ok (⟨lat, lon⟩, rest)
  | .error e => .error e

def ofJson (text : String) : Except Fault (LatLon Float) := Json.parse reader text

def toJson (p : LatLon Float) : Value := .list [.number p.lat, .number p.lon]

end LatLon

namespace Marker

def fields : List (RecordField (Marker Float)) :=
  [.of "location" true LatLon.reader fun v m => { m with location := v },
   .of "size" true Json.float fun v m => { m with size := v },
   .of "tooltip" false (Json.optional Json.string) fun v m => { m with tooltip := v },
   .of "pulse" false Json.bool fun v m => { m with pulse := v }]

def reader : Reader (Marker Float) := Json.record fields ⟨⟨0, 0⟩, 0, none, false⟩

/-- The member of a tooltip, which is left out when there is none. -/
def tooltipMember : Option String → List (String × Value)
  | some s => [("tooltip", .text s)]
  | none => []

def toJson (m : Marker Float) : Value :=
  .object <|
    [("location", m.location.toJson), ("size", .number m.size)] ++ tooltipMember m.tooltip ++
      [("pulse", .bool m.pulse)]

end Marker

namespace Connection

def fields : List (RecordField (Connection Float)) :=
  [.of "start" true LatLon.reader fun v c => { c with start := v },
   .of "end" true LatLon.reader fun v c => { c with finish := v }]

def reader : Reader (Connection Float) := Json.record fields ⟨⟨0, 0⟩, ⟨0, 0⟩⟩

def toJson (c : Connection Float) : Value :=
  .object [("start", c.start.toJson), ("end", c.finish.toJson)]

end Connection

namespace HeatPoint

def fields : List (RecordField (HeatPoint Float)) :=
  [.of "lat" true Json.float fun v p => { p with lat := v },
   .of "lon" true Json.float fun v p => { p with lon := v },
   .of "value" true Json.float fun v p => { p with value := v }]

def reader : Reader (HeatPoint Float) := Json.record fields ⟨0, 0, 0⟩

def toJson (p : HeatPoint Float) : Value :=
  .object [("lat", .number p.lat), ("lon", .number p.lon), ("value", .number p.value)]

end HeatPoint

namespace Scene

def fields : List (RecordField (Scene Float)) :=
  [.of "markers" false (Json.list Marker.reader) fun v s => { s with markers := v },
   .of "connections" false (Json.list Connection.reader) fun v s => { s with connections := v },
   .of "heatmapPoints" false (Json.list HeatPoint.reader) fun v s => { s with heat := v }]

def reader : Reader (Scene Float) := Json.record fields .empty

def ofJson (text : String) : Except Fault (Scene Float) := Json.parse reader text

def toJson (s : Scene Float) : Value :=
  .object
    [("markers", .list (s.markers.map Marker.toJson)),
     ("connections", .list (s.connections.map Connection.toJson)),
     ("heatmapPoints", .list (s.heat.map HeatPoint.toJson))]

/-- The text of a scene, one entry a line. -/
def pretty (s : Scene Float) : String := s.toJson.pretty

end Scene
end GlobeView
