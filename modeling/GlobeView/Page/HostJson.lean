import GlobeView.ConfigJson
import GlobeView.Page.Host
import GlobeView.SceneJson

/-! # A host fed with texts

A page hands its host configurations and data as JSON.  A text is read before anything else is looked
at, so a wrong one changes nothing but, at most, that the globe of before is taken away: mounting
starts with that. -/

namespace GlobeView

open Json (Fault Reader)

/-- Why a host refuses a call. -/
inductive HostError where
  | config (error : ConfigError)
  | scene (fault : Fault)
  | data (fault : Fault)
  | page (fault : PageFault)
  | notMounted
deriving DecidableEq, Repr

/-- What is said about wrong data; only the shape is named. -/
def Json.Fault.summary : Fault → String
  | .invalidType => "invalid type"
  | .invalidLength => "invalid length"
  | .missingField _ => "missing field"
  | .duplicateField _ => "duplicate field"
  | _ => "json"

/-- A refusal in words. -/
def HostError.message : HostError → String
  | .config e => e.message
  | .scene _ => "invalid scene json"
  | .data fault => fault.summary
  | .page fault => fault.message
  | .notMounted => "globe is not mounted"

/-- Reads a configuration; without a text it is the default. -/
def Config.ofText? : Option String → Except ConfigError (Config Float)
  | some text => Config.ofJson text
  | none => .ok .default

namespace Host

variable {σ : Type}

/-- Replaces the globe by a new one in an element. -/
def mountText (source : σ) (id : String) (config : Option String) (h : Host σ Float) :
    Except HostError Unit × Host σ Float :=
  match Config.ofText? config with
  | .error e => (.error (.config e), h.unmount)
  | .ok config =>
    let (result, h) := h.mount source id config
    (result.mapError .page, h)

/-- Gives the globe a value that was read, unless it could not be read or there is no globe. -/
def supply {β : Type} (value : Except HostError β)
    (f : β → Controller σ Float → Controller σ Float) (h : Host σ Float) :
    Except HostError Unit × Host σ Float :=
  match value with
  | .error e => (.error e, h)
  | .ok v =>
    match h.modifyController (f v) with
    | (true, h) => (.ok (), h)
    | (false, h) => (.error .notMounted, h)

/-- A list of data from a text. -/
def readList {β : Type} (r : Reader β) (text : String) : Except HostError (List β) :=
  (Json.parse (Json.list r) text).mapError .data

/-- Replaces all data. -/
def setSceneText (text : String) : Host σ Float → Except HostError Unit × Host σ Float :=
  supply ((Scene.ofJson text).mapError .scene) Controller.setScene

def setMarkersText (text : String) : Host σ Float → Except HostError Unit × Host σ Float :=
  supply (readList Marker.reader text) Controller.setMarkers

def setConnectionsText (text : String) : Host σ Float → Except HostError Unit × Host σ Float :=
  supply (readList Connection.reader text) Controller.setConnections

def setHeatText (text : String) : Host σ Float → Except HostError Unit × Host σ Float :=
  supply (readList HeatPoint.reader text) Controller.setHeat

/-- Installs a click handler, or none. -/
def installHandler (handler : Option ClickHandler) (h : Host σ Float) :
    Except HostError Unit × Host σ Float :=
  match h.setHandler handler with
  | (true, h) => (.ok (), h)
  | (false, h) => (.error .notMounted, h)

/-- Asks the globe something. -/
def ask {β : Type} (question : MountedGlobe σ Float → β) (h : Host σ Float) :
    Except HostError β :=
  match h.globe with
  | some g => .ok (question g)
  | none => .error .notMounted

end Host
end GlobeView
