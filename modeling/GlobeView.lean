import GlobeView.CommandLine.Folder
import GlobeView.Main
import GlobeView.Page.HostJson
import GlobeView.Page.Trace
import GlobeView.Proofs.ArcGeometry
import GlobeView.Proofs.BoundedLog
import GlobeView.Proofs.BreathingBounds
import GlobeView.Proofs.BufferCap
import GlobeView.Proofs.CallbackDesk
import GlobeView.Proofs.ClearedSquare
import GlobeView.Proofs.Clicks
import GlobeView.Proofs.Coasting
import GlobeView.Proofs.CursorState
import GlobeView.Proofs.DataSetters
import GlobeView.Proofs.DisplayTime
import GlobeView.Proofs.Dragging
import GlobeView.Proofs.DrawnAndPicked
import GlobeView.Proofs.FailedMounts
import GlobeView.Proofs.FrameHistory
import GlobeView.Proofs.FrameRequests
import GlobeView.Proofs.HeatFading
import GlobeView.Proofs.HeldHover
import GlobeView.Proofs.HostRuns
import GlobeView.Proofs.JsonReading
import GlobeView.Proofs.JsonRoundTrip
import GlobeView.Proofs.Layers
import GlobeView.Proofs.LogReplay
import GlobeView.Proofs.OverlayAccounting
import GlobeView.Proofs.OverlayElements
import GlobeView.Proofs.OverlayGrammar
import GlobeView.Proofs.PartialConfigs
import GlobeView.Proofs.ParticlePhase
import GlobeView.Proofs.PickingOrder
import GlobeView.Proofs.PointerCoherence
import GlobeView.Proofs.PointerOnMarker
import GlobeView.Proofs.SampleHistograms
import GlobeView.Proofs.SessionEnd
import GlobeView.Proofs.SettledFrames
import GlobeView.Proofs.SphereView
import GlobeView.Proofs.Steering
import GlobeView.Proofs.SteppedFrames
import GlobeView.Proofs.SummaryAccounts
import GlobeView.Proofs.SurfaceSizing
import GlobeView.Proofs.TimelessSummary
import GlobeView.Proofs.UndefinedCoordinates
import GlobeView.Proofs.UndefinedNumbers
import GlobeView.Proofs.ValidatorScenes
