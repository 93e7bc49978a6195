import GlobeView.Config

/-! # Sizes

The displayed size of a globe follows its container; the side of the drawing buffer is the displayed
size held below a cap.  A `Sizer` keeps the current sizes and a single timer: every observation arms
it, and once it is due the container is measured again. -/

namespace GlobeView

open Scalar

/-- A measured container, in display pixels. -/
structure ContainerSize (α : Type) where
  width : α
  height : α
deriving DecidableEq, Repr

/-- The side of the globe on the display and in the drawing buffer. -/
structure SurfaceSize (α : Type) where
  display : α
  render : α
deriving DecidableEq, Repr

namespace SurfaceSize

variable {α : Type} [Scalar α]

/-- Two sizes are the same when both sides test equal. -/
instance : BEq (SurfaceSize α) := ⟨fun a b => a.display == b.display && a.render == b.render⟩

/-- Buffer pixels per display pixel. -/
def scaleFactor (s : SurfaceSize α) : α :=
  if 0 < s.display then s.render / s.display else 1

/-- The side of the allocated buffer: a whole number of pixels, at least one. -/
def bufferPixels (s : SurfaceSize α) : UInt32 :=
  toWord (Scalar.max (round s.render) 1)

end SurfaceSize

section Compute

variable {α : Type} [Scalar α]

/-- A side as far as it can be measured: what is not finite and positive counts as nothing. -/
def measurable (side : α) : α :=
  if isFinite side && 0 < side then side else 0

/-- The base size of a container; `fallback` stands in for one without extent. -/
def SizingMode.baseSize (mode : SizingMode) (fallback : α) (c : ContainerSize α) : α :=
  let w := measurable c.width
  let h := measurable c.height
  let base := match mode with
    | .fit => Scalar.min w h
    | .cover => Scalar.max w h
  if 0 < base then base else fallback

/-- The sizes for a measured container. -/
def surfaceSize (mode : SizingMode) (scale cap fallback : α) (c : ContainerSize α) :
    SurfaceSize α :=
  let display := mode.baseSize fallback c * scale
  ⟨display, Scalar.min display cap⟩

end Compute

/-- The current sizes and the timer of the second measurement. -/
structure Sizer (α : Type) where
  mode : SizingMode
  scale : α
  cap : α
  fallback : α
  settleDelay : α
  size : SurfaceSize α
  /-- When the size last changed. -/
  lastResize : α
  /-- When the second measurement is due. -/
  settleAt : Option α
deriving DecidableEq, Repr

namespace Sizer

variable {α : Type} [Scalar α]

/-- The sizes that a configuration gives a container. -/
def target (s : Sizer α) (c : ContainerSize α) : SurfaceSize α :=
  surfaceSize s.mode s.scale s.cap s.fallback c

/-- Before any measurement the container counts as empty. -/
def ofConfig (cfg : Config α) : Sizer α where
  mode := cfg.sizingMode
  scale := cfg.scale
  cap := cfg.renderCap
  fallback := cfg.fallbackSize
  settleDelay := cfg.settleDelay
  size := surfaceSize cfg.sizingMode cfg.scale cfg.renderCap cfg.fallbackSize ⟨0, 0⟩
  lastResize := 0
  settleAt := none

/-- Takes over the sizes for a container; they are answered if they differ from the current ones. -/
def settle (s : Sizer α) (c : ContainerSize α) (now : α) : Option (SurfaceSize α) × Sizer α :=
  let next := s.target c
  if next == s.size then (none, s)
  else (some next, { s with size := next, lastResize := now })

/-- A measurement of the container, which also arms the timer. -/
def observe (s : Sizer α) (c : ContainerSize α) (now : α) : Option (SurfaceSize α) × Sizer α :=
  { s with settleAt := some (now + s.settleDelay) }.settle c now

/-- Whether the second measurement is due; asking at that time disarms the timer. -/
def takeDue (s : Sizer α) (now : α) : Bool × Sizer α :=
  match s.settleAt with
  | some deadline => if deadline ≤ now then (true, { s with settleAt := none }) else (false, s)
  | none => (false, s)

/-- Whether the timer is armed. -/
def settlePending (s : Sizer α) : Bool := s.settleAt.isSome

end Sizer
end GlobeView
