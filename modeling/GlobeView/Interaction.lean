import GlobeView.Sizing

/-! # Interactions

What a globe logs about its pointer and its size.  The log holds the facts; `Interaction.kind` and
`Interaction.message` are how a fact is shown. -/

namespace GlobeView

/-- A logged fact. -/
inductive Interaction (α : Type) where
  /-- The container was resized. -/
  | resized (size : SurfaceSize α)
  /-- The second measurement changed the size. -/
  | settled (size : SurfaceSize α)
  | dragStarted
  | dragEnded (velocity : α)
  | dragCancelled
  /-- The pointer came over the marker at a place of the list. -/
  | hovered (index : Nat)
  | unhovered
  | clicked (label : String)
deriving DecidableEq, Repr

namespace Interaction

variable {α : Type}

/-- What an interaction is about. -/
def kind : Interaction α → String
  | .resized _ => "resize"
  | .settled _ => "resize"
  | .dragStarted => "drag"
  | .dragEnded _ => "drag"
  | .dragCancelled => "drag"
  | .hovered _ => "hover"
  | .unhovered => "hover"
  | .clicked _ => "click"

/-- The two sides of a size, each written by `text`. -/
def sizeMessage (text : α → String) (size : SurfaceSize α) : String :=
  "display=" ++ text size.display ++ " render=" ++ text size.render

/-- An interaction in words, its numbers written by `text`. -/
def message (text : α → String) : Interaction α → String
  | .resized size => sizeMessage text size
  | .settled size => "settled " ++ sizeMessage text size
  | .dragStarted => "start"
  | .dragEnded velocity => "end velocity=" ++ text velocity
  | .dragCancelled => "cancel"
  | .hovered index => "marker " ++ toString index
  | .unhovered => "none"
  | .clicked label => label

end Interaction
end GlobeView
