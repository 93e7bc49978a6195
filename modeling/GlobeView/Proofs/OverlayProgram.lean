import Mathlib.Tactic.Common
import GlobeView.Overlay

/-! # The commands of an overlay

A frame is made by going through the heat and the connections, with the commands and the counts so
far.  What a pass adds to them is a sum over its elements (`OverlayDraft.foldl_add`): the commands of
those that are drawn, in order, and one count for each.  So a frame is told by what becomes of each
element (`Renderer.render_eq`), which is how everything else is proved about frames.

A frame clears its square once, before anything else: neither a glow nor an arc clears anything
(`Renderer.clearWidths_render`). -/

namespace GlobeView

variable {α : Type}

/-! ### Passes -/

namespace OverlayDraft

variable {count : OverlayStats → OverlayStats} {glows arcs : ℕ}

/-- One element, which is counted as so many glows and arcs if it is drawn. -/
theorem add_eq
    (hcount : ∀ s, count s = { s with glows := s.glows + glows, arcs := s.arcs + arcs })
    (d : OverlayDraft α) (o : Outcome α) :
    d.add count o =
      { commands := o.commands.reverse ++ d.commands
        stats :=
          { glows := d.stats.glows + glows * [o].countP Outcome.isDrawn
            arcs := d.stats.arcs + arcs * [o].countP Outcome.isDrawn
            degenerate := d.stats.degenerate + [o].countP Outcome.isDegenerate
            hidden := d.stats.hidden + [o].countP Outcome.isHidden } } := by
  cases o with
  | drawn commands =>
      simp [add, hcount, Outcome.commands, Outcome.isDrawn, Outcome.isDegenerate, Outcome.isHidden]
  | degenerate =>
      simp [add, OverlayStats.countDegenerate, Outcome.commands, Outcome.isDrawn,
        Outcome.isDegenerate, Outcome.isHidden]
  | hidden =>
      simp [add, OverlayStats.countHidden, Outcome.commands, Outcome.isDrawn,
        Outcome.isDegenerate, Outcome.isHidden]

/-- A pass over elements that are counted as so many glows and arcs if they are drawn. -/
theorem foldl_add
    (hcount : ∀ s, count s = { s with glows := s.glows + glows, arcs := s.arcs + arcs })
    (outcomes : List (Outcome α)) (d : OverlayDraft α) :
    outcomes.foldl (add count) d =
      { commands := (outcomes.flatMap Outcome.commands).reverse ++ d.commands
        stats :=
          { glows := d.stats.glows + glows * outcomes.countP Outcome.isDrawn
            arcs := d.stats.arcs + arcs * outcomes.countP Outcome.isDrawn
            degenerate := d.stats.degenerate + outcomes.countP Outcome.isDegenerate
            hidden := d.stats.hidden + outcomes.countP Outcome.isHidden } } := by
  induction outcomes generalizing d with
  | nil => rfl
  | cons o rest ih =>
      have hsplit : o :: rest = [o] ++ rest := rfl
      rw [List.foldl_cons, ih, add_eq hcount, hsplit]
      simp only [List.countP_append, List.flatMap_append, List.flatMap_singleton,
        List.reverse_append, List.append_assoc, Nat.mul_add, Nat.add_assoc]

theorem foldl_countGlow (outcomes : List (Outcome α)) (d : OverlayDraft α) :
    outcomes.foldl (add .countGlow) d =
      { commands := (outcomes.flatMap Outcome.commands).reverse ++ d.commands
        stats :=
          { d.stats with
            glows := d.stats.glows + outcomes.countP Outcome.isDrawn
            degenerate := d.stats.degenerate + outcomes.countP Outcome.isDegenerate
            hidden := d.stats.hidden + outcomes.countP Outcome.isHidden } } := by
  have hcount (s : OverlayStats) :
      s.countGlow = { s with glows := s.glows + 1, arcs := s.arcs + 0 } := rfl
  rw [foldl_add hcount]
  simp only [Nat.one_mul, Nat.zero_mul, Nat.add_zero]

theorem foldl_countArc (outcomes : List (Outcome α)) (d : OverlayDraft α) :
    outcomes.foldl (add .countArc) d =
      { commands := (outcomes.flatMap Outcome.commands).reverse ++ d.commands
        stats :=
          { d.stats with
            arcs := d.stats.arcs + outcomes.countP Outcome.isDrawn
            degenerate := d.stats.degenerate + outcomes.countP Outcome.isDegenerate
            hidden := d.stats.hidden + outcomes.countP Outcome.isHidden } } := by
  have hcount (s : OverlayStats) :
      s.countArc = { s with glows := s.glows + 0, arcs := s.arcs + 1 } := rfl
  rw [foldl_add hcount]
  simp only [Nat.one_mul, Nat.zero_mul, Nat.add_zero]

end OverlayDraft

/-! ### Cleared squares -/

/-- The width that a command clears. -/
def OverlayCommand.clearWidth? : OverlayCommand α → Option α
  | .clear width => some width
  | _ => none

/-- The widths that the commands of a frame clear, in order. -/
def OverlayFrame.clearWidths (frame : OverlayFrame α) : List α :=
  frame.commands.filterMap OverlayCommand.clearWidth?

/-- The widths that an element clears. -/
def Outcome.clearWidths (o : Outcome α) : List α :=
  o.commands.filterMap OverlayCommand.clearWidth?

namespace Renderer

/-- What the outcomes of the heat come to: their commands, between two changes of the blend mode. -/
def heatCommands (glows : List (Outcome α)) : List (OverlayCommand α) :=
  if glows.isEmpty then []
  else .setBlend .lighter :: glows.flatMap Outcome.commands ++ [.setBlend .sourceOver]

theorem clearWidths_flatMap {outcomes : List (Outcome α)}
    (h : ∀ o ∈ outcomes, o.clearWidths = []) :
    (outcomes.flatMap Outcome.commands).filterMap OverlayCommand.clearWidth? = [] := by
  rw [List.filterMap_flatMap, List.flatMap_eq_nil_iff]
  exact h

variable [Scalar α]

theorem heatPass_eq (r : Renderer α) (view : View α) (heat : List (HeatPoint α))
    (d : OverlayDraft α) :
    let glows := heat.map (r.glow view)
    r.heatPass view heat d =
      { commands := (heatCommands glows).reverse ++ d.commands
        stats :=
          { d.stats with
            glows := d.stats.glows + glows.countP Outcome.isDrawn
            degenerate := d.stats.degenerate + glows.countP Outcome.isDegenerate
            hidden := d.stats.hidden + glows.countP Outcome.isHidden } } := by
  intro glows
  have hpass (d : OverlayDraft α) :
      heat.foldl (fun d point => d.add .countGlow (r.glow view point)) d =
        glows.foldl (OverlayDraft.add .countGlow) d :=
    List.foldl_map.symm
  cases heat with
  | nil => rfl
  | cons point rest =>
      have hadded := OverlayDraft.foldl_countGlow glows (d.push (.setBlend .lighter))
      simp only [heatPass, List.isEmpty_cons, Bool.false_eq_true, if_false, hpass, hadded]
      simp [OverlayDraft.push, heatCommands, glows]

theorem arcPass_eq (r : Renderer α) (view : View α) (connections : List (Connection α))
    (elapsed : α) (d : OverlayDraft α) :
    let arcs := connections.mapIdx (r.arc view elapsed)
    r.arcPass view connections elapsed d =
      { commands := (arcs.flatMap Outcome.commands).reverse ++ d.commands
        stats :=
          { d.stats with
            arcs := d.stats.arcs + arcs.countP Outcome.isDrawn
            degenerate := d.stats.degenerate + arcs.countP Outcome.isDegenerate
            hidden := d.stats.hidden + arcs.countP Outcome.isHidden } } := by
  intro arcs
  have hpass : r.arcPass view connections elapsed d =
      arcs.foldl (OverlayDraft.add .countArc) d := by
    simp only [arcPass, arcs, List.mapIdx_eq_zipIdx_map, List.foldl_map]
  rw [hpass, OverlayDraft.foldl_countArc]

/-- A frame is what becomes of the heat and of the connections, put together. -/
theorem render_eq (r : Renderer α) (view : View α) (connections : List (Connection α))
    (heat : List (HeatPoint α)) (elapsed : α) :
    let glows := heat.map (r.glow view)
    let arcs := connections.mapIdx (r.arc view elapsed)
    r.render view connections heat elapsed =
      { commands := .clear view.width :: heatCommands glows ++ arcs.flatMap Outcome.commands
        stats :=
          { glows := glows.countP Outcome.isDrawn
            arcs := arcs.countP Outcome.isDrawn
            degenerate := glows.countP Outcome.isDegenerate + arcs.countP Outcome.isDegenerate
            hidden := glows.countP Outcome.isHidden + arcs.countP Outcome.isHidden } } := by
  intro glows arcs
  simp only [render, heatPass_eq, arcPass_eq, OverlayDraft.frame]
  simp [glows, arcs]

theorem clearWidths_glow (r : Renderer α) (view : View α) (point : HeatPoint α) :
    (r.glow view point).clearWidths = [] := by
  simp only [glow]
  split_ifs <;> rfl

theorem clearWidths_arc (r : Renderer α) (view : View α) (elapsed : α) (index : Nat)
    (c : Connection α) : (r.arc view elapsed index c).clearWidths = [] := by
  simp only [arc]
  split_ifs
  · split <;> rfl
  · rfl

omit [Scalar α] in
theorem clearWidths_heatCommands {glows : List (Outcome α)}
    (h : ∀ o ∈ glows, o.clearWidths = []) :
    (heatCommands glows).filterMap OverlayCommand.clearWidth? = [] := by
  unfold heatCommands
  split_ifs
  · rfl
  · rw [List.cons_append, List.filterMap_cons, List.filterMap_append, clearWidths_flatMap h]
    rfl

theorem clearWidths_render (r : Renderer α) (view : View α) (connections : List (Connection α))
    (heat : List (HeatPoint α)) (elapsed : α) :
    (r.render view connections heat elapsed).clearWidths = [view.width] := by
  have hheat : ∀ o ∈ heat.map (r.glow view), o.clearWidths = [] := by
    intro o ho
    obtain ⟨point, _, rfl⟩ := List.mem_map.mp ho
    exact r.clearWidths_glow view point
  have harcs : ∀ o ∈ connections.mapIdx (r.arc view elapsed), o.clearWidths = [] := by
    intro o ho
    obtain ⟨index, _, rfl⟩ := List.mem_mapIdx.mp ho
    exact r.clearWidths_arc view elapsed index _
  simp only [render_eq, OverlayFrame.clearWidths]
  rw [List.cons_append, List.filterMap_cons, List.filterMap_append, clearWidths_heatCommands hheat,
    clearWidths_flatMap harcs]
  rfl

end Renderer
end GlobeView
