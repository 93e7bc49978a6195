import Mathlib.Algebra.GroupWithZero.Nat
import GlobeView.Double.Arithmetic
import GlobeView.Proofs.ControllerTraces
import GlobeView.Proofs.Counters
import GlobeView.Proofs.OverlayProgram

/-! # The accounts of the overlay

Every connection and every heat point of a frame has exactly one outcome, and a frame says how many
there are of each: what it draws, what is degenerate and what is hidden add up to what it was given
(`Renderer.outcomes_render`), and the number of its commands follows from what is drawn
(`Renderer.length_commands_render`).

A tick puts the numbers of its frame into the metrics, by another way than the one in which they
were counted.  `Tallied overlays m` says that the metrics `m` have booked each of `overlays` once;
nothing but a tick books anything (`tallied_act`). -/

namespace GlobeView

variable {α : Type}

/-! ### Outcomes -/

namespace Outcome

theorem countP_kinds (outcomes : List (Outcome α)) :
    outcomes.countP isDrawn + outcomes.countP isDegenerate + outcomes.countP isHidden =
      outcomes.length := by
  induction outcomes with
  | nil => rfl
  | cons o rest ih =>
      simp only [List.countP_cons, List.length_cons, ← ih]
      cases o <;> simp only [isDrawn, isDegenerate, isHidden] <;> simp <;> omega

theorem length_flatMap_commands {size : ℕ} {outcomes : List (Outcome α)}
    (h : ∀ o ∈ outcomes, o.commands.length = if o.isDrawn then size else 0) :
    (outcomes.flatMap commands).length = size * outcomes.countP isDrawn := by
  induction outcomes with
  | nil => rfl
  | cons o rest ih =>
      have hrest := ih fun o' ho' => h o' (List.mem_cons_of_mem o ho')
      rw [List.flatMap_cons, List.length_append, hrest, h o List.mem_cons_self, List.countP_cons]
      split_ifs
      · rw [Nat.mul_add, Nat.mul_one, Nat.add_comm]
      · rw [Nat.zero_add, Nat.add_zero]

end Outcome

namespace Renderer

theorem length_heatCommands (glows : List (Outcome α)) :
    (heatCommands glows).length =
      (if 0 < glows.length then 2 else 0) + (glows.flatMap Outcome.commands).length := by
  cases glows with
  | nil => rfl
  | cons o rest =>
      have hpass : heatCommands (o :: rest) =
          .setBlend .lighter :: (o :: rest).flatMap Outcome.commands ++ [.setBlend .sourceOver] :=
        rfl
      rw [hpass, List.length_append, List.length_cons, List.length_singleton, List.length_cons,
        if_pos (Nat.succ_pos _)]
      omega

variable [Scalar α]

theorem length_commands_glow (r : Renderer α) (view : View α) (point : HeatPoint α) :
    (r.glow view point).commands.length = if (r.glow view point).isDrawn then 1 else 0 := by
  simp only [glow]
  split_ifs <;> first | rfl | contradiction

theorem length_commands_arc (r : Renderer α) (view : View α) (elapsed : α) (index : ℕ)
    (c : Connection α) :
    (r.arc view elapsed index c).commands.length =
      if (r.arc view elapsed index c).isDrawn then 2 else 0 := by
  simp only [arc]
  split
  · split <;> rfl
  · rfl

/-- Neither the time nor the place in the list decides what becomes of a connection. -/
theorem kind_arc {p : Outcome α → Bool}
    (hp : ∀ commands commands', p (.drawn commands) = p (.drawn commands')) (r : Renderer α)
    (view : View α) (c : Connection α) (elapsed elapsed' : α) (index index' : ℕ) :
    p (r.arc view elapsed index c) = p (r.arc view elapsed' index' c) := by
  simp only [arc]
  split_ifs
  · split
    · rfl
    · exact hp _ _
  · rfl

theorem countP_mapIdx_arc {p : Outcome α → Bool}
    (hp : ∀ commands commands', p (.drawn commands) = p (.drawn commands')) (r : Renderer α)
    (view : View α) (connections : List (Connection α)) (elapsed elapsed' : α) :
    (connections.mapIdx (r.arc view elapsed)).countP p =
      connections.countP fun c => p (r.arc view elapsed' 0 c) := by
  have hkind (entry : Connection α × ℕ) :
      p (r.arc view elapsed entry.2 entry.1) = p (r.arc view elapsed' 0 entry.1) :=
    kind_arc hp r view entry.1 elapsed elapsed' entry.2 0
  calc (connections.mapIdx (r.arc view elapsed)).countP p
      = connections.zipIdx.countP fun entry => p (r.arc view elapsed entry.2 entry.1) := by
        rw [List.mapIdx_eq_zipIdx_map, List.countP_map]
        rfl
    _ = connections.zipIdx.countP ((fun c => p (r.arc view elapsed' 0 c)) ∘ Prod.fst) :=
        congrArg (List.countP · _) (funext hkind)
    _ = connections.countP fun c => p (r.arc view elapsed' 0 c) := by
        rw [← List.countP_map, List.zipIdx_map_fst]

variable (r : Renderer α) (view : View α) (connections : List (Connection α))
  (heat : List (HeatPoint α)) (elapsed : α)

/-- Everything that a frame is given is accounted for once. -/
theorem outcomes_render :
    let stats := (r.render view connections heat elapsed).stats
    stats.glows + stats.arcs + stats.degenerate + stats.hidden =
      connections.length + heat.length := by
  have hglows := Outcome.countP_kinds (heat.map (r.glow view))
  have harcs := Outcome.countP_kinds (connections.mapIdx (r.arc view elapsed))
  rw [List.length_map] at hglows
  rw [List.length_mapIdx] at harcs
  simp only [render_eq]
  omega

/-- The commands of a frame: one clears, two change the blend mode if there is heat, and every glow
takes one and every arc two. -/
theorem length_commands_render :
    let frame := r.render view connections heat elapsed
    frame.commands.length =
      1 + (if 0 < heat.length then 2 else 0) + frame.stats.glows + 2 * frame.stats.arcs := by
  have hglows : ((heat.map (r.glow view)).flatMap Outcome.commands).length =
      1 * (heat.map (r.glow view)).countP Outcome.isDrawn := by
    apply Outcome.length_flatMap_commands
    intro o ho
    obtain ⟨point, _, rfl⟩ := List.mem_map.mp ho
    exact r.length_commands_glow view point
  have harcs : ((connections.mapIdx (r.arc view elapsed)).flatMap Outcome.commands).length =
      2 * (connections.mapIdx (r.arc view elapsed)).countP Outcome.isDrawn := by
    apply Outcome.length_flatMap_commands
    intro o ho
    obtain ⟨index, _, rfl⟩ := List.mem_mapIdx.mp ho
    exact r.length_commands_arc view elapsed index _
  simp only [render_eq]
  rw [List.cons_append, List.length_cons, List.length_append, length_heatCommands, List.length_map,
    hglows, harcs]
  omega

end Renderer

namespace Controller

/-! ### The books -/

/-- The counters that a tick books its overlay in, and what it books in each. -/
def frameCounters : List (String × (OverlayFrame α → ℕ)) :=
  [("frames", fun _ => 1),
   ("overlay.glows", fun overlay => overlay.stats.glows),
   ("overlay.arcs", fun overlay => overlay.stats.arcs),
   ("overlay.skipped_degenerate", fun overlay => overlay.stats.degenerate),
   ("overlay.skipped_hidden", fun overlay => overlay.stats.hidden)]

/-- Metrics that have booked the given overlays: a counter holds the sum of what was booked in it,
as a word, and so does the count of the samples of the commands. -/
structure Tallied (overlays : List (OverlayFrame α)) (m : Metrics α) : Prop where
  counters : ∀ counter ∈ frameCounters,
    m.counter counter.1 = (overlays.map counter.2).sum % wordRange
  samples : ((m.histogram? "overlay.commands").getD .empty).count =
    overlays.length % wordRange
  commands : ((m.histogram? "overlay.commands").getD .empty).sum =
    min (overlays.map (·.commands.length)).sum (wordRange - 1)

theorem tallied_empty : Tallied ([] : List (OverlayFrame α)) .empty where
  counters counter _ := Metrics.counter_empty counter.1
  samples := by simp [Metrics.histogram?, Metrics.empty, Histogram.empty]
  commands := by simp [Metrics.histogram?, Metrics.empty, Histogram.empty]

theorem counter_recordFrame (overlay : OverlayFrame α) (rotation : Rotation α) (m : Metrics α)
    {counter : String × (OverlayFrame α → ℕ)} (h : counter ∈ frameCounters) :
    (recordFrame overlay rotation m).counter counter.1 =
      (m.counter counter.1 + counter.2 overlay) % wordRange := by
  simp only [frameCounters, List.mem_cons, List.not_mem_nil, or_false] at h
  obtain rfl | rfl | rfl | rfl | rfl := h <;> simp [recordFrame, Metrics.counter_incCounter]

theorem histogram?_recordFrame (overlay : OverlayFrame α) (rotation : Rotation α)
    (m : Metrics α) :
    (recordFrame overlay rotation m).histogram? "overlay.commands" =
      some (((m.histogram? "overlay.commands").getD .empty).record overlay.commands.length) := by
  simp only [recordFrame, Metrics.histogram?_setGauge, Metrics.histogram?_record_self,
    Metrics.histogram?_incCounter]

variable {overlays : List (OverlayFrame α)} {m : Metrics α}

namespace Tallied

theorem recordFrame (h : Tallied overlays m) (overlay : OverlayFrame α) (rotation : Rotation α) :
    Tallied (overlays ++ [overlay]) (recordFrame overlay rotation m) where
  counters := by
    intro counter hcounter
    rw [counter_recordFrame overlay rotation m hcounter, h.counters counter hcounter,
      Nat.mod_add_mod, List.map_append, List.sum_append]
    rfl
  samples := by
    rw [histogram?_recordFrame, Option.getD_some, Histogram.count_record, h.samples,
      Nat.mod_add_mod, List.length_append]
    rfl
  commands := by
    rw [histogram?_recordFrame, Option.getD_some, Histogram.sum_record, h.commands,
      List.map_append, List.sum_append]
    simp only [List.map_cons, List.map_nil, List.sum_cons, List.sum_nil]
    omega

theorem click (h : Tallied overlays m) : Tallied overlays (m.incCounter "clicks" 1) where
  counters := by
    intro counter hcounter
    rw [Metrics.counter_incCounter, if_neg, h.counters counter hcounter]
    simp only [frameCounters, List.mem_cons, List.not_mem_nil, or_false] at hcounter
    obtain rfl | rfl | rfl | rfl | rfl := hcounter <;> simp
  samples := h.samples
  commands := h.commands

end Tallied

/-- Whether an action is a tick. -/
def Action.isTick : Action α → Bool
  | .tick _ => true
  | _ => false

variable {σ : Type} [Scalar α] [PhaseSource σ α] {c : Controller σ α}

theorem tallied_act (h : Tallied overlays c.metrics) (a : Action α) :
    Tallied (overlays ++ (frameOf a c).map (·.overlay)) (c.act a).metrics := by
  have hclicks : ∀ (clicked : List (Marker α)) (m : Metrics α), Tallied overlays m →
      Tallied overlays (clicked.foldl (fun m _ => m.incCounter "clicks" 1) m) := by
    intro clicked
    induction clicked with
    | nil => exact fun _ hm => hm
    | cons _ rest ih => exact fun m hm => ih _ hm.click
  rw [metrics_act]
  cases a with
  | tick frame => exact h.recordFrame _ _
  | _ =>
      show Tallied (overlays ++ []) _
      rw [List.append_nil]
      exact hclicks _ _ h

theorem tallied_run (actions : List (Action α)) (config : Config α) (source : σ) :
    Tallied ((frames actions (create config source)).map (·.overlay))
      ((create config source).run actions).metrics := by
  have hstart : Tallied (([] : List (FrameOutput α)).map (·.overlay))
      (create config source : Controller σ α).metrics := tallied_empty
  refine trace_induction
    (P := fun (shown : List (FrameOutput α)) c => Tallied (shown.map (·.overlay)) c.metrics) ?_
    hstart
  intro a _ shown c hc
  rw [List.map_append]
  exact tallied_act hc a

theorem length_frames (actions : List (Action α)) (c : Controller σ α) :
    (frames actions c).length = actions.countP Action.isTick := by
  induction actions generalizing c with
  | nil => rfl
  | cons a rest ih =>
      have hrest : (trace frameOf rest (c.act a)).length = rest.countP Action.isTick := ih (c.act a)
      rw [frames, trace, List.length_append, hrest, List.countP_cons]
      cases a <;> simp [frameOf, Action.isTick, Nat.add_comm]

/-- **The overlay is accounted for.**  After any run a tick accounts once for every current
connection and every current heat point, and says by that how many commands it makes.  As long as
no counter overflows, the counters of the run are the sums over the frames that were shown, and the
samples of the commands are those of these frames. -/
theorem overlay_accounting (config : Config α) (source : σ) (actions : List (Action α)) :
    let start := create config source
    let c := start.run actions
    let overlays := (frames actions start).map (·.overlay)
    let total (amount : OverlayFrame α → ℕ) := (overlays.map amount).sum
    (∀ frame,
      let overlay := (c.tick frame).1.overlay
      overlay.stats.glows + overlay.stats.arcs + overlay.stats.degenerate + overlay.stats.hidden =
          c.scene.connections.length + c.scene.heat.length ∧
        overlay.commands.length =
          1 + (if 0 < c.scene.heat.length then 2 else 0) + overlay.stats.glows +
            2 * overlay.stats.arcs) ∧
    ((∀ counter ∈ frameCounters, total counter.2 < wordRange) →
      let commands := (c.metrics.histogram? "overlay.commands").getD .empty
      c.metrics.counter "frames" = actions.countP Action.isTick ∧
      c.metrics.counter "overlay.glows" = total (·.stats.glows) ∧
      c.metrics.counter "overlay.arcs" = total (·.stats.arcs) ∧
      c.metrics.counter "overlay.skipped_degenerate" = total (·.stats.degenerate) ∧
      c.metrics.counter "overlay.skipped_hidden" = total (·.stats.hidden) ∧
      commands.count = actions.countP Action.isTick ∧
      (total (·.commands.length) < wordRange → commands.sum = total (·.commands.length))) := by
  intro start c overlays total
  constructor
  · intro frame
    exact ⟨Renderer.outcomes_render .., Renderer.length_commands_render ..⟩
  · intro hcounters commands
    have htallied : Tallied overlays c.metrics := tallied_run actions config source
    have hlength : overlays.length = actions.countP Action.isTick := by
      rw [List.length_map, length_frames]
    have hbooked : ∀ counter ∈ frameCounters, c.metrics.counter counter.1 = total counter.2 := by
      intro counter hcounter
      rw [htallied.counters counter hcounter]
      exact Nat.mod_eq_of_lt (hcounters counter hcounter)
    have hframes : total (fun _ => 1) = actions.countP Action.isTick := by
      rw [← hlength]
      simp [total]
    simp only [frameCounters, List.mem_cons, List.not_mem_nil, or_false, forall_eq_or_imp,
      forall_eq] at hbooked
    obtain ⟨hcount, hglows, harcs, hdegenerate, hhidden⟩ := hbooked
    have hsamples : commands.count = actions.countP Action.isTick := by
      rw [htallied.samples, hlength, ← hframes]
      exact Nat.mod_eq_of_lt (hcounters ("frames", fun _ => 1) (by simp [frameCounters]))
    refine ⟨hcount.trans hframes, hglows, harcs, hdegenerate, hhidden, hsamples, ?_⟩
    intro hcommands
    rw [htallied.commands]
    exact min_eq_left (Nat.le_sub_one_of_lt hcommands)

/-- Two connections, one of them without extent, and heat that is gone at the second tick. -/
theorem overlay_accounting_cooled :
    let start : Controller Unseeded Float := create .default .mk
    let actions : List (Action Float) :=
      [.setConnections [⟨⟨0, 0⟩, ⟨10, 20⟩⟩, ⟨⟨5, 5⟩, ⟨5, 5⟩⟩], .setHeat [⟨0, 0, 1⟩],
        .tick ⟨0, 0, 0⟩, .pointer (.down ⟨9, 9⟩), .setHeat [], .tick ⟨1, 1, 1⟩]
    let overlays := (frames actions start).map (·.overlay)
    let metrics := (start.run actions).metrics
    (∀ counter ∈ frameCounters, (overlays.map counter.2).sum < wordRange) ∧
      (overlays.map (·.commands.length)).sum < wordRange ∧
      metrics.counter "frames" = 2 ∧
      metrics.counter "overlay.glows" = (overlays.map (·.stats.glows)).sum ∧
      ((metrics.histogram? "overlay.commands").getD .empty).sum =
        (overlays.map (·.commands.length)).sum := by
  intro start actions overlays metrics
  have hwarm := (overlay_accounting (.default : Config Float) Unseeded.mk (actions.take 2)).1
  have hcold := (overlay_accounting (.default : Config Float) Unseeded.mk (actions.take 5)).1
  obtain ⟨warm, cold, hshown, hwarm, hcold⟩ : ∃ warm cold, overlays = [warm, cold] ∧
      (warm.stats.glows + warm.stats.arcs + warm.stats.degenerate + warm.stats.hidden = 2 + 1 ∧
        warm.commands.length = 1 + 2 + warm.stats.glows + 2 * warm.stats.arcs) ∧
      (cold.stats.glows + cold.stats.arcs + cold.stats.degenerate + cold.stats.hidden = 2 + 0 ∧
        cold.commands.length = 1 + 0 + cold.stats.glows + 2 * cold.stats.arcs) :=
    ⟨_, _, rfl, hwarm ⟨0, 0, 0⟩, hcold ⟨1, 1, 1⟩⟩
  have hcounters : ∀ counter ∈ frameCounters, (overlays.map counter.2).sum < wordRange := by
    rw [hshown]
    intro counter hcounter
    simp only [frameCounters, List.mem_cons, List.not_mem_nil, or_false] at hcounter
    unfold wordRange
    obtain rfl | rfl | rfl | rfl | rfl := hcounter <;>
      simp only [List.map_cons, List.map_nil, List.sum_cons, List.sum_nil] <;> omega
  have hcommands : (overlays.map (·.commands.length)).sum < wordRange := by
    rw [hshown]
    unfold wordRange
    simp only [List.map_cons, List.map_nil, List.sum_cons, List.sum_nil]
    omega
  obtain ⟨hframes, hglows, _, _, _, _, hsum⟩ :=
    (overlay_accounting (.default : Config Float) Unseeded.mk actions).2 hcounters
  exact ⟨hcounters, hcommands, hframes, hglows, hsum hcommands⟩

end Controller
end GlobeView
