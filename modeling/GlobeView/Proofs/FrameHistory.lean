import GlobeView.Proofs.ControllerRuns
import GlobeView.Proofs.PhaseStream
import GlobeView.Random.Xoshiro

/-! # What a frame depends on

The phases of the markers are the only trace that the past of a globe leaves in its frames, and they
are drawn in the order of the places, from a source that nothing else draws from.  So after any run
the cache holds the first draws, as many as the longest list that a tick has seen
(`phases_drawn_run`), and what a tick shows is a function of the data, the rotation, the sizes and the
elapsed time (`tick_fst`), not of how the globe came to them. -/

namespace GlobeView

variable {σ α : Type} [Scalar α] [PhaseSource σ α]

/-- The frame that a globe shows, from what it shows and how it is turned before the frame. -/
def shownFrame (config : Config α) (source : σ) (scene : Scene α) (rotation : Rotation α)
    (size : SurfaceSize α) (elapsed : α) : FrameOutput α :=
  let turned := rotation.tick (.ofConfig config)
  let view : View α := ⟨turned.phi, turned.theta, size.render⟩
  { sphere :=
      { phi := turned.phi
        theta := turned.theta
        width := size.render
        markers := scene.markers.mapIdx (Phases.shown source elapsed) }
    overlay :=
      (Renderer.ofConfig config).render view scene.connections scene.heat (millis elapsed) }

namespace Controller

variable {c : Controller σ α} {source : σ} {count : ℕ}

/-- A tick shows the frame of what the globe is given, whatever was drawn before. -/
theorem tick_fst (h : c.phases.Drawn source count) (frame : Frame α) :
    (c.tick frame).1 =
      shownFrame c.config source c.scene c.rotation c.surfaceSize (c.elapsed frame) := by
  obtain ⟨hmarkers, _⟩ := h.animate (c.elapsed frame) c.scene.markers
  unfold shownFrame
  rw [← hmarkers]
  rfl

/-- The number of markers that an action animates. -/
def animated : Action α → Controller σ α → ℕ
  | .tick _, c => c.scene.markers.length
  | _, _ => 0

/-- The greatest number of markers that a tick of a run animates. -/
def mostAnimated : List (Action α) → Controller σ α → ℕ
  | [], _ => 0
  | a :: rest, c => max (animated a c) (mostAnimated rest (c.act a))

theorem phases_drawn_act (h : c.phases.Drawn source count) (a : Action α) :
    (c.act a).phases.Drawn source (max count (animated a c)) := by
  cases a with
  | tick frame =>
      obtain ⟨_, hdrawn⟩ := h.animate (c.elapsed frame) c.scene.markers
      exact hdrawn
  | _ =>
      rw [act_phases (by simp)]
      show Phases.Drawn source (max count 0) c.phases
      rw [Nat.max_zero]
      exact h

theorem phases_drawn_run (actions : List (Action α)) (h : c.phases.Drawn source count) :
    (c.run actions).phases.Drawn source (max count (mostAnimated actions c)) := by
  induction actions generalizing c count with
  | nil => simpa [mostAnimated] using h
  | cons a rest ih =>
      have hrest := ih (phases_drawn_act h a)
      rw [Nat.max_assoc] at hrest
      exact hrest

/-- **A frame does not depend on history.**  After any run of a globe the known phases are those of
the first places, as many as the longest list that a tick has animated, and each is the draw of its
place.  So two globes with the same configuration and source that have the same data, rotation and
sizes show the same frame at the same time after their first tick, whatever happened to them. -/
theorem frame_history_independent (config : Config α) (source : σ) :
    (∀ actions : List (Action α),
      let c := create config source
      ((c.run actions).phases.size = mostAnimated actions c ∧
        ∀ index, (c.run actions).phases.known? index =
          if index < mostAnimated actions c then some (PhaseSource.nth α index source)
          else none)) ∧
    ∀ (actions₁ actions₂ : List (Action α)) (frame₁ frame₂ : Frame α),
      let c₁ := (create config source).run actions₁
      let c₂ := (create config source).run actions₂
      c₁.scene = c₂.scene → c₁.rotation = c₂.rotation → c₁.surfaceSize = c₂.surfaceSize →
        c₁.elapsed frame₁ = c₂.elapsed frame₂ → (c₁.tick frame₁).1 = (c₂.tick frame₂).1 := by
  have hstart : (create config source : Controller σ α).phases.Drawn source 0 :=
    Phases.drawn_ofSource source
  have hrun (actions : List (Action α)) :
      ((create config source).run actions).phases.Drawn source
        (mostAnimated actions (create config source)) := by
    have h := phases_drawn_run actions hstart
    rwa [Nat.zero_max] at h
  constructor
  · intro actions c
    exact ⟨(hrun actions).size, (hrun actions).known⟩
  · intro actions₁ actions₂ frame₁ frame₂ c₁ c₂ hscene hrotation hsize helapsed
    have hconfig : c₁.config = c₂.config := by
      rw [run_config, run_config]
    rw [tick_fst (hrun actions₁), tick_fst (hrun actions₂)]
    show shownFrame c₁.config source c₁.scene c₁.rotation c₁.surfaceSize (c₁.elapsed frame₁) =
      shownFrame c₂.config source c₂.scene c₂.rotation c₂.surfaceSize (c₂.elapsed frame₂)
    rw [hconfig, hscene, hrotation, hsize, helapsed]

/-- Two globes from one seed.  The first has shown three markers, the second never more than one;
both show the same marker two seconds after their first tick. -/
theorem frame_history_independent_shrunk :
    let config : Config Float := .default
    let seed := Random.Xoshiro.ofSeed 7
    let here : Marker Float := ⟨⟨10, 20⟩, 0.1, none, false⟩
    let there : Marker Float := ⟨⟨-5, 80⟩, 0.2, none, true⟩
    let actions₁ : List (Action Float) :=
      [.setMarkers [there, here, there], .tick ⟨0, 0, 1⟩, .setMarkers [here]]
    let actions₂ : List (Action Float) :=
      [.setMarkers [here], .tick ⟨5, 0, 6⟩, .pointer .leave]
    let c₁ := (create config seed).run actions₁
    let c₂ := (create config seed).run actions₂
    mostAnimated actions₁ (create config seed) = 3 ∧
      mostAnimated actions₂ (create config seed) = 1 ∧ c₁.scene = c₂.scene ∧
      c₁.rotation = c₂.rotation ∧ c₁.surfaceSize = c₂.surfaceSize ∧
      c₁.elapsed ⟨1, 2, 3⟩ = c₂.elapsed ⟨6, 2, 8⟩ ∧
      (c₁.tick ⟨1, 2, 3⟩).1 = (c₂.tick ⟨6, 2, 8⟩).1 := by
  intro config seed here there actions₁ actions₂ c₁ c₂
  have hscene : c₁.scene = c₂.scene := by decide +kernel
  have hrotation : c₁.rotation = c₂.rotation := by decide +kernel
  have hsize : c₁.surfaceSize = c₂.surfaceSize := by decide +kernel
  have helapsed : c₁.elapsed ⟨1, 2, 3⟩ = c₂.elapsed ⟨6, 2, 8⟩ := by decide +kernel
  exact ⟨rfl, rfl, hscene, hrotation, hsize, helapsed,
    (frame_history_independent config seed).2 actions₁ actions₂ _ _ hscene hrotation hsize
      helapsed⟩

end Controller
end GlobeView
