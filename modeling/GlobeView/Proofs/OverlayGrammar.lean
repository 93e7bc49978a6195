import GlobeView.Proofs.ExactNumbers
import GlobeView.Proofs.OverlayProgram

/-! # The grammar of an overlay

An overlay is a program for a canvas.  It has two sections (`Renderer.Program`):

- an `Opening` clears the canvas and, if there is heat, paints glows between two changes of the
  blend mode;
- an `ArcSection` walks along the connections; each of them is skipped, or drawn as an arc and the
  particle on it.

Every overlay is such a program (`Renderer.program_render`).  What can be read off a program place
by place is then a matter of its two sections: in which blend mode a command is painted (`Painted`),
that glows come before arcs, and which connection an arc and its particle belong to.
`Renderer.render_wellFormed` puts this together. -/

namespace GlobeView

variable {α : Type}

namespace OverlayCommand

/-- Whether a command paints a glow. -/
def isGlow : OverlayCommand α → Bool
  | .glow .. => true
  | _ => false

/-- Whether a command paints an arc. -/
def isArc : OverlayCommand α → Bool
  | .arc .. => true
  | _ => false

/-- Whether a command paints a particle. -/
def isParticle : OverlayCommand α → Bool
  | .particle .. => true
  | _ => false

/-- The blend mode that a command is meant to be painted in. -/
def mode? : OverlayCommand α → Option BlendMode
  | .glow .. => some .lighter
  | .arc .. => some .sourceOver
  | .particle .. => some .sourceOver
  | _ => none

end OverlayCommand

/-- The blend mode after a command. -/
def BlendMode.after (mode : BlendMode) : OverlayCommand α → BlendMode
  | .setBlend new => new
  | _ => mode

/-- The blend mode after commands that start from normal blending. -/
def blendAfter (commands : List (OverlayCommand α)) : BlendMode :=
  commands.foldl BlendMode.after .sourceOver

/-- Commands that are each painted in the mode they are meant for, if the first one finds `mode`. -/
def Painted : BlendMode → List (OverlayCommand α) → Prop
  | _, [] => True
  | mode, cmd :: rest => (∀ wanted, cmd.mode? = some wanted → mode = wanted) ∧
      Painted (mode.after cmd) rest

theorem painted_cons_of_none {mode : BlendMode} {cmd : OverlayCommand α}
    {rest : List (OverlayCommand α)} (h : cmd.mode? = none) :
    Painted mode (cmd :: rest) ↔ Painted (mode.after cmd) rest := by
  simp [Painted, h]

theorem painted_append {mode : BlendMode} {first second : List (OverlayCommand α)} :
    Painted mode (first ++ second) ↔
      Painted mode first ∧ Painted (first.foldl BlendMode.after mode) second := by
  induction first generalizing mode with
  | nil => simp [Painted]
  | cons cmd rest ih => simp only [List.cons_append, Painted, List.foldl_cons, ih, and_assoc]

theorem painted_of_mode {mode : BlendMode} {commands : List (OverlayCommand α)}
    (h : ∀ cmd ∈ commands, cmd.mode? = some mode) :
    Painted mode commands ∧ commands.foldl BlendMode.after mode = mode := by
  induction commands with
  | nil => exact ⟨trivial, rfl⟩
  | cons cmd rest ih =>
      have hcmd : cmd.mode? = some mode := h cmd List.mem_cons_self
      have hafter : mode.after cmd = mode := by
        cases cmd <;> first | rfl | cases hcmd
      obtain ⟨hpainted, hlast⟩ := ih fun c hc => h c (List.mem_cons_of_mem cmd hc)
      simp only [Painted, List.foldl_cons, hafter]
      exact ⟨⟨fun wanted hw => Option.some.inj (hcmd.symm.trans hw), hpainted⟩, hlast⟩

/-- Commands that are painted as they are meant to be find their mode wherever they stand. -/
theorem Painted.mode {mode wanted : BlendMode} {commands : List (OverlayCommand α)} {i : ℕ}
    {cmd : OverlayCommand α} (h : Painted mode commands) (hi : commands[i]? = some cmd)
    (hw : cmd.mode? = some wanted) : (commands.take i).foldl BlendMode.after mode = wanted := by
  induction commands generalizing mode i with
  | nil => simp at hi
  | cons first rest ih =>
      cases i with
      | zero =>
          obtain rfl := Option.some.inj hi
          exact h.1 wanted hw
      | succ i =>
          rw [List.take_succ_cons, List.foldl_cons]
          exact ih h.2 hi

/-! ### The sections of an overlay -/

/-- What an overlay does before its arcs: it clears, and if there is heat it switches the mode,
paints glows and switches back. -/
inductive Opening (width : α) : List (OverlayCommand α) → Prop
  | cold : Opening width [.clear width]
  | warm {glows : List (OverlayCommand α)} (h : ∀ cmd ∈ glows, cmd.isGlow = true) :
      Opening width (.clear width :: .setBlend .lighter :: glows ++ [.setBlend .sourceOver])

namespace Opening

variable {width : α} {opening : List (OverlayCommand α)}

theorem head? (h : Opening width opening) : opening.head? = some (.clear width) := by
  cases h <;> rfl

theorem not_arc (h : Opening width opening) {cmd : OverlayCommand α} (hc : cmd ∈ opening) :
    cmd.isArc = false ∧ cmd.isParticle = false := by
  cases h with
  | cold =>
      obtain rfl := List.mem_singleton.mp hc
      exact ⟨rfl, rfl⟩
  | warm hglows =>
      simp only [List.cons_append, List.mem_cons, List.mem_append, List.not_mem_nil, or_false] at hc
      obtain rfl | rfl | hglow | rfl := hc
      · exact ⟨rfl, rfl⟩
      · exact ⟨rfl, rfl⟩
      · have hg := hglows cmd hglow
        cases cmd <;> first | exact ⟨rfl, rfl⟩ | cases hg
      · exact ⟨rfl, rfl⟩

theorem painted (h : Opening width opening) :
    Painted .sourceOver opening ∧ blendAfter opening = .sourceOver := by
  cases h with
  | cold => exact ⟨(painted_cons_of_none rfl).mpr trivial, rfl⟩
  | warm hglows =>
      rename_i glows
      have hmode : ∀ cmd ∈ glows, cmd.mode? = some .lighter := by
        intro cmd hc
        have hg := hglows cmd hc
        cases cmd <;> first | rfl | cases hg
      obtain ⟨hpainted, hlast⟩ := painted_of_mode hmode
      constructor
      · rw [List.cons_append, painted_cons_of_none rfl, List.cons_append, painted_cons_of_none rfl,
          painted_append]
        exact ⟨hpainted, (painted_cons_of_none rfl).mpr trivial⟩
      · show (glows ++ [OverlayCommand.setBlend .sourceOver]).foldl BlendMode.after .lighter = _
        rw [List.foldl_append]
        rfl

end Opening

/-- What stands in one section after another stands in one of them. -/
theorem getElem?_sections {first second : List (OverlayCommand α)} {i : ℕ} {cmd : OverlayCommand α}
    (hi : (first ++ second)[i]? = some cmd) :
    (i < first.length ∧ first[i]? = some cmd) ∨
      ∃ j, i = first.length + j ∧ second[j]? = some cmd := by
  by_cases hlt : i < first.length
  · rw [List.getElem?_append_left hlt] at hi
    exact .inl ⟨hlt, hi⟩
  · rw [List.getElem?_append_right (Nat.not_lt.mp hlt)] at hi
    exact .inr ⟨i - first.length, by omega, hi⟩

namespace Renderer
variable [Scalar α]

/-- The control point of the arc of a connection.  There is none unless both ends are in view and
the chord has a direction. -/
def control? (r : Renderer α) (view : View α) (c : Connection α) : Option (Vec2 α) :=
  let a := view.project c.start
  let b := view.project c.finish
  if a.isNearFront r.limbThreshold && b.isNearFront r.limbThreshold then
    arcControl? a.point b.point r.arcCurvature
  else none

/-- Whether a connection is drawn. -/
def draws (r : Renderer α) (view : View α) (c : Connection α) : Bool := (r.control? view c).isSome

/-- The arc of a connection with a given control point. -/
def arcOf (r : Renderer α) (view : View α) (control : Vec2 α) (c : Connection α) :
    OverlayCommand α :=
  .arc (view.project c.start).point control (view.project c.finish).point r.colors.arc
    r.colors.arcWidth

/-- The particle of the connection at place `index`, on its arc. -/
def particleOf (r : Renderer α) (view : View α) (elapsed : α) (index : ℕ) (control : Vec2 α)
    (c : Connection α) : OverlayCommand α :=
  .particle
    (quadraticPoint (view.project c.start).point control (view.project c.finish).point
      (particleProgress elapsed index r.particlePeriod r.particlePhaseStep))
    r.colors.particleRadius r.colors.particle

/-! ### Connections -/

/-- The commands of connections whose places are counted from `index`: every connection that is
drawn has an arc and its particle. -/
inductive ArcSection (r : Renderer α) (view : View α) (elapsed : α) :
    ℕ → List (Connection α) → List (OverlayCommand α) → Prop
  | nil {index : ℕ} : ArcSection r view elapsed index [] []
  | skipped {index : ℕ} {c : Connection α} {rest : List (Connection α)}
      {commands : List (OverlayCommand α)} (hc : r.control? view c = none)
      (hrest : ArcSection r view elapsed (index + 1) rest commands) :
      ArcSection r view elapsed index (c :: rest) commands
  | drawn {index : ℕ} {c : Connection α} {rest : List (Connection α)}
      {commands : List (OverlayCommand α)} {control : Vec2 α}
      (hc : r.control? view c = some control)
      (hrest : ArcSection r view elapsed (index + 1) rest commands) :
      ArcSection r view elapsed index (c :: rest)
        (r.arcOf view control c :: r.particleOf view elapsed index control c :: commands)

/-- A connection that is drawn takes its arc and its particle, any other takes nothing. -/
theorem commands_arc (r : Renderer α) (view : View α) (elapsed : α) (index : ℕ)
    (c : Connection α) :
    (r.arc view elapsed index c).commands =
      match r.control? view c with
      | some control => [r.arcOf view control c, r.particleOf view elapsed index control c]
      | none => [] := by
  simp only [arc, control?]
  split_ifs
  · cases arcControl? (view.project c.start).point (view.project c.finish).point r.arcCurvature <;>
      rfl
  · rfl

theorem arcSection_commands (r : Renderer α) (view : View α) (elapsed : α)
    (connections : List (Connection α)) (index : ℕ) :
    r.ArcSection view elapsed index connections
      ((connections.mapIdx fun i => r.arc view elapsed (index + i)).flatMap Outcome.commands) := by
  induction connections generalizing index with
  | nil => exact .nil
  | cons c rest ih =>
      have hrest := ih (index + 1)
      simp only [Nat.add_assoc, Nat.add_comm 1] at hrest
      rw [List.mapIdx_cons, List.flatMap_cons, commands_arc]
      cases hc : r.control? view c with
      | none => exact .skipped hc hrest
      | some control => exact .drawn hc hrest

namespace ArcSection

variable {r : Renderer α} {view : View α} {elapsed : α} {index i : ℕ}
  {connections : List (Connection α)} {commands : List (OverlayCommand α)}

theorem mode (h : r.ArcSection view elapsed index connections commands) :
    ∀ cmd ∈ commands, cmd.mode? = some .sourceOver ∧ cmd.isGlow = false := by
  induction h with
  | nil => simp
  | skipped _ _ ih => exact ih
  | drawn _ _ ih =>
      intro cmd hc
      obtain rfl | hc := List.mem_cons.mp hc
      · exact ⟨rfl, rfl⟩
      obtain rfl | hc := List.mem_cons.mp hc
      · exact ⟨rfl, rfl⟩
      · exact ih cmd hc

theorem countP_isArc (h : r.ArcSection view elapsed index connections commands) :
    commands.countP OverlayCommand.isArc = connections.countP (r.draws view) := by
  induction h with
  | nil => rfl
  | skipped hc _ ih =>
      rw [ih, List.countP_cons_of_neg]
      simp [draws, hc]
  | drawn hc _ ih =>
      rw [List.countP_cons_of_pos rfl, List.countP_cons_of_neg Bool.false_ne_true, ih,
        List.countP_cons_of_pos]
      simp [draws, hc]

/-- Arcs and particles alternate, beginning with an arc. -/
theorem arc_iff_particle (h : r.ArcSection view elapsed index connections commands) :
    commands[0]?.any OverlayCommand.isParticle = false ∧
    ∀ i, commands[i]?.any OverlayCommand.isArc =
      commands[i + 1]?.any OverlayCommand.isParticle := by
  induction h with
  | nil => exact ⟨rfl, fun _ => rfl⟩
  | skipped _ _ ih => exact ih
  | drawn _ _ ih =>
      refine ⟨rfl, fun i => ?_⟩
      match i with
      | 0 => rfl
      | 1 => exact ih.1.symm
      | i + 2 => exact ih.2 i

/-- The arc at a place of the commands is the one of the connection before which as many connections
are drawn as there are arcs before the place, and its particle comes next. -/
theorem arc_spec (h : r.ArcSection view elapsed index connections commands)
    {arc : OverlayCommand α} (hi : commands[i]? = some arc) (harc : arc.isArc = true) :
    ∃ place c control, connections[place]? = some c ∧ r.control? view c = some control ∧
      arc = r.arcOf view control c ∧
      (commands.take i).countP OverlayCommand.isArc =
        (connections.take place).countP (r.draws view) ∧
      commands[i + 1]? = some (r.particleOf view elapsed (index + place) control c) := by
  induction h generalizing i with
  | nil => simp at hi
  | @skipped index c rest commands hc _ ih =>
      obtain ⟨place, d, control, hd, hcontrol, harc, hcount, hnext⟩ := ih hi
      refine ⟨place + 1, d, control, hd, hcontrol, harc, ?_, ?_⟩
      · rw [hcount, List.take_succ_cons, List.countP_cons_of_neg]
        simp [draws, hc]
      · rw [hnext, Nat.add_assoc, Nat.add_comm 1]
  | @drawn index c rest commands control hc _ ih =>
      match i with
      | 0 =>
          obtain rfl := Option.some.inj hi
          exact ⟨0, c, control, rfl, hc, rfl, rfl, rfl⟩
      | 1 =>
          obtain rfl := Option.some.inj hi
          cases harc
      | i + 2 =>
          obtain ⟨place, d, dcontrol, hd, hdcontrol, harc, hcount, hnext⟩ := ih hi
          refine ⟨place + 1, d, dcontrol, hd, hdcontrol, harc, ?_, ?_⟩
          · rw [List.take_succ_cons, List.take_succ_cons, List.take_succ_cons,
              List.countP_cons_of_pos rfl, List.countP_cons_of_neg Bool.false_ne_true, hcount,
              List.countP_cons_of_pos]
            simp [draws, hc]
          · rw [Nat.add_assoc, Nat.add_comm 1] at hnext
            exact hnext

end ArcSection

/-! ### Frames -/

/-- A whole frame: an opening and the arcs of the connections. -/
structure Program (r : Renderer α) (view : View α) (connections : List (Connection α)) (elapsed : α)
    (opening arcs : List (OverlayCommand α)) : Prop where
  opening : Opening view.width opening
  arcs : r.ArcSection view elapsed 0 connections arcs

theorem isGlow_commands_glow (r : Renderer α) (view : View α) (point : HeatPoint α) :
    ∀ cmd ∈ (r.glow view point).commands, cmd.isGlow = true := by
  simp only [glow]
  split_ifs <;> simp [Outcome.commands, OverlayCommand.isGlow]

theorem opening_heatCommands (r : Renderer α) (view : View α) (heat : List (HeatPoint α)) :
    Opening view.width (.clear view.width :: heatCommands (heat.map (r.glow view))) := by
  unfold heatCommands
  split_ifs
  · exact .cold
  · refine .warm ?_
    intro cmd hc
    obtain ⟨outcome, houtcome, hc⟩ := List.mem_flatMap.mp hc
    obtain ⟨point, _, rfl⟩ := List.mem_map.mp houtcome
    exact r.isGlow_commands_glow view point cmd hc

theorem program_render (r : Renderer α) (view : View α) (connections : List (Connection α))
    (heat : List (HeatPoint α)) (elapsed : α) :
    ∃ opening arcs, (r.render view connections heat elapsed).commands = opening ++ arcs ∧
      r.Program view connections elapsed opening arcs := by
  have harcs := r.arcSection_commands view elapsed connections 0
  simp only [Nat.zero_add] at harcs
  exact ⟨_, _, congrArg OverlayFrame.commands (r.render_eq view connections heat elapsed),
    r.opening_heatCommands view heat, harcs⟩

namespace Program

variable {r : Renderer α} {view : View α} {elapsed : α} {i : ℕ}
  {connections : List (Connection α)} {opening arcs : List (OverlayCommand α)}
  {cmd : OverlayCommand α}

/-- Each command is painted in the mode that it is meant for, and normal blending is back at the
end. -/
theorem painted (h : r.Program view connections elapsed opening arcs) :
    Painted .sourceOver (opening ++ arcs) ∧ blendAfter (opening ++ arcs) = .sourceOver := by
  obtain ⟨hopening, hopened⟩ := h.opening.painted
  obtain ⟨harcs, hlast⟩ := painted_of_mode fun cmd hc => (h.arcs.mode cmd hc).1
  unfold blendAfter at hopened ⊢
  rw [painted_append, List.foldl_append, hopened]
  exact ⟨⟨hopening, harcs⟩, hlast⟩

theorem behind_opening (h : r.Program view connections elapsed opening arcs)
    (hi : (opening ++ arcs)[i]? = some cmd) (hc : cmd.isArc = true ∨ cmd.isParticle = true) :
    ∃ j, i = opening.length + j ∧ arcs[j]? = some cmd := by
  obtain ⟨_, hopening⟩ | harcs := getElem?_sections hi
  · obtain ⟨harc, hparticle⟩ := h.opening.not_arc (List.mem_of_getElem? hopening)
    simp [harc, hparticle] at hc
  · exact harcs

theorem in_opening (h : r.Program view connections elapsed opening arcs)
    (hi : (opening ++ arcs)[i]? = some cmd) (hc : cmd.isGlow = true) : i < opening.length := by
  obtain ⟨hlt, _⟩ | ⟨j, _, harcs⟩ := getElem?_sections hi
  · exact hlt
  · rw [(h.arcs.mode cmd (List.mem_of_getElem? harcs)).2] at hc
    cases hc

theorem arc_iff_particle (h : r.Program view connections elapsed opening arcs) (i : ℕ) :
    (opening ++ arcs)[i]?.any OverlayCommand.isArc =
      (opening ++ arcs)[i + 1]?.any OverlayCommand.isParticle := by
  obtain ⟨hfirst, hnext⟩ := h.arcs.arc_iff_particle
  have hopening : ∀ cmd ∈ opening, cmd.isArc = false ∧ cmd.isParticle = false :=
    fun cmd hc => h.opening.not_arc hc
  by_cases hi : i < opening.length
  · have harc : (opening ++ arcs)[i]?.any OverlayCommand.isArc = false := by
      rw [List.getElem?_append_left hi, List.getElem?_eq_getElem hi]
      exact (hopening _ (List.getElem_mem hi)).1
    rw [harc]
    by_cases hi' : i + 1 < opening.length
    · rw [List.getElem?_append_left hi', List.getElem?_eq_getElem hi']
      exact (hopening _ (List.getElem_mem hi')).2.symm
    · have hlast : i + 1 - opening.length = 0 := by omega
      rw [List.getElem?_append_right (Nat.not_lt.mp hi'), hlast]
      exact hfirst.symm
  · have hplace : i + 1 - opening.length = i - opening.length + 1 := by omega
    rw [List.getElem?_append_right (by omega), List.getElem?_append_right (by omega), hplace]
    exact hnext _

end Program

/-- **An overlay is a well-formed program.**  It clears the canvas once, first of all.  Every glow
is painted with additive blending and before every arc; arcs and particles are painted with normal
blending, which is also what the overlay ends with.  There is an arc for every connection that is
drawn.  A particle follows every arc and stands nowhere else; it is on the curve of that arc, as far
along as the place of the connection says whose arc it is. -/
theorem render_wellFormed (r : Renderer α) (view : View α) (connections : List (Connection α))
    (heat : List (HeatPoint α)) (elapsed : α) :
    let frame := r.render view connections heat elapsed
    let commands := frame.commands
    commands.head? = some (.clear view.width) ∧ frame.clearWidths = [view.width] ∧
    (∀ i center radius stops, commands[i]? = some (.glow center radius stops) →
      blendAfter (commands.take i) = .lighter ∧
        ∀ j cmd, commands[j]? = some cmd → cmd.isArc = true → i < j) ∧
    (∀ i cmd, commands[i]? = some cmd → cmd.isArc = true ∨ cmd.isParticle = true →
      blendAfter (commands.take i) = .sourceOver) ∧
    blendAfter commands = .sourceOver ∧
    commands.countP OverlayCommand.isArc = connections.countP (r.draws view) ∧
    (∀ i, commands[i]?.any OverlayCommand.isArc =
      commands[i + 1]?.any OverlayCommand.isParticle) ∧
    ∀ i start control finish color lineWidth,
      commands[i]? = some (.arc start control finish color lineWidth) →
      ∃ index c, connections[index]? = some c ∧
        (commands.take i).countP OverlayCommand.isArc =
          (connections.take index).countP (r.draws view) ∧
        start = (view.project c.start).point ∧ finish = (view.project c.finish).point ∧
        r.control? view c = some control ∧
        commands[i + 1]? = some (.particle
          (quadraticPoint start control finish
            (particleProgress elapsed index r.particlePeriod r.particlePhaseStep))
          r.colors.particleRadius r.colors.particle) := by
  intro frame commands
  obtain ⟨opening, arcs, hcommands, h⟩ := r.program_render view connections heat elapsed
  have heq : commands = opening ++ arcs := hcommands
  have hclear : frame.clearWidths = [view.width] :=
    r.clearWidths_render view connections heat elapsed
  obtain ⟨hpainted, hlast⟩ := h.painted
  have hopening : opening.countP OverlayCommand.isArc = 0 := by
    rw [List.countP_eq_zero]
    intro cmd hcmd
    simp [(h.opening.not_arc hcmd).1]
  rw [heq]
  refine ⟨?_, hclear, ?_, ?_, hlast, ?_, h.arc_iff_particle, ?_⟩
  · rw [List.head?_append, h.opening.head?]
    rfl
  · intro i center radius stops hi
    refine ⟨hpainted.mode hi rfl, ?_⟩
    intro j cmd hj harc
    obtain ⟨k, rfl, _⟩ := h.behind_opening hj (.inl harc)
    have hlt := h.in_opening hi rfl
    omega
  · intro i cmd hi hc
    obtain ⟨j, _, harcs⟩ := h.behind_opening hi hc
    exact hpainted.mode hi (h.arcs.mode cmd (List.mem_of_getElem? harcs)).1
  · rw [List.countP_append, hopening, h.arcs.countP_isArc, Nat.zero_add]
  · intro i start control finish color lineWidth hi
    obtain ⟨j, rfl, harcs⟩ := h.behind_opening hi (.inl rfl)
    obtain ⟨index, c, control', hc, hcontrol, harc, hcount, hnext⟩ := h.arcs.arc_spec harcs rfl
    cases harc
    refine ⟨index, c, hc, ?_, rfl, rfl, hcontrol, ?_⟩
    · rw [List.take_length_add_append, List.countP_append, hopening, hcount, Nat.zero_add]
    · rw [Nat.zero_add] at hnext
      rw [Nat.add_assoc, List.getElem?_append_right (Nat.le_add_right _ _), Nat.add_sub_cancel_left,
        hnext]
      rfl

/-- Heat in the middle of the globe, and a connection from there to its edge. -/
theorem render_wellFormed_warm :
    let r : Renderer ℝ := .ofConfig .default
    let commands := (r.render ⟨0, 0, 200⟩ [⟨⟨0, 0⟩, ⟨0, 90⟩⟩] [⟨0, 0, 1⟩] 0).commands
    ∃ glow start control finish color lineWidth particle,
      commands = [.clear 200, .setBlend .lighter, glow, .setBlend .sourceOver,
        .arc start control finish color lineWidth, particle] ∧
      glow.isGlow = true ∧ blendAfter (commands.take 2) = .lighter ∧
      blendAfter (commands.take 4) = .sourceOver ∧
      ∃ progress, particle =
        .particle (quadraticPoint start control finish progress) r.colors.particleRadius
          r.colors.particle := by
  intro r commands
  let view : View ℝ := ⟨0, 0, 200⟩
  let c : Connection ℝ := ⟨⟨0, 0⟩, ⟨0, 90⟩⟩
  let point : HeatPoint ℝ := ⟨0, 0, 1⟩
  have hstart : view.project c.start = ⟨200 / 2, 200 / 2, 1⟩ := View.project_center 200
  have hfinish : view.project c.finish = ⟨200 / 2 + 200 / 2, 200 / 2, 0⟩ := View.project_east 200
  have hglow : r.glow view point = .drawn [.glow ⟨200 / 2, 200 / 2⟩ 20 (r.glowStops 1)] := by
    have hround : ¬ Scalar.round (20 : ℝ) < 1 := by
      show ¬ (if (20 : ℝ) < 0 then -(⌊-(20 : ℝ) + 1 / 2⌋ : ℝ) else ⌊(20 : ℝ) + 1 / 2⌋) < 1
      norm_num
    have hintensity : point.intensity = 1 := by
      simp [HeatPoint.intensity, point, Scalar.clamp]
    have hproject : view.project point.location = ⟨200 / 2, 200 / 2, 1⟩ := hstart
    have hfactor : (1 : ℝ) * 200 * r.heatRadiusFactor = 20 := by
      show (1 : ℝ) * 200 * 0.1 = 20
      norm_num
    simp only [glow, hproject, hintensity, view, hfactor]
    simp [hround, Projected.isFront, Projected.point]
  have hcontrol : ∃ control, r.control? view c = some control := by
    have hlimb : r.limbThreshold < 0 := by
      show -(0.5 : ℝ) < 0
      norm_num
    have hchord :
        Vec2.length (⟨200 / 2 + 200 / 2, 200 / 2⟩ - ⟨200 / 2, 200 / 2⟩ : Vec2 ℝ) = 100 := by
      have hsquares : ((200 : ℝ) / 2 + 200 / 2 - 200 / 2) ^ 2 + (200 / 2 - 200 / 2) ^ 2 =
          100 ^ 2 := by norm_num
      show √(((200 : ℝ) / 2 + 200 / 2 - 200 / 2) ^ 2 + (200 / 2 - 200 / 2) ^ 2) = 100
      rw [hsquares, Real.sqrt_sq (by norm_num)]
    simp only [control?, hstart, hfinish, arcControl?, Projected.point, Vec2.unitPerp?, hchord]
    simp [Projected.isNearFront, hlimb, hlimb.trans one_pos]
  obtain ⟨control, hcontrol⟩ := hcontrol
  have hcommands : commands = [.clear 200, .setBlend .lighter,
      .glow ⟨200 / 2, 200 / 2⟩ 20 (r.glowStops 1), .setBlend .sourceOver, r.arcOf view control c,
      r.particleOf view 0 0 control c] := by
    have harc := r.commands_arc view 0 0 c
    rw [hcontrol] at harc
    show (r.render view [c] [point] 0).commands = _
    rw [render_eq]
    show OverlayCommand.clear 200 :: heatCommands [r.glow view point] ++
      ((r.arc view 0 0 c).commands ++ []) = _
    rw [hglow, harc]
    rfl
  obtain ⟨_, _, hglows, harcs, _, _, _, hparticle⟩ := r.render_wellFormed view [c] [point] 0
  have hplaces : commands[2]? = some (.glow ⟨200 / 2, 200 / 2⟩ 20 (r.glowStops 1)) ∧
      commands[4]? = some (r.arcOf view control c) ∧
      commands[5]? = some (r.particleOf view 0 0 control c) := by
    rw [hcommands]
    exact ⟨rfl, rfl, rfl⟩
  obtain ⟨hglowAt, harcAt, hparticleAt⟩ := hplaces
  obtain ⟨index, _, _, _, _, _, _, hnext⟩ := hparticle 4 _ _ _ _ _ harcAt
  refine ⟨_, _, _, _, _, _, _, hcommands, rfl, ?_, ?_, ?_⟩
  · exact (hglows 2 _ _ _ hglowAt).1
  · exact harcs 4 _ harcAt (.inl rfl)
  · exact ⟨_, Option.some.inj (hparticleAt.symm.trans hnext)⟩

end Renderer
end GlobeView
