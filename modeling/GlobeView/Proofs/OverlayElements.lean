import GlobeView.Proofs.ArcGeometry

/-! # The elements of an overlay

A frame is put together from what each heat point and each connection adds to it.

* What a heat point adds is in `Renderer.glow`, a function of the view and the point; what a
  connection adds is in `Renderer.arc`, a function of the view, the time, the connection and its
  place in the list (`Renderer.commands_render`).
* So everything else of a frame stays as it is when one element gives way to another
  (`Renderer.commands_setConnection`, `Renderer.commands_setHeat`).  The place of a connection is
  the one in the whole list: a connection that disappears behind the limb moves no particle of the
  others.
* Heat points may come in any order.  Their glows come in the same order, and nothing else changes
  (`Renderer.commands_sameHeat`, `Renderer.stats_perm`). -/

namespace GlobeView

namespace Renderer

theorem flatMap_set {β γ : Type} (f : β → List γ) {xs : List β} {i : ℕ} (hi : i < xs.length)
    (x : β) :
    (xs.set i x).flatMap f =
      (xs.take i).flatMap f ++ f x ++ (xs.drop (i + 1)).flatMap f := by
  rw [List.set_eq_take_append_cons_drop, if_pos hi, List.flatMap_append, List.flatMap_cons,
    List.append_assoc]

variable {α : Type} [Scalar α] (r : Renderer α) (view : View α) (elapsed : α)

theorem commands_glow (point : HeatPoint α) :
    (r.glow view point).commands = [] ∨
      (r.glow view point).commands =
        [.glow (view.project point.location).point
          (point.intensity * view.width * r.heatRadiusFactor) (r.glowStops point.intensity)] := by
  simp only [glow]
  split_ifs
  · exact .inl rfl
  · exact .inr rfl
  · exact .inl rfl

theorem of_mem_commands_glow {point : HeatPoint α} {cmd : OverlayCommand α}
    (h : cmd ∈ (r.glow view point).commands) :
    (view.project point.location).isFront = true ∧
      ¬ Scalar.round (point.intensity * view.width * r.heatRadiusFactor) < 1 ∧
      cmd = .glow (view.project point.location).point
        (point.intensity * view.width * r.heatRadiusFactor) (r.glowStops point.intensity) := by
  simp only [glow] at h
  split_ifs at h with hfront hsmall
  · cases h
  · exact ⟨hfront, hsmall, List.mem_singleton.mp h⟩
  · cases h

theorem of_mem_commands_arc {index : ℕ} {c : Connection α} {cmd : OverlayCommand α}
    (h : cmd ∈ (r.arc view elapsed index c).commands) :
    ∃ control, (view.project c.start).isNearFront r.limbThreshold = true ∧
      (view.project c.finish).isNearFront r.limbThreshold = true ∧
      arcControl? (view.project c.start).point (view.project c.finish).point r.arcCurvature =
        some control ∧
      (cmd = r.arcOf view control c ∨ cmd = r.particleOf view elapsed index control c) := by
  rw [commands_arc] at h
  cases hcontrol : r.control? view c with
  | none =>
      rw [hcontrol] at h
      cases h
  | some control =>
      rw [hcontrol] at h
      simp only [control?] at hcontrol
      split_ifs at hcontrol with hview
      rw [Bool.and_eq_true] at hview
      exact ⟨control, hview.1, hview.2, hcontrol, by simpa using h⟩

/-- What the heat points of a list add, one after the other. -/
def glowCommands (heat : List (HeatPoint α)) : List (OverlayCommand α) :=
  heat.flatMap fun point => (r.glow view point).commands

/-- What the connections of a list add, one after the other. -/
def arcCommands (connections : List (Connection α)) : List (OverlayCommand α) :=
  (connections.mapIdx (r.arc view elapsed)).flatMap Outcome.commands

theorem commands_render (connections : List (Connection α)) (heat : List (HeatPoint α)) :
    (r.render view connections heat elapsed).commands =
      .clear view.width ::
        ((if heat.isEmpty then []
          else .setBlend .lighter :: r.glowCommands view heat ++ [.setBlend .sourceOver]) ++
        r.arcCommands view elapsed connections) := by
  have hglows : (heat.map (r.glow view)).flatMap Outcome.commands = r.glowCommands view heat :=
    List.flatMap_map ..
  simp only [render_eq, heatCommands, hglows, List.isEmpty_map, List.cons_append, arcCommands]

/-- Whatever a frame paints comes from one of its elements. -/
theorem mem_commands_render {connections : List (Connection α)} {heat : List (HeatPoint α)}
    {cmd : OverlayCommand α} (h : cmd ∈ (r.render view connections heat elapsed).commands) :
    cmd = .clear view.width ∨ (∃ mode, cmd = .setBlend mode) ∨
      (∃ point ∈ heat, cmd ∈ (r.glow view point).commands) ∨
      ∃ index, ∃ c ∈ connections, cmd ∈ (r.arc view elapsed index c).commands := by
  rw [commands_render, List.mem_cons, List.mem_append] at h
  obtain h | h | h := h
  · exact .inl h
  · split_ifs at h
    · cases h
    simp only [List.cons_append, List.mem_cons, List.mem_append, List.not_mem_nil, or_false] at h
    obtain h | h | h := h
    · exact .inr (.inl ⟨_, h⟩)
    · exact .inr (.inr (.inl (List.mem_flatMap.mp h)))
    · exact .inr (.inl ⟨_, h⟩)
  · obtain ⟨outcome, houtcome, hcmd⟩ := List.mem_flatMap.mp h
    obtain ⟨index, hindex, rfl⟩ := List.mem_mapIdx.mp houtcome
    exact .inr (.inr (.inr ⟨index, _, List.getElem_mem hindex, hcmd⟩))

/-! ### One element for another -/

/-- Another connection at a place changes what that place adds, and nothing else. -/
theorem commands_setConnection {connections : List (Connection α)} (heat : List (HeatPoint α))
    {i : ℕ} (hi : i < connections.length) :
    ∃ head tail, ∀ c, (r.render view (connections.set i c) heat elapsed).commands =
      head ++ (r.arc view elapsed i c).commands ++ tail := by
  let arcs := connections.mapIdx (r.arc view elapsed)
  have hplace : i < arcs.length := hi.trans_eq List.length_mapIdx.symm
  refine ⟨(r.render view [] heat elapsed).commands ++ (arcs.take i).flatMap Outcome.commands,
    (arcs.drop (i + 1)).flatMap Outcome.commands, fun c => ?_⟩
  have harcs : r.arcCommands view elapsed (connections.set i c) =
      (arcs.take i).flatMap Outcome.commands ++ (r.arc view elapsed i c).commands ++
        (arcs.drop (i + 1)).flatMap Outcome.commands := by
    rw [arcCommands, List.mapIdx_set]
    exact flatMap_set _ hplace _
  have hnone : r.arcCommands view elapsed [] = [] := rfl
  simp only [commands_render, harcs, hnone, List.append_nil, List.cons_append, List.append_assoc]

/-- Other heat changes the glows, and nothing else as long as there is any. -/
theorem commands_sameHeat (connections : List (Connection α)) (heat : List (HeatPoint α)) :
    ∃ head tail, ∀ heat', heat'.isEmpty = heat.isEmpty →
      (r.render view connections heat' elapsed).commands =
        head ++ r.glowCommands view heat' ++ tail := by
  cases hheat : heat.isEmpty with
  | true =>
      refine ⟨[.clear view.width], r.arcCommands view elapsed connections, fun heat' hempty => ?_⟩
      rw [commands_render, if_pos hempty, List.isEmpty_iff.mp hempty]
      rfl
  | false =>
      refine ⟨[.clear view.width, .setBlend .lighter],
        .setBlend .sourceOver :: r.arcCommands view elapsed connections, fun heat' hwarm => ?_⟩
      rw [commands_render, if_neg (Bool.not_eq_true _ ▸ hwarm)]
      simp only [List.cons_append, List.append_assoc, List.nil_append]

theorem commands_setHeat (connections : List (Connection α)) {heat : List (HeatPoint α)} {i : ℕ}
    (hi : i < heat.length) :
    ∃ head tail, ∀ point, (r.render view connections (heat.set i point) elapsed).commands =
      head ++ (r.glow view point).commands ++ tail := by
  obtain ⟨head, tail, h⟩ := r.commands_sameHeat view elapsed connections heat
  refine ⟨head ++ r.glowCommands view (heat.take i),
    r.glowCommands view (heat.drop (i + 1)) ++ tail, fun point => ?_⟩
  have hwarm : (heat.set i point).isEmpty = heat.isEmpty := by
    rw [List.isEmpty_eq_false_iff_exists_mem.mpr ⟨point, List.mem_set hi point⟩,
      List.isEmpty_eq_false_iff_exists_mem.mpr ⟨heat[i], List.getElem_mem hi⟩]
  have hglows : r.glowCommands view (heat.set i point) =
      r.glowCommands view (heat.take i) ++ (r.glow view point).commands ++
        r.glowCommands view (heat.drop (i + 1)) :=
    flatMap_set _ hi point
  rw [h _ hwarm, hglows]
  simp only [List.append_assoc]

/-! ### Heat in another order -/

theorem stats_perm (connections : List (Connection α)) {heat heat' : List (HeatPoint α)}
    (h : heat.Perm heat') :
    (r.render view connections heat' elapsed).stats =
      (r.render view connections heat elapsed).stats := by
  have hcount (p : Outcome α → Bool) :
      (heat'.map (r.glow view)).countP p = (heat.map (r.glow view)).countP p :=
    ((h.map _).countP_eq p).symm
  simp only [render_eq, hcount]

/-- **The elements of an overlay are drawn independently.**  A frame clears the square, paints what
each heat point adds between two changes of the blend mode, and then what each connection adds; what
one of them adds depends on nothing but itself, the view, and for a connection its place in the whole
list and the time.  So another element at a place changes what that place adds and nothing else, and
heat in another order changes the order of the glows and no count. -/
theorem elements_independent :
    (∀ (connections : List (Connection α)) (heat : List (HeatPoint α)),
      (r.render view connections heat elapsed).commands =
        .clear view.width ::
          ((if heat.isEmpty then []
            else .setBlend .lighter :: heat.flatMap (fun point => (r.glow view point).commands) ++
              [.setBlend .sourceOver]) ++
          (connections.mapIdx (r.arc view elapsed)).flatMap Outcome.commands)) ∧
    (∀ point, (r.glow view point).commands = [] ∨ ∃ center radius stops,
      (r.glow view point).commands = [.glow center radius stops]) ∧
    (∀ index c, (r.arc view elapsed index c).commands =
      match r.control? view c with
      | some control => [r.arcOf view control c, r.particleOf view elapsed index control c]
      | none => []) ∧
    (∀ (connections : List (Connection α)) (heat : List (HeatPoint α)) (i : ℕ),
      i < connections.length → ∃ head tail, ∀ c,
        (r.render view (connections.set i c) heat elapsed).commands =
          head ++ (r.arc view elapsed i c).commands ++ tail) ∧
    (∀ (connections : List (Connection α)) (heat : List (HeatPoint α)) (i : ℕ),
      i < heat.length → ∃ head tail, ∀ point,
        (r.render view connections (heat.set i point) elapsed).commands =
          head ++ (r.glow view point).commands ++ tail) ∧
    ∀ (connections : List (Connection α)) (heat heat' : List (HeatPoint α)), heat.Perm heat' →
      let frame := r.render view connections heat elapsed
      let frame' := r.render view connections heat' elapsed
      (r.glowCommands view heat).Perm (r.glowCommands view heat') ∧
      (∃ head tail, frame.commands = head ++ r.glowCommands view heat ++ tail ∧
        frame'.commands = head ++ r.glowCommands view heat' ++ tail) ∧
      frame'.stats = frame.stats := by
  refine ⟨r.commands_render view elapsed, fun point => ?_, r.commands_arc view elapsed,
    fun _ heat _ hi => r.commands_setConnection view elapsed heat hi,
    fun connections _ _ hi => r.commands_setHeat view elapsed connections hi,
    fun connections heat heat' h => ⟨h.flatMap_right _, ?_, r.stats_perm view elapsed _ h⟩⟩
  · exact (r.commands_glow view point).imp_right fun hglow => ⟨_, _, _, hglow⟩
  · obtain ⟨head, tail, hframes⟩ := r.commands_sameHeat view elapsed connections heat
    exact ⟨head, tail, hframes heat rfl, hframes heat' h.symm.isEmpty_eq⟩

/-- The first of two connections moves to the far side of the globe: its arc and its particle are
gone, and the other particle is still the second.  A glow is gone with its heat point, and two glows
change places. -/
theorem elements_independent_hidden :
    let r : Renderer ℝ := .ofConfig .default
    let view : View ℝ := ⟨0, 0, 200⟩
    let shown : Connection ℝ := ⟨⟨0, 0⟩, ⟨0, 90⟩⟩
    let far : Connection ℝ := ⟨⟨0, 0⟩, ⟨0, 180⟩⟩
    let heat : List (HeatPoint ℝ) := [⟨0, 0, 1⟩, ⟨0, 0, 1 / 2⟩]
    let frame := r.render view [shown, shown] heat 500
    0 < [shown, shown].length ∧ 1 < heat.length ∧ heat.Perm heat.reverse ∧
      (∃ head tail front control,
        frame.commands =
          head ++ [r.arcOf view control shown, r.particleOf view 500 0 control shown] ++ tail ∧
        (r.render view [far, shown] heat 500).commands = head ++ tail ∧
        head ++ tail =
          front ++ [r.arcOf view control shown, r.particleOf view 500 1 control shown]) ∧
      (∃ head tail,
        frame.commands = head ++ (r.glow view ⟨0, 0, 1 / 2⟩).commands ++ tail ∧
        (r.render view [shown, shown] [⟨0, 0, 1⟩, ⟨0, 90, 1⟩] 500).commands = head ++ tail) ∧
      (r.render view [shown, shown] heat.reverse 500).stats = frame.stats := by
  intro r view shown far heat frame
  have hcenter : view.project ⟨0, 0⟩ = ⟨200 / 2, 200 / 2, 1⟩ := View.project_center 200
  have heast : view.project ⟨0, 90⟩ = ⟨200 / 2 + 200 / 2, 200 / 2, 0⟩ := View.project_east 200
  have hback : (view.project ⟨0, 180⟩).z = -1 := by
    have hturn : (180 : ℝ) * (Real.pi / 180) = Real.pi := by ring
    simp [view, View.project, LatLon.onSphere, LatLon.latRadians, LatLon.lonRadians,
      Scalar.radians, Vec3.rotateX, Scalar.sin, Scalar.cos, Scalar.degree, hturn]
  have hlimb : r.limbThreshold = -(1 / 2) := by
    show -(0.5 : ℝ) = _
    norm_num
  obtain ⟨control, hshown⟩ : ∃ control, r.control? view shown = some control :=
    ⟨_, control?_eq_some (by norm_num [hlimb, shown, hcenter])
      (by norm_num [hlimb, shown, heast])
      (by norm_num [shown, hcenter, heast, Projected.point])⟩
  have hfar : r.control? view far = none := by
    have hbehind : ¬ r.limbThreshold < -1 := by
      rw [hlimb]
      norm_num
    simp [control?, Projected.isNearFront, far, hback, hbehind]
  obtain ⟨hframe, -, hadds, hconnection, hpoint, hheat⟩ := r.elements_independent view 500
  have hlength : 0 < [shown, shown].length := Nat.two_pos
  have hwarm : 1 < heat.length := Nat.one_lt_two
  have hperm : heat.Perm heat.reverse := heat.reverse_perm.symm
  refine ⟨hlength, hwarm, hperm, ?_, ?_, (hheat _ _ _ hperm).2.2⟩
  · obtain ⟨head, tail, h⟩ := hconnection [shown, shown] heat 0 hlength
    have hkept := h shown
    have hgone := h far
    rw [hadds, hshown] at hkept
    rw [hadds, hfar, List.append_nil] at hgone
    refine ⟨head, tail, (r.render view [] heat 500).commands, control, hkept, hgone, ?_⟩
    have harcs : ([far, shown].mapIdx (r.arc view 500)).flatMap Outcome.commands =
        [r.arcOf view control shown, r.particleOf view 500 1 control shown] := by
      show (r.arc view 500 0 far).commands ++ ((r.arc view 500 1 shown).commands ++ []) = _
      rw [hadds, hfar, hadds, hshown]
      rfl
    rw [← hgone, hframe, hframe]
    show OverlayCommand.clear _ :: (_ ++ List.flatMap _ ([far, shown].mapIdx (r.arc view 500))) = _
    rw [harcs]
    simp
  · obtain ⟨head, tail, h⟩ := hpoint [shown, shown] heat 1 hwarm
    have hgone := h ⟨0, 90, 1⟩
    have hcold : (r.glow view ⟨0, 90, 1⟩).commands = [] := by
      simp [glow, HeatPoint.location, heast, Projected.isFront, Outcome.commands]
    rw [hcold, List.append_nil] at hgone
    exact ⟨head, tail, h ⟨0, 0, 1 / 2⟩, hgone⟩

end Renderer
end GlobeView
