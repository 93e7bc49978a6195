import GlobeView.Double.Arithmetic
import GlobeView.Proofs.CallbackDesk
import GlobeView.Proofs.SessionRuns

/-! # The end of a session

A session ends in two steps that do not know of each other: the globe is taken off the clock, and
the watch on its container is disconnected.  Both are done by every unmounting and once more when
the session is dropped, and each leaves behind that there is nothing more to do.

While it is mounted, the globe has one callback behind those of everybody else, and afterwards none
(`Session.Booked`); so every frame of the clock draws it once before its end and never after
(`Session.Booked.advance_eq`).  The watches that were disconnected and the one that still is not are
all that were ever attached (`Session.watches_turns`). -/

namespace GlobeView

variable {σ τ α : Type}

/-! ### Frames on the surfaces -/

namespace Recorder

/-- How many frames either surface has drawn of its own layer. -/
def frames (r : Recorder α) : ℕ × ℕ := (r.sphere.sphereFrames, r.overlay.overlayFrames)

theorem frames_resizes (sizes : List (SurfaceSize α)) (r : Recorder α) :
    (r.drawAll (sizes.map .resize)).frames = r.frames := by
  induction sizes generalizing r with
  | nil => rfl
  | cons size rest ih => exact ih _

/-- A frame of the globe is one frame on either surface, whether or not it brings a new size. -/
theorem frames_drawFrame [Scalar α] [PhaseSource σ α] (container : ContainerSize α)
    (frame : Frame α) (c : Controller σ α) (r : Recorder α) :
    (r.drawAll (c.drawFrame container frame).1).frames = (r.frames.1 + 1, r.frames.2 + 1) := by
  have hdrawn : ∃ (sizes : List (SurfaceSize α)) (sphere : SphereFrame α)
      (overlay : OverlayFrame α), (c.drawFrame container frame).1 =
        sizes.map .resize ++ [.sphere sphere, .overlay overlay] := ⟨_, _, _, rfl⟩
  obtain ⟨sizes, sphere, overlay, hdrawn⟩ := hdrawn
  have hsizes := frames_resizes sizes r
  rw [hdrawn, drawAll_append, ← hsizes]
  rfl

end Recorder

/-! ### Clocks -/

namespace StepClock

/-- A clock between two frames that no globe is on: all its callbacks are somebody else's. -/
structure Vacant (c : StepClock (Task τ) α) : Prop where
  sound : (Callbacks.Desk.mk c.callbacks none).Sound
  foreign : ∀ entry ∈ c.callbacks.waiting, entry.2 ≠ .draw

theorem Vacant.size {c : StepClock (Task τ) α} (h : c.Vacant) :
    c.callbacks.size = c.callbacks.waiting.length := by
  rw [h.sound.size_eq]
  simp [Callbacks.Desk.live, Callbacks.Desk.held]

theorem vacant_startingAt (start : α) : (startingAt start : StepClock (Task τ) α).Vacant where
  sound := Callbacks.Desk.sound_start
  foreign := by simp [startingAt, Callbacks.empty]

end StepClock

namespace Session

/-! ### Turns -/

/-- What the owner of a session does to it. -/
inductive Turn (α : Type) where
  /-- The container gets another size, and nobody is told. -/
  | container (new : ContainerSize α)
  /-- The clock makes a frame. -/
  | advance (dt : α)
  | notifyResize (now : α)
  | handle (event : PointerEvent α)
  /-- The controller is given new data. -/
  | edit (edits : List (Edit α))
  /-- A watch on the container is attached. -/
  | watch
  | unmount

namespace Turn

def isAdvance : Turn α → Bool
  | .advance _ => true
  | _ => false

def isWatch : Turn α → Bool
  | .watch => true
  | _ => false

def isUnmount : Turn α → Bool
  | .unmount => true
  | _ => false

end Turn

section turns

variable [Scalar α] [PhaseSource σ α]

/-- The session after a turn. -/
def turn : Turn α → Session σ τ α → Session σ τ α
  | .container new, s => s.setContainer new
  | .advance dt, s => (s.advance dt).2
  | .notifyResize now, s => (s.notifyResize now).2
  | .handle event, s => (s.handle event).2
  | .edit edits, s => (s.withController fun c => ((), c.run (edits.map Edit.action))).2
  | .watch, s => s.withWatch
  | .unmount, s => s.unmount

/-- The session after turns in order. -/
def turns (ts : List (Turn α)) (s : Session σ τ α) : Session σ τ α :=
  ts.foldl (fun s t => s.turn t) s

/-- A turn that neither makes a frame nor ends the session leaves the clock alone and draws no
frame. -/
theorem turn_aside {t : Turn α} (ha : t.isAdvance = false) (hu : t.isUnmount = false)
    (s : Session σ τ α) :
    ∃ controller surfaces container,
      s.turn t =
        { s with
          controller := controller
          surfaces := surfaces
          container := container
          isWatching := s.isWatching || t.isWatch } ∧
      surfaces.frames = s.surfaces.frames := by
  have hquiet {t : Turn α} (hw : t.isWatch = false) :
      (s.isWatching || t.isWatch) = s.isWatching := by rw [hw, Bool.or_false]
  have hwatched : (s.isWatching || (.watch : Turn α).isWatch) = true := Bool.or_true _
  cases t with
  | advance dt => cases ha
  | unmount => cases hu
  | watch =>
      rw [hwatched]
      exact ⟨s.controller, s.surfaces, s.container, rfl, rfl⟩
  | container new =>
      rw [hquiet rfl]
      exact ⟨s.controller, s.surfaces, new, rfl, rfl⟩
  | edit edits =>
      rw [hquiet rfl]
      exact ⟨s.controller.run (edits.map Edit.action), s.surfaces, s.container, rfl, rfl⟩
  | handle event =>
      rw [hquiet rfl]
      simp only [turn, handle]
      split_ifs <;> exact ⟨_, s.surfaces, s.container, rfl, rfl⟩
  | notifyResize now =>
      rw [hquiet rfl]
      simp only [turn, notifyResize]
      split_ifs
      · exact ⟨_, _, s.container, rfl, Recorder.frames_resizes _ _⟩
      · exact ⟨s.controller, s.surfaces, s.container, rfl, rfl⟩

theorem advance_shape (dt : α) (s : Session σ τ α) :
    ∃ controller surfaces clock,
      (s.advance dt).2 =
        { s with controller := controller, surfaces := surfaces, clock := clock } := by
  refine List.foldlRecOn (motive := fun s' : Session σ τ α => ∃ controller surfaces clock,
      s' = { s with controller := controller, surfaces := surfaces, clock := clock })
    _ _ ⟨s.controller, s.surfaces, _, rfl⟩ ?_
  rintro _ ⟨controller, surfaces, clock, rfl⟩ task _
  cases task with
  | draw => exact ⟨_, _, _, rfl⟩
  | other tag => exact ⟨_, _, _, rfl⟩

end turns

/-- How many frames the clock makes before the first unmounting. -/
def advancesBeforeEnd (ts : List (Turn α)) : ℕ :=
  (ts.takeWhile (!·.isUnmount)).countP Turn.isAdvance

theorem advancesBeforeEnd_cons (t : Turn α) (rest : List (Turn α)) :
    advancesBeforeEnd (t :: rest) =
      t.isAdvance.toNat + if t.isUnmount then 0 else advancesBeforeEnd rest := by
  unfold advancesBeforeEnd
  rw [List.takeWhile_cons]
  cases t with
  | unmount => rfl
  | _ => exact (List.countP_cons ..).trans (Nat.add_comm _ _)

/-! ### On the clock and off it -/

/-- On the clock of a session are the callbacks of others, and behind them the one of the globe
while it is mounted. -/
structure Booked (others : List (ℕ × Task τ)) (s : Session σ τ α) : Prop where
  waiting : s.clock.callbacks.waiting = others ++ (s.callback.map (·, Task.draw)).toList
  foreign : ∀ entry ∈ others, entry.2 ≠ .draw
  distinct : ∀ id ∈ s.callback, ∀ entry ∈ others, entry.1 ≠ id
  dispatching : s.clock.callbacks.dispatching = []
  removed : s.clock.callbacks.removed = []

theorem booked_mount [Scalar α] (controller : Controller σ α) (container : ContainerSize α)
    {clock : StepClock (Task τ) α} (h : clock.Vacant) (now : α) :
    (mount controller container clock now).Booked clock.callbacks.waiting where
  waiting := rfl
  foreign := h.foreign
  distinct := by
    intro id hid entry hentry
    have hbelow := h.sound.below entry hentry
    obtain rfl := Option.some.inj hid
    exact Nat.ne_of_lt hbelow
  dispatching := h.sound.dispatching
  removed := List.subset_nil.mp h.sound.removed_subset

/-- The clock made a frame, and nothing ran with it. -/
def ticked [Scalar α] (dt : α) (s : Session σ τ α) : Session σ τ α :=
  { s with clock := { s.clock with last := some (s.clock.nextFrame dt) } }

namespace Booked

variable {others : List (ℕ × Task τ)} {s : Session σ τ α}

/-- Only what touches the clock or the callback of the globe can break it. -/
theorem congr (h : s.Booked others) {s' : Session σ τ α}
    (hcallbacks : s'.clock.callbacks = s.clock.callbacks) (hcallback : s'.callback = s.callback) :
    s'.Booked others := by
  obtain ⟨hwaiting, hforeign, hdistinct, hdispatching, hremoved⟩ := h
  rw [← hcallbacks, ← hcallback] at hwaiting
  rw [← hcallback] at hdistinct
  rw [← hcallbacks] at hdispatching hremoved
  exact ⟨hwaiting, hforeign, hdistinct, hdispatching, hremoved⟩

theorem size (h : s.Booked others) :
    s.clock.callbacks.size = others.length + s.callback.toList.length := by
  simp only [Callbacks.size, h.waiting, h.dispatching, h.removed, List.length_append,
    List.length_nil]
  cases s.callback <;> rfl

theorem unmount (h : s.Booked others) : s.unmount.Booked others ∧ s.unmount.callback = none := by
  have hcancelled : s.cancelFrames.Booked others ∧ s.cancelFrames.callback = none := by
    cases hid : s.callback with
    | none =>
        have hsame : s.cancelFrames = s := by simp only [cancelFrames, hid]
        rw [hsame]
        exact ⟨h, hid⟩
    | some id =>
        have hwaiting : s.clock.callbacks.waiting = others ++ [(id, .draw)] := by
          rw [h.waiting, hid]
          rfl
        have hothers : others.filter (·.1 != id) = others := by
          rw [List.filter_eq_self]
          intro entry hentry
          simpa using h.distinct id hid entry hentry
        have hfound : s.clock.callbacks.isWaiting id = true := by
          simp [Callbacks.isWaiting, hwaiting]
        have hleft : s.cancelFrames =
            { s with
              clock := { s.clock with
                callbacks := { s.clock.callbacks with waiting := others } }
              callback := none } := by
          simp only [cancelFrames, hid, StepClock.unregister, Callbacks.unregister, hfound, if_true]
          rw [hwaiting, List.filter_append, hothers]
          simp
        rw [hleft]
        exact ⟨⟨(List.append_nil _).symm, h.foreign, by simp, h.dispatching, h.removed⟩, rfl⟩
  obtain ⟨hbooked, hnone⟩ := hcancelled
  unfold Session.unmount disconnectWatch
  split_ifs
  · exact ⟨hbooked.congr rfl rfl, hnone⟩
  · exact ⟨hbooked, hnone⟩

theorem advance_eq [Scalar α] [PhaseSource σ α] (h : s.Booked others) (dt : α) :
    (s.advance dt).2 =
      if s.isMounted then (s.ticked dt).runTask (s.clock.nextFrame dt) .draw
      else s.ticked dt := by
  have hothers (frame : Frame α) (s : Session σ τ α) :
      (others.map Prod.snd).foldl (runTask frame) s = s := by
    refine List.foldlRecOn (motive := (· = s)) _ _ rfl ?_
    rintro _ rfl task htask
    obtain ⟨entry, hentry, rfl⟩ := List.mem_map.mp htask
    cases htag : entry.2 with
    | draw => exact absurd htag (h.foreign entry hentry)
    | other tag => rfl
  have hclock : { s with clock := (s.clock.advance dt).2 } = s.ticked dt := by
    simp only [StepClock.advance, Callbacks.finishDispatch_beginDispatch h.dispatching h.removed]
    rfl
  have hran : (s.advance dt).2 =
      (s.clock.callbacks.waiting.map Prod.snd).foldl (runTask (s.clock.nextFrame dt))
        (s.ticked dt) := by
    rw [← hclock]
    rfl
  rw [hran, h.waiting, List.map_append, List.foldl_append, hothers]
  unfold isMounted
  cases s.callback <;> rfl

section turns

variable [Scalar α] [PhaseSource σ α]

theorem ended (h : s.Booked others) (hgone : s.isMounted = false) :
    s.clock.callbacks.size = others.length ∧
      (∀ dt, (s.advance dt).2.controller = s.controller ∧
        (s.advance dt).2.surfaces = s.surfaces) ∧
      (∀ now, s.notifyResize now = (none, s)) ∧ ∀ event, s.handle event = (none, s) := by
  have hnot : ¬ s.isMounted = true := by simp [hgone]
  refine ⟨?_, ?_, fun now => if_neg hnot, fun event => if_neg hnot⟩
  · rw [h.size, Option.not_isSome_iff_eq_none.mp hnot]
    rfl
  · intro dt
    rw [h.advance_eq, if_neg hnot]
    exact ⟨rfl, rfl⟩

theorem turn (h : s.Booked others) (t : Turn α) :
    (s.turn t).Booked others ∧ (s.turn t).isMounted = (s.isMounted && !t.isUnmount) ∧
      (s.turn t).surfaces.frames =
        (s.surfaces.frames.1 + (s.isMounted && t.isAdvance).toNat,
          s.surfaces.frames.2 + (s.isMounted && t.isAdvance).toNat) := by
  cases ht : t with
  | advance dt =>
      have hadvanced := h.advance_eq dt
      simp only [Session.turn, Turn.isUnmount, Turn.isAdvance, hadvanced]
      split_ifs with hm
      · refine ⟨h.congr rfl rfl, ?_, ?_⟩
        · simp [isMounted, Session.runTask, ticked]
        · rw [hm]
          exact Recorder.frames_drawFrame ..
      · refine ⟨h.congr rfl rfl, ?_, ?_⟩
        · simp [isMounted, ticked]
        · simp [hm, ticked]
  | unmount =>
      obtain ⟨hbooked, hnone⟩ := h.unmount
      obtain ⟨_, _, _, _, hshape⟩ := s.unmount_shape
      refine ⟨hbooked, ?_, ?_⟩
      · simp [isMounted, hnone, Session.turn, Turn.isUnmount]
      · simp [Session.turn, hshape, Turn.isAdvance]
  | _ =>
      have ha : t.isAdvance = false := by rw [ht]; rfl
      have hu : t.isUnmount = false := by rw [ht]; rfl
      obtain ⟨_, _, _, hshape, hframes⟩ := s.turn_aside ha hu
      rw [← ht, ha, hu, hshape]
      refine ⟨h.congr rfl rfl, ?_, ?_⟩
      · simp [isMounted]
      · simp [hframes]

/-- After a run, each surface has drawn as many frames as were made while the globe was mounted. -/
theorem turns (h : s.Booked others) (ts : List (Turn α)) :
    (s.turns ts).Booked others ∧
      (s.turns ts).isMounted = (s.isMounted && !ts.any Turn.isUnmount) ∧
      (s.turns ts).surfaces.frames =
        (s.surfaces.frames.1 + if s.isMounted then advancesBeforeEnd ts else 0,
          s.surfaces.frames.2 + if s.isMounted then advancesBeforeEnd ts else 0) := by
  induction ts generalizing s with
  | nil => exact ⟨h, by simp [Session.turns], by simp [Session.turns, advancesBeforeEnd]⟩
  | cons t rest ih =>
      obtain ⟨hbooked, hmounted, hframes⟩ := h.turn t
      obtain ⟨hbooked', hmounted', hframes'⟩ := ih hbooked
      have hcount : (s.isMounted && t.isAdvance).toNat +
          (if (s.turn t).isMounted then advancesBeforeEnd rest else 0) =
            if s.isMounted then advancesBeforeEnd (t :: rest) else 0 := by
        rw [hmounted, advancesBeforeEnd_cons]
        cases s.isMounted <;> cases t.isUnmount <;> simp
      rw [hframes, Nat.add_assoc, Nat.add_assoc, hcount] at hframes'
      refine ⟨hbooked', ?_, hframes'⟩
      rw [List.any_cons, Bool.not_or, ← Bool.and_assoc, ← hmounted]
      exact hmounted'

end turns

end Booked

/-! ### The watch -/

/-- How many watches were attached: those that were disconnected, and the one that is not. -/
def watches (s : Session σ τ α) : ℕ := s.disconnects + s.isWatching.toNat

theorem watches_unmount (s : Session σ τ α) :
    s.unmount.disconnects = s.watches ∧ s.unmount.isWatching = false := by
  have hcancel : s.cancelFrames.disconnects = s.disconnects ∧
      s.cancelFrames.isWatching = s.isWatching := by
    unfold cancelFrames
    split <;> exact ⟨rfl, rfl⟩
  obtain ⟨hdisconnects, hwatching⟩ := hcancel
  unfold unmount disconnectWatch watches
  rw [hdisconnects, hwatching]
  split_ifs with hw
  · exact ⟨by rw [hw]; rfl, rfl⟩
  · rw [Bool.not_eq_true] at hw
    exact ⟨by rw [hdisconnects, hw]; rfl, hwatching.trans hw⟩

section turns

variable [Scalar α] [PhaseSource σ α]

theorem watches_turn {s : Session σ τ α} {t : Turn α}
    (h : s.isWatching.toNat + t.isWatch.toNat ≤ 1) :
    (s.turn t).watches = s.watches + t.isWatch.toNat ∧
      (s.turn t).isWatching.toNat ≤ s.isWatching.toNat + t.isWatch.toNat := by
  cases ht : t with
  | advance dt =>
      obtain ⟨_, _, _, hshape⟩ := s.advance_shape dt
      simp only [turn, hshape]
      exact ⟨rfl, Nat.le_refl _⟩
  | unmount =>
      obtain ⟨hdisconnects, hwatching⟩ := s.watches_unmount
      simp only [turn, watches, hwatching, hdisconnects]
      exact ⟨rfl, Nat.zero_le _⟩
  | _ =>
      have ha : t.isAdvance = false := by rw [ht]; rfl
      have hu : t.isUnmount = false := by rw [ht]; rfl
      obtain ⟨_, _, _, hshape, _⟩ := s.turn_aside ha hu
      rw [← ht, hshape]
      unfold watches
      cases hs : s.isWatching <;> cases hw : t.isWatch <;> simp [hs, hw] at h ⊢

/-- Of a run that never attaches a watch to a session that has one, none is forgotten. -/
theorem watches_turns {s : Session σ τ α} {ts : List (Turn α)}
    (h : s.isWatching.toNat + ts.countP Turn.isWatch ≤ 1) :
    (s.turns ts).watches = s.watches + ts.countP Turn.isWatch := by
  induction ts generalizing s with
  | nil => rfl
  | cons t rest ih =>
      have hcount : (t :: rest).countP Turn.isWatch =
          rest.countP Turn.isWatch + t.isWatch.toNat := by
        rw [List.countP_cons]
        cases t.isWatch <;> rfl
      rw [hcount] at h ⊢
      obtain ⟨hwatches, hwatching⟩ := watches_turn (s := s) (t := t) (by omega)
      have hrest := ih (s := s.turn t) (by omega)
      rw [hwatches] at hrest
      have hturns : s.turns (t :: rest) = (s.turn t).turns rest := rfl
      rw [hturns, hrest]
      omega

end turns

/-- **Unmounting is final.**  Mount a globe on a clock that no globe is on, and let its owner make
frames, tell it of new sizes and of pointer events, replace its data, unmount it any number of times
and attach one watch at any time.  Then either surface has drawn one frame for each that the clock
made before the first unmounting.  After that the clock has the callbacks that it had before the
globe was mounted, none if it had none, and no frame, notice or pointer event changes the globe or
its surfaces.  When the session is dropped, the watch has been disconnected exactly once. -/
theorem unmount_final [Scalar α] [PhaseSource σ α] (controller : Controller σ α)
    (container : ContainerSize α) {clock : StepClock (Task τ) α} (hclock : clock.Vacant) (now : α)
    {ts : List (Turn α)} (hwatch : ts.countP Turn.isWatch ≤ 1) :
    let s := (mount controller container clock now).turns ts
    let drawn := advancesBeforeEnd ts
    s.surfaces.sphere.sphereFrames = drawn ∧ s.surfaces.overlay.overlayFrames = drawn ∧
      (ts.any Turn.isUnmount = true →
        s.clock.callbacks.size = clock.callbacks.size ∧
        (clock.callbacks.size = 0 → s.clock.callbacks.size = 0) ∧
        (∀ dt, (s.advance dt).2.controller = s.controller ∧
          (s.advance dt).2.surfaces = s.surfaces) ∧
        (∀ now, s.notifyResize now = (none, s)) ∧ ∀ event, s.handle event = (none, s)) ∧
      s.drop.surfaces = s.surfaces ∧ s.drop.clock.callbacks.size = clock.callbacks.size ∧
      s.drop.disconnects = ts.countP Turn.isWatch ∧ s.drop.isWatching = false := by
  intro s drawn
  obtain ⟨hbooked, hmounted, hframes⟩ := (booked_mount controller container hclock now).turns ts
  have hsphere : s.surfaces.sphere.sphereFrames = 0 + drawn := congrArg Prod.fst hframes
  have hoverlay : s.surfaces.overlay.overlayFrames = 0 + drawn := congrArg Prod.snd hframes
  rw [Nat.zero_add] at hsphere hoverlay
  obtain ⟨hdropped, hnone⟩ := hbooked.unmount
  have hleft : s.drop.clock.callbacks.size = clock.callbacks.size := by
    rw [drop, hdropped.size, hclock.size, hnone]
    rfl
  have hfresh : (mount controller container clock now).isWatching.toNat +
      ts.countP Turn.isWatch ≤ 1 := by
    rw [← Nat.zero_add (ts.countP _)] at hwatch
    exact hwatch
  have hwatches : s.watches = 0 + ts.countP Turn.isWatch := watches_turns hfresh
  rw [Nat.zero_add] at hwatches
  obtain ⟨hdisconnects, hwatching⟩ := s.watches_unmount
  obtain ⟨_, _, _, _, hshape⟩ := s.unmount_shape
  refine ⟨hsphere, hoverlay, ?_, by rw [drop, hshape], hleft, hdisconnects.trans hwatches,
    hwatching⟩
  intro hended
  have hgone : s.isMounted = false := by
    rw [hmounted, hended]
    exact Bool.and_false _
  obtain ⟨hsize, hdeaf⟩ := hbooked.ended hgone
  rw [← hclock.size] at hsize
  exact ⟨hsize, hsize.trans, hdeaf⟩

/-- A watch that is attached after the second unmounting is left to the drop. -/
theorem unmount_final_late_watch :
    let controller : Controller Unseeded Float := .create .default .mk
    let clock : StepClock (Task Empty) Float := .startingAt 0
    let ts : List (Turn Float) :=
      [.advance 0, .notifyResize 1, .advance 1, .unmount, .advance 1, .handle .leave, .unmount,
        .watch]
    let s := (mount controller ⟨600, 400⟩ clock 0).turns ts
    clock.Vacant ∧ ts.countP Turn.isWatch ≤ 1 ∧ s.surfaces.sphere.sphereFrames = 2 ∧
      s.clock.callbacks.size = 0 ∧ s.disconnects = 0 ∧ s.drop.disconnects = 1 := by
  intro controller clock ts s
  have hclock : clock.Vacant := StepClock.vacant_startingAt 0
  have hwatch : ts.countP Turn.isWatch ≤ 1 := by decide
  have hdrawn : advancesBeforeEnd ts = 2 := by decide
  have hwatched : ts.countP Turn.isWatch = 1 := by decide
  have hlate : s.disconnects = 0 := by decide +kernel
  obtain ⟨hsphere, _, hended, _, _, hdisconnects, _⟩ :=
    unmount_final controller ⟨600, 400⟩ hclock 0 hwatch
  obtain ⟨_, hsize, _⟩ := hended (by decide)
  rw [hdrawn] at hsphere
  rw [hwatched] at hdisconnects
  refine ⟨hclock, hwatch, ?_⟩
  simp only [s]
  exact ⟨hsphere, hsize rfl, hlate, hdisconnects⟩

end Session
end GlobeView
