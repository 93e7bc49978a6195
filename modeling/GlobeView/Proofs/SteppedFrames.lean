import GlobeView.Proofs.UndefinedNumbers
import GlobeView.Proofs.CallbackDesk
import GlobeView.StepClock

/-! # Frames of a clock that is stepped by hand

A `Use` is anything that is done to a clock: a callback is registered or unregistered, or a frame is
made after a delay.

* The frame that a clock makes is given by the delays so far (`frameAfter`, `nextFrame_afterUses`):
  its number counts those before it, and its time is the start with all delays but the first one,
  which nobody looks at.  A negative or undefined delay counts as none (`Number.forward`).
* A frame hands the callbacks out and takes all of them back, so it runs those that are registered
  and leaves them alone (`callbacks_afterUses`).  A callback is registered unless its identifier was
  unregistered since (`registered`). -/

namespace GlobeView

/-- What a delay counts for: nothing if it is negative or undefined. -/
noncomputable def Number.forward : Number → ℝ
  | .real x => Max.max x 0
  | .undefined => 0

theorem Number.forward_nonneg (dt : Number) : 0 ≤ dt.forward := by
  cases dt with
  | undefined => exact le_rfl
  | real x => exact le_max_right x 0

theorem Number.max_zero (dt : Number) : Scalar.max dt 0 = .real dt.forward := by
  unfold Scalar.max
  rw [Number.isUndefined_eq, Number.isFinite_numeral, Number.numeral, Nat.cast_zero]
  cases dt with
  | undefined => simp [Number.forward]
  | real x =>
      simp only [Number.real_lt_real, Number.forward, Bool.not_true, Bool.false_eq_true, if_false]
      split_ifs with hx
      · rw [max_eq_left hx.le]
      · rw [max_eq_right (not_lt.mp hx)]

namespace StepClock

/-- Something that is done to a clock. -/
inductive Use (κ α : Type) where
  | register (callback : κ)
  | unregister (id : ℕ)
  | advance (dt : α)

variable {κ α : Type}

namespace Use

/-- The delay of a frame. -/
def delay? : Use κ α → Option α
  | .register _ => none
  | .unregister _ => none
  | .advance dt => some dt

/-- Whether a use unregisters an identifier. -/
def removes (id : ℕ) : Use κ α → Bool
  | .unregister removed => id == removed
  | _ => false

/-- Whether a use registers a callback. -/
def isRegister : Use κ α → Bool
  | .register _ => true
  | _ => false

end Use

/-- The delays of the frames that uses make. -/
def delays (uses : List (Use κ α)) : List α := uses.filterMap Use.delay?

/-- The callbacks that uses register and do not unregister later, in the order of registration, when
`made` were registered before.  The identifier of a callback is its number, as a word. -/
def registeredFrom (made : ℕ) : List (Use κ α) → List (ℕ × κ)
  | [] => []
  | .register callback :: rest =>
    let id := made % wordRange
    (if rest.any (·.removes id) then [] else [(id, callback)]) ++ registeredFrom (made + 1) rest
  | _ :: rest => registeredFrom made rest

/-- The callbacks that are registered after uses. -/
def registered (uses : List (Use κ α)) : List (ℕ × κ) := registeredFrom 0 uses

/-- Another use adds a callback behind the others, takes some away or does neither. -/
theorem registeredFrom_concat (made : ℕ) (uses : List (Use κ α)) (u : Use κ α) :
    registeredFrom made (uses ++ [u]) =
      match u with
      | .register callback =>
        registeredFrom made uses ++ [((made + uses.countP Use.isRegister) % wordRange, callback)]
      | .unregister id => (registeredFrom made uses).filter (·.1 != id)
      | .advance _ => registeredFrom made uses := by
  induction uses generalizing made with
  | nil => cases u <;> simp [registeredFrom]
  | cons v rest ih =>
      cases v with
      | register callback =>
          rw [List.cons_append, registeredFrom, registeredFrom, ih, List.any_append]
          cases u with
          | register later =>
              have hcount : made + 1 + rest.countP Use.isRegister =
                  made + (Use.register callback :: rest).countP Use.isRegister := by
                rw [List.countP_cons_of_pos rfl]
                omega
              simp [Use.removes, hcount, List.append_assoc]
          | unregister id =>
              by_cases hid : made % wordRange = id
              · simp [Use.removes, hid]
              · simp [Use.removes, hid, apply_ite (List.filter _)]
          | advance dt => simp [Use.removes]
      | unregister id => exact ih made
      | advance dt => exact ih made

theorem delays_concat (uses : List (Use κ α)) (u : Use κ α) :
    delays (uses ++ [u]) = delays uses ++ u.delay?.toList := by
  rw [delays, List.filterMap_append]
  cases u <;> rfl

section uses
variable [Scalar α]

/-- The clock after a use. -/
def use : Use κ α → StepClock κ α → StepClock κ α
  | .register callback, c => (c.register callback).2
  | .unregister id, c => (c.unregister id).2
  | .advance dt, c => (c.advance dt).2

/-- The clock after uses in order. -/
def afterUses (uses : List (Use κ α)) (c : StepClock κ α) : StepClock κ α :=
  uses.foldl (fun c u => c.use u) c

/-- What the frames of uses answer, in order. -/
def answers : List (Use κ α) → StepClock κ α → List (Frame α × List (ℕ × κ))
  | [], _ => []
  | .advance dt :: rest, c => (c.advance dt).1 :: answers rest (c.use (.advance dt))
  | u :: rest, c => answers rest (c.use u)

theorem afterUses_concat (uses : List (Use κ α)) (u : Use κ α) (c : StepClock κ α) :
    c.afterUses (uses ++ [u]) = (c.afterUses uses).use u := by
  rw [afterUses, List.foldl_append]
  rfl

theorem answers_concat (uses : List (Use κ α)) (dt : α) (c : StepClock κ α) :
    c.answers (uses ++ [.advance dt]) = c.answers uses ++ [((c.afterUses uses).advance dt).1] := by
  induction uses generalizing c with
  | nil => rfl
  | cons u rest ih =>
      cases u with
      | advance dt' => exact congrArg _ (ih _)
      | register | unregister => exact ih _

theorem run_eq_answers (dt : α) (count : ℕ) (c : StepClock κ α) :
    c.run dt count =
      (c.answers (List.replicate count (.advance dt)),
        c.afterUses (List.replicate count (.advance dt))) := by
  induction count generalizing c with
  | zero => rfl
  | succ count ih =>
      simp only [run, ih]
      rfl

theorem getLast?_run (dt : α) (count : ℕ) (c : StepClock κ α) :
    (c.run dt count).1.getLast?.map Prod.fst =
      if count = 0 then none else (c.run dt count).2.last := by
  cases count with
  | zero => rfl
  | succ count =>
      rw [run_eq_answers, List.replicate_succ', answers_concat, afterUses_concat,
        List.getLast?_concat]
      rfl

/-! ### Callbacks -/

/-- Between frames the registry holds what is registered, and nothing is out. -/
theorem callbacks_afterUses (start : α) (uses : List (Use κ α)) :
    ((startingAt start).afterUses uses).callbacks =
      { nextId := uses.countP Use.isRegister % wordRange, waiting := registered uses } := by
  induction uses using List.reverseRecOn with
  | nil => rfl
  | append_singleton uses u ih =>
      rw [afterUses_concat, registered, registeredFrom_concat, ← registered, List.countP_append]
      cases u with
      | register callback =>
          simp only [use, StepClock.register, Callbacks.register, ih]
          simp [Use.isRegister]
      | unregister id =>
          simp only [use, StepClock.unregister, ih]
          let held : Callbacks κ :=
            { nextId := uses.countP Use.isRegister % wordRange, waiting := registered uses }
          obtain ⟨_, heq⟩ | ⟨_, hout, _⟩ | ⟨hnone, _, heq⟩ := Callbacks.unregister_cases id held
          · rw [heq]
            rfl
          · cases hout
          · have hsame : (registered uses).filter (·.1 != id) = registered uses := by
              rw [List.filter_eq_self]
              intro c hc
              refine bne_iff_ne.mpr ?_
              rintro rfl
              exact hnone (List.mem_map_of_mem hc)
            rw [heq, hsame]
            rfl
      | advance dt =>
          simp only [use, advance, ih]
          exact Callbacks.finishDispatch_beginDispatch rfl rfl

end uses

/-! ### Frames -/

section frames

/-- The frame that a clock makes after a delay when it has made frames after others. -/
noncomputable def frameAfter (start : ℝ) (earlier : List Number) (dt : Number) : Frame Number where
  index := earlier.length % wordRange
  dt := if earlier.isEmpty then 0 else .real dt.forward
  time := .real (start + ((earlier ++ [dt]).tail.map Number.forward).sum)

theorem frameAfter_advance (start : ℝ) (earlier : List Number) (dt next : Number) :
    (frameAfter start earlier dt).advance next = frameAfter start (earlier ++ [dt]) next := by
  have htail : (earlier ++ [dt] ++ [next]).tail = (earlier ++ [dt]).tail ++ [next] :=
    List.tail_append_of_ne_nil (by simp)
  have hindex : (earlier.length % wordRange + 1) % wordRange =
      (earlier ++ [dt]).length % wordRange := by
    rw [List.length_append, List.length_singleton, Nat.mod_add_mod]
  have htime (x y : ℝ) : Number.real x + Number.real y = .real (x + y) := rfl
  rw [Frame.advance, Number.max_zero, frameAfter, frameAfter, htail, List.map_append,
    List.sum_append, Frame.nextIndex, hindex, htime, add_assoc]
  simp

/-- The next frame of a clock is given by the delays so far. -/
theorem nextFrame_afterUses (start : ℝ) (uses : List (Use κ Number)) (dt : Number) :
    ((startingAt (.real start)).afterUses uses).nextFrame dt =
      frameAfter start (delays uses) dt := by
  induction uses using List.reverseRecOn generalizing dt with
  | nil => simp [nextFrame, afterUses, startingAt, frameAfter, delays, Frame.first]
  | append_singleton uses u ih =>
      rw [afterUses_concat, delays_concat]
      cases u with
      | register callback =>
          rw [Use.delay?, Option.toList_none, List.append_nil]
          exact ih dt
      | unregister id =>
          rw [Use.delay?, Option.toList_none, List.append_nil]
          exact ih dt
      | advance made =>
          have hlast : (((startingAt (.real start)).afterUses uses).use (.advance made)).last =
              some (frameAfter start (delays uses) made) := congrArg some (ih made)
          rw [nextFrame, hlast]
          exact frameAfter_advance start (delays uses) made dt

theorem tail_delays (before after : List (Use κ Number)) (dt next : Number) :
    (delays (before ++ .advance dt :: after) ++ [next]).tail =
      (delays before ++ [dt]).tail ++ (delays after ++ [next]) := by
  have hsplit : delays (before ++ .advance dt :: after) ++ [next] =
      (delays before ++ [dt]) ++ (delays after ++ [next]) := by
    simp [delays, Use.delay?]
  rw [hsplit, List.tail_append_of_ne_nil (by simp)]

theorem sum_forward_nonneg (delays : List Number) : 0 ≤ (delays.map Number.forward).sum := by
  refine List.sum_nonneg fun x hx => ?_
  obtain ⟨dt, _, rfl⟩ := List.mem_map.mp hx
  exact dt.forward_nonneg

theorem frameAfter_later (start : ℝ) (before after : List (Use κ Number)) (dt next : Number) :
    let later := frameAfter start (delays (before ++ .advance dt :: after)) next
    (frameAfter start (delays before) dt).time ≤ later.time ∧
      later.index = ((delays before).length + (delays after).length + 1) % wordRange := by
  intro later
  constructor
  · simp only [later, frameAfter, tail_delays, Number.real_le_real, List.map_append,
      List.sum_append]
    have hforward := sum_forward_nonneg (delays after ++ [next])
    rw [List.map_append, List.sum_append] at hforward
    linarith
  · have hlength : (delays (before ++ .advance dt :: after)).length =
        (delays before).length + (delays after).length + 1 := by
      simp [delays, Use.delay?, Nat.add_assoc]
    rw [← hlength]
    rfl

theorem frameAfter_fixedStep {d : ℝ} (hd : 0 ≤ d) {earlier : List Number}
    (hall : ∀ x ∈ earlier, x = .real d) :
    (frameAfter 0 earlier (.real d)).time = (Frame.fixedStep earlier.length (Number.real d)).time := by
  have hdelays : (earlier ++ [Number.real d]).tail = List.replicate earlier.length (.real d) := by
    rw [List.eq_replicate_of_mem hall, ← List.replicate_succ', List.tail_replicate,
      List.length_replicate, Nat.add_sub_cancel]
  have hforward : (Number.real d).forward = d := max_eq_left hd
  rw [frameAfter, hdelays, List.map_replicate, List.sum_replicate, zero_add, hforward,
    nsmul_eq_mul]
  rfl

end frames

/-- **Each step of a clock makes the next frame.**  Take a clock that was stepped any number of times
since its start, with callbacks registered and unregistered in between.  Its next frame is numbered
by the frames before it, and its time is the start with all delays but the first, negative and
undefined ones counting as none; so numbers go up by one and times never go back.  With it run the
callbacks that are registered, each once and in the order of registration, and no others.

Steps of one length from zero on make the frames of a fixed step.  Many steps at once are as many
single ones, and their last frame is the one that the clock made last; of no steps there is none. -/
theorem steps_make_frames (start : ℝ) (before : List (Use κ Number)) (dt : Number)
    (hcount : (delays before).length < wordRange) :
    let clock := (startingAt (.real start)).afterUses before
    let frame := (clock.advance dt).1.1
    frame.index = (delays before).length ∧
    frame.time = .real (start + ((delays before ++ [dt]).tail.map Number.forward).sum) ∧
    (clock.advance dt).1.2 = registered before ∧
    (∀ (after : List (Use κ Number)) (dt' : Number),
      let later := (((clock.advance dt).2.afterUses after).advance dt').1.1
      frame.time ≤ later.time ∧
      ((delays before).length + (delays after).length + 1 < wordRange →
        later.index = frame.index + (delays after).length + 1)) ∧
    (∀ d : ℝ, 0 ≤ d → start = 0 → dt = .real d → (∀ x ∈ delays before, x = .real d) →
      let fixed := Frame.fixedStep (delays before).length dt
      frame.index = fixed.index ∧ frame.time = fixed.time) ∧
    ∀ (c : StepClock κ Number) (step : Number) (count : ℕ),
      c.run step count =
        (c.answers (List.replicate count (.advance step)),
          c.afterUses (List.replicate count (.advance step))) ∧
      (c.run step count).1.getLast?.map Prod.fst =
        if count = 0 then none else (c.run step count).2.last := by
  intro clock frame
  have hframe : frame = frameAfter start (delays before) dt := nextFrame_afterUses start before dt
  have hindex : frame.index = (delays before).length := by
    rw [hframe]
    exact Nat.mod_eq_of_lt hcount
  have htime :
      frame.time = .real (start + ((delays before ++ [dt]).tail.map Number.forward).sum) := by
    rw [hframe]
    rfl
  have hran : (clock.advance dt).1.2 = registered before :=
    congrArg Callbacks.waiting (callbacks_afterUses (Number.real start) before)
  refine ⟨hindex, htime, hran, fun after dt' => ?_, fun d hd hstart hdt hall => ⟨hindex, ?_⟩,
    fun c step count => ⟨run_eq_answers step count c, getLast?_run step count c⟩⟩
  · intro later
    have hclock : (clock.advance dt).2.afterUses after =
        (startingAt (.real start)).afterUses (before ++ .advance dt :: after) := by
      rw [afterUses, afterUses, List.foldl_append]
      rfl
    have hlater : later = frameAfter start (delays (before ++ .advance dt :: after)) dt' := by
      rw [← nextFrame_afterUses, ← hclock]
      rfl
    obtain ⟨hle, hnumber⟩ := frameAfter_later start before after dt dt'
    rw [hlater, hindex, hframe]
    exact ⟨hle, fun hbound => hnumber.trans (Nat.mod_eq_of_lt hbound)⟩
  · rw [hframe, hstart, hdt]
    exact frameAfter_fixedStep hd hall

/-- Undefined and negative delays, a callback that is gone, and steps of one length. -/
theorem steps_make_frames_undefined :
    let before : List (Use String Number) :=
      [.register "b", .register "a", .advance (.real 7), .unregister 0, .register "c",
        .advance .undefined, .advance (.real (-1))]
    let clock := (startingAt (.real 5)).afterUses before
    let even : StepClock String Number := (startingAt (.real 0)).afterUses [.advance (.real 2)]
    (delays before).length < wordRange ∧
      (clock.advance (.real 2)).1.1.index = 3 ∧
      (clock.advance (.real 2)).1.1.time = .real 7 ∧
      (clock.advance (.real 2)).1.2 = [(1, "a"), (2, "c")] ∧
      (((clock.advance (.real 2)).2.afterUses []).advance .undefined).1.1.index = 4 ∧
      (even.advance (.real 2)).1.1.time = (Frame.fixedStep 1 (Number.real 2)).time := by
  intro before clock even
  have hcount : (delays before).length < wordRange := by decide
  obtain ⟨hindex, htime, hran, hlater, -, -⟩ := steps_make_frames 5 before (.real 2) hcount
  have hdelays : delays before = [.real 7, .undefined, .real (-1)] := rfl
  have hsum : ((delays before ++ [Number.real 2]).tail.map Number.forward).sum = 2 := by
    simp [hdelays, Number.forward]
  refine ⟨hcount, hindex, ?_, hran, ?_, ?_⟩
  · rw [htime, hsum]
    norm_num
  · exact ((hlater [] .undefined).2 (by decide)).trans (congrArg (· + 1) hindex)
  · obtain ⟨-, -, -, -, hfixed, -⟩ := steps_make_frames 0
      [(.advance (.real 2) : Use String Number)] (.real 2) (by decide)
    exact (hfixed 2 (by norm_num) rfl rfl (by simp [delays, Use.delay?])).2

end StepClock
end GlobeView
