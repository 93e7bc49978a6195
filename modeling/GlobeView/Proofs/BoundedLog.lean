import GlobeView.Proofs.ControllerTraces

/-! # What a bounded log keeps

A `Use` is anything that is done to a log.  The entries that uses make are given by the uses alone:
an event that comes with a frame is stamped with it, and any other with the latest frame that the
log was told of (`Use.entry?`).

Each use adds its entry to those since the last drain (`emitted_concat`), and a bounded log holds
the last of them (`holds_run`).  A stamp is the latest frame right after its event, so stamps
increase with the frames (`emitted_increasing`). -/

namespace GlobeView.EventLog

/-- Something that is done to a log. -/
inductive Use (ε : Type) where
  | emit (frame : ℕ) (event : ε)
  | emitNow (event : ε)
  | setFrame (frame : ℕ)
  | drain
deriving DecidableEq, Repr

variable {ε : Type}

namespace Use

/-- The frame that a log is told of. -/
def frame? : Use ε → Option ℕ
  | .emit frame _ => some frame
  | .emitNow _ => none
  | .setFrame frame => some frame
  | .drain => none

/-- The entry that a use makes when `latest` was the latest frame before it. -/
def entry? (latest : ℕ) : Use ε → Option (Logged ε)
  | .emit frame event => some ⟨frame, event⟩
  | .emitNow event => some ⟨latest, event⟩
  | .setFrame _ => none
  | .drain => none

def isDrain : Use ε → Bool
  | .drain => true
  | _ => false

end Use

/-- The log after a use. -/
def use : Use ε → EventLog ε → EventLog ε
  | .emit frame event, log => log.emit frame event
  | .emitNow event, log => log.emitNow event
  | .setFrame frame, log => log.setFrame frame
  | .drain, log => log.drain.2

/-- The log after uses in order. -/
def run (uses : List (Use ε)) (log : EventLog ε) : EventLog ε :=
  uses.foldl (fun log u => log.use u) log

/-- The frames that a log is told of, in order. -/
def frames (uses : List (Use ε)) : List ℕ := uses.filterMap Use.frame?

/-- The latest frame that a log was told of, or zero. -/
def latestFrame (uses : List (Use ε)) : ℕ := (frames uses).getLast?.getD 0

/-- The entries that uses make which come after others. -/
def entriesAfter (before : List (Use ε)) : List (Use ε) → List (Logged ε)
  | [] => []
  | u :: rest => (u.entry? (latestFrame before)).toList ++ entriesAfter (before ++ [u]) rest

/-- The entries that were made since the last drain. -/
def emitted (uses : List (Use ε)) : List (Logged ε) :=
  entriesAfter (uses.rdropWhile (!·.isDrain)) (uses.rtakeWhile (!·.isDrain))

theorem run_concat (uses : List (Use ε)) (u : Use ε) (log : EventLog ε) :
    log.run (uses ++ [u]) = (log.run uses).use u := by
  rw [run, List.foldl_append]
  rfl

/-! ### One more use -/

theorem frames_concat (uses : List (Use ε)) (u : Use ε) :
    frames (uses ++ [u]) = frames uses ++ u.frame?.toList := by
  rw [frames, List.filterMap_append]
  cases u <;> rfl

theorem latestFrame_concat (uses : List (Use ε)) (u : Use ε) :
    latestFrame (uses ++ [u]) = u.frame?.getD (latestFrame uses) := by
  rw [latestFrame, frames_concat]
  cases u.frame? with
  | none => rw [Option.toList_none, List.append_nil]; rfl
  | some frame => rw [Option.toList_some, List.getLast?_concat]; rfl

theorem entriesAfter_concat (before uses : List (Use ε)) (u : Use ε) :
    entriesAfter before (uses ++ [u]) =
      entriesAfter before uses ++ (u.entry? (latestFrame (before ++ uses))).toList := by
  induction uses generalizing before with
  | nil => simp [entriesAfter]
  | cons v rest ih => simp [entriesAfter, ih, List.append_assoc]

theorem emitted_concat (uses : List (Use ε)) (u : Use ε) :
    emitted (uses ++ [u]) =
      if u.isDrain then [] else emitted uses ++ (u.entry? (latestFrame uses)).toList := by
  cases hu : u.isDrain with
  | true => simp [emitted, hu, entriesAfter]
  | false =>
      have hsplit := List.rdropWhile_append_rtakeWhile (p := fun u => !u.isDrain) (l := uses)
      have hlater := entriesAfter_concat (uses.rdropWhile (!·.isDrain))
        (uses.rtakeWhile (!·.isDrain)) u
      rw [hsplit] at hlater
      rw [emitted, List.rdropWhile_concat_pos _ _ _ (by simp [hu]),
        List.rtakeWhile_concat_pos _ _ _ (by simp [hu]), hlater]
      rfl

/-! ### Runs -/

variable {limit : ℕ}

/-- A bounded log holds the last of the entries since the last drain, and stands at the latest
frame. -/
theorem holds_run (hlimit : 1 ≤ limit) (uses : List (Use ε)) :
    let log := (bounded limit).run uses
    log.Holds limit (emitted uses) ∧ log.frame = latestFrame uses := by
  induction uses using List.reverseRecOn with
  | nil => exact ⟨holds_bounded hlimit, rfl⟩
  | append_singleton uses u ih =>
      obtain ⟨hholds, hframe⟩ := ih
      rw [run_concat, emitted_concat, latestFrame_concat]
      cases u with
      | emit frame event =>
          have htold : ((bounded limit).run uses).setFrame frame |>.Holds limit (emitted uses) :=
            ⟨hholds.limit, hholds.entries⟩
          exact ⟨htold.emitNow hlimit event, rfl⟩
      | emitNow event =>
          have hlogged := hholds.emitNow hlimit event
          rw [hframe] at hlogged
          exact ⟨hlogged, hframe⟩
      | setFrame frame =>
          refine ⟨⟨hholds.limit, ?_⟩, rfl⟩
          rw [Use.entry?, Option.toList_none, List.append_nil]
          exact hholds.entries
      | drain => exact ⟨⟨hholds.limit, (List.rtake_nil limit).symm⟩, hframe⟩

/-! ### Stamps -/

theorem frame_entry? {uses : List (Use ε)} {u : Use ε} {e : Logged ε}
    (h : u.entry? (latestFrame uses) = some e) : e.frame = latestFrame (uses ++ [u]) := by
  rw [latestFrame_concat]
  cases u with
  | emit | emitNow =>
      obtain rfl := Option.some.inj h
      rfl
  | setFrame | drain => cases h

theorem latestFrame_le {uses : List (Use ε)} {u : Use ε}
    (h : (frames (uses ++ [u])).Pairwise (· ≤ ·)) :
    latestFrame uses ≤ latestFrame (uses ++ [u]) := by
  rw [latestFrame_concat]
  cases hu : u.frame? with
  | none => exact le_rfl
  | some frame =>
      rw [frames_concat, hu, List.pairwise_append] at h
      cases hlast : (frames uses).getLast? with
      | none => simp [latestFrame, hlast]
      | some last =>
          rw [latestFrame, hlast]
          exact h.2.2 last (List.mem_of_getLast? hlast) frame (by simp)

theorem emitted_increasing {uses : List (Use ε)} (h : (frames uses).Pairwise (· ≤ ·)) :
    ((emitted uses).map (·.frame)).Pairwise (· ≤ ·) ∧
      ∀ e ∈ emitted uses, e.frame ≤ latestFrame uses := by
  induction uses using List.reverseRecOn with
  | nil => exact ⟨List.Pairwise.nil, nofun⟩
  | append_singleton uses u ih =>
      have hbefore := h
      rw [frames_concat, List.pairwise_append] at hbefore
      obtain ⟨hincreasing, hstamps⟩ := ih hbefore.1
      have hlater (e : Logged ε) (he : e ∈ emitted uses) : e.frame ≤ latestFrame (uses ++ [u]) :=
        (hstamps e he).trans (latestFrame_le h)
      rw [emitted_concat]
      split_ifs
      · exact ⟨List.Pairwise.nil, nofun⟩
      · cases hentry : u.entry? (latestFrame uses) with
        | none =>
            rw [Option.toList_none, List.append_nil]
            exact ⟨hincreasing, hlater⟩
        | some e =>
            have hstamp := frame_entry? hentry
            rw [Option.toList_some, List.map_append, List.pairwise_append]
            refine ⟨⟨hincreasing, List.pairwise_singleton _ _, ?_⟩, ?_⟩
            · simpa [hstamp] using hlater
            · simpa [or_imp, forall_and, hstamp] using hlater

/-- **A bounded log keeps what was emitted last.**  Whatever is done to a log of any limit, it holds
the last of the events that were emitted since the last drain, as many as the limit and at least
one, in the order in which they were emitted.  Each is stamped with its own frame, or if it came
without one with the latest frame before it.  Draining answers these entries and leaves none.  If the
frames that the log is told of never decrease, neither do its stamps. -/
theorem bounded_keeps_last (limit : ℕ) (uses : List (Use ε)) :
    let log := (bounded limit).run uses
    let all := emitted uses
    log.entries = all.drop (all.length - Min.min all.length (Max.max limit 1)) ∧
    log.drain.1 = log.entries ∧ log.drain.2.entries = [] ∧
    ((frames uses).Pairwise (· ≤ ·) → (log.entries.map (·.frame)).Pairwise (· ≤ ·)) := by
  intro log all
  have hsame : (bounded (Max.max limit 1) : EventLog ε) = bounded limit := by
    simp [bounded]
  obtain ⟨hholds, -⟩ := holds_run (Nat.le_max_right limit 1) uses
  rw [hsame] at hholds
  have hentries : log.entries = all.rtake (Max.max limit 1) := hholds.entries
  refine ⟨?_, rfl, rfl, fun hframes => ?_⟩
  · rw [hentries, List.rtake]
    congr 1
    omega
  · rw [hentries, List.rtake, List.map_drop]
    exact (emitted_increasing hframes).1.sublist (List.drop_sublist ..)

/-- A log for two events with a drain in the middle, of which the oldest event is forgotten. -/
theorem bounded_keeps_last_drained :
    let uses : List (Use String) :=
      [.emit 1 "before", .setFrame 4, .drain, .emitNow "first", .emit 5 "second", .emitNow "third"]
    let log := (bounded 2).run uses
    (frames uses).Pairwise (· ≤ ·) ∧ log.entries = [⟨5, "second"⟩, ⟨5, "third"⟩] ∧
      (log.entries.map (·.frame)).Pairwise (· ≤ ·) ∧
      emitted uses = [⟨4, "first"⟩, ⟨5, "second"⟩, ⟨5, "third"⟩] := by
  intro uses log
  have hframes : (frames uses).Pairwise (· ≤ ·) := by decide
  obtain ⟨hentries, -, -, hstamps⟩ := bounded_keeps_last 2 uses
  exact ⟨hframes, hentries, hstamps hframes, rfl⟩

end GlobeView.EventLog
