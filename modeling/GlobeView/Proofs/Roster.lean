import Mathlib.Data.List.Basic

/-! # Rosters

The plain reference for a registry of callbacks: one list of the live ones in registration order.

* **Requests** (`Request`).  Registering and unregistering may come at any time; a dispatch begins
  only while none is open and finishes only while one is (`inTurn`).
* **Logs** (`Entry`).  Each request is logged with its reply and with the number of live callbacks
  right after it.
* **Runs** (`Roster.run`).  Requests in turn are all answered (`Roster.run_eq_some`), and the log of
  a run is `Orderly` (`Roster.run_orderly`): identifiers are never reused, and a callback is
  dispatched from its registration on until it is unregistered, always behind all older ones. -/

namespace GlobeView.Callbacks

variable {κ : Type}

/-- What is asked of a registry. -/
inductive Request (κ : Type) where
  | register (callback : κ)
  | unregister (id : ℕ)
  | beginDispatch
  | finishDispatch
deriving DecidableEq, Repr

/-- What is answered. -/
inductive Reply (κ : Type) where
  | registered (id : ℕ)
  | unregistered (found : Bool)
  | dispatched (callbacks : List (ℕ × κ))
  | finished
deriving DecidableEq, Repr

/-- A request that was answered, with the number of callbacks right after it. -/
structure Entry (κ : Type) where
  request : Request κ
  reply : Reply κ
  size : ℕ
  isEmpty : Bool
deriving DecidableEq, Repr

/-- How many of the requests register a callback. -/
def registrations : List (Request κ) → ℕ
  | [] => 0
  | .register _ :: rest => registrations rest + 1
  | _ :: rest => registrations rest

theorem registrations_cons (q : Request κ) (rest : List (Request κ)) :
    registrations (q :: rest) = registrations [q] + registrations rest := by
  cases q <;> simp only [registrations] <;> omega

/-- Dispatches begin and finish in turn, where `isOpen` says whether one is open at the start. -/
def inTurn : Bool → List (Request κ) → Bool
  | _, [] => true
  | isOpen, .beginDispatch :: rest => !isOpen && inTurn true rest
  | isOpen, .finishDispatch :: rest => isOpen && inTurn false rest
  | isOpen, _ :: rest => inTurn isOpen rest

/-- Answers requests in order, until one comes out of turn. -/
def runWith {τ : Type} (step : Request κ → τ → Option (Entry κ × τ)) :
    List (Request κ) → τ → Option (List (Entry κ) × τ)
  | [], s => some ([], s)
  | q :: rest, s =>
    (step q s).bind fun (entry, s) =>
      (runWith step rest s).map fun (log, s) => (entry :: log, s)

theorem runWith_cons_eq_some {τ : Type} {step : Request κ → τ → Option (Entry κ × τ)}
    {q : Request κ} {rest : List (Request κ)} {s s' : τ} {log : List (Entry κ)} :
    runWith step (q :: rest) s = some (log, s') ↔
      ∃ entry s₁ later, step q s = some (entry, s₁) ∧ runWith step rest s₁ = some (later, s') ∧
        log = entry :: later := by
  simp only [runWith, Option.bind_eq_some_iff, Option.map_eq_some_iff, Prod.exists, Prod.mk.injEq]
  constructor
  · rintro ⟨entry, s₁, hs, later, s₂, hr, rfl, rfl⟩
    exact ⟨entry, s₁, later, hs, hr, rfl⟩
  · rintro ⟨entry, s₁, later, hs, hr, rfl⟩
    exact ⟨entry, s₁, hs, later, s', hr, rfl, rfl⟩

/-! ### The reference -/

/-- The live callbacks in registration order. -/
structure Roster (κ : Type) where
  /-- The identifier of the next callback. -/
  next : ℕ := 0
  live : List (ℕ × κ) := []
  /-- Whether a dispatch is open. -/
  isOpen : Bool := false

namespace Roster

/-- Does what is asked, unless it comes out of turn.  A dispatch leaves the live callbacks alone. -/
def answer : Request κ → Roster κ → Option (Reply κ × Roster κ)
  | .register callback, r =>
    some (.registered r.next,
      { r with next := r.next + 1, live := r.live ++ [(r.next, callback)] })
  | .unregister id, r =>
    some (.unregistered (r.live.any (·.1 == id)),
      { r with live := r.live.filter (·.1 != id) })
  | .beginDispatch, r =>
    if r.isOpen then none else some (.dispatched r.live, { r with isOpen := true })
  | .finishDispatch, r =>
    if r.isOpen then some (.finished, { r with isOpen := false }) else none

/-- Does what is asked and logs it. -/
def step (q : Request κ) (r : Roster κ) : Option (Entry κ × Roster κ) :=
  (r.answer q).map fun (reply, r) => (⟨q, reply, r.live.length, r.live.isEmpty⟩, r)

def run : List (Request κ) → Roster κ → Option (List (Entry κ) × Roster κ) := runWith step

end Roster

/-! ### Runs of a roster -/

namespace Roster

theorem step_cases {r r' : Roster κ} {q : Request κ} {entry : Entry κ}
    (h : r.step q = some (entry, r')) :
    (∃ callback, entry = ⟨.register callback, .registered r.next, r'.live.length, r'.live.isEmpty⟩ ∧
      r' = { r with next := r.next + 1, live := r.live ++ [(r.next, callback)] }) ∨
    (∃ id, entry = ⟨.unregister id, .unregistered (r.live.any (·.1 == id)), r'.live.length,
        r'.live.isEmpty⟩ ∧ r' = { r with live := r.live.filter (·.1 != id) }) ∨
    (entry = ⟨.beginDispatch, .dispatched r.live, r'.live.length, r'.live.isEmpty⟩ ∧
      r' = { r with isOpen := true }) ∨
    (entry = ⟨.finishDispatch, .finished, r'.live.length, r'.live.isEmpty⟩ ∧
      r' = { r with isOpen := false }) := by
  rw [step, Option.map_eq_some_iff] at h
  obtain ⟨⟨reply, r₁⟩, ha, he⟩ := h
  obtain ⟨rfl, rfl⟩ := Prod.mk.inj he
  cases q with
  | register callback =>
      obtain ⟨rfl, rfl⟩ := Prod.mk.inj (Option.some.inj ha)
      exact .inl ⟨callback, rfl, rfl⟩
  | unregister id =>
      obtain ⟨rfl, rfl⟩ := Prod.mk.inj (Option.some.inj ha)
      exact .inr (.inl ⟨id, rfl, rfl⟩)
  | beginDispatch =>
      simp only [answer] at ha
      split at ha
      · cases ha
      · obtain ⟨rfl, rfl⟩ := Prod.mk.inj (Option.some.inj ha)
        exact .inr (.inr (.inl ⟨rfl, rfl⟩))
  | finishDispatch =>
      simp only [answer] at ha
      split at ha
      · obtain ⟨rfl, rfl⟩ := Prod.mk.inj (Option.some.inj ha)
        exact .inr (.inr (.inr ⟨rfl, rfl⟩))
      · cases ha

theorem next_step {r r' : Roster κ} {q : Request κ} {entry : Entry κ}
    (h : r.step q = some (entry, r')) : r'.next = r.next + registrations [q] := by
  have hreq : entry.request = q := by
    rw [step, Option.map_eq_some_iff] at h
    obtain ⟨_, _, he⟩ := h
    cases he
    rfl
  rcases step_cases h with ⟨_, rfl, rfl⟩ | ⟨_, rfl, rfl⟩ | ⟨rfl, rfl⟩ | ⟨rfl, rfl⟩ <;>
    subst hreq <;> rfl

/-- The live identifiers increase up to the next one. -/
structure Ordered (r : Roster κ) : Prop where
  increasing : (r.live.map Prod.fst).Pairwise (· < ·)
  below : ∀ c ∈ r.live, c.1 < r.next

theorem Ordered.not_mem {r : Roster κ} (h : r.Ordered) {id : ℕ} (hid : r.next ≤ id) :
    id ∉ r.live.map Prod.fst := by
  intro hmem
  obtain ⟨c, hc, rfl⟩ := List.mem_map.mp hmem
  exact Nat.not_lt_of_le hid (h.below c hc)

theorem Ordered.step {r r' : Roster κ} (h : r.Ordered) {q : Request κ} {entry : Entry κ}
    (hs : r.step q = some (entry, r')) : r'.Ordered := by
  rcases step_cases hs with ⟨callback, _, rfl⟩ | ⟨id, _, rfl⟩ | ⟨_, rfl⟩ | ⟨_, rfl⟩
  · refine ⟨?_, ?_⟩
    · rw [List.map_append, List.pairwise_append]
      refine ⟨h.increasing, List.pairwise_singleton _ _, ?_⟩
      intro a ha b hb
      obtain ⟨c, hc, rfl⟩ := List.mem_map.mp ha
      rw [List.mem_singleton.mp hb]
      exact h.below c hc
    · intro c hc
      rcases List.mem_append.mp hc with hc | hc
      · exact Nat.lt_succ_of_lt (h.below c hc)
      · rw [List.mem_singleton.mp hc]
        exact Nat.lt_succ_self _
  · exact ⟨h.increasing.sublist (List.filter_sublist.map _),
      fun c hc => h.below c (List.mem_of_mem_filter hc)⟩
  · exact ⟨h.increasing, h.below⟩
  · exact ⟨h.increasing, h.below⟩

/-- What every request keeps and what it says of its entry hold along a run. -/
theorem run_entries {P : Roster κ → Prop} {Q : Entry κ → Prop}
    (hstep : ∀ r q entry r', P r → step q r = some (entry, r') → P r' ∧ Q entry) :
    ∀ (requests : List (Request κ)) (r : Roster κ) (log : List (Entry κ)) (r' : Roster κ), P r →
      run requests r = some (log, r') → P r' ∧ ∀ entry ∈ log, Q entry
  | [], r, log, r', hr, h => by
      obtain ⟨rfl, rfl⟩ := Prod.mk.inj (Option.some.inj h)
      exact ⟨hr, by simp⟩
  | q :: rest, r, log, r', hr, h => by
      obtain ⟨entry, r₁, later, hs, hrest, rfl⟩ := runWith_cons_eq_some.mp h
      obtain ⟨hr₁, hq⟩ := hstep r q entry r₁ hr hs
      obtain ⟨hr', hlater⟩ := run_entries hstep rest r₁ later r' hr₁ hrest
      exact ⟨hr', List.forall_mem_cons.mpr ⟨hq, hlater⟩⟩

/-- What every entry says of all later ones holds along a run. -/
theorem run_pairwise {P : Roster κ → Prop} {R : Entry κ → Entry κ → Prop}
    (hkeep : ∀ r q entry r', P r → step q r = some (entry, r') → P r')
    (hlater : ∀ r q entry r', P r → step q r = some (entry, r') →
      ∀ rest log r'', run rest r' = some (log, r'') → ∀ e ∈ log, R entry e) :
    ∀ (requests : List (Request κ)) (r : Roster κ) (log : List (Entry κ)) (r' : Roster κ), P r →
      run requests r = some (log, r') → log.Pairwise R
  | [], r, log, r', hr, h => by
      obtain ⟨rfl, rfl⟩ := Prod.mk.inj (Option.some.inj h)
      exact List.Pairwise.nil
  | q :: rest, r, log, r', hr, h => by
      obtain ⟨entry, r₁, later, hs, hrest, rfl⟩ := runWith_cons_eq_some.mp h
      have htail := run_pairwise hkeep hlater rest r₁ later r' (hkeep r q entry r₁ hr hs) hrest
      exact List.pairwise_cons.mpr ⟨hlater r q entry r₁ hr hs rest later r' hrest, htail⟩

theorem next_le_registered {requests : List (Request κ)} {r r' : Roster κ} {log : List (Entry κ)}
    (h : run requests r = some (log, r')) {entry : Entry κ} (he : entry ∈ log) {id : ℕ}
    (hid : entry.reply = .registered id) : r.next ≤ id := by
  refine (run_entries (P := fun s => r.next ≤ s.next)
    (Q := fun e => ∀ id, e.reply = .registered id → r.next ≤ id) ?_ requests r log r'
    (Nat.le_refl _) h).2
    entry he id hid
  intro s q e s' hs hq
  rcases step_cases hq with ⟨_, rfl, rfl⟩ | ⟨_, rfl, rfl⟩ | ⟨rfl, rfl⟩ | ⟨rfl, rfl⟩
  · exact ⟨Nat.le_succ_of_le hs, fun id hid => by cases hid; exact hs⟩
  all_goals exact ⟨hs, fun id hid => by cases hid⟩

theorem not_mem_dispatched {requests : List (Request κ)} {r r' : Roster κ} {log : List (Entry κ)}
    (h : run requests r = some (log, r')) {id : ℕ} (hid : id < r.next)
    (hlive : id ∉ r.live.map Prod.fst) {entry : Entry κ} (he : entry ∈ log)
    {callbacks : List (ℕ × κ)} (hd : entry.reply = .dispatched callbacks) :
    id ∉ callbacks.map Prod.fst := by
  refine (run_entries (P := fun s => id < s.next ∧ id ∉ s.live.map Prod.fst)
    (Q := fun e => ∀ cs, e.reply = .dispatched cs → id ∉ cs.map Prod.fst) ?_ requests r log r'
    ⟨hid, hlive⟩ h).2 entry he callbacks hd
  rintro s q e s' ⟨hlt, hnot⟩ hq
  rcases step_cases hq with ⟨k, rfl, rfl⟩ | ⟨a, rfl, rfl⟩ | ⟨rfl, rfl⟩ | ⟨rfl, rfl⟩
  · refine ⟨⟨Nat.lt_succ_of_lt hlt, ?_⟩, fun cs hcs => by cases hcs⟩
    rw [List.map_append, List.mem_append, not_or]
    exact ⟨hnot, fun hs => Nat.ne_of_lt hlt (by simpa using hs)⟩
  · exact ⟨⟨hlt, fun hs => hnot ((List.filter_sublist.map _).subset hs)⟩, fun cs hcs => by cases hcs⟩
  · exact ⟨⟨hlt, hnot⟩, fun cs hcs => by cases hcs; exact hnot⟩
  · exact ⟨⟨hlt, hnot⟩, fun cs hcs => by cases hcs⟩

theorem mem_dispatched {c : ℕ × κ} :
    ∀ (requests : List (Request κ)) (r r' : Roster κ) (before after : List (Entry κ))
      (entry : Entry κ) (callbacks : List (ℕ × κ)), c ∈ r.live →
      run requests r = some (before ++ entry :: after, r') →
      (∀ e ∈ before, e.request ≠ .unregister c.1) → entry.reply = .dispatched callbacks →
      c ∈ callbacks
  | [], r, r', before, after, entry, callbacks, _, h, _, _ => by
      have hnil := (Prod.mk.inj (Option.some.inj h)).1
      simp at hnil
  | q :: rest, r, r', before, after, entry, callbacks, hc, h, hkeep, hd => by
      obtain ⟨first, r₁, later, hs, hrest, hlog⟩ := runWith_cons_eq_some.mp h
      cases before with
      | nil =>
          obtain ⟨rfl, rfl⟩ := List.cons.inj hlog
          rcases step_cases hs with ⟨_, rfl, rfl⟩ | ⟨_, rfl, rfl⟩ | ⟨rfl, rfl⟩ | ⟨rfl, rfl⟩
          case inr.inr.inl => cases hd; exact hc
          all_goals cases hd
      | cons b before =>
          obtain ⟨rfl, rfl⟩ := List.cons.inj hlog
          have hc₁ : c ∈ r₁.live := by
            rcases step_cases hs with ⟨k, rfl, rfl⟩ | ⟨a, rfl, rfl⟩ | ⟨rfl, rfl⟩ | ⟨rfl, rfl⟩
            · exact List.mem_append_left _ hc
            · have hne := hkeep _ List.mem_cons_self
              refine List.mem_filter.mpr ⟨hc, bne_iff_ne.mpr ?_⟩
              rintro rfl
              exact hne rfl
            · exact hc
            · exact hc
          exact mem_dispatched rest r₁ r' before after entry callbacks hc₁ hrest
            (fun e he => hkeep e (List.mem_cons_of_mem _ he)) hd

theorem run_eq_some : ∀ (requests : List (Request κ)) (r : Roster κ),
    inTurn r.isOpen requests = true → ∃ log r', run requests r = some (log, r')
  | [], r, _ => ⟨[], r, rfl⟩
  | q :: rest, r, h => by
      have hstep : ∃ entry r₁, step q r = some (entry, r₁) ∧ inTurn r₁.isOpen rest = true := by
        cases q with
        | register callback => exact ⟨_, _, rfl, h⟩
        | unregister id => exact ⟨_, _, rfl, h⟩
        | beginDispatch =>
            obtain ⟨hopen, hrest⟩ := Bool.and_eq_true_iff.mp h
            simp only [Bool.not_eq_true'] at hopen
            simp only [step, answer, hopen]
            exact ⟨_, _, rfl, hrest⟩
        | finishDispatch =>
            obtain ⟨hopen, hrest⟩ := Bool.and_eq_true_iff.mp h
            simp only [step, answer, hopen]
            exact ⟨_, _, rfl, hrest⟩
      obtain ⟨entry, r₁, hs, hrest⟩ := hstep
      obtain ⟨log, r', hr'⟩ := run_eq_some rest r₁ hrest
      exact ⟨entry :: log, r', runWith_cons_eq_some.mpr ⟨entry, r₁, log, hs, hr', rfl⟩⟩

end Roster

/-! ### What a log promises -/

/-- What the owner of a registry may rely on. -/
structure Orderly (log : List (Entry κ)) : Prop where
  /-- Identifiers increase, so none is handed out twice. -/
  registered_lt : log.Pairwise fun e later => ∀ id id',
    e.reply = .registered id → later.reply = .registered id' → id < id'
  /-- A dispatch hands out callbacks in the order of their registration, each once. -/
  dispatched_increasing : ∀ e ∈ log, ∀ callbacks,
    e.reply = .dispatched callbacks → (callbacks.map Prod.fst).Pairwise (· < ·)
  /-- A callback is not dispatched before it is registered. -/
  fresh : log.Pairwise fun e later => ∀ callbacks id,
    e.reply = .dispatched callbacks → later.reply = .registered id → id ∉ callbacks.map Prod.fst
  /-- Once it is registered it is dispatched until it is unregistered. -/
  kept : ∀ before e between later after callback id callbacks,
    log = before ++ e :: (between ++ later :: after) →
    e.request = .register callback → e.reply = .registered id →
    (∀ u ∈ between, u.request ≠ .unregister id) →
    later.reply = .dispatched callbacks → (id, callback) ∈ callbacks
  /-- Once it is unregistered it is not dispatched again. -/
  gone : log.Pairwise fun e later => ∀ id callbacks,
    e.request = .unregister id → e.reply = .unregistered true →
    later.reply = .dispatched callbacks → id ∉ callbacks.map Prod.fst

namespace Roster

/-- The run that starts after the entries `before`. -/
theorem run_suffix : ∀ (before : List (Entry κ)) {requests : List (Request κ)} {r r' : Roster κ}
    {after : List (Entry κ)}, r.Ordered → run requests r = some (before ++ after, r') →
    ∃ rest r₁, r₁.Ordered ∧ run rest r₁ = some (after, r')
  | [], requests, r, r', after, hr, h => ⟨requests, r, hr, h⟩
  | b :: before, [], r, r', after, hr, h => by cases (Prod.mk.inj (Option.some.inj h)).1
  | b :: before, q :: rest, r, r', after, hr, h => by
      obtain ⟨first, r₁, later, hs, hrest, hlog⟩ := runWith_cons_eq_some.mp h
      obtain ⟨rfl, rfl⟩ := List.cons.inj hlog
      exact run_suffix before (hr.step hs) hrest

/-- The log of a roster promises all that its owner relies on. -/
theorem run_orderly {requests : List (Request κ)} {r r' : Roster κ} {log : List (Entry κ)}
    (hr : r.Ordered) (h : run requests r = some (log, r')) : Orderly log where
  registered_lt := by
    refine run_pairwise (P := Ordered) (fun _ _ _ _ hs hq => hs.step hq) ?_ requests r log r' hr h
    intro s q e s' hs hq rest later s'' hrest e' he' id id' hid hid'
    have hle := next_le_registered hrest he' hid'
    rcases step_cases hq with ⟨_, rfl, rfl⟩ | ⟨_, rfl, rfl⟩ | ⟨rfl, rfl⟩ | ⟨rfl, rfl⟩
    · cases hid
      exact hle
    all_goals cases hid
  dispatched_increasing := by
    refine (run_entries (P := Ordered) ?_ requests r log r' hr h).2
    intro s q e s' hs hq
    refine ⟨hs.step hq, ?_⟩
    rcases step_cases hq with ⟨_, rfl, rfl⟩ | ⟨_, rfl, rfl⟩ | ⟨rfl, rfl⟩ | ⟨rfl, rfl⟩
    case inr.inr.inl => exact fun cs hcs => by cases hcs; exact hs.increasing
    all_goals exact fun cs hcs => by cases hcs
  fresh := by
    refine run_pairwise (P := Ordered) (fun _ _ _ _ hs hq => hs.step hq) ?_ requests r log r' hr h
    intro s q e s' hs hq rest later s'' hrest e' he' cs id hcs hid
    have hle := next_le_registered hrest he' hid
    rcases step_cases hq with ⟨_, rfl, rfl⟩ | ⟨_, rfl, rfl⟩ | ⟨rfl, rfl⟩ | ⟨rfl, rfl⟩
    case inr.inr.inl => cases hcs; exact hs.not_mem hle
    all_goals cases hcs
  kept := by
    intro before e between later after callback id callbacks hlog hreq hid hkeep hd
    subst hlog
    obtain ⟨rest, r₁, _, h₁⟩ := run_suffix before hr h
    cases rest with
    | nil => cases (Prod.mk.inj (Option.some.inj h₁)).1
    | cons q rest =>
        obtain ⟨first, r₂, tail, hs, hrest, hcons⟩ := runWith_cons_eq_some.mp h₁
        obtain ⟨rfl, rfl⟩ := List.cons.inj hcons
        have hlive : (id, callback) ∈ r₂.live := by
          rcases step_cases hs with ⟨_, rfl, rfl⟩ | ⟨_, rfl, rfl⟩ | ⟨rfl, rfl⟩ | ⟨rfl, rfl⟩
          · cases hreq
            cases hid
            exact List.mem_append_right _ (List.mem_singleton.mpr rfl)
          all_goals cases hid
        exact mem_dispatched rest r₂ r' between after later callbacks hlive hrest hkeep hd
  gone := by
    refine run_pairwise (P := Ordered) (fun _ _ _ _ hs hq => hs.step hq) ?_ requests r log r' hr h
    intro s q e s' hs hq rest later s'' hrest e' he' id cs hreq hfound hcs
    rcases step_cases hq with ⟨_, rfl, rfl⟩ | ⟨a, rfl, rfl⟩ | ⟨rfl, rfl⟩ | ⟨rfl, rfl⟩
    case inr.inl =>
      cases hreq
      have hany : s.live.any (·.1 == id) = true := by simpa using hfound
      obtain ⟨c, hc, hcid⟩ := List.any_eq_true.mp hany
      have hlt : id < s.next := by
        rw [← beq_iff_eq.mp hcid]
        exact hs.below c hc
      refine not_mem_dispatched hrest hlt ?_ he' hcs
      intro hmem
      obtain ⟨b, hb, rfl⟩ := List.mem_map.mp hmem
      simpa using (List.mem_filter.mp hb).2
    all_goals cases hreq

end Roster

end GlobeView.Callbacks
