import Mathlib.Data.List.Basic
import Mathlib.Data.List.Nodup
import GlobeView.Callbacks
import GlobeView.Proofs.Roster

/-! # The registry of callbacks is a roster

`Callbacks` spreads the live callbacks over three lists whose meaning changes while a dispatch is
open.  A `Desk` is a registry together with the callbacks that its owner holds during a dispatch and
hands back when it finishes; `Desk.roster` reads the live callbacks off it.

Every request keeps the invariant `Desk.Sound` and does to a desk what it does to its roster
(`Desk.Sound.step`), so a run of the registry and a run of the roster have the same log. -/

namespace GlobeView.Callbacks

variable {κ : Type}

/-- A registry and the callbacks that are out while a dispatch is open. -/
structure Desk (κ : Type) where
  callbacks : Callbacks κ := .empty
  taken : Option (List (ℕ × κ)) := none

namespace Desk

/-- Does what is asked, unless it comes out of turn. -/
def answer : Request κ → Desk κ → Option (Reply κ × Desk κ)
  | .register callback, d =>
    let (id, callbacks) := d.callbacks.register callback
    some (.registered id, { d with callbacks := callbacks })
  | .unregister id, d =>
    let (found, callbacks) := d.callbacks.unregister id
    some (.unregistered found, { d with callbacks := callbacks })
  | .beginDispatch, ⟨callbacks, none⟩ =>
    let (taken, callbacks) := callbacks.beginDispatch
    some (.dispatched taken, ⟨callbacks, some taken⟩)
  | .finishDispatch, ⟨callbacks, some taken⟩ =>
    some (.finished, ⟨callbacks.finishDispatch taken, none⟩)
  | _, _ => none

/-- Does what is asked and logs it. -/
def step (q : Request κ) (d : Desk κ) : Option (Entry κ × Desk κ) :=
  (d.answer q).map fun (reply, d) => (⟨q, reply, d.callbacks.size, d.callbacks.isEmpty⟩, d)

def run : List (Request κ) → Desk κ → Option (List (Entry κ) × Desk κ) := runWith step

end Desk

/-- An identifier that is unregistered is waiting, or out and not yet removed, or not live. -/
theorem unregister_cases (id : ℕ) (r : Callbacks κ) :
    (id ∈ r.waiting.map Prod.fst ∧
      r.unregister id = (true, { r with waiting := r.waiting.filter (·.1 != id) })) ∨
    (id ∉ r.waiting.map Prod.fst ∧ id ∈ r.dispatching ∧ id ∉ r.removed ∧
      r.unregister id = (true, { r with removed := r.removed ++ [id] })) ∨
    (id ∉ r.waiting.map Prod.fst ∧ (id ∈ r.dispatching → id ∈ r.removed) ∧
      r.unregister id = (false, r)) := by
  have hwait : r.isWaiting id = true ↔ id ∈ r.waiting.map Prod.fst := by
    simp [isWaiting]
  by_cases hw : r.isWaiting id = true
  · exact .inl ⟨hwait.mp hw, by rw [unregister, if_pos hw]⟩
  · refine .inr ?_
    by_cases hd : (r.dispatching.contains id && !r.removed.contains id) = true
    · have hmem : id ∈ r.dispatching ∧ id ∉ r.removed := by simpa using hd
      exact .inl ⟨mt hwait.mpr hw, hmem.1, hmem.2, by rw [unregister, if_neg hw, if_pos hd]⟩
    · have hmem : id ∈ r.dispatching → id ∈ r.removed := by simpa using hd
      exact .inr ⟨mt hwait.mpr hw, hmem, by rw [unregister, if_neg hw, if_neg hd]⟩

theorem finishDispatch_beginDispatch {r : Callbacks κ} (hdispatching : r.dispatching = [])
    (hremoved : r.removed = []) : r.beginDispatch.2.finishDispatch r.beginDispatch.1 = r := by
  cases r
  subst hdispatching hremoved
  simp [beginDispatch, finishDispatch]

/-! ### What a desk keeps -/

namespace Desk

/-- The callbacks that are out. -/
def held (d : Desk κ) : List (ℕ × κ) := d.taken.getD []

/-- The live callbacks: those that are out and were not unregistered since, then the waiting ones. -/
def live (d : Desk κ) : List (ℕ × κ) :=
  d.held.filter (fun c => !d.callbacks.removed.contains c.1) ++ d.callbacks.waiting

/-- A desk read as a roster. -/
def roster (d : Desk κ) : Roster κ := ⟨d.callbacks.nextId, d.live, d.taken.isSome⟩

/-- What every request keeps: the registry knows what is out, each removed identifier is one of
those, once, and all identifiers increase up to the next one. -/
structure Sound (d : Desk κ) : Prop where
  dispatching : d.callbacks.dispatching = d.held.map Prod.fst
  removed_nodup : d.callbacks.removed.Nodup
  removed_subset : d.callbacks.removed ⊆ d.held.map Prod.fst
  increasing : ((d.held ++ d.callbacks.waiting).map Prod.fst).Pairwise (· < ·)
  below : ∀ c ∈ d.held ++ d.callbacks.waiting, c.1 < d.callbacks.nextId

theorem sound_start : (Desk.mk .empty none : Desk κ).Sound where
  dispatching := rfl
  removed_nodup := List.nodup_nil
  removed_subset := by simp [Callbacks.empty]
  increasing := by simp [held, Callbacks.empty]
  below := by simp [held, Callbacks.empty]

theorem Sound.disjoint {d : Desk κ} (h : d.Sound) {a b : ℕ × κ} (ha : a ∈ d.held)
    (hb : b ∈ d.callbacks.waiting) : a.1 ≠ b.1 := by
  have hsplit := h.increasing
  rw [List.map_append, List.pairwise_append] at hsplit
  exact Nat.ne_of_lt (hsplit.2.2 _ (List.mem_map_of_mem ha) _ (List.mem_map_of_mem hb))

theorem Sound.held_nodup {d : Desk κ} (h : d.Sound) : (d.held.map Prod.fst).Nodup := by
  have hsplit := h.increasing
  rw [List.map_append, List.pairwise_append] at hsplit
  exact hsplit.1.imp Nat.ne_of_lt

theorem Sound.live_sublist (d : Desk κ) : d.live.Sublist (d.held ++ d.callbacks.waiting) :=
  List.Sublist.append List.filter_sublist (List.Sublist.refl _)

theorem Sound.length_removed {d : Desk κ} (h : d.Sound) :
    (d.held.filter fun c => !d.callbacks.removed.contains c.1).length +
      d.callbacks.removed.length = d.held.length := by
  have hperm : ((d.held.map Prod.fst).filter d.callbacks.removed.contains).Perm
      d.callbacks.removed := by
    rw [List.perm_ext_iff_of_nodup (h.held_nodup.filter _) h.removed_nodup]
    intro id
    rw [List.mem_filter, List.contains_iff_mem]
    exact ⟨fun hid => hid.2, fun hid => ⟨h.removed_subset hid, hid⟩⟩
  have hlen := hperm.length_eq
  rw [List.filter_map, List.length_map] at hlen
  have hsplit := List.length_eq_length_filter_add (l := d.held)
    (fun c => d.callbacks.removed.contains c.1)
  simp only [Function.comp_def] at hlen
  omega

/-- The subtraction in `Callbacks.size` is exact. -/
theorem Sound.removed_le {d : Desk κ} (h : d.Sound) :
    d.callbacks.removed.length ≤ d.callbacks.waiting.length + d.callbacks.dispatching.length := by
  have := h.length_removed
  rw [h.dispatching, List.length_map]
  omega

theorem Sound.size_eq {d : Desk κ} (h : d.Sound) : d.callbacks.size = d.live.length := by
  have := h.length_removed
  rw [Callbacks.size, h.dispatching, live, List.length_append, List.length_map]
  omega

theorem Sound.isEmpty_eq {d : Desk κ} (h : d.Sound) : d.callbacks.isEmpty = d.live.isEmpty := by
  rw [Callbacks.isEmpty, h.size_eq]
  cases d.live <;> rfl

/-! ### Unregistering -/

/-- A desk after an identifier was unregistered. -/
def drop (id : ℕ) (d : Desk κ) : Desk κ := { d with callbacks := (d.callbacks.unregister id).2 }

theorem Sound.mem_live {d : Desk κ} (id : ℕ) :
    id ∈ d.live.map Prod.fst ↔
      (id ∈ d.held.map Prod.fst ∧ id ∉ d.callbacks.removed) ∨
        id ∈ d.callbacks.waiting.map Prod.fst := by
  simp only [live, List.map_append, List.mem_append, List.mem_map, List.mem_filter]
  constructor
  · rintro (⟨c, ⟨hc, hr⟩, rfl⟩ | h)
    · exact .inl ⟨⟨c, hc, rfl⟩, by simpa using hr⟩
    · exact .inr h
  · rintro (⟨⟨c, hc, rfl⟩, hr⟩ | h)
    · exact .inl ⟨c, ⟨hc, by simpa using hr⟩, rfl⟩
    · exact .inr h

theorem Sound.unregister_fst {d : Desk κ} (h : d.Sound) (id : ℕ) :
    (d.callbacks.unregister id).1 = d.live.any (·.1 == id) := by
  have hany : d.live.any (·.1 == id) = true ↔ id ∈ d.live.map Prod.fst := by simp
  rw [Sound.mem_live, ← h.dispatching] at hany
  rcases unregister_cases id d.callbacks with ⟨hw, he⟩ | ⟨_, hd, hr, he⟩ | ⟨hw, hd, he⟩
  · rw [he, eq_comm, hany]
    exact .inr hw
  · rw [he, eq_comm, hany]
    exact .inl ⟨hd, hr⟩
  · rw [he, eq_comm, Bool.eq_false_iff, Ne, hany]
    rintro (⟨hid, hr⟩ | hid)
    · exact hr (hd hid)
    · exact hw hid

theorem Sound.live_drop {d : Desk κ} (h : d.Sound) (id : ℕ) :
    (d.drop id).live = d.live.filter (·.1 != id) := by
  have hsame {l : List (ℕ × κ)} (hl : id ∉ l.map Prod.fst) : l.filter (·.1 != id) = l := by
    rw [List.filter_eq_self]
    rintro c hc
    simp only [bne_iff_ne]
    rintro rfl
    exact hl (List.mem_map_of_mem hc)
  rcases unregister_cases id d.callbacks with ⟨hw, he⟩ | ⟨hw, _, _, he⟩ | ⟨hw, hd, he⟩
  · -- What is out keeps its identifiers, for none of them is waiting.
    have hheld : id ∉ d.held.map Prod.fst := by
      intro hid
      obtain ⟨a, ha, rfl⟩ := List.mem_map.mp hid
      obtain ⟨b, hb, hab⟩ := List.mem_map.mp hw
      exact h.disjoint ha hb hab.symm
    have hkept : (d.held.filter fun c => !d.callbacks.removed.contains c.1).filter (·.1 != id) =
        d.held.filter fun c => !d.callbacks.removed.contains c.1 :=
      hsame fun hid => hheld ((List.filter_sublist.map Prod.fst).subset hid)
    rw [drop, he, live, live, List.filter_append, hkept]
    rfl
  · rw [drop, he, live, live, List.filter_append, List.filter_filter, hsame hw]
    congr 1
    refine List.filter_congr fun c _ => ?_
    rw [Bool.eq_iff_iff]
    simp only [Bool.not_eq_true', List.contains_eq_mem, decide_eq_false_iff_not, List.mem_append,
      List.mem_singleton, not_or, Bool.and_eq_true, bne_iff_ne, ne_eq, and_comm]
  · rw [drop, he, hsame]
    rw [Sound.mem_live, ← h.dispatching]
    rintro (⟨hid, hr⟩ | hid)
    · exact hr (hd hid)
    · exact hw hid

theorem Sound.drop {d : Desk κ} (h : d.Sound) (id : ℕ) : (d.drop id).Sound := by
  rcases unregister_cases id d.callbacks with ⟨_, he⟩ | ⟨_, hd, hr, he⟩ | ⟨_, _, he⟩
  · have hsub : (d.held ++ d.callbacks.waiting.filter (·.1 != id)).Sublist
        (d.held ++ d.callbacks.waiting) :=
      List.Sublist.append (List.Sublist.refl _) List.filter_sublist
    rw [Desk.drop, he]
    exact
      { dispatching := h.dispatching
        removed_nodup := h.removed_nodup
        removed_subset := h.removed_subset
        increasing := h.increasing.sublist (hsub.map Prod.fst)
        below := fun c hc => h.below c (hsub.subset hc) }
  · rw [Desk.drop, he]
    exact
      { dispatching := h.dispatching
        removed_nodup := by
          rw [List.nodup_append]
          exact ⟨h.removed_nodup, List.nodup_singleton id, by
            rintro a ha b hb rfl
            exact hr (List.mem_singleton.mp hb ▸ ha)⟩
        removed_subset := by
          intro a ha
          rcases List.mem_append.mp ha with ha | ha
          · exact h.removed_subset ha
          · rw [List.mem_singleton.mp ha]
            exact h.dispatching ▸ hd
        increasing := h.increasing
        below := h.below }
  · rw [Desk.drop, he]
    exact h

/-! ### One request -/

theorem Sound.register {d : Desk κ} (h : d.Sound) (callback : κ)
    (hid : d.callbacks.nextId + 1 < wordRange) :
    let d' : Desk κ := { d with callbacks := (d.callbacks.register callback).2 }
    d'.Sound ∧ d'.roster =
      ⟨d.callbacks.nextId + 1, d.live ++ [(d.callbacks.nextId, callback)], d.taken.isSome⟩ := by
  have hmod : (d.callbacks.nextId + 1) % wordRange = d.callbacks.nextId + 1 :=
    Nat.mod_eq_of_lt hid
  refine ⟨⟨h.dispatching, h.removed_nodup, h.removed_subset, ?_, ?_⟩, ?_⟩
  · simp only [Callbacks.register, held, ← List.append_assoc, List.map_append, List.map_cons,
      List.map_nil]
    rw [List.pairwise_append]
    refine ⟨by simpa [held] using h.increasing, List.pairwise_singleton _ _, ?_⟩
    intro a ha b hb
    rw [← List.map_append] at ha
    obtain ⟨c, hc, rfl⟩ := List.mem_map.mp ha
    rw [List.mem_singleton.mp hb]
    exact h.below c hc
  · intro c hc
    simp only [Callbacks.register, held, ← List.append_assoc] at hc ⊢
    rw [hmod]
    rcases List.mem_append.mp hc with hc | hc
    · exact Nat.lt_succ_of_lt (h.below c hc)
    · rw [List.mem_singleton.mp hc]
      exact Nat.lt_succ_self _
  · simp [roster, live, held, Callbacks.register, hmod]

theorem Sound.beginDispatch {r : Callbacks κ} (h : (Desk.mk r none).Sound) :
    let d : Desk κ := ⟨r.beginDispatch.2, some r.beginDispatch.1⟩
    d.Sound ∧ r.beginDispatch.1 = (Desk.mk r none).live ∧ d.live = (Desk.mk r none).live := by
  have hnone : r.removed = [] := by
    have := h.removed_subset
    simpa [held] using this
  refine ⟨⟨rfl, h.removed_nodup, ?_, ?_, ?_⟩, ?_, ?_⟩
  · simp [Callbacks.beginDispatch, hnone]
  · simpa [held, Callbacks.beginDispatch] using h.increasing
  · simpa [held, Callbacks.beginDispatch] using h.below
  · simp [live, held, Callbacks.beginDispatch]
  · simp [live, held, Callbacks.beginDispatch, hnone]

/-- A dispatch that finishes puts the callbacks that are still live in front. -/
theorem Sound.finishDispatch {r : Callbacks κ} {taken : List (ℕ × κ)}
    (h : (Desk.mk r (some taken)).Sound) :
    let d : Desk κ := ⟨r.finishDispatch taken, none⟩
    d.Sound ∧ d.live = (Desk.mk r (some taken)).live := by
  have hlive : (Desk.mk (r.finishDispatch taken) none).live = (Desk.mk r (some taken)).live := by
    simp [live, held, Callbacks.finishDispatch]
  have hwait : (Desk.mk (r.finishDispatch taken) none).held ++ (r.finishDispatch taken).waiting =
      (Desk.mk r (some taken)).live := by
    simp [live, held, Callbacks.finishDispatch]
  have hsub := live_sublist (Desk.mk r (some taken))
  refine ⟨⟨rfl, List.nodup_nil, List.nil_subset _, ?_, ?_⟩, hlive⟩
  · rw [hwait]
    exact h.increasing.sublist (hsub.map Prod.fst)
  · rw [hwait]
    exact fun c hc => h.below c (hsub.subset hc)

/-- A request does to a desk what it does to its roster, and is out of turn for both or for none. -/
theorem Sound.answer {d : Desk κ} (h : d.Sound) {q : Request κ}
    (hid : d.callbacks.nextId + registrations [q] < wordRange) :
    (∃ reply d', d.answer q = some (reply, d') ∧ d'.Sound ∧
      d.roster.answer q = some (reply, d'.roster)) ∨
    (d.answer q = none ∧ d.roster.answer q = none) := by
  obtain ⟨r, taken⟩ := d
  cases q with
  | register callback =>
      obtain ⟨hs, hr⟩ := h.register callback hid
      refine .inl ⟨.registered r.nextId, ⟨(r.register callback).2, taken⟩, rfl, hs, ?_⟩
      rw [hr]
      rfl
  | unregister id =>
      have hnext : (r.unregister id).2.nextId = r.nextId := by
        rcases unregister_cases id r with ⟨_, he⟩ | ⟨_, _, _, he⟩ | ⟨_, _, he⟩ <;> rw [he]
      have hroster : (Desk.drop id ⟨r, taken⟩).roster =
          ⟨r.nextId, (Desk.mk r taken).live.filter (·.1 != id), taken.isSome⟩ := by
        rw [roster, h.live_drop id, Desk.drop, hnext]
      refine .inl ⟨.unregistered (r.unregister id).1, Desk.drop id ⟨r, taken⟩, rfl, h.drop id, ?_⟩
      rw [hroster, h.unregister_fst id]
      rfl
  | beginDispatch =>
      cases taken with
      | some taken => exact .inr ⟨rfl, rfl⟩
      | none =>
          obtain ⟨hs, hreply, hlive⟩ := h.beginDispatch
          refine .inl ⟨.dispatched r.beginDispatch.1,
            ⟨r.beginDispatch.2, some r.beginDispatch.1⟩, rfl, hs, ?_⟩
          rw [roster, roster, hlive, hreply]
          rfl
  | finishDispatch =>
      cases taken with
      | none => exact .inr ⟨rfl, rfl⟩
      | some taken =>
          obtain ⟨hs, hlive⟩ := h.finishDispatch
          refine .inl ⟨.finished, ⟨r.finishDispatch taken, none⟩, rfl, hs, ?_⟩
          rw [roster, roster, hlive]
          rfl

theorem Sound.step {d : Desk κ} (h : d.Sound) {q : Request κ}
    (hid : d.callbacks.nextId + registrations [q] < wordRange) :
    (∃ entry d', d.step q = some (entry, d') ∧ d'.Sound ∧
      d.roster.step q = some (entry, d'.roster)) ∨
    (d.step q = none ∧ d.roster.step q = none) := by
  rcases h.answer hid with ⟨reply, d', ha, hs, hr⟩ | ⟨ha, hr⟩
  · refine .inl ⟨⟨q, reply, d'.callbacks.size, d'.callbacks.isEmpty⟩, d', ?_, hs, ?_⟩
    · rw [Desk.step, ha]
      rfl
    · rw [Roster.step, hr, hs.size_eq, hs.isEmpty_eq]
      rfl
  · refine .inr ⟨?_, ?_⟩
    · rw [Desk.step, ha]
      rfl
    · rw [Roster.step, hr]
      rfl

end Desk

/-! ### Runs of a desk -/

theorem Desk.Sound.run : ∀ (requests : List (Request κ)) {d : Desk κ}, d.Sound →
    d.callbacks.nextId + registrations requests < wordRange →
    ∀ {log : List (Entry κ)} {r' : Roster κ}, Roster.run requests d.roster = some (log, r') →
    ∃ d' : Desk κ, Desk.run requests d = some (log, d') ∧ d'.Sound ∧ d'.roster = r'
  | [], d, h, _, log, r', hr => by
      obtain ⟨rfl, rfl⟩ := Prod.mk.inj (Option.some.inj hr)
      exact ⟨d, rfl, h, rfl⟩
  | q :: rest, d, h, hid, log, r', hr => by
      rw [registrations_cons] at hid
      obtain ⟨entry, r₁, later, hs, hrest, rfl⟩ := runWith_cons_eq_some.mp hr
      have hq : d.callbacks.nextId + registrations [q] < wordRange := by omega
      rcases h.step hq with ⟨entry', d₁, hd, hsound, hroster⟩ | ⟨_, hnone⟩
      · obtain ⟨rfl, rfl⟩ := Prod.mk.inj (Option.some.inj (hroster.symm.trans hs))
        have hnext : d₁.callbacks.nextId = d.callbacks.nextId + registrations [q] :=
          Roster.next_step hs
        obtain ⟨d', hrun, hsound', he⟩ := Sound.run rest hsound (by omega) hrest
        exact ⟨d', runWith_cons_eq_some.mpr ⟨entry', d₁, later, hd, hrun, rfl⟩, hsound', he⟩
      · rw [hnone] at hs
        cases hs

/-- **The registry is a roster.**  For every run of fewer than `2 ^ 64` registrations in which
dispatches begin and finish in turn, the registry answers every request as the ordered list of live
callbacks does and reports its size, the subtraction in `size` is exact, and the log is orderly.
Initial parts of a run are runs, so this holds at every point. -/
theorem run_eq_roster_run (requests : List (Request κ)) (hturn : inTurn false requests = true)
    (hid : registrations requests < wordRange) :
    ∃ (log : List (Entry κ)) (desk : Desk κ) (roster : Roster κ),
      Desk.run requests {} = some (log, desk) ∧ Roster.run requests {} = some (log, roster) ∧
      desk.roster = roster ∧ Orderly log ∧
      desk.callbacks.removed.length ≤
        desk.callbacks.waiting.length + desk.callbacks.dispatching.length := by
  obtain ⟨log, roster, hroster⟩ := Roster.run_eq_some requests {} hturn
  have hstart : ({} : Desk κ).roster = {} := rfl
  obtain ⟨desk, hdesk, hsound, rfl⟩ :=
    Desk.sound_start.run requests (by simpa [Callbacks.empty] using hid) (hstart ▸ hroster)
  have hempty : ({} : Roster κ).Ordered := ⟨List.Pairwise.nil, by simp⟩
  exact ⟨log, desk, desk.roster, hdesk, hroster, rfl, Roster.run_orderly hempty hroster,
    hsound.removed_le⟩

/-- A run in which a callback is unregistered and another one registered while they are out. -/
theorem run_eq_roster_run_unregister_during_dispatch :
    let requests : List (Request String) :=
      [.register "a", .register "b", .beginDispatch, .unregister 0, .unregister 0, .register "c",
        .finishDispatch, .beginDispatch]
    inTurn false requests = true ∧ registrations requests < wordRange ∧
    ∃ (log : List (Entry String)) (desk : Desk String) (roster : Roster String),
      Desk.run requests {} = some (log, desk) ∧ Roster.run requests {} = some (log, roster) ∧
      desk.roster = roster ∧ Orderly log ∧
      desk.callbacks.removed.length ≤
        desk.callbacks.waiting.length + desk.callbacks.dispatching.length :=
  ⟨rfl, by decide, run_eq_roster_run _ rfl (by decide)⟩

end GlobeView.Callbacks
