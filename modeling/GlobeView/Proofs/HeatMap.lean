import Mathlib.Data.List.Basic
import GlobeView.HeatField
import GlobeView.Proofs.DoubleSums

/-! # A heat field as a map

A heat field lists locations with their heat, and searches the list for the one that is hot now.
What it stands for is a map: each location has its own heat, zero if it is not listed, and a change
concerns one location or, if it is a step, all of them (`HeatField.Change.heated`).

* Every change keeps the listed locations distinct and their heat in `(0, 1]`
  (`HeatField.Sound.change`).
* Under such a list a change does to the heat of each location what it does to a map, and nothing to
  locations that it does not concern (`HeatField.heatAt_changes`).

Heat is added, held and faded by rounded operations.  `HeatNumbers` lists the little that is needed
of them; doubles have it, rounding and overflow included. -/

namespace GlobeView

open Scalar

variable {α : Type}

/-! ### Changes -/

namespace HeatField

/-- Something that happens to a heat field. -/
inductive Change (α : Type) where
  | step
  | record (location : LatLon α) (amount : α)
deriving DecidableEq

variable [Scalar α]

def change : Change α → HeatField α → HeatField α
  | .step, f => f.step
  | .record location amount, f => f.record location amount

/-- The field after changes in order. -/
def changes (cs : List (Change α)) (f : HeatField α) : HeatField α :=
  cs.foldl (fun f c => f.change c) f

theorem changes_append (before after : List (Change α)) (f : HeatField α) :
    f.changes (before ++ after) = (f.changes before).changes after := List.foldl_append

namespace Change

/-- Whether a change touches the heat at a location. -/
def concerns (location : LatLon α) : Change α → Bool
  | .step => true
  | .record spot _ => spot == location

/-- What a change makes of the heat at a location that it concerns. -/
def heated (decay value : α) : Change α → α
  | .step => if 0.001 ≤ value * decay then value * decay else 0
  | .record _ amount =>
    if isFinite amount && 0 < amount then Scalar.min (value + amount) 1 else value

theorem heated_step (decay value : α) :
    Change.step.heated decay value = if floor ≤ value * decay then value * decay else 0 := rfl

end Change

/-! ### The heat at a location -/

/-- The heat that a list has for a location. -/
def lookup (location : LatLon α) (points : List (LatLon α × α)) : α :=
  ((points.find? (·.1 == location)).map (·.2)).getD 0

/-- The heat of a field at a location: zero if it has none. -/
def heatAt (location : LatLon α) (f : HeatField α) : α := lookup location f.points

@[simp] theorem lookup_nil (location : LatLon α) : lookup location [] = 0 := rfl

theorem lookup_cons (location spot : LatLon α) (value : α) (rest : List (LatLon α × α)) :
    lookup location ((spot, value) :: rest) =
      if spot == location then value else lookup location rest := by
  unfold lookup
  rw [List.find?_cons]
  cases spot == location <;> rfl

theorem lookup_of_forall {location : LatLon α} {points : List (LatLon α × α)}
    (h : ∀ p ∈ points, (p.1 == location) = false) : lookup location points = 0 := by
  have hnone : points.find? (·.1 == location) = none :=
    List.find?_eq_none.mpr fun p hp => by simp [h p hp]
  rw [lookup, hnone]
  rfl

/-- Heat that is not zero is listed. -/
theorem lookup_cases (location : LatLon α) (points : List (LatLon α × α)) :
    lookup location points = 0 ∨ ∃ p ∈ points, lookup location points = p.2 := by
  unfold lookup
  cases hfound : points.find? (·.1 == location) with
  | none => exact .inl rfl
  | some p => exact .inr ⟨p, List.mem_of_find?_eq_some hfound, rfl⟩

end HeatField

/-! ### The numbers of heat -/

/-- What is needed of the sums, minima and products of heat. -/
class HeatNumbers (α : Type) [Scalar α] : Prop extends PartialEquivBEq α where
  zero_add {a : α} : 0 < a → 0 + a = a
  add_pos {a b : α} : 0 < a → 0 < b → 0 < a + b
  min_one {a : α} : 0 < a → 0 < Scalar.min a 1 ∧ Scalar.min a 1 ≤ 1
  pos_of_floor_le {a : α} : HeatField.floor ≤ a → 0 < a
  /-- Where there is no heat, none is left by a step. -/
  not_floor_le_zero_mul (decay : α) : ¬ HeatField.floor ≤ 0 * clamp decay 0 1
  /-- A step does not heat. -/
  mul_clamp_le_one {a : α} (decay : α) : 0 < a → a ≤ 1 →
    HeatField.floor ≤ a * clamp decay 0 1 → a * clamp decay 0 1 ≤ 1

namespace LatLon

variable [Scalar α]

theorem beq_self {location : LatLon α} (hlat : isUndefined location.lat = false)
    (hlon : isUndefined location.lon = false) : (location == location) = true := by
  simp only [isUndefined, Bool.not_eq_eq_eq_not, Bool.not_false] at hlat hlon
  exact (Bool.and_eq_true _ _).mpr ⟨hlat, hlon⟩

instance [PartialEquivBEq α] : PartialEquivBEq (LatLon α) where
  symm {a b} h := by
    obtain ⟨hlat, hlon⟩ : (a.lat == b.lat) = true ∧ (a.lon == b.lon) = true :=
      (Bool.and_eq_true _ _).mp h
    exact (Bool.and_eq_true _ _).mpr ⟨PartialEquivBEq.symm hlat, PartialEquivBEq.symm hlon⟩
  trans {a b c} hab hbc := by
    obtain ⟨hlat, hlon⟩ : (a.lat == b.lat) = true ∧ (a.lon == b.lon) = true :=
      (Bool.and_eq_true _ _).mp hab
    obtain ⟨hlat', hlon'⟩ : (b.lat == c.lat) = true ∧ (b.lon == c.lon) = true :=
      (Bool.and_eq_true _ _).mp hbc
    exact (Bool.and_eq_true _ _).mpr
      ⟨PartialEquivBEq.trans hlat hlat', PartialEquivBEq.trans hlon hlon'⟩

end LatLon

namespace HeatField

variable [Scalar α] [HeatNumbers α]

/-! ### Bursts -/

section addHeat

variable {location spot : LatLon α} {amount : α} {points : List (LatLon α × α)}

omit [HeatNumbers α] in
theorem spots_addHeat (location : LatLon α) (amount : α) (points : List (LatLon α × α)) :
    (addHeat location amount points).map (·.1) =
      if points.any (·.1 == location) then points.map (·.1)
      else points.map (·.1) ++ [location] := by
  induction points with
  | nil => rfl
  | cons entry rest ih =>
      obtain ⟨key, value⟩ := entry
      unfold addHeat
      by_cases hkey : (key == location) = true
      · simp [hkey]
      · rw [if_neg hkey, List.map_cons, ih, List.any_cons, Bool.eq_false_of_not_eq_true hkey,
          Bool.false_or]
        split <;> rfl

omit [HeatNumbers α] in
theorem forall_addHeat {P : α → Prop} (hfresh : P (Scalar.min amount 1))
    (hmore : ∀ value, P value → P (Scalar.min (value + amount) 1))
    (h : ∀ p ∈ points, P p.2) : ∀ p ∈ addHeat location amount points, P p.2 := by
  induction points with
  | nil => exact List.forall_mem_singleton.mpr hfresh
  | cons entry rest ih =>
      obtain ⟨key, value⟩ := entry
      obtain ⟨hvalue, hrest⟩ := List.forall_mem_cons.mp h
      unfold addHeat
      split
      · exact List.forall_mem_cons.mpr ⟨hmore value hvalue, hrest⟩
      · exact List.forall_mem_cons.mpr ⟨hvalue, ih hrest⟩

theorem lookup_addHeat (hamount : 0 < amount) (points : List (LatLon α × α)) :
    lookup location (addHeat spot amount points) =
      if spot == location then Scalar.min (lookup location points + amount) 1
      else lookup location points := by
  induction points with
  | nil => rw [addHeat, lookup_cons, lookup_nil, HeatNumbers.zero_add hamount]
  | cons entry rest ih =>
      obtain ⟨key, value⟩ := entry
      unfold addHeat
      by_cases hkey : (key == spot) = true
      · have hsame : (key == location) = (spot == location) := BEq.congr_left hkey
        rw [if_pos hkey, lookup_cons, lookup_cons, hsame]
        split <;> rfl
      · rw [if_neg hkey, lookup_cons, ih, lookup_cons]
        by_cases hspot : (spot == location) = true
        · have hother : ¬ (key == location) = true := fun hfound =>
            hkey (PartialEquivBEq.trans hfound (PartialEquivBEq.symm hspot))
          rw [if_neg hother, if_neg hother]
        · rw [if_neg hspot, if_neg hspot]

end addHeat

/-! ### Steps -/

/-- A list after a step. -/
def faded (decay : α) (points : List (LatLon α × α)) : List (LatLon α × α) :=
  (points.map fun (location, value) => (location, value * decay)).filter
    fun (_, value) => floor ≤ value

omit [HeatNumbers α] in
theorem mem_faded {decay : α} {points : List (LatLon α × α)} {p : LatLon α × α}
    (h : p ∈ faded decay points) : floor ≤ p.2 ∧ ∃ q ∈ points, p = (q.1, q.2 * decay) := by
  obtain ⟨hmapped, hfloor⟩ := List.mem_filter.mp h
  obtain ⟨q, hq, rfl⟩ := List.mem_map.mp hmapped
  exact ⟨of_decide_eq_true hfloor, q, hq, rfl⟩

omit [HeatNumbers α] in
theorem spots_faded_sublist (decay : α) (points : List (LatLon α × α)) :
    ((faded decay points).map (·.1)).Sublist (points.map (·.1)) := by
  have hspots : (points.map fun (location, value) => (location, value * decay)).map (·.1) =
      points.map (·.1) := List.map_map
  rw [← hspots]
  exact List.filter_sublist.map _

omit [HeatNumbers α] in
theorem faded_cons (decay value : α) (spot : LatLon α) (rest : List (LatLon α × α)) :
    faded decay ((spot, value) :: rest) =
      if floor ≤ value * decay then (spot, value * decay) :: faded decay rest
      else faded decay rest := by
  simp only [faded, List.map_cons, List.filter_cons, decide_eq_true_eq]

theorem lookup_faded (location : LatLon α) (decay : α) {points : List (LatLon α × α)}
    (hdistinct : (points.map (·.1)).Pairwise fun a b => (a == b) = false) :
    lookup location (faded (clamp decay 0 1) points) =
      Change.step.heated (clamp decay 0 1) (lookup location points) := by
  have hcold : Change.step.heated (clamp decay 0 1) (0 : α) = 0 :=
    if_neg (HeatNumbers.not_floor_le_zero_mul decay)
  induction points with
  | nil => exact hcold.symm
  | cons entry rest ih =>
      obtain ⟨spot, value⟩ := entry
      obtain ⟨hfresh, hrest⟩ := List.pairwise_cons.mp hdistinct
      rw [faded_cons, lookup_cons]
      by_cases hspot : (spot == location) = true
      · -- nothing else is listed for the location, so a dropped entry leaves no heat
        have hothers : ∀ p ∈ rest, (p.1 == location) = false := by
          intro p hp
          apply Bool.eq_false_of_not_eq_true
          intro hfound
          have hsame : (spot == p.1) = true :=
            PartialEquivBEq.trans hspot (PartialEquivBEq.symm hfound)
          rw [hfresh p.1 (List.mem_map_of_mem hp)] at hsame
          cases hsame
        have hgone : lookup location (faded (clamp decay 0 1) rest) = 0 := by
          rw [ih hrest, lookup_of_forall hothers, hcold]
        rw [if_pos hspot, Change.heated_step]
        split_ifs
        · rw [lookup_cons, if_pos hspot]
        · exact hgone
      · rw [if_neg hspot, ← ih hrest]
        split_ifs
        · rw [lookup_cons, if_neg hspot]
        · rfl

/-! ### Runs -/

/-- A field that stands for a map: its locations are distinct and their heat is in `(0, 1]`. -/
structure Sound (decay : α) (f : HeatField α) : Prop where
  decay_eq : f.decay = clamp decay 0 1
  distinct : (f.points.map (·.1)).Pairwise fun a b => (a == b) = false
  range : ∀ p ∈ f.points, 0 < p.2 ∧ p.2 ≤ 1

omit [HeatNumbers α] in
theorem sound_ofDecay (decay : α) : (ofDecay decay).Sound decay where
  decay_eq := rfl
  distinct := List.Pairwise.nil
  range := List.forall_mem_nil _

namespace Sound

variable {decay : α} {f : HeatField α}

theorem record (h : f.Sound decay) (location : LatLon α) (amount : α) :
    (f.record location amount).Sound decay := by
  unfold HeatField.record
  split_ifs with hcounts
  · have hamount : 0 < amount := of_decide_eq_true ((Bool.and_eq_true _ _).mp hcounts).2
    refine ⟨h.decay_eq, ?_, ?_⟩
    · rw [spots_addHeat]
      split_ifs with hlisted
      · exact h.distinct
      · refine List.pairwise_append.mpr ⟨h.distinct, List.pairwise_singleton .., ?_⟩
        simpa using hlisted
    · refine forall_addHeat (P := fun value => 0 < value ∧ value ≤ 1)
        (HeatNumbers.min_one hamount) (fun value hvalue => ?_) h.range
      exact HeatNumbers.min_one (HeatNumbers.add_pos hvalue.1 hamount)
  · exact h

theorem step (h : f.Sound decay) : f.step.Sound decay := by
  refine ⟨h.decay_eq, h.distinct.sublist (spots_faded_sublist f.decay f.points), ?_⟩
  intro p hp
  obtain ⟨hfloor, q, hq, rfl⟩ := mem_faded hp
  obtain ⟨hpos, hle⟩ := h.range q hq
  rw [h.decay_eq] at hfloor ⊢
  exact ⟨HeatNumbers.pos_of_floor_le hfloor,
    HeatNumbers.mul_clamp_le_one decay hpos hle hfloor⟩

theorem change (h : f.Sound decay) (c : Change α) : (f.change c).Sound decay := by
  cases c with
  | step => exact h.step
  | record location amount => exact h.record location amount

theorem changes (h : f.Sound decay) (cs : List (Change α)) : (f.changes cs).Sound decay := by
  induction cs generalizing f with
  | nil => exact h
  | cons c rest ih => exact ih (h.change c)

/-- A change does to the heat of a location what it does to a map. -/
theorem heatAt_change (h : f.Sound decay) (location : LatLon α) (c : Change α) :
    (f.change c).heatAt location =
      if c.concerns location then c.heated (clamp decay 0 1) (f.heatAt location)
      else f.heatAt location := by
  cases c with
  | step =>
      have hfaded := lookup_faded location decay h.distinct
      rw [← h.decay_eq] at hfaded ⊢
      exact hfaded
  | record spot amount =>
      show (f.record spot amount).heatAt location = _
      unfold HeatField.record
      by_cases hcounts : (isFinite amount && decide (0 < amount)) = true
      · have hamount : 0 < amount := of_decide_eq_true ((Bool.and_eq_true _ _).mp hcounts).2
        rw [if_pos hcounts]
        exact (lookup_addHeat hamount f.points).trans (by rw [Change.heated, if_pos hcounts]; rfl)
      · rw [if_neg hcounts, Change.heated, if_neg hcounts, ite_self]

/-- The heat of a location follows the changes that concern it, and no others. -/
theorem heatAt_changes (h : f.Sound decay) (location : LatLon α) (cs : List (Change α)) :
    (f.changes cs).heatAt location =
      (cs.filter (·.concerns location)).foldl (fun value c => c.heated (clamp decay 0 1) value)
        (f.heatAt location) := by
  induction cs generalizing f with
  | nil => rfl
  | cons c rest ih =>
      show ((f.change c).changes rest).heatAt location = _
      rw [ih (h.change c), h.heatAt_change, List.filter_cons]
      split <;> rfl

end Sound

end HeatField

/-! ### Heat in doubles -/

namespace Double

open Float.Model

/-- A decay factor stands between zero and one; an undefined one counts as zero. -/
theorem position_clamp (decay : Float) :
    0 ≤ position (clamp decay 0 1) ∧ position (clamp decay 0 1) ≤ position 1 := by
  have hzero : position 0 = 0 := by decide +kernel
  have hone : 0 ≤ position 1 := by decide +kernel
  have hheld : ¬ decay < 0 → ¬ 1 < decay → 0 ≤ position decay ∧ position decay ≤ position 1 := by
    intro hlow hhigh
    by_cases hdefined : Defined decay
    · constructor
      · refine not_lt.mp fun hlt => hlow (lt_iff.mpr ⟨⟨hdefined, UnpackedFloat.noConfusion⟩, ?_⟩)
        rwa [hzero]
      · exact not_lt.mp fun hlt => hhigh (lt_iff.mpr ⟨⟨UnpackedFloat.noConfusion, hdefined⟩, hlt⟩)
    · rw [position_of_undefined hdefined]
      exact ⟨le_rfl, hone⟩
  unfold clamp
  by_cases hlow : decay < 0
  · have hbelow : ¬ (1 : Float) < 0 := by decide +kernel
    simp only [if_pos hlow, if_neg hbelow]
    exact ⟨hzero.ge, hzero.trans_le hone⟩
  · simp only [if_neg hlow]
    by_cases hhigh : 1 < decay
    · rw [if_pos hhigh]
      exact ⟨hone, le_rfl⟩
    · rw [if_neg hhigh]
      exact hheld hlow hhigh

instance : HeatNumbers Float where
  zero_add := zero_add_of_pos
  add_pos := add_pos
  min_one {a} ha := by
    have hone : (0 : Float) < 1 ∧ (1 : Float) ≤ 1 ∧ Scalar.isUndefined (1 : Float) = false := by
      decide +kernel
    obtain ⟨hpos, hself, hdefined⟩ := hone
    rw [Scalar.min, hdefined, if_neg Bool.false_ne_true]
    split_ifs with hbelow
    · exact ⟨ha, le_iff.mpr ⟨(lt_iff.mp hbelow).1, (lt_iff.mp hbelow).2.le⟩⟩
    · exact ⟨hpos, hself⟩
  pos_of_floor_le {a} ha := by
    have hfloor : 0 < (HeatField.floor : Float) := by decide +kernel
    obtain ⟨⟨-, hdefined⟩, hle⟩ := le_iff.mp ha
    exact pos_of_position hdefined ((lt_iff.mp hfloor).2.trans_le hle)
  not_floor_le_zero_mul decay h := by
    have hfloor : 0 < position HeatField.floor := by decide +kernel
    have hzero : position 0 = 0 := by decide +kernel
    have hle := (le_iff.mp h).2
    rw [position_mul, hzero, zero_mul, nearest, Int.sign_zero, zero_mul] at hle
    exact absurd hle hfloor.not_ge
  mul_clamp_le_one {a} decay _ hle hfloor := by
    have hdefined : Defined (a * clamp decay 0 1) := (le_iff.mp hfloor).1.2
    have hunit : position (1 * 1) = position 1 := by decide +kernel
    obtain ⟨hnonneg, hheld⟩ := position_clamp decay
    have hone : 0 ≤ position 1 := hnonneg.trans hheld
    refine le_iff.mpr ⟨⟨hdefined, UnpackedFloat.noConfusion⟩, ?_⟩
    calc position (a * clamp decay 0 1)
        ≤ position (1 * clamp decay 0 1) := position_mul_mono (le_iff.mp hle).2 hnonneg
      _ = position (clamp decay 0 1 * 1) := by rw [position_mul, position_mul, mul_comm]
      _ ≤ position (1 * 1) := position_mul_mono hheld hone
      _ = position 1 := hunit

end Double

namespace HeatField

/-- **A heat field is a map from locations to heat.**  Whatever the decay and whatever is recorded,
the listed locations are distinct and their heat is in `(0, 1]`, right after a step at least 0.001.
The heat of each location is what the changes that concern it make of none: a burst of a finite
positive amount adds it and holds the sum at one, any other burst leaves the heat alone, and a step
lets it fade by the decay, held in `[0, 1]`, and drops what falls below 0.001.  What is recorded at
a defined location counts there at once. -/
theorem heat_by_location (decay : Float) (cs : List (Change Float)) :
    let f := (ofDecay decay).changes cs
    ((f.points.map (·.1)).Pairwise fun a b => (a == b) = false) ∧
    (∀ p ∈ f.points, 0 < p.2 ∧ p.2 ≤ 1) ∧
    (∀ p ∈ f.step.points, 0.001 ≤ p.2) ∧
    (∀ location, f.heatAt location =
      (cs.filter (·.concerns location)).foldl (fun value c => c.heated (clamp decay 0 1) value) 0) ∧
    ∀ location amount, isUndefined location.lat = false → isUndefined location.lon = false →
      (f.record location amount).heatAt location =
        (Change.record location amount).heated (clamp decay 0 1) (f.heatAt location) := by
  intro f
  have h : f.Sound decay := (sound_ofDecay decay).changes cs
  refine ⟨h.distinct, h.range, fun p hp => (mem_faded hp).1,
    fun location => (sound_ofDecay decay).heatAt_changes location cs, ?_⟩
  intro location amount hlat hlon
  exact (h.heatAt_change location (.record location amount)).trans
    (if_pos (LatLon.beq_self hlat hlon))

/-- A location cools down and becomes hot again, under the other zero, while heat that is recorded
elsewhere stays; an infinite burst does not count, and a great one is held at one. -/
theorem heat_by_location_reheated :
    let cs : List (Change Float) :=
      [.record ⟨0, 0⟩ 0.05, .record ⟨1, 2⟩ 0.5, .step, .record ⟨-0, 0⟩ 0.25, .record ⟨0, 0⟩ (1 / 0)]
    let f := (ofDecay 0.01).changes cs
    let cool : LatLon Float × Float := (⟨1, 2⟩, 0.005)
    let left : LatLon Float × Float := (⟨-0, 0⟩, 0.0025)
    f.heatAt ⟨0, 0⟩ = 0.25 ∧ f.heatAt ⟨1, 2⟩ = 0.005 ∧
      cool ∈ f.points ∧ (0 < cool.2 ∧ cool.2 ≤ 1) ∧ left ∈ f.step.points ∧ 0.001 ≤ left.2 ∧
      isUndefined (1 : Float) = false ∧ isUndefined (2 : Float) = false ∧
      (f.record ⟨1, 2⟩ 5).heatAt ⟨1, 2⟩ = 1 := by
  intro cs f cool left
  have hone : isUndefined (1 : Float) = false := by decide +kernel
  have htwo : isUndefined (2 : Float) = false := by decide +kernel
  have hlisted : f.points = [cool, (⟨-0, 0⟩, 0.25)] := by decide +kernel
  have hcool : cool ∈ f.points := by
    rw [hlisted]
    exact List.mem_cons_self
  have hfaded : f.step.points = [left] := by decide +kernel
  have hleft : left ∈ f.step.points := by
    rw [hfaded]
    exact List.mem_cons_self
  obtain ⟨_, hrange, hfloor, hmap, hrecord⟩ := heat_by_location 0.01 cs
  refine ⟨(hmap ⟨0, 0⟩).trans ?_, (hmap ⟨1, 2⟩).trans ?_, hcool, hrange cool hcool, hleft,
    hfloor left hleft, hone, htwo, (hrecord ⟨1, 2⟩ 5 hone htwo).trans ?_⟩
  · decide +kernel
  · decide +kernel
  · decide +kernel

end HeatField
end GlobeView
