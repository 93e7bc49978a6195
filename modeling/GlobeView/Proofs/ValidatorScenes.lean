import Mathlib.Algebra.BigOperators.Fin
import Mathlib.Algebra.Order.BigOperators.Group.List
import Mathlib.Data.List.Chain
import GlobeView.Proofs.ExactNumbers
import GlobeView.Double.Arithmetic
import GlobeView.Validators

/-! # Validator scenes lose no validators

Every draw adds one validator to one data center, so what is placed is what was asked for
(`Validators.sum_place`), and no data center ever has more than were drawn.

Markers, heat and connections are made of the same sites, which are the occupied places of the table
in its order (`Validators.sites_eq`): what is said of an occupied place is said of its marker and of
its heat.  A hub has more than a twentieth of all validators, and there are less than twenty such
parts in a whole (`Validators.length_hubs_le`). -/

namespace GlobeView
namespace Validators

/-! ### Placing -/

section placing

variable {ρ : Type} [Random.IndexSource ρ dataCenterCount]

theorem get_set (counts : Vector ℕ dataCenterCount) (i j : Fin dataCenterCount) (nodes : ℕ) :
    (counts.set i nodes i.isLt).get j = if i = j then nodes else counts.get j :=
  (Vector.getElem_set i.isLt j.isLt).trans (if_congr Fin.val_inj rfl rfl)

theorem sum_set_succ (counts : Vector ℕ dataCenterCount) (i : Fin dataCenterCount) :
    ∑ j, (counts.set i (counts.get i + 1) i.isLt).get j = ∑ j, counts.get j + 1 := by
  have hget (j : Fin dataCenterCount) :
      (counts.set i (counts.get i + 1) i.isLt).get j = counts.get j + if i = j then 1 else 0 := by
    rw [get_set]
    split_ifs with hij
    · rw [hij]
    · rfl
  rw [Finset.sum_congr rfl fun j _ => hget j, Finset.sum_add_distrib, Finset.sum_ite_eq,
    if_pos (Finset.mem_univ i)]

theorem sum_place (count : ℕ) (g : ρ) (counts : Vector ℕ dataCenterCount) :
    ∑ i, (place count g counts).get i = ∑ i, counts.get i + count := by
  induction count generalizing g counts with
  | zero => rw [place, Nat.add_zero]
  | succ count ih => rw [place, ih, sum_set_succ, Nat.add_right_comm, Nat.add_assoc]

theorem sum_none : ∑ i, none.get i = 0 := by decide

/-- **All validators are placed.** -/
theorem sum_assign (count : ℕ) (source : ρ) : ∑ i, (assign count source).get i = count := by
  rw [assign, sum_place, sum_none, Nat.zero_add]

theorem get_assign_le (count : ℕ) (source : ρ) (i : Fin dataCenterCount) :
    (assign count source).get i ≤ count :=
  (Finset.single_le_sum (fun _ _ => Nat.zero_le _) (Finset.mem_univ i)).trans_eq
    (sum_assign count source)

theorem exists_place_add (first others : ℕ) (g : ρ) :
    ∃ rest : ρ, ∀ counts,
      place (first + others) g counts = place others rest (place first g counts) := by
  induction first generalizing g with
  | zero => exact ⟨g, fun counts => by rw [Nat.zero_add, place]⟩
  | succ first ih =>
      obtain ⟨rest, hrest⟩ := ih (Random.IndexSource.draw (n := dataCenterCount) g).2
      exact ⟨rest, fun counts => by rw [Nat.succ_add]; exact hrest _⟩

end placing

/-! ### Occupied places -/

/-- The places that validators run at, in the order of the table. -/
def occupied (counts : Vector ℕ dataCenterCount) : List (Fin dataCenterCount) :=
  (List.finRange dataCenterCount).filter fun i => counts.get i ≠ 0

/-- The occupied places with more than a twentieth of all validators. -/
def hubs (total : ℕ) (counts : Vector ℕ dataCenterCount) : List (Fin dataCenterCount) :=
  (occupied counts).filter fun i => total < 20 * counts.get i

variable {counts : Vector ℕ dataCenterCount}

theorem mem_occupied {i : Fin dataCenterCount} : i ∈ occupied counts ↔ 0 < counts.get i := by
  simp [occupied, Nat.pos_iff_ne_zero]

theorem sum_filter_occupied (counts : Vector ℕ dataCenterCount)
    (places : List (Fin dataCenterCount)) :
    ((places.filter fun i => counts.get i ≠ 0).map counts.get).sum =
      (places.map counts.get).sum := by
  induction places with
  | nil => rfl
  | cons i rest ih =>
      rw [List.filter_cons]
      split_ifs with hsome
      · rw [List.map_cons, List.map_cons, List.sum_cons, List.sum_cons, ih]
      · have hnone : counts.get i = 0 := by simpa using hsome
        rw [List.map_cons, List.sum_cons, ih, hnone, Nat.zero_add]

theorem sum_occupied (counts : Vector ℕ dataCenterCount) :
    ((occupied counts).map counts.get).sum = ∑ i, counts.get i := by
  rw [Fin.sum_univ_def]
  exact sum_filter_occupied counts _

/-- Twenty places cannot have more than a twentieth each. -/
theorem length_hubs_le {total : ℕ} (hsum : ∑ i, counts.get i = total) :
    (hubs total counts).length ≤ 19 := by
  have hsome : (hubs total counts).length * (total + 1) ≤
      ((hubs total counts).map fun i => 20 * counts.get i).sum := by
    have h := List.card_nsmul_le_sum ((hubs total counts).map fun i => 20 * counts.get i)
      (total + 1) (List.forall_mem_map.mpr fun i hi => by simpa using (List.mem_filter.mp hi).2)
    rwa [List.length_map, smul_eq_mul] at h
  have hall : ((hubs total counts).map fun i => 20 * counts.get i).sum ≤ 20 * total := by
    have hsublist : ((hubs total counts).map counts.get).Sublist
        ((occupied counts).map counts.get) := List.filter_sublist.map _
    have hplaced := hsublist.sum_le_sum fun _ _ => Nat.zero_le _
    rw [sum_occupied, hsum] at hplaced
    rw [List.sum_map_mul_left]
    exact Nat.mul_le_mul_left 20 hplaced
  by_contra hmany
  have htwenty : 20 * (total + 1) ≤ (hubs total counts).length * (total + 1) :=
    Nat.mul_le_mul_right _ (not_le.mp hmany)
  omega

/-- The number that heat is relative to: the greatest one, unless nobody is anywhere. -/
def greatest (counts : Vector ℕ dataCenterCount) : ℕ :=
  max (counts.toList.foldl max 0) 1

/-! ### Sites -/

section sites

variable {α : Type} [Scalar α]

/-- The site at a place of the table. -/
def site (counts : Vector ℕ dataCenterCount) (i : Fin dataCenterCount) : Site α :=
  ⟨dataCenters.get i, counts.get i⟩

theorem sites_eq (counts : Vector ℕ dataCenterCount) :
    (sites counts : List (Site α)) = (occupied counts).map (site counts) := by
  have htable : (dataCenters (α := α)).toList.zipWith Site.mk counts.toList =
      (List.finRange dataCenterCount).map (site counts) := by
    refine List.ext_getElem (by simp) fun i _ _ => ?_
    rw [List.getElem_zipWith, List.getElem_map, List.getElem_finRange]
    rfl
  rw [sites, htable, List.filter_map, occupied]
  refine congrArg _ (List.filter_congr fun i _ => Bool.eq_iff_iff.mpr ?_)
  simp [site]

/-- Dividing by twenty sets no site apart wrongly. -/
theorem isHub_site (total : ℕ) (counts : Vector ℕ dataCenterCount) (i : Fin dataCenterCount) :
    (site counts i : Site α).isHub total = decide (total < 20 * counts.get i) := by
  rw [Site.isHub, decide_eq_decide, Nat.div_lt_iff_lt_mul (by decide), Nat.mul_comm]
  rfl

theorem hub_sites (total : ℕ) (counts : Vector ℕ dataCenterCount) :
    (sites counts : List (Site α)).filter (·.isHub total) =
      (hubs total counts).map (site counts) := by
  rw [sites_eq, List.filter_map, hubs]
  exact congrArg _ (List.filter_congr fun i _ => isHub_site total counts i)

end sites

/-! ### The chain -/

section chain

variable {α : Type}

theorem chain_start : ∀ locations : List (LatLon α),
    (chain locations).map (·.start) = locations.dropLast
  | [] => rfl
  | [_] => rfl
  | a :: b :: rest => congrArg (a :: ·) (chain_start (b :: rest))

theorem chain_finish : ∀ locations : List (LatLon α),
    (chain locations).map (·.finish) = locations.tail
  | [] => rfl
  | [_] => rfl
  | _ :: b :: rest => congrArg (b :: ·) (chain_finish (b :: rest))

theorem isChain_chain : ∀ locations : List (LatLon α),
    (chain locations).IsChain fun c next => c.finish = next.start
  | [] => .nil
  | [_] => .nil
  | [_, _] => .singleton _
  | _ :: b :: c :: rest => .cons_cons rfl (isChain_chain (b :: c :: rest))

/-- The ends of a connection are related as earlier locations are to later ones. -/
theorem chain_pairwise {R : LatLon α → LatLon α → Prop} :
    ∀ {locations : List (LatLon α)}, locations.Pairwise R →
      ∀ c ∈ chain locations, R c.start c.finish
  | [], _, _, hc => (List.not_mem_nil hc).elim
  | [_], _, _, hc => (List.not_mem_nil hc).elim
  | _ :: b :: _, h, c, hc => by
      obtain ⟨hfirst, hrest⟩ := List.pairwise_cons.mp h
      obtain rfl | hlater := List.mem_cons.mp hc
      · exact hfirst b List.mem_cons_self
      · exact chain_pairwise hrest c hlater

end chain

/-! ### Scenes -/

section scenes

variable {α : Type} [Scalar α]

/-- The location of a place of the table. -/
def location (i : Fin dataCenterCount) : LatLon α := (dataCenters.get i).location

/-- A scene shows the validators counted for each place of the table: what stands on it, in the
order of the table, is one marker and heat at each occupied place.  Hubs pulse, and a chain of
connections runs through them. -/
structure Shows (total : ℕ) (counts : Vector ℕ dataCenterCount) (scene : Scene α) : Prop where
  markers : scene.markers.map (fun m => (m.location, m.tooltip, m.pulse)) =
    (occupied counts).map fun i =>
      (location i,
        some (((dataCenters (α := α)).get i).name ++ " (" ++ toString (counts.get i) ++ " nodes)"),
        decide (total < 20 * counts.get i))
  heat : scene.heat.map (·.location) = (occupied counts).map location
  hubs : scene.markers.countP (·.pulse) ≤ 19
  connections : scene.connections.length = scene.markers.countP (·.pulse) - 1
  starts : scene.connections.map (·.start) =
    ((scene.markers.filter (·.pulse)).map (·.location)).dropLast
  finishes : scene.connections.map (·.finish) =
    ((scene.markers.filter (·.pulse)).map (·.location)).tail
  linked : scene.connections.IsChain fun c next => c.finish = next.start

theorem markers_sceneOf (total : ℕ) (counts : Vector ℕ dataCenterCount) :
    (sceneOf total counts : Scene α).markers =
      (occupied counts).map fun i => (site counts i).marker total := by
  show (sites counts : List (Site α)).map (·.marker total) = _
  rw [sites_eq, List.map_map]
  rfl

theorem heat_sceneOf (total : ℕ) (counts : Vector ℕ dataCenterCount) :
    (sceneOf total counts : Scene α).heat =
      (occupied counts).map fun i => (site counts i).heat (greatest counts) := by
  show (sites counts : List (Site α)).map (·.heat (greatest counts)) = _
  rw [sites_eq, List.map_map]
  rfl

theorem connections_sceneOf (total : ℕ) (counts : Vector ℕ dataCenterCount) :
    (sceneOf total counts : Scene α).connections = chain ((hubs total counts).map location) := by
  rw [sceneOf, hub_sites, List.map_map]
  rfl

theorem pulsing_sceneOf (total : ℕ) (counts : Vector ℕ dataCenterCount) :
    (sceneOf total counts : Scene α).markers.filter (·.pulse) =
      (hubs total counts).map fun i => (site counts i).marker total := by
  rw [markers_sceneOf, List.filter_map, hubs]
  exact congrArg _ (List.filter_congr fun i _ => isHub_site total counts i)

theorem shows_sceneOf {total : ℕ} {counts : Vector ℕ dataCenterCount}
    (hsum : ∑ i, counts.get i = total) : Shows total counts (sceneOf total counts : Scene α) := by
  have hlocations : ((sceneOf total counts : Scene α).markers.filter (·.pulse)).map (·.location) =
      (hubs total counts).map location := by
    rw [pulsing_sceneOf, List.map_map]
    rfl
  have hcount : (sceneOf total counts : Scene α).markers.countP (·.pulse) =
      (hubs total counts).length := by
    rw [List.countP_eq_length_filter, pulsing_sceneOf, List.length_map]
  refine
    { markers := ?_
      heat := ?_
      hubs := hcount.trans_le (length_hubs_le hsum)
      connections := ?_
      starts := ?_
      finishes := ?_
      linked := ?_ }
  · rw [markers_sceneOf, List.map_map]
    refine List.map_congr_left fun i _ => ?_
    rw [← isHub_site (α := α)]
    rfl
  · rw [heat_sceneOf, List.map_map]
    rfl
  · rw [hcount, connections_sceneOf, ← List.length_map (·.start), chain_start, List.length_dropLast,
      List.length_map]
  · rw [hlocations, connections_sceneOf, chain_start]
  · rw [hlocations, connections_sceneOf, chain_finish]
  · rw [connections_sceneOf]
    exact isChain_chain _

end scenes

/-! ### Sizes and heat over the real numbers -/

theorem greatest_spec {counts : Vector ℕ dataCenterCount} (hsome : ∃ i, 0 < counts.get i) :
    (∀ i, counts.get i ≤ greatest counts) ∧ ∃ i, counts.get i = greatest counts := by
  have hlisted (i : Fin dataCenterCount) : counts.get i ∈ counts.toList :=
    Vector.mem_toList_iff.mpr (Vector.getElem_mem i.isLt)
  obtain ⟨i, hi⟩ := hsome
  have hne : counts.toList ≠ [] := List.ne_nil_of_mem (hlisted i)
  obtain ⟨hreached, hmost⟩ := List.max?_eq_some_iff.mp (List.max?_eq_some_max hne)
  have hgreatest : greatest counts = counts.toList.max hne := by
    have hpos : 0 < counts.toList.max hne := hi.trans_le (hmost _ (hlisted i))
    rw [greatest, List.foldl_max, List.max?_eq_some_max hne, Option.getD_some]
    omega
  rw [hgreatest]
  obtain ⟨k, hk, hget⟩ := Vector.mem_iff_getElem.mp (Vector.mem_toList_iff.mp hreached)
  exact ⟨fun j => hmost _ (hlisted j), ⟨k, hk⟩, hget⟩

theorem share_mem {nodes total : ℕ} (hpos : 0 < nodes) (hle : nodes ≤ total) :
    0 < (nodes / total : ℝ) ∧ (nodes / total : ℝ) ≤ 1 := by
  have hnodes : (0 : ℝ) < nodes := Nat.cast_pos.mpr hpos
  have htotal : (nodes : ℝ) ≤ total := Nat.cast_le.mpr hle
  exact ⟨div_pos hnodes (hnodes.trans_le htotal), div_le_one_of_le₀ htotal (Nat.cast_nonneg total)⟩

theorem Site.size_marker_mem {total : ℕ} {s : Site ℝ} (hpos : 0 < s.nodes) (hle : s.nodes ≤ total) :
    0.03 < (s.marker total).size ∧ (s.marker total).size ≤ 0.18 := by
  obtain ⟨hshare, hwhole⟩ := share_mem hpos hle
  show 0.03 < 0.03 + (s.nodes / total : ℝ) * 0.15 ∧ 0.03 + (s.nodes / total : ℝ) * 0.15 ≤ 0.18
  constructor
  · linarith
  · linarith

theorem Site.value_heat_mem {greatest : ℕ} {s : Site ℝ} (hpos : 0 < s.nodes)
    (hle : s.nodes ≤ greatest) : 0 < (s.heat greatest).value ∧ (s.heat greatest).value ≤ 1 :=
  share_mem hpos hle

/-! ### Locations of doubles -/

theorem location_apart :
    ((List.finRange dataCenterCount).map (location (α := Float))).Pairwise
      fun a b => (a == b) = false := by
  decide +kernel

/-- **A scene loses no validators.**  Whatever places are drawn, the numbers of validators at the
data centers make up what was asked for, and while they are placed no number exceeds what was drawn
so far; so if the whole fits into a machine word, nothing overflows.  Without validators the scene
is empty.  With some, over any numbers, it shows what was placed, and what its texts say makes up
the whole.  No connection of doubles comes back to where it starts.  Read over the real numbers,
sizes lie in `(0.03, 0.18]` and heat in `(0, 1]`, and somewhere heat is one. -/
theorem scene_loses_no_validators {ρ : Type} [Random.IndexSource ρ dataCenterCount] (count : ℕ)
    (source : ρ) :
    let counts := assign count source
    ∑ i, counts.get i = count ∧
    (∀ drawn ≤ count, (∃ rest : ρ, counts = place (count - drawn) rest (assign drawn source)) ∧
      ∀ i, (assign drawn source).get i ≤ drawn) ∧
    (∀ (α : Type) [Scalar α], (scene 0 source : Scene α) = .empty) ∧
    (0 < count →
      (∀ (α : Type) [Scalar α], Shows count counts (scene count source : Scene α)) ∧
      ((occupied counts).map counts.get).sum = count ∧
      (∀ c ∈ (scene count source : Scene Float).connections, (c.start == c.finish) = false) ∧
      let exact : Scene ℝ := scene count source
      (∀ m ∈ exact.markers, 0.03 < m.size ∧ m.size ≤ 0.18) ∧
      (∀ p ∈ exact.heat, 0 < p.value ∧ p.value ≤ 1) ∧ ∃ p ∈ exact.heat, p.value = 1) := by
  intro counts
  have hsum : ∑ i, counts.get i = count := sum_assign count source
  refine ⟨hsum, fun drawn hdrawn => ⟨?_, get_assign_le drawn source⟩, fun α _ => rfl,
    fun hcount => ?_⟩
  · obtain ⟨rest, hrest⟩ := exists_place_add drawn (count - drawn) source
    rw [Nat.add_sub_cancel' hdrawn] at hrest
    exact ⟨rest, hrest none⟩
  have hscene (α : Type) [Scalar α] : (scene count source : Scene α) = sceneOf count counts :=
    if_neg hcount.ne'
  refine ⟨fun α _ => ?_, (sum_occupied counts).trans hsum, ?_, ?_⟩
  · rw [hscene]
    exact shows_sceneOf hsum
  · rw [hscene, connections_sceneOf]
    exact chain_pairwise
      (location_apart.sublist ((List.filter_sublist.trans List.filter_sublist).map location))
  intro exact
  have hoccupied : ∃ i, 0 < counts.get i := by
    by_contra! hnobody
    rw [Finset.sum_eq_zero fun i _ => Nat.le_zero.mp (hnobody i)] at hsum
    exact hcount.ne hsum
  obtain ⟨hmost, i, hi⟩ := greatest_spec hoccupied
  have hexact : exact = sceneOf count counts := hscene ℝ
  rw [hexact, markers_sceneOf, heat_sceneOf]
  refine ⟨List.forall_mem_map.mpr fun i hi => ?_, List.forall_mem_map.mpr fun i hi => ?_, ?_⟩
  · exact Site.size_marker_mem (mem_occupied.mp hi) (get_assign_le count source i)
  · exact Site.value_heat_mem (mem_occupied.mp hi) (hmost i)
  · have hpos : 0 < counts.get i := by
      rw [hi]
      exact lt_max_of_lt_right Nat.one_pos
    refine ⟨_, List.mem_map_of_mem (mem_occupied.mpr hpos), ?_⟩
    show (counts.get i / greatest counts : ℝ) = 1
    rw [← hi, div_self (Nat.cast_ne_zero.mpr hpos.ne')]

/-- Two validators that a seed sends to Milan and to Tokyo: both markers pulse and are connected. -/
theorem scene_loses_no_validators_two :
    let source := Random.ChaCha.ofSeed 42
    let counts := assign 2 source
    let milan : Fin dataCenterCount := ⟨12, by decide⟩
    let tokyo : Fin dataCenterCount := ⟨13, by decide⟩
    0 < 2 ∧ 1 ≤ 2 ∧ occupied counts = [milan, tokyo] ∧ counts.get milan + counts.get tokyo = 2 ∧
      (∀ i, (assign 1 source).get i ≤ 1) ∧ Shows 2 counts (scene 2 source : Scene Float) ∧
      (scene 2 source : Scene Float).connections = [⟨location milan, location tokyo⟩] ∧
      ((location milan : LatLon Float) == location tokyo) = false ∧
      (∃ m ∈ (scene 2 source : Scene ℝ).markers,
        m.location = location milan ∧ 0.03 < m.size ∧ m.size ≤ 0.18) ∧
      ∃ p ∈ (scene 2 source : Scene ℝ).heat, p.value = 1 := by
  intro source counts milan tokyo
  obtain ⟨-, hplacing, -, hsome⟩ := scene_loses_no_validators 2 source
  obtain ⟨hshows, hnodes, happart, hsizes, -, hheat⟩ := hsome (by decide)
  have hoccupied : occupied counts = [milan, tokyo] := by decide +kernel
  have hconnections : (scene 2 source : Scene Float).connections =
      [⟨location milan, location tokyo⟩] := by decide +kernel
  have hconnected :
      ⟨location milan, location tokyo⟩ ∈ (scene 2 source : Scene Float).connections := by
    rw [hconnections]
    exact List.mem_singleton_self _
  have hmarker : (site counts milan).marker 2 ∈ (scene 2 source : Scene ℝ).markers := by
    rw [show (scene 2 source : Scene ℝ) = sceneOf 2 counts from rfl, markers_sceneOf, hoccupied]
    exact List.mem_cons_self
  rw [show occupied (assign 2 source) = _ from hoccupied, List.map_cons, List.map_singleton,
    List.sum_cons, List.sum_singleton] at hnodes
  exact ⟨by decide, by decide, hoccupied, hnodes, (hplacing 1 (by decide)).2, hshows Float,
    hconnections, happart ⟨location milan, location tokyo⟩ hconnected,
    ⟨_, hmarker, rfl, hsizes _ hmarker⟩, hheat⟩

end Validators
end GlobeView
