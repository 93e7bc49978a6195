import GlobeView.Proofs.JsonSkipping
import Mathlib.Data.List.Perm.Basic

/-! # Objects with parts of a record

The members of an object come in any order, with white space between any two marks, and among those
that a record has fields for there may be others with any JSON in them: `ObjectText` is the text of
given parts.

Whoever reads the parts reads the object (`reads_record`).  What it makes of the record does not
depend on the order: a part puts its own field, so the fields of a record that are replaced in the end
are those whose keys were given (`Replaces.fill_eq`). -/

namespace GlobeView.Json

/-- A reader gives a value back from each of given texts, whatever white space is in front of it and
whatever comes behind. -/
def Reads {β : Type} (r : Reader β) (texts : List Char → Prop) (b : β) : Prop :=
  ∀ ⦃gap text rest : List Char⦄, Blank gap → texts text → EndsNumber rest →
    r (gap ++ (text ++ rest)) = .ok (b, rest)

theorem Restores.reads {β : Type} {r : Reader β} {v : Value} {b : β} (h : Restores r v true b) :
    Reads r (Writes v) b := by
  intro gap text rest hgap htext hrest
  rw [← List.append_assoc, h hgap htext hrest, if_pos rfl]

theorem Reads.parse {β : Type} {r : Reader β} {texts : List Char → Prop} {b : β}
    (h : Reads r texts b) {gap text gap' : List Char} (hgap : Blank gap) (htext : texts text)
    (hgap' : Blank gap') : parse r (String.ofList (gap ++ (text ++ gap'))) = .ok b := by
  have hend := endsNumber_nil.blank hgap'
  have hafter := skipBlanks_append hgap' []
  rw [List.append_nil] at hend hafter
  refine parse_ok.mpr ⟨gap', ?_, by rw [hafter]; rfl⟩
  rw [String.toList_ofList]
  exact h hgap htext hend

theorem Reads.field {ρ β : Type} {r : Reader β} {texts : List Char → Prop} {b : β}
    (h : Reads r texts b) (name : String) (required : Bool) (put : β → ρ → ρ) :
    Reads (RecordField.of name required r put).read texts (put b) := by
  intro gap text rest hgap htext hrest
  simp only [RecordField.of, h hgap htext hrest]

/-- A part of a record: its key, the texts of its value, and what they make of the record. -/
structure RecordPart (ρ : Type) where
  key : String
  texts : List Char → Prop
  put : ρ → ρ

namespace RecordPart

variable {ρ : Type} {fields : List (RecordField ρ)}

/-- The part that is written as an entry. -/
def ofEntry (e : Entry ρ) : RecordPart ρ := ⟨e.key, Writes e.value, e.put⟩

/-- The record has a field for the part and reads its value. -/
def IsFieldOf (fields : List (RecordField ρ)) (p : RecordPart ρ) : Prop :=
  ∃ f, fields.find? (·.name == p.key) = some f ∧ Reads f.read p.texts p.put

theorem isFieldOf_ofEntry {e : Entry ρ} (h : e.IsFieldOf fields) (hgood : e.good = true) :
    (ofEntry e).IsFieldOf fields := by
  obtain ⟨f, hfind, hrestores⟩ := h
  rw [hgood] at hrestores
  exact ⟨f, hfind, hrestores.reads⟩

/-- What parts make of a record, one after another. -/
def fill (parts : List (RecordPart ρ)) (record : ρ) : ρ :=
  parts.foldl (fun record p => p.put record) record

end RecordPart

/-! ### Texts -/

/-- The text of members of an object: given parts in order, and others among them whose keys are not
known. -/
inductive PartsText {ρ : Type} (known : List String) :
    Bool → List (RecordPart ρ) → List Char → Prop where
  | nil {first : Bool} : PartsText known first [] []
  | part {first : Bool} {p : RecordPart ρ} {parts : List (RecordPart ρ)}
      {gap gap' gap₁ gap₂ text more : List Char} : Blank gap → Blank gap' → Blank gap₁ → Blank gap₂ →
      p.texts text → PartsText known false parts more →
      PartsText known first (p :: parts)
        (gap ++ (separator first ++ (gap' ++ (quote p.key ++ (gap₁ ++ ':' ::
          (gap₂ ++ (text ++ more)))))))
  | other {first : Bool} {parts : List (RecordPart ρ)} {gap gap' gap₁ gap₂ text more : List Char}
      (key : String) : Blank gap → Blank gap' → Blank gap₁ → Blank gap₂ →
      key ∉ known → ValueText text → PartsText known false parts more →
      PartsText known first parts
        (gap ++ (separator first ++ (gap' ++ (quote key ++ (gap₁ ++ ':' ::
          (gap₂ ++ (text ++ more)))))))

/-- The text of an object with given parts in any order, and with others that are not known. -/
def ObjectText {ρ : Type} (known : List String) (parts : List (RecordPart ρ)) (text : List Char) :
    Prop :=
  ∃ order body gap, order.Perm parts ∧ PartsText known true order body ∧ Blank gap ∧
    text = '\x7b' :: (body ++ (gap ++ ['\x7d']))

/-- Behind a member there is a comma or the end of the object. -/
theorem PartsText.endsNumber {ρ : Type} {known : List String} {parts : List (RecordPart ρ)}
    {more gap : List Char} (h : PartsText known false parts more) (hgap : Blank gap)
    (rest : List Char) : EndsNumber (more ++ (gap ++ '\x7d' :: rest)) := by
  cases h with
  | nil => exact endsNumber_mark hgap (by decide) rest
  | part hblank | other _ hblank =>
      rw [List.append_assoc]
      exact endsNumber_mark hblank (by decide) _

/-! ### Reading -/

section Records

variable {ρ : Type} {fields : List (RecordField ρ)} {seen : List String}

theorem members_unknown {key : String} (hunknown : key ∉ fields.map RecordField.name)
    {gap gap' gap₁ gap₂ text rest : List Char} (hgap : Blank gap) (hgap' : Blank gap')
    (hgap₁ : Blank gap₁) (hgap₂ : Blank gap₂) (htext : ValueText text) (hrest : EndsNumber rest)
    (fuel : ℕ) (first : Bool) (record : ρ) :
    members fields (fuel + 1) first seen record
        (gap ++ (separator first ++ (gap' ++ (quote key ++ (gap₁ ++ ':' ::
          (gap₂ ++ (text ++ rest))))))) =
      members fields fuel false seen record rest := by
  have hnone : fields.find? (·.name == key) = none := by
    rw [List.find?_eq_none]
    intro f hf heq
    exact hunknown (List.mem_map.mpr ⟨f, hf, beq_iff_eq.mp heq⟩)
  simp only [members, nextKey_gap hgap hgap', hnone, colon_gap hgap₁,
    skipValue_text htext hgap₂ hrest, bind, Except.bind]

/-- The parts of an object are taken up one after another, and the other members are passed over. -/
theorem members_parts {first : Bool} {parts : List (RecordPart ρ)} {body : List Char}
    (hbody : PartsText (fields.map RecordField.name) first parts body)
    (hfields : ∀ p ∈ parts, p.IsFieldOf fields)
    (hkeys : Awaits fields seen (parts.map RecordPart.key)) {gap : List Char} (hgap : Blank gap)
    (rest : List Char) {fuel : ℕ} (hfuel : body.length < fuel) (record : ρ) :
    members fields fuel first seen record (body ++ (gap ++ '\x7d' :: rest)) =
      .ok (RecordPart.fill parts record, rest) := by
  induction hbody generalizing seen fuel record with
  | @nil first =>
      obtain ⟨fuel, rfl⟩ := Nat.exists_eq_succ_of_ne_zero (Nat.ne_zero_of_lt hfuel)
      exact members_end hkeys hgap fuel first record rest
  | @part first p parts blank blank' blank₁ blank₂ text more hblank hblank' hblank₁ hblank₂ htext
      hmore ih =>
      obtain ⟨fuel, rfl⟩ := Nat.exists_eq_succ_of_ne_zero (Nat.ne_zero_of_lt hfuel)
      obtain ⟨f, hfind, hreads⟩ := hfields p List.mem_cons_self
      have hread := hreads hblank₂ htext (hmore.endsNumber hgap rest)
      have hshort : more.length < fuel := by
        simp only [List.length_append, List.length_cons] at hfuel
        omega
      have hlater := ih (fun q hq => hfields q (List.mem_cons_of_mem p hq)) hkeys.next hshort
        (p.put record)
      simp only [List.append_assoc, List.cons_append]
      rw [members_known hfind hkeys.unseen hblank hblank' hblank₁, hread]
      exact hlater
  | @other first parts blank blank' blank₁ blank₂ text more key hblank hblank' hblank₁ hblank₂
      hunknown htext hmore ih =>
      obtain ⟨fuel, rfl⟩ := Nat.exists_eq_succ_of_ne_zero (Nat.ne_zero_of_lt hfuel)
      have hshort : more.length < fuel := by
        simp only [List.length_append, List.length_cons] at hfuel
        omega
      simp only [List.append_assoc, List.cons_append]
      rw [members_unknown hunknown hblank hblank' hblank₁ hblank₂ htext
        (hmore.endsNumber hgap rest)]
      exact ih hfields hkeys hshort record

end Records

/-! ### What is read -/

/-- `filled given` is a record with the parts that are given in place of its own. -/
structure Replaces {ρ : Type} (parts : List (RecordPart ρ)) (blank : ρ)
    (filled : (String → Bool) → ρ) : Prop where
  none : filled (fun _ => false) = blank
  put : ∀ p ∈ parts, ∀ given, p.put (filled given) = filled fun key => given key || key == p.key
  congr : ∀ given given', (∀ p ∈ parts, given p.key = given' p.key) → filled given = filled given'

namespace Replaces

variable {ρ : Type} {parts : List (RecordPart ρ)} {blank : ρ} {filled : (String → Bool) → ρ}

theorem fill_filled (h : Replaces parts blank filled) {order : List (RecordPart ρ)}
    (horder : order ⊆ parts) (given : String → Bool) :
    RecordPart.fill order (filled given) =
      filled fun key => given key || (order.map RecordPart.key).contains key := by
  induction order generalizing given with
  | nil => simp [RecordPart.fill]
  | cons p rest ih =>
      obtain ⟨hp, hrest⟩ := List.cons_subset.mp horder
      have hfirst : RecordPart.fill (p :: rest) (filled given) =
          RecordPart.fill rest (p.put (filled given)) := rfl
      rw [hfirst, h.put p hp, ih hrest]
      simp only [List.map_cons, List.contains_cons, Bool.or_assoc]

/-- Parts that are given in any order replace those of the record. -/
theorem fill_eq (h : Replaces parts blank filled) {given : String → Bool}
    {order : List (RecordPart ρ)} (horder : order.Perm (parts.filter fun p => given p.key)) :
    RecordPart.fill order blank = filled given := by
  have hmem (p : RecordPart ρ) : p ∈ order ↔ p ∈ parts ∧ given p.key = true := by
    rw [horder.mem_iff, List.mem_filter]
  rw [← h.none, h.fill_filled fun p hp => ((hmem p).mp hp).1]
  refine h.congr _ _ fun p hp => ?_
  rw [Bool.false_or, Bool.eq_iff_iff, List.contains_iff_mem, List.mem_map]
  constructor
  · rintro ⟨q, hq, heq⟩
    exact heq ▸ ((hmem q).mp hq).2
  · exact fun hgiven => ⟨p, (hmem p).mpr ⟨hp, hgiven⟩, rfl⟩

end Replaces

/-- A record is read from an object with any of its parts, if none of the required ones is missing. -/
theorem reads_record {ρ : Type} {fields : List (RecordField ρ)} {parts : List (RecordPart ρ)}
    {blank : ρ} {filled : (String → Bool) → ρ} (h : Replaces parts blank filled)
    (given : String → Bool) (hfields : ∀ p ∈ parts, p.IsFieldOf fields)
    (honce : (parts.map RecordPart.key).Nodup)
    (hall : ∀ f ∈ fields, f.required = true →
      f.name ∈ parts.map RecordPart.key ∧ given f.name = true) :
    Reads (record fields blank)
      (ObjectText (fields.map RecordField.name) (parts.filter fun p => given p.key))
      (filled given) := by
  rintro gap text rest hgap ⟨order, body, gap', horder, hbody, hgap', rfl⟩ hrest
  have hkeys : Awaits fields [] (order.map RecordPart.key) := by
    refine ⟨?_, fun _ _ => List.not_mem_nil, fun f hf hrequired => .inr ?_⟩
    · rw [(horder.map RecordPart.key).nodup_iff]
      exact honce.sublist (List.filter_sublist.map RecordPart.key)
    · obtain ⟨hpart, hgiven⟩ := hall f hf hrequired
      obtain ⟨p, hp, hname⟩ := List.mem_map.mp hpart
      rw [← hname] at hgiven ⊢
      exact List.mem_map_of_mem (horder.mem_iff.mpr (List.mem_filter.mpr ⟨hp, hgiven⟩))
  let inside := body ++ (gap' ++ '\x7d' :: rest)
  have hshort : body.length < inside.length + 1 := by
    simp only [inside, List.length_append]
    omega
  have hread := members_parts hbody
    (fun p hp => hfields p (List.mem_filter.mp (horder.mem_iff.mp hp)).1) hkeys hgap' rest hshort
    blank
  rw [h.fill_eq horder] at hread
  rw [List.cons_append, List.append_assoc, List.append_assoc, List.singleton_append]
  simp only [record, skipBlanks_gap hgap (c := '\x7b') rfl, if_true]
  exact hread

end GlobeView.Json
