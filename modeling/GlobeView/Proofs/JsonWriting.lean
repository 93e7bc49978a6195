import GlobeView.Json.Skip
import GlobeView.Json.Value
import Mathlib.Data.List.Nodup

/-! # Texts of a JSON value

A value has many texts: white space may stand in front of each entry, behind each colon and in front
of each closing bracket.  `Writes` relates a value to those texts.  The compact text and the one
with one entry a line are among them (`writes_compact`, `writes_pretty`), so what a reader makes of
all texts it makes of these two.

The first character of a text tells the reader what comes, and is never a blank or the end of a list
(`Writes.opens`). -/

namespace GlobeView.Json

/-- White space and nothing else. -/
def Blank (gap : List Char) : Prop := ∀ c ∈ gap, isBlank c = true

theorem Blank.nil : Blank [] := fun _ h => nomatch h

theorem blank_newLine (depth : ℕ) : Blank (Value.newLine depth) := by
  intro c hc
  obtain rfl | hc := List.mem_cons.mp hc
  · rfl
  · rw [List.eq_of_mem_replicate hc]
    rfl

theorem skipBlanks_append {gap : List Char} (h : Blank gap) (cs : List Char) :
    skipBlanks (gap ++ cs) = skipBlanks cs :=
  List.dropWhile_append_of_pos h

theorem skipBlanks_cons {c : Char} (h : isBlank c = false) (cs : List Char) :
    skipBlanks (c :: cs) = c :: cs :=
  List.dropWhile_cons_of_neg (by simp [h])

theorem skipBlanks_gap {gap : List Char} (hgap : Blank gap) {c : Char} (h : isBlank c = false)
    (cs : List Char) : skipBlanks (gap ++ c :: cs) = c :: cs :=
  (skipBlanks_append hgap _).trans (skipBlanks_cons h cs)

namespace Value

/-- Whether a value has no parts. -/
def isScalar : Value → Bool
  | .list _ => false
  | .object _ => false
  | _ => true

end Value

/-- The comma in front of all entries but the first. -/
def separator (first : Bool) : List Char := if first then [] else [',']

mutual

/-- A text of a value. -/
inductive Writes : Value → List Char → Prop where
  | scalar {v : Value} : v.isScalar = true → Writes v v.scalarText
  | list {items : List Value} {body gap : List Char} :
      WritesItems true items body → Blank gap →
      Writes (.list items) ('[' :: (body ++ gap ++ [']']))
  | object {members : List (String × Value)} {body gap : List Char} :
      WritesMembers true members body → Blank gap →
      Writes (.object members) ('\x7b' :: (body ++ gap ++ ['\x7d']))

/-- A text of items in a row. -/
inductive WritesItems : Bool → List Value → List Char → Prop where
  | nil {first : Bool} : WritesItems first [] []
  | cons {first : Bool} {v : Value} {vs : List Value} {gap text more : List Char} :
      Blank gap → Writes v text → WritesItems false vs more →
      WritesItems first (v :: vs) (separator first ++ gap ++ text ++ more)

/-- A text of members in a row. -/
inductive WritesMembers : Bool → List (String × Value) → List Char → Prop where
  | nil {first : Bool} : WritesMembers first [] []
  | cons {first : Bool} {k : String} {v : Value} {ms : List (String × Value)}
      {gap gap' text more : List Char} :
      Blank gap → Blank gap' → Writes v text → WritesMembers false ms more →
      WritesMembers first ((k, v) :: ms)
        (separator first ++ gap ++ quote k ++ ':' :: gap' ++ text ++ more)

end

/-! ### The two texts that are written -/

theorem Value.compactChars_of_isScalar {v : Value} (h : v.isScalar = true) :
    v.compactChars = v.scalarText := by
  cases v <;> simp_all [isScalar, compactChars]

theorem Value.prettyChars_of_isScalar {v : Value} (h : v.isScalar = true) (depth : ℕ) :
    v.prettyChars depth = v.scalarText := by
  cases v <;> simp_all [isScalar, prettyChars]

mutual

/-- The compact text of a value is one of its texts. -/
theorem writes_compact : ∀ v : Value, Writes v v.compactChars
  | .null | .bool _ | .count _ | .number _ | .text _ => by
      rw [Value.compactChars_of_isScalar rfl]
      exact .scalar rfl
  | .list items => by
      have h := Writes.list (writesItems_compact true items) Blank.nil
      rw [List.append_nil] at h
      rw [Value.compactChars]
      exact h
  | .object members => by
      have h := Writes.object (writesMembers_compact true members) Blank.nil
      rw [List.append_nil] at h
      rw [Value.compactChars]
      exact h

theorem writesItems_compact (first : Bool) :
    ∀ vs : List Value, WritesItems first vs (Value.compactItems first vs)
  | [] => .nil
  | v :: vs => by
      have h : WritesItems first (v :: vs) _ :=
        .cons Blank.nil (writes_compact v) (writesItems_compact false vs)
      rw [List.append_nil] at h
      rw [Value.compactItems]
      exact h

theorem writesMembers_compact (first : Bool) :
    ∀ ms : List (String × Value), WritesMembers first ms (Value.compactMembers first ms)
  | [] => .nil
  | (k, v) :: ms => by
      have h : WritesMembers first ((k, v) :: ms) _ :=
        .cons Blank.nil Blank.nil (writes_compact v) (writesMembers_compact false ms)
      simp only [List.append_nil, List.append_assoc, List.cons_append, List.nil_append] at h
      simp only [Value.compactMembers, List.append_assoc, List.cons_append]
      exact h

end

mutual

/-- The text with one entry a line is one of the texts of a value. -/
theorem writes_pretty (depth : ℕ) : ∀ v : Value, Writes v (v.prettyChars depth)
  | .null | .bool _ | .count _ | .number _ | .text _ => by
      rw [Value.prettyChars_of_isScalar rfl]
      exact .scalar rfl
  | .list [] => .list .nil Blank.nil
  | .list (v :: vs) => by
      rw [Value.prettyChars]
      exact .list (writesItems_pretty (depth + 1) true (v :: vs)) (blank_newLine depth)
  | .object [] => .object .nil Blank.nil
  | .object (m :: ms) => by
      rw [Value.prettyChars]
      exact .object (writesMembers_pretty (depth + 1) true (m :: ms)) (blank_newLine depth)

theorem writesItems_pretty (depth : ℕ) (first : Bool) :
    ∀ vs : List Value, WritesItems first vs (Value.prettyItems depth first vs)
  | [] => .nil
  | v :: vs => by
      rw [Value.prettyItems]
      exact .cons (blank_newLine depth) (writes_pretty depth v) (writesItems_pretty depth false vs)

theorem writesMembers_pretty (depth : ℕ) (first : Bool) :
    ∀ ms : List (String × Value), WritesMembers first ms (Value.prettyMembers depth first ms)
  | [] => .nil
  | (k, v) :: ms => by
      have hspace : Blank [' '] := by simp [Blank, isBlank]
      have h : WritesMembers first ((k, v) :: ms) _ :=
        .cons (blank_newLine depth) hspace (writes_pretty depth v)
          (writesMembers_pretty depth false ms)
      simp only [List.append_assoc, List.cons_append, List.nil_append] at h
      simp only [Value.prettyMembers, List.append_assoc, List.cons_append]
      exact h

end

/-! ### First characters -/

/-- A character that a number starts with. -/
def StartsNumber (text : List Char) : Prop :=
  ∃ c rest, text = c :: rest ∧ (c = '-' ∨ c.isDigit = true)

theorem startsNumber_of_digit {c : Char} (h : c.isDigit = true) (rest : List Char) :
    StartsNumber (c :: rest) := ⟨c, rest, rfl, .inr h⟩

theorem StartsNumber.append {text : List Char} (h : StartsNumber text) (rest : List Char) :
    StartsNumber (text ++ rest) := by
  obtain ⟨c, tail, rfl, hc⟩ := h
  exact ⟨c, tail ++ rest, rfl, hc⟩

theorem startsNumber_toString (n : ℕ) : StartsNumber (toString n).toList := by
  show StartsNumber n.repr.toList
  rw [Nat.toList_repr]
  obtain ⟨c, rest, hdigits⟩ := List.exists_cons_of_ne_nil (Nat.toDigits_ne_nil (n := n) (b := 10))
  have hc : c.isDigit = true :=
    Nat.isDigit_of_mem_toDigits (b := 10) (n := n) (by decide) (by decide) (by simp [hdigits])
  rw [hdigits]
  exact startsNumber_of_digit hc rest

theorem StartsNumber.take {text : List Char} (h : StartsNumber text) {n : ℕ} (hn : 0 < n) :
    StartsNumber (text.take n) := by
  obtain ⟨c, tail, rfl, hc⟩ := h
  obtain ⟨m, rfl⟩ := Nat.exists_eq_succ_of_ne_zero (Nat.pos_iff_ne_zero.mp hn)
  exact ⟨c, tail.take m, rfl, hc⟩

theorem startsNumber_positional (tail : String) (d : Double.Decimal) :
    StartsNumber (d.positional tail).toList := by
  unfold Double.Decimal.positional
  have hdigits := startsNumber_toString d.digits
  simp only
  split_ifs with h₁ h₂
  · simpa using hdigits.append _
  · simpa using (hdigits.take (Nat.sub_pos_of_lt h₂)).append _
  · simpa using startsNumber_of_digit (c := '0') rfl _

theorem startsNumber_exponential (d : Double.Decimal) :
    StartsNumber (exponential d).toList := by
  unfold exponential
  simp only [String.toList_append, String.toList_ofList, List.append_assoc]
  exact ((startsNumber_toString d.digits).take Nat.one_pos).append _

theorem startsNumber_finiteText (x : Float) : StartsNumber (finiteText x).toList := by
  have hsigned (negative : Bool) (text : String) (h : StartsNumber text.toList) :
      StartsNumber (Double.signed negative text).toList := by
    cases negative with
    | false => exact h
    | true => exact ⟨'-', text.toList, by simp [Double.signed], .inl rfl⟩
  unfold finiteText
  simp only
  split_ifs
  · exact hsigned _ _ (by simpa using startsNumber_of_digit (c := '0') rfl _)
  · exact hsigned _ _ (startsNumber_positional _ _)
  · exact hsigned _ _ (startsNumber_exponential _)

/-- A text whose first character is neither a blank nor the end of a list. -/
def Opens (text : List Char) : Prop :=
  ∃ c rest, text = c :: rest ∧ isBlank c = false ∧ c ≠ ']'

theorem notBlank_of_startsNumber {c : Char} (h : c = '-' ∨ c.isDigit = true) :
    isBlank c = false ∧ c ≠ ']' := by
  obtain rfl | h := h
  · decide
  · have hne (d : Char) (hd : d.isDigit = false) : c ≠ d := by
      rintro rfl
      rw [hd] at h
      cases h
    exact ⟨by simp [isBlank, hne ' ' rfl, hne '\n' rfl, hne '\t' rfl, hne '\r' rfl], hne ']' rfl⟩

theorem StartsNumber.opens {text : List Char} (h : StartsNumber text) : Opens text := by
  obtain ⟨c, rest, rfl, hc⟩ := h
  exact ⟨c, rest, rfl, notBlank_of_startsNumber hc⟩

theorem Writes.opens {v : Value} {text : List Char} (h : Writes v text) : Opens text := by
  cases h with
  | list => exact ⟨'[', _, rfl, rfl, by decide⟩
  | object => exact ⟨'\x7b', _, rfl, rfl, by decide⟩
  | scalar hscalar =>
      cases v with
      | null => exact ⟨'n', _, rfl, rfl, by decide⟩
      | bool b =>
          cases b with
          | true => exact ⟨'t', _, rfl, rfl, by decide⟩
          | false => exact ⟨'f', _, rfl, rfl, by decide⟩
      | count n => exact (startsNumber_toString n).opens
      | number x =>
          rw [Value.scalarText, Value.numberText]
          split_ifs
          · exact (startsNumber_finiteText x).opens
          · exact ⟨'n', _, rfl, rfl, by decide⟩
      | text s => exact ⟨'"', _, rfl, rfl, by decide⟩
      | list items => cases hscalar
      | object members => cases hscalar

theorem WritesItems.length_le {first : Bool} {items : List Value} {body : List Char}
    (h : WritesItems first items body) : items.length ≤ body.length := by
  induction items generalizing first body with
  | nil => exact Nat.zero_le _
  | cons v vs ih =>
      cases h with
      | cons _ hv hvs =>
          obtain ⟨c, rest, rfl, _⟩ := hv.opens
          have := ih hvs
          simp only [List.length_append, List.length_cons]
          omega

theorem WritesMembers.length_le {first : Bool} {members : List (String × Value)}
    {body : List Char} (h : WritesMembers first members body) : members.length ≤ body.length := by
  induction members generalizing first body with
  | nil => exact Nat.zero_le _
  | cons m ms ih =>
      cases h with
      | cons _ _ hv hms =>
          obtain ⟨c, rest, rfl, _⟩ := hv.opens
          have := ih hms
          simp only [List.length_append, List.length_cons]
          omega

end GlobeView.Json
