import GlobeView.Page.HostJson
import GlobeView.Proofs.ControllerTraces
import GlobeView.Proofs.JsonReading
import GlobeView.Proofs.LogReplay
import GlobeView.Proofs.SessionRuns

/-! # Data from a page

A page replaces the data of a globe by texts, and there is one function for each `Setting`.  What
they have in common is that a text is read to an `Edit` first and that an edit changes the globe at
once (`Setting.set_eq`): a call that fails changes nothing, and one that does not changes the lists
it is about.

A scene may leave out lists.  Which ones its text gives is what the same reader notes while it reads
them (`Json.notes_record`).

A new list of markers is looked at for the marker under the pointer, which may change the hover and
the log; everything else of a controller stays as it is (`Edit.apply_eq`). -/

namespace GlobeView

/-! ### Edits -/

namespace Edit

variable {σ α : Type}

/-- A scene with the lists of an edit in place of its own. -/
def replaced (s : Scene α) : Edit α → Scene α
  | .scene new => new
  | .markers new => { s with markers := new }
  | .connections new => { s with connections := new }
  | .heat new => { s with heat := new }

/-- Whether an edit brings new markers. -/
def replacesMarkers : Edit α → Bool
  | .scene _ | .markers _ => true
  | .connections _ | .heat _ => false

variable [Scalar α]

/-- What an edit does to a globe. -/
def apply : Edit α → Controller σ α → Controller σ α
  | .scene new, c => c.setScene new
  | .markers new, c => c.setMarkers new
  | .connections new, c => c.setConnections new
  | .heat new, c => c.setHeat new

/-- The hovered marker after an edit. -/
def hoverAfter (edit : Edit α) (c : Controller σ α) : Option (MarkerHit α) :=
  if edit.replacesMarkers then { c with scene := edit.replaced c.scene }.freshHover else c.hover

theorem hoverAfter_of_quiet {edit : Edit α} (h : edit.replacesMarkers = false)
    (c : Controller σ α) : edit.hoverAfter c = c.hover := by
  rw [hoverAfter, h, if_neg Bool.false_ne_true]

theorem apply_eq (edit : Edit α) (c : Controller σ α) :
    edit.apply c =
      { c with
        scene := edit.replaced c.scene
        hover := edit.hoverAfter c
        log := c.log.emitAll (c.hoverChange (edit.hoverAfter c)) } := by
  have hquiet : c.log.emitAll (c.hoverChange c.hover) = c.log := by
    rw [← Controller.hoverLog_eq, Controller.hoverLog, if_pos rfl]
  cases edit with
  | scene new =>
      simp only [apply, Controller.setScene, Controller.refreshHover_eq, Controller.setHover_eq,
        Controller.hoverLog_eq]
      rfl
  | markers new =>
      simp only [apply, Controller.setMarkers, Controller.refreshHover_eq, Controller.setHover_eq,
        Controller.hoverLog_eq]
      rfl
  | connections new =>
      show _ = { c with log := c.log.emitAll (c.hoverChange c.hover), scene := _ }
      rw [hquiet]
      rfl
  | heat new =>
      show _ = { c with log := c.log.emitAll (c.hoverChange c.hover), scene := _ }
      rw [hquiet]
      rfl

end Edit

/-! ### Fields that a text gives -/

namespace Json

variable {ρ β : Type}

namespace RecordField

/-- A field that only notes that it was read. -/
def noted (f : RecordField ρ) : RecordField (List String) where
  name := f.name
  required := f.required
  read := fun cs => match f.read cs with
    | .ok (_, rest) => .ok ((f.name :: ·), rest)
    | .error e => .error e

/-- A field leaves a part of a record as it is, unless it is the one that is called `key`. -/
def Owns (key : String) (part : ρ → β) (f : RecordField ρ) : Prop :=
  f.name ≠ key →
    ∀ cs put rest, f.read cs = .ok (put, rest) → ∀ record, part (put record) = part record

theorem owns_of {γ : Type} {name key : String} {required : Bool} {r : Reader γ}
    {put : γ → ρ → ρ} {part : ρ → β}
    (h : name ≠ key → ∀ v record, part (put v record) = part record) :
    (of name required r put).Owns key part := by
  intro hname cs fill rest hread record
  simp only [of] at hread
  split at hread <;> simp only [Except.ok.injEq, Prod.mk.injEq, reduceCtorEq] at hread
  rw [← hread.1]
  exact h hname _ _

end RecordField

variable {fields : List (RecordField ρ)}

theorem find?_noted (key : String) :
    (fields.map RecordField.noted).find? (·.name == key) =
      (fields.find? (·.name == key)).map .noted := by
  rw [List.find?_map]
  rfl

theorem find?_missing_noted (seen : List String) :
    ((fields.map RecordField.noted).find? fun f => f.required && !seen.contains f.name) =
      (fields.find? fun f => f.required && !seen.contains f.name).map .noted := by
  rw [List.find?_map]
  rfl

/-- What reading a record tells about the names of the fields that the text gives: noting them
instead reads the text as well, and a part of the record whose field is not among them stays as it
was. -/
def Notes (fields : List (RecordField ρ)) (r : Reader ρ) (note : Reader (List String))
    (names : List String) (before : ρ) : Prop :=
  ∀ cs after rest, r cs = .ok (after, rest) →
    ∃ given, note cs = .ok (given, rest) ∧ names ⊆ given ∧
      ∀ {β : Type} (key : String) (part : ρ → β), (∀ f ∈ fields, f.Owns key part) →
        key ∉ given → part after = part before

theorem notes_members (fuel : ℕ) (first : Bool) (seen names : List String) (record : ρ) :
    Notes fields (members fields fuel first seen record)
      (members (fields.map .noted) fuel first seen names) names record := by
  induction fuel generalizing first seen names record with
  | zero => exact fun _ _ _ h => nomatch h
  | succ fuel ih =>
      intro cs after rest h
      simp only [members, find?_noted, find?_missing_noted] at h ⊢
      cases hkey : nextKey first cs with
      | error e => simp only [hkey, reduceCtorEq] at h
      | ok next =>
        obtain ⟨name?, tail⟩ := next
        simp only [hkey] at h ⊢
        cases name? with
        | none =>
            cases hmissing : fields.find? fun f => f.required && !seen.contains f.name with
            | some f => simp only [hmissing, reduceCtorEq] at h
            | none =>
                simp only [hmissing, Except.ok.injEq, Prod.mk.injEq] at h
                obtain ⟨rfl, rfl⟩ := h
                exact ⟨names, rfl, List.Subset.refl _, fun _ _ _ _ => rfl⟩
        | some name =>
            cases hfield : fields.find? (·.name == name) with
            | none =>
                simp only [hfield] at h
                obtain ⟨tail, hcolon, h⟩ := bind_ok h
                obtain ⟨⟨skipped, tail'⟩, hskip, h⟩ := bind_ok h
                simp only [hfield, Option.map_none, hcolon, hskip, bind, Except.bind]
                exact ih _ _ _ _ _ _ _ h
            | some f =>
                simp only [hfield] at h
                split at h
                · cases h
                rename_i hseen
                obtain ⟨tail, hcolon, h⟩ := bind_ok h
                obtain ⟨⟨put, tail'⟩, hread, h⟩ := bind_ok h
                obtain ⟨given, hgiven, hsub, hpart⟩ := ih _ _ (f.name :: names) _ _ _ _ h
                refine ⟨given, ?_, fun n hn => hsub (List.mem_cons_of_mem _ hn), ?_⟩
                · simpa only [hfield, Option.map_some, hseen, Bool.false_eq_true, if_false, hcolon,
                    hread, bind, Except.bind, RecordField.noted] using hgiven
                · intro β key part howns hkey'
                  have hname : f.name ≠ key := fun heq => hkey' (hsub (heq ▸ List.mem_cons_self))
                  exact (hpart key part howns hkey').trans
                    (howns f (List.mem_of_find?_eq_some hfield) hname _ _ _ hread _)

theorem notes_positional (first : Bool) (names : List String) (record : ρ) :
    Notes fields (positional fields first record)
      (positional (fields.map .noted) first names) names record := by
  induction fields generalizing first names record with
  | nil =>
      intro cs after rest h
      simp only [List.map_nil, positional] at h ⊢
      cases hend : endList cs with
      | error e => simp only [hend, Except.map, reduceCtorEq] at h
      | ok tail =>
          simp only [hend, Except.map, Except.ok.injEq, Prod.mk.injEq] at h ⊢
          obtain ⟨rfl, rfl⟩ := h
          exact ⟨names, ⟨rfl, rfl⟩, List.Subset.refl _, fun _ _ _ _ => rfl⟩
  | cons f fs ih =>
      intro cs after rest h
      simp only [List.map_cons, positional] at h ⊢
      cases hnext : nextElement first cs with
      | error e => simp only [hnext, reduceCtorEq] at h
      | ok next =>
        obtain ⟨more, tail⟩ := next
        simp only [hnext] at h ⊢
        cases more with
        | false =>
            cases hrequired : f.required with
            | true => simp only [hrequired, if_true, reduceCtorEq] at h
            | false =>
                simp only [hrequired, Bool.false_eq_true, if_false] at h
                simp only [RecordField.noted, hrequired, Bool.false_eq_true, if_false]
                obtain ⟨given, hgiven, hsub, hpart⟩ := ih _ names _ _ _ _ h
                exact ⟨given, hgiven, hsub, fun key part howns =>
                  hpart key part fun f hf => howns f (List.mem_cons_of_mem _ hf)⟩
        | true =>
            cases hread : f.read tail with
            | error e => simp only [hread, reduceCtorEq] at h
            | ok value =>
                obtain ⟨put, tail'⟩ := value
                simp only [hread] at h
                simp only [RecordField.noted, hread]
                obtain ⟨given, hgiven, hsub, hpart⟩ := ih _ (f.name :: names) _ _ _ _ h
                refine ⟨given, hgiven, fun n hn => hsub (List.mem_cons_of_mem _ hn), ?_⟩
                intro β key part howns hkey
                have hname : f.name ≠ key := fun heq => hkey (hsub (heq ▸ List.mem_cons_self))
                exact (hpart key part (fun f hf => howns f (List.mem_cons_of_mem _ hf)) hkey).trans
                  (howns f List.mem_cons_self hname _ _ _ hread _)

/-- Parts of a record that the text does not give are those of the blank one. -/
theorem notes_record (blank : ρ) :
    Notes fields (record fields blank) (record (fields.map .noted) []) [] blank := by
  intro cs after rest h
  simp only [record] at h ⊢
  split at h
  · cases h
  · split_ifs at h ⊢
    · simpa only [*] using notes_members _ _ _ _ _ _ _ _ h
    · exact notes_positional _ _ _ _ _ _ h

end Json

/-! ### Scenes with missing lists -/

namespace Scene

/-- The names of the lists that a text for a scene gives. -/
def given (text : String) : Except Json.Fault (List String) :=
  Json.parse (Json.record (fields.map .noted) []) text

/-- The lists that a text does not give are empty. -/
theorem ofJson_given {text : String} {s : Scene Float} (h : ofJson text = .ok s) :
    ∃ names, given text = .ok names ∧ ("markers" ∉ names → s.markers = []) ∧
      ("connections" ∉ names → s.connections = []) ∧ ("heatmapPoints" ∉ names → s.heat = []) := by
  obtain ⟨rest, hread, hend⟩ := Json.parse_ok.mp h
  obtain ⟨names, hnames, -, hpart⟩ := Json.notes_record _ _ _ _ hread
  refine ⟨names, Json.parse_ok.mpr ⟨rest, hnames, hend⟩, hpart "markers" markers ?_,
    hpart "connections" connections ?_, hpart "heatmapPoints" heat ?_⟩
  all_goals
    simp only [fields, List.forall_mem_cons, List.not_mem_nil, false_imp_iff, implies_true,
      and_true]
    exact ⟨Json.RecordField.owns_of (by simp), Json.RecordField.owns_of (by simp),
      Json.RecordField.owns_of (by simp)⟩

/-- Unknown members are no lists, and a scene may be a list itself. -/
example :
    given "\x7b \"more\": 1, \"connections\": [] \x7d" = .ok ["connections"] ∧
      given "[[], []]" = .ok ["connections", "markers"] := by
  decide +kernel

end Scene

/-! ### Settings -/

namespace Host

/-- A kind of data that a page replaces by a text. -/
inductive Setting where
  | scene
  | markers
  | connections
  | heat
deriving DecidableEq, Repr

namespace Setting

variable {σ : Type}

/-- Whether a kind of data includes the markers. -/
def bringsMarkers : Setting → Bool
  | .scene | .markers => true
  | .connections | .heat => false

/-- Reads the text for a kind of data. -/
def read (text : String) : Setting → Except HostError (Edit Float)
  | .scene => ((Scene.ofJson text).mapError .scene).map .scene
  | .markers => (readList Marker.reader text).map .markers
  | .connections => (readList Connection.reader text).map .connections
  | .heat => (readList HeatPoint.reader text).map .heat

/-- Replaces a kind of data by a text. -/
def set (text : String) : Setting → Host σ Float → Except HostError Unit × Host σ Float
  | .scene => setSceneText text
  | .markers => setMarkersText text
  | .connections => setConnectionsText text
  | .heat => setHeatText text

theorem supply_map {β : Type} (value : Except HostError β) (edit : β → Edit Float)
    (h : Host σ Float) :
    supply (value.map edit) Edit.apply h = supply value (fun v => (edit v).apply) h := by
  cases value <;> rfl

theorem set_eq (setting : Setting) (text : String) (h : Host σ Float) :
    setting.set text h =
      match setting.read text, h.globe with
      | .error e, _ => (.error e, h)
      | .ok _, none => (.error .notMounted, h)
      | .ok edit, some g =>
        (.ok (), { h with globe := some { g with controller := edit.apply g.controller } }) := by
  have hsupply : setting.set text h = supply (setting.read text) Edit.apply h := by
    cases setting <;> simp only [set, read, supply_map] <;> rfl
  rw [hsupply]
  cases setting.read text with
  | error e => rfl
  | ok edit => cases hg : h.globe <;> simp only [supply, modifyController, hg]

/-- The kind of data that an edit is about. -/
def ofEdit : Edit Float → Setting
  | .scene _ => .scene
  | .markers _ => .markers
  | .connections _ => .connections
  | .heat _ => .heat

theorem ofEdit_read {setting : Setting} {text : String} {edit : Edit Float}
    (h : setting.read text = .ok edit) : ofEdit edit = setting := by
  have hmap {β : Type} {value : Except HostError β} {f : β → Edit Float}
      (hf : ∀ v, ofEdit (f v) = setting) (h : value.map f = .ok edit) : ofEdit edit = setting := by
    cases value with
    | error e => cases h
    | ok v =>
        cases h
        exact hf v
  cases setting <;> exact hmap (fun _ => rfl) h

theorem replacesMarkers_read {setting : Setting} {text : String} {edit : Edit Float}
    (h : setting.read text = .ok edit) : edit.replacesMarkers = setting.bringsMarkers := by
  rw [← ofEdit_read h]
  cases edit <;> rfl

end Setting

variable {σ : Type}

/-- **A text for a globe is taken as a whole or not at all.**  A call that fails changes nothing; it
fails exactly if the text cannot be read or there is no globe.  A call that does not fail replaces
the lists of its kind by those of the text and leaves the page and everything else of the globe as
it is, except that new markers are looked at for the one under the pointer: the hover becomes that
one, and what changes of it is logged.  A scene replaces all lists, and those that the text does not
give are empty. -/
theorem set_atomic (setting : Setting) (text : String) (h : Host σ Float) :
    (∀ e h', setting.set text h = (.error e, h') → h' = h) ∧
    ((∃ h', setting.set text h = (.ok (), h')) ↔
      h.isMounted = true ∧ ∃ edit, setting.read text = .ok edit) ∧
    (∀ h', setting.set text h = (.ok (), h') →
      ∃ g edit, h.globe = some g ∧ setting.read text = .ok edit ∧ Setting.ofEdit edit = setting ∧
        let c := g.controller
        let hover := edit.hoverAfter c
        let log := c.log.emitAll (c.hoverChange hover)
        h' =
          { h with
            globe := some
              { g with
                controller :=
                  { c with scene := edit.replaced c.scene, hover := hover, log := log } } } ∧
        (setting.bringsMarkers = false → hover = c.hover ∧ log = c.log)) ∧
    ∀ s, Setting.scene.read text = .ok (.scene s) →
      ∃ names, Scene.given text = .ok names ∧ ("markers" ∉ names → s.markers = []) ∧
        ("connections" ∉ names → s.connections = []) ∧ ("heatmapPoints" ∉ names → s.heat = []) := by
  have hset := Setting.set_eq setting text h
  refine ⟨?_, ?_, ?_, ?_⟩
  · intro e h' hfail
    rw [hset] at hfail
    split at hfail <;> cases hfail <;> rfl
  · rw [hset, isMounted]
    cases setting.read text <;> cases h.globe <;> simp
  · intro h' hdone
    rw [hset] at hdone
    split at hdone
    · cases hdone
    · cases hdone
    rename_i edit g hread hg
    refine ⟨g, edit, hg, hread, Setting.ofEdit_read hread, ?_, ?_⟩
    · rw [← Edit.apply_eq]
      exact (congrArg Prod.snd hdone).symm
    · intro hquiet
      have hhover := Edit.hoverAfter_of_quiet
        ((Setting.replacesMarkers_read hread).trans hquiet) g.controller
      rw [hhover, Controller.hoverChange_self]
      exact ⟨rfl, rfl⟩
  · intro s hread
    refine Scene.ofJson_given (s := s) ?_
    cases hs : Scene.ofJson text with
    | error fault => simp [Setting.read, hs, Except.mapError, Except.map] at hread
    | ok s' =>
        simp only [Setting.read, hs, Except.mapError, Except.map, Except.ok.injEq,
          Edit.scene.injEq] at hread
        rw [hread]

/-- A text that ends too soon, and a scene without markers and heat points. -/
theorem set_atomic_connections :
    let g : MountedGlobe Unit Float :=
      { element := "g"
        controller := .create .default ()
        clock := .idle
        callback := 0
        observer := 0
        sphere := 0
        overlay := 1 }
    let h : Host Unit Float :=
      { page := { elements := [], displayClock := 0, wallClock := 0 }, globe := some g }
    let short := "[[35.7, 139.7"
    let text :=
      "\x7b \"connections\": [\x7b \"start\": [0, 0], \"end\": [48.9, 2.4] \x7d] \x7d"
    let scene : Scene Float := { Scene.empty with connections := [⟨⟨0, 0⟩, ⟨48.9, 2.4⟩⟩] }
    Setting.markers.set short h = (.error (.data .invalidType), h) ∧
      ∃ h', Setting.scene.set text h = (.ok (), h') ∧
        h'.globe.map (·.controller.scene) = some scene := by
  intro g h short text scene
  have hshort : (Setting.markers.set short h).1 = .error (.data .invalidType) := by decide +kernel
  have hread : Setting.scene.read text = .ok (.scene scene) := by
    have hjson : Scene.ofJson text = .ok scene := by decide +kernel
    rw [Setting.read, hjson]
    rfl
  constructor
  · have hsame := (set_atomic .markers short h).1 _ _ (Prod.ext hshort rfl)
    exact Prod.ext hshort hsame
  · obtain ⟨-, hok, hdone, -⟩ := set_atomic .scene text h
    obtain ⟨h', hset⟩ := hok.mpr ⟨rfl, _, hread⟩
    obtain ⟨g', edit, hg, hread', -, rfl, -⟩ := hdone h' hset
    rw [hread] at hread'
    cases hread'
    exact ⟨_, hset, rfl⟩

end Host
end GlobeView
