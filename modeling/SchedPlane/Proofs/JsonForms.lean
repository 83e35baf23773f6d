/-
SchedPlane/Proofs/JsonForms.lean

Every JSON form is read back as the value it was written from.

`LawfulForm` says of a form that writing its values loses nothing and that reading gives them
back.  It is shown for the basic forms first, then for records and variants by what they are made
of: a record finds its columns again because its names differ (`columns?_record`), a variant its
tag (`adjacent?_record`, `internal?_record`).

Main result: `forms_roundTrip`.
-/
import SchedPlane.Json.Forms
import SchedPlane.Proofs.JsonText

namespace SchedPlane

open Json (record str Writable WritableItems WritableFields)

/-- Writing loses nothing of a form's values, and reading gives them back. -/
class LawfulForm (α : Type) [Form α] : Prop where
  writable (x : α) : Writable (toJson x)
  as?_toJson (x : α) : (toJson x).as? α = some x

export LawfulForm (writable as?_toJson)

attribute [simp] LawfulForm.writable LawfulForm.as?_toJson

/-! ### Basic forms -/

@[simp] theorem Json.writable_str (s : String) : Writable (str s) :=
  rfl

instance : LawfulForm String where
  writable := Json.writable_str
  as?_toJson _ := rfl

/-- A text is never null, so it is told from its absence. -/
instance : LawfulForm (Option String) where
  writable s := by cases s <;> trivial
  as?_toJson s := by cases s <;> rfl

instance : LawfulForm Bool where
  writable _ := trivial
  as?_toJson _ := rfl

instance : LawfulForm Int32 where
  writable x := by
    have low := x.le_toInt
    have high := x.toInt_lt
    show x.toInt.natAbs < 2 ^ 64
    omega
  as?_toJson x := by
    have low := x.le_toInt
    have high := x.toInt_lt
    have fits : -2147483648 ≤ x.toInt ∧ x.toInt ≤ 2147483647 := by omega
    simp [Json.as?, Form.ofJson?, toJson, fits]

/-- A natural below a bound is read back. -/
theorem Json.natBelow?_nat {n bound : Nat} (small : n < bound) :
    (Json.nat n).natBelow? bound = some n := by
  simp [Json.nat, Json.natBelow?, small]

instance : LawfulForm UInt8 where
  writable x := Nat.lt_trans x.toNat_lt (by decide)
  as?_toJson x := by
    have small : x.toNat < UInt8.size := x.toNat_lt
    simp [Json.as?, Form.ofJson?, toJson, Json.natBelow?_nat small]

instance : LawfulForm UInt32 where
  writable x := Nat.lt_trans x.toNat_lt (by decide)
  as?_toJson x := by
    have small : x.toNat < UInt32.size := x.toNat_lt
    simp [Json.as?, Form.ofJson?, toJson, Json.natBelow?_nat small]

instance : LawfulForm UInt64 where
  writable x := x.toNat_lt
  as?_toJson x := by
    have small : x.toNat < UInt64.size := x.toNat_lt
    simp [Json.as?, Form.ofJson?, toJson, Json.natBelow?_nat small]

theorem writableItems_of_forall {items : List Json} (each : ∀ j ∈ items, Writable j) :
    WritableItems items := by
  induction items with
  | nil => trivial
  | cons j items ih =>
    exact ⟨each j List.mem_cons_self, ih fun j mem => each j (List.mem_cons_of_mem _ mem)⟩

instance {α : Type} [Form α] [LawfulForm α] : LawfulForm (List α) where
  writable xs := by
    refine writableItems_of_forall fun j mem => ?_
    obtain ⟨x, -, rfl⟩ := List.mem_map.mp mem
    exact writable x
  as?_toJson xs := by
    show (xs.map toJson).mapM (Json.as? α) = some xs
    induction xs with
    | nil => rfl
    | cons x xs ih => simp [ih]

/-! ### Records -/

theorem writable_record {fields : List (String × Json)} (each : ∀ f ∈ fields, Writable f.2) :
    Writable (record fields) := by
  show WritableFields (fields.map fun f => (some f.1, f.2))
  induction fields with
  | nil => trivial
  | cons f fields ih =>
    exact ⟨rfl, each f List.mem_cons_self, ih fun f mem => each f (List.mem_cons_of_mem _ mem)⟩

namespace Json

variable {fields : List (String × Json)} {tag content name : String} {j : Json}

/-- The fields of a record as reading yields them. -/
def entries (fields : List (String × Json)) : List (Option String × Json) :=
  fields.map fun f => (some f.1, f.2)

theorem named_entries (name : String) (fields : List (String × Json)) :
    named name (entries fields) = (fields.filter fun f => f.1 == name).map Prod.snd := by
  simp [named, entries, List.filter_map, Function.comp_def]

theorem filter_of_absent (absent : name ∉ fields.map Prod.fst) :
    (fields.filter fun f => f.1 == name) = [] := by
  refine List.filter_eq_nil_iff.mpr fun f mem same => absent ?_
  exact beq_iff_eq.mp same ▸ List.mem_map_of_mem mem

/-- A field is found by its name, if no other field has it. -/
theorem named_of_mem (distinct : (fields.map Prod.fst).Nodup) (mem : (name, j) ∈ fields) :
    named name (entries fields) = [j] := by
  rw [named_entries]
  induction fields with
  | nil => cases mem
  | cons f fields ih =>
    obtain ⟨fresh, distinct⟩ := List.nodup_cons.mp distinct
    rcases List.mem_cons.mp mem with rfl | later
    · simp [filter_of_absent fresh]
    · have other : f.1 ≠ name := by
        rintro rfl
        exact fresh (List.mem_map.mpr ⟨_, later, rfl⟩)
      simpa [other] using ih distinct later

/-- In a record whose names are distinct a name leads to its field. -/
theorem pick?_of_mem (distinct : (fields.map Prod.fst).Nodup) (mem : (name, j) ∈ fields) :
    pick? (entries fields) name = some (some j) := by
  rw [pick?, named_of_mem distinct mem]

/-- Some of a record's columns. -/
theorem mapM_pick? (distinct : (fields.map Prod.fst).Nodup) {part : List (String × Json)}
    (mem : part ⊆ fields) :
    (part.map Prod.fst).mapM (pick? (entries fields)) = some (part.map fun f => some f.2) := by
  induction part with
  | nil => rfl
  | cons f part ih =>
    have found := pick?_of_mem distinct (mem List.mem_cons_self)
    have later := ih fun g g_mem => mem (List.mem_cons_of_mem f g_mem)
    simp [found, later]

/-- The columns of a record are its fields, since their names differ. -/
theorem keyed?_entries {names : List String} (named : fields.map Prod.fst = names)
    (distinct : names.Nodup) :
    keyed? names (entries fields) = some (fields.map fun f => some f.2) := by
  subst named
  unfold keyed?
  rw [if_pos (by simp [entries]), mapM_pick? distinct (List.Subset.refl fields)]

theorem columns?_record {names : List String} (named : fields.map Prod.fst = names)
    (distinct : names.Nodup) :
    (record fields).columns? names = some (fields.map fun f => some f.2) :=
  keyed?_entries named distinct

theorem objectColumns?_record {names : List String} (named : fields.map Prod.fst = names)
    (distinct : names.Nodup) :
    (record fields).objectColumns? names = some (fields.map fun f => some f.2) :=
  keyed?_entries named distinct

/-! ### Variants -/

/-- A tag is read with the payload beside it. -/
theorem adjacent?_record (differ : tag ≠ content) :
    (record [(tag, str name), (content, j)]).adjacent? tag content = some (name, some j) := by
  simp [adjacent?, record, keyed?, pick?, named, str, variantName?, differ, differ.symm]

/-- A bare tag stands for a case without content. -/
theorem adjacent?_record_bare (differ : tag ≠ content) :
    (record [(tag, str name)]).adjacent? tag content = some (name, none) := by
  simp [adjacent?, record, keyed?, pick?, named, str, variantName?, differ]

/-- A tag is read with the fields beside it, if they can be kept until it is known. -/
theorem internal?_record (absent : tag ∉ fields.map Prod.fst)
    (kept : keepableFields keepDepth (entries fields) = true) :
    (record ((tag, str name) :: fields)).internal? tag = some (name, record fields) := by
  have tagged : keyed? [tag] (entries ((tag, str name) :: fields)) = some [some (str name)] := by
    have first : named tag (entries ((tag, str name) :: fields)) = [str name] := by
      simp [named_entries, filter_of_absent absent]
    simp [keyed?, entries, pick?] at first ⊢
    simp [first]
  have rest : (entries ((tag, str name) :: fields)).filter (fun f => f.1 != some tag) =
      entries fields := by
    have others : ∀ f ∈ entries fields, (f.1 != some tag) = true := by
      intro f mem
      obtain ⟨g, g_mem, rfl⟩ := List.mem_map.mp mem
      have other : g.1 ≠ tag := fun same => absent (same ▸ List.mem_map_of_mem g_mem)
      simpa using other
    rw [entries, List.map_cons, List.filter_cons_of_neg (by simp)]
    exact List.filter_eq_self.mpr others
  show (obj (entries ((tag, str name) :: fields))).internal? tag = _
  simp only [internal?, tagged, rest, Option.bind_eq_bind, Option.bind_some]
  simp only [str, kept, if_true]
  rfl

end Json

open Json (columns?_record adjacent?_record adjacent?_record_bare internal?_record)

/-! ### Records of the wire -/

instance : LawfulForm Task where
  writable t := writable_record (by simp)
  as?_toJson t := by
    show Form.ofJson? (record _) = _
    simp [Form.ofJson?, columns?_record]

instance : LawfulForm Relation where
  writable r := writable_record (by simp)
  as?_toJson r := by
    show Form.ofJson? (record _) = _
    simp [Form.ofJson?, columns?_record]

instance : LawfulForm Decision where
  writable d := writable d.bytes
  as?_toJson d := by
    show ((toJson d.bytes).as? (List UInt8)).map Decision.mk = some d
    simp

instance : LawfulForm ExitEvent where
  writable e := writable e.bytes
  as?_toJson e := by
    show ((toJson e.bytes).as? (List UInt8)).map ExitEvent.mk = some e
    simp

/-! ### Kinds, states and selections -/

instance : LawfulForm MapKind where
  writable k := by
    cases k with
    | other raw => exact writable_record (by simp)
    | _ => rfl
  as?_toJson k := by
    cases k with
    | other raw =>
      show ((toJson raw).as? UInt32).map MapKind.other = _
      simp
    | _ => rfl

instance : LawfulForm ProgramKind where
  writable k := by cases k <;> rfl
  as?_toJson k := by cases k <;> rfl

instance : LawfulForm Lifecycle where
  writable s := by cases s <;> rfl
  as?_toJson s := by cases s <;> rfl

instance : LawfulForm StateRegion where
  writable r := by cases r <;> rfl
  as?_toJson r := by cases r <;> rfl

instance : LawfulForm ResidencyPolicy where
  writable p := by cases p <;> rfl
  as?_toJson p := by cases p <;> rfl

instance : LawfulForm Selection where
  writable s := by
    cases s <;> exact writable_record (by simp)
  as?_toJson s := by
    cases s <;> show Form.ofJson? (record _) = _
    all_goals simp [Form.ofJson?, adjacent?_record, adjacent?_record_bare]

/-! ### Objects -/

instance : LawfulForm MapInfo where
  writable m := writable_record (by simp)
  as?_toJson m := by
    show Form.ofJson? (record _) = _
    simp [Form.ofJson?, columns?_record]

instance : LawfulForm ProgramInfo where
  writable p := writable_record (by simp)
  as?_toJson p := by
    show Form.ofJson? (record _) = _
    simp [Form.ofJson?, columns?_record]

instance : LawfulForm Registry where
  writable r := writable_record (by simp)
  as?_toJson r := by
    show Form.ofJson? (record _) = _
    simp [Form.ofJson?, columns?_record]

/-! ### Configuration and statistics -/

instance : LawfulForm Tuning where
  writable t := writable_record (by simp)
  as?_toJson t := by
    show Form.ofJson? (record _) = _
    simp [Form.ofJson?, columns?_record]

instance : LawfulForm Config where
  writable c := writable_record (by simp)
  as?_toJson c := by
    show Form.ofJson? (record _) = _
    simp [Form.ofJson?, columns?_record]

instance : LawfulForm ChannelStats where
  writable s := writable_record (by simp)
  as?_toJson s := by
    show Form.ofJson? (record _) = _
    simp [Form.ofJson?, columns?_record]

instance : LawfulForm CallStats where
  writable s := writable_record (by simp)
  as?_toJson s := by
    show Form.ofJson? (record _) = _
    simp [Form.ofJson?, columns?_record]

instance : LawfulForm CalloutStats where
  writable s := writable_record (by simp)
  as?_toJson s := by
    show Form.ofJson? (record _) = _
    simp [Form.ofJson?, columns?_record]

instance : LawfulForm SchedulerStats where
  writable s := writable_record (by simp)
  as?_toJson s := by
    show Form.ofJson? (record _) = _
    simp [Form.ofJson?, columns?_record]

/-! ### Errors -/

theorem Json.soleText?_record (name text : String) :
    (record [(name, toJson text)]).soleText? name = some text := by
  simp [soleText?, columns?_record]

instance : LawfulForm ObjectError where
  writable e := by
    cases e <;> exact writable_record (by simp [ObjectError.fields])
  as?_toJson e := by
    -- no field is named like the tag, and a text can be kept until the tag is known
    have tagged : (toJson e).internal? "error_type" = some (e.tag, record e.fields) := by
      refine internal?_record ?_ ?_
      · cases e <;> simp [ObjectError.fields]
      · cases e <;> rfl
    show Form.ofJson? (toJson e) = _
    simp only [Form.ofJson?, tagged]
    cases e <;> simp [ObjectError.tag, ObjectError.fields, Json.soleText?_record]
    all_goals rfl

theorem Json.soleField?_record {α : Type} [Form α] [LawfulForm α] (name : String) (x : α) :
    (record [(name, toJson x)]).soleField? α name = some x := by
  simp [soleField?, objectColumns?_record]

theorem Json.twoTexts?_record {first second : String} (differ : first ≠ second) (a b : String) :
    (record [(first, toJson a), (second, toJson b)]).twoTexts? first second = some (a, b) := by
  simp [twoTexts?, objectColumns?_record, differ]

instance : LawfulForm ControlError where
  writable e := by
    cases e <;> exact writable_record (by simp [writable_record])
  as?_toJson e := by
    cases e <;> show Form.ofJson? (record _) = _
    all_goals
      simp [Form.ofJson?, ControlError.tag, adjacent?_record, adjacent?_record_bare,
        Json.soleField?_record, Json.twoTexts?_record]

/-! ### Texts -/

/-- Every value is read back from its text. -/
def RoundTrips (α : Type) [Form α] : Prop :=
  ∀ x : α, (Json.parse? (Json.render (toJson x))).bind (Json.as? α) = some x

/-- Every lawful form survives its text: what is written is read back. -/
theorem LawfulForm.roundTrips (α : Type) [Form α] [LawfulForm α] : RoundTrips α := by
  intro x
  rw [Json.parse?_render (writable x), Option.bind_some, as?_toJson]

/-- **Every value survives its text.**  Tasks and decisions, states and policies, what an object
consists of, the configuration, all counters and both kinds of error: a value of any of these types
is read back from the text that is written for it. -/
theorem forms_roundTrip :
    (RoundTrips Task ∧ RoundTrips Relation ∧ RoundTrips Decision ∧ RoundTrips ExitEvent) ∧
    (RoundTrips MapKind ∧ RoundTrips ProgramKind ∧ RoundTrips Lifecycle ∧
      RoundTrips StateRegion ∧ RoundTrips ResidencyPolicy ∧ RoundTrips Selection) ∧
    (RoundTrips MapInfo ∧ RoundTrips ProgramInfo ∧ RoundTrips Registry) ∧
    (RoundTrips Tuning ∧ RoundTrips Config) ∧
    (RoundTrips ChannelStats ∧ RoundTrips CallStats ∧ RoundTrips CalloutStats ∧
      RoundTrips SchedulerStats) ∧
    RoundTrips ObjectError ∧ RoundTrips ControlError := by
  refine ⟨⟨?_, ?_, ?_, ?_⟩, ⟨?_, ?_, ?_, ?_, ?_, ?_⟩, ⟨?_, ?_, ?_⟩, ⟨?_, ?_⟩, ⟨?_, ?_, ?_, ?_⟩,
    ?_, ?_⟩
  all_goals exact LawfulForm.roundTrips _

end SchedPlane
