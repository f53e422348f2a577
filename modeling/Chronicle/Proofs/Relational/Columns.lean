import Chronicle.Proofs.Relational.EntityRows
import Chronicle.Proofs.Schema.Projection
import Mathlib.Algebra.Ring.Int.Defs

/-!
# Columns and the schema

The columns of a table bound what they hold: an integer by its width, a text by its length. The
schema of a kind bounds most attributes as closely as its table, so that their columns hold whatever
passes the schema. It leaves others open: the name of a demon, its position and in-game id, and the
ids of players and demons. A value of those that passes the schema may be too large for its column.

## Main definitions

* `ColumnType.Fits`, `Column.Fits` — the values that a column can hold.
* `Column.covers` — whether a column can hold all normal values of a type.
* `Kind.HasRoom` — the bounds of a table that its schema does not have.

## Main statements

* `Column.fits_of_covers` — normal values of a covered type fit.
* `validate_fits_iff` — which accepted attributes fit their columns.
* `longName_not_fits` — an accepted name that does not.
-/

namespace Chronicle

namespace Relational

/-! ## What columns can hold -/

/-- Whether an integer can be written in two's complement with a number of bits. -/
def FitsBits (bits : Nat) (n : Int) : Prop := -2 ^ (bits - 1) ≤ n ∧ n < 2 ^ (bits - 1)

instance (bits : Nat) (n : Int) : Decidable (FitsBits bits n) :=
  inferInstanceAs (Decidable (_ ∧ _))

/-- The bits of an integer type. -/
def ColumnType.bits? : ColumnType → Option Nat
  | smallInteger => some 16
  | integer => some 32
  | bigInteger => some 64
  | _ => none

/-- Whether a column of a type can hold a value. A reading is no value of an attribute. -/
def ColumnType.Fits : ColumnType → Value → Prop
  | boundedText most, .text s => s.length ≤ most
  | text, .text _ => True
  | label _ labels, .text s => s ∈ labels
  | document, .object _ => True
  | type, .int n => ∃ bits ∈ type.bits?, FitsBits bits n
  | _, _ => False

/-- Whether a column can hold a value: null where it may be null, else a value of its type. -/
def Column.Fits (c : Column) (v : Value) : Prop := c.nullable = true ∧ v = .null ∨ c.type.Fits v

theorem Column.fits_text {c : Column} {s : String} :
    c.Fits (.text s) ↔ c.type.Fits (.text s) := by
  simp [Fits]

theorem Column.fits_int {c : Column} {n : Int} {bits : Nat} (h : c.type.bits? = some bits) :
    c.Fits (.int n) ↔ FitsBits bits n := by
  have hfits : c.type.Fits (.int n) ↔ ∃ bits ∈ c.type.bits?, FitsBits bits n := by
    cases c.type <;> rfl
  simp [Fits, hfits, h]

/-! ## Types that a column covers -/

/-- Whether a column can hold all normal values of a type. -/
def Column.covers (c : Column) : FieldType → Bool
  | .integer (some least) (some most) =>
    c.type.bits?.any fun bits => decide (FitsBits bits least ∧ FitsBits bits most)
  | .text _ most? =>
    match c.type, most? with
    | .text, _ => true
    | .boundedText length, some most => most ≤ length
    | _, _ => false
  | .label labels =>
    match c.type with
    | .label _ known => labels.all known.contains
    | _ => false
  | .nullable type => c.nullable && c.covers type
  | .integer .. | .position _ => false

/-- A normal value of a type that a column covers fits the column. -/
theorem Column.fits_of_covers {c : Column} {type : FieldType} {v : Value}
    (h : c.covers type = true) (hv : type.Normal v) : c.Fits v := by
  induction type with
  | integer least? most? =>
    obtain ⟨n, rfl, hleast, hmost⟩ := hv
    cases least? with
    | none => cases h
    | some least =>
      cases most? with
      | none => cases h
      | some most =>
        obtain ⟨bits, hbits, hbounds⟩ := (Option.any_eq_true ..).1 h
        obtain ⟨hlow, hhigh⟩ := of_decide_eq_true hbounds
        have hle := hleast least rfl
        have hge := hmost most rfl
        exact (fits_int hbits).2 ⟨Int.le_trans hlow.1 hle, Int.lt_of_le_of_lt hge hhigh.2⟩
  | position => cases h
  | text least most? =>
    obtain ⟨s, rfl, -, hmost⟩ := hv
    unfold covers at h
    split at h
    · rename_i htype
      exact .inr (htype ▸ trivial)
    · rename_i length most htype
      have hlength : s.length ≤ length := Nat.le_trans (hmost most rfl) (of_decide_eq_true h)
      exact .inr (htype ▸ hlength)
    · cases h
  | label labels =>
    obtain ⟨s, hmem, rfl⟩ := hv
    unfold covers at h
    split at h
    · rename_i name known htype
      have hknown : s ∈ known := List.contains_iff_mem.1 (List.all_eq_true.1 h s hmem)
      exact .inr (htype ▸ hknown)
    · cases h
  | nullable type ih =>
    obtain ⟨hnullable, htype⟩ := Bool.and_eq_true_iff.1 h
    rcases hv with rfl | hv
    · exact .inl ⟨hnullable, rfl⟩
    · exact ih htype hv

end Relational

open Relational

/-- Whether the value of an attribute keeps to the bounds that the table of its kind has and the
schema has not. -/
def Kind.HasRoom : Kind → String → Value → Prop
  | demon, "name", .text s => s.length ≤ 150
  | demon, "position", .int n => n ≤ 32767
  | demon, "verifier", .int n | demon, "publisher", .int n => FitsBits 32 n
  | demon, "level_id", .int n => n ≤ 9223372036854775807
  | record, "player", .int n | record, "demon", .int n => FitsBits 32 n
  | _, _, _ => True

variable {kind : Kind} {a : Attributes}

/-- Normal values fit their columns if and only if they have room. -/
theorem Kind.Normal.fits_iff (ha : kind.Normal a) {c : Column}
    (hc : c ∈ (Table.entities kind).columns) (hid : c.name ≠ "id") :
    c.Fits (a.get c.name) ↔ kind.HasRoom c.name (a.get c.name) := by
  have hvalue : ∀ {type}, kind.typeOf? c.name = some type → type.Normal (a.get c.name) :=
    ha.value_normal
  cases kind with
  | demon =>
    simp only [Table.columns, demonColumns, List.mem_cons, List.not_mem_nil, or_false] at hc
    rcases hc with rfl | rfl | rfl | rfl | rfl | rfl | rfl | rfl | rfl | rfl
    · exact absurd rfl hid
    · obtain ⟨s, hs, -⟩ := hvalue rfl
      rw [hs]
      exact Column.fits_text
    · obtain ⟨n, hn, hbound⟩ := hvalue rfl
      have hleast : -1 ≤ n := hbound.elim (fun h => Int.le_of_eq h.symm) fun h => by omega
      rw [hn]
      refine (Column.fits_int rfl).trans ?_
      simp only [FitsBits, HasRoom]
      omega
    · exact iff_of_true (Column.fits_of_covers (by decide) (hvalue rfl)) trivial
    · exact iff_of_true (Column.fits_of_covers (by decide) (hvalue rfl)) trivial
    · exact iff_of_true (Column.fits_of_covers (by decide) (hvalue rfl)) trivial
    · obtain ⟨n, hn, -⟩ := hvalue rfl
      rw [hn]
      exact Column.fits_int rfl
    · obtain ⟨n, hn, -⟩ := hvalue rfl
      rw [hn]
      exact Column.fits_int rfl
    · rcases hvalue rfl with hnull | ⟨n, hn, hleast, -⟩
      · rw [hnull]
        exact iff_of_true (.inl ⟨rfl, rfl⟩) trivial
      · have := hleast 1 rfl
        rw [hn]
        refine (Column.fits_int rfl).trans ?_
        simp only [FitsBits, HasRoom]
        omega
    · exact iff_of_true (Column.fits_of_covers (by decide) (hvalue rfl)) trivial
  | record =>
    simp only [Table.columns, recordColumns, List.mem_cons, List.not_mem_nil, or_false] at hc
    rcases hc with rfl | rfl | rfl | rfl | rfl | rfl | rfl
    · exact absurd rfl hid
    · exact iff_of_true (Column.fits_of_covers (by decide) (hvalue rfl)) trivial
    · exact iff_of_true (Column.fits_of_covers (by decide) (hvalue rfl)) trivial
    · exact iff_of_true (Column.fits_of_covers (by decide) (hvalue rfl)) trivial
    · obtain ⟨n, hn, -⟩ := hvalue rfl
      rw [hn]
      exact Column.fits_int rfl
    · obtain ⟨n, hn, -⟩ := hvalue rfl
      rw [hn]
      exact Column.fits_int rfl
    · exact iff_of_true (Column.fits_of_covers (by decide) (hvalue rfl)) trivial

/-- What the schema of a kind lets through has the columns of the table as names, a row can be made
of it, and the row holds it; so does a row that is overwritten with it. Each value fits its column
if and only if it keeps to the bounds that the schema leaves open: a text fits if it is not too
long, an integer if its column is wide enough, a label always, and null is only where it may be. -/
theorem validate_fits_iff {input : Value} (h : kind.validate input = .ok a) :
    (Table.entities kind).columns.map (·.name) = "id" :: a.names ∧
      ∃ row, Row.ofAttributes? (.entities kind) a.toValue = .ok row ∧
        ∀ c ∈ (Table.entities kind).columns, c.name ≠ "id" →
          row.get c.name = .value (a.get c.name) ∧
          (∀ old : Row, c.name ∈ old.names →
            (old.assign a).get c.name = .value (a.get c.name)) ∧
          (c.Fits (a.get c.name) ↔ kind.HasRoom c.name (a.get c.name)) := by
  have ha := Kind.normal_of_validate h
  refine ⟨by rw [columns_entities, ha.names], _, Row.ofAttributes?_eq_ok ha, fun c hc hid => ?_⟩
  have hcolumn : c.name ∈ "id" :: kind.spec.schema.fields.map (·.name) :=
    columns_entities kind ▸ List.mem_map_of_mem hc
  obtain ⟨f, hf, hname⟩ := List.mem_map.1 ((List.mem_cons.1 hcolumn).resolve_left hid)
  rw [← hname]
  refine ⟨Row.get_ofNew hf, fun old hold => ?_, hname ▸ ha.fits_iff hc hid⟩
  obtain ⟨v, hv, -⟩ := ha.values f hf
  rw [Row.get_assign a hold, Attributes.get, hv]
  rfl

/-- A demon of a name. -/
def demonNamed (name : String) : Attributes := ⟨[
  ("name", .text name), ("position", .int 5), ("requirement", .int 50), ("video", .null),
  ("thumbnail", .text ""), ("verifier", .int 10), ("publisher", .int 11), ("level_id", .null),
  ("difficulty", .text "extreme")]⟩

/-- The schema lets every name through that is not empty. -/
theorem validate_demonNamed {name : String} (h : 1 ≤ name.length) :
    Kind.demon.validate (demonNamed name).toValue = .ok (demonNamed name) := by
  refine Kind.normal_iff_validate.1 ⟨rfl, ?_⟩
  simp [Kind.spec, demonSpec, demonSchema, demonNamed, Attributes.get?, List.lookup_cons,
    FieldType.Normal, h, difficulties]

theorem validate_fits_iff_demonNamed :
    Kind.demon.validate (demonNamed "Bloodbath").toValue = .ok (demonNamed "Bloodbath") ∧
      (Table.entities .demon).columns.map (·.name) = "id" :: (demonNamed "Bloodbath").names ∧
      ∃ row, Row.ofAttributes? (.entities .demon) (demonNamed "Bloodbath").toValue = .ok row ∧
        ∀ c ∈ (Table.entities .demon).columns, c.name ≠ "id" →
          row.get c.name = .value ((demonNamed "Bloodbath").get c.name) ∧
          (∀ old : Row, c.name ∈ old.names → (old.assign (demonNamed "Bloodbath")).get c.name =
            .value ((demonNamed "Bloodbath").get c.name)) ∧
          (c.Fits ((demonNamed "Bloodbath").get c.name) ↔
            Kind.demon.HasRoom c.name ((demonNamed "Bloodbath").get c.name)) := by
  have h := validate_demonNamed (show 1 ≤ "Bloodbath".length by decide)
  exact ⟨h, validate_fits_iff h⟩

/-- A name of 151 characters passes the schema, although its column does not hold it. -/
theorem longName_not_fits :
    ∃ a, Kind.demon.validate (demonNamed ("".pushn 'x' 151)).toValue = .ok a ∧
      ∃ c ∈ (Table.entities .demon).columns, c.name ≠ "id" ∧ ¬ c.Fits (a.get c.name) := by
  have hlength : ("".pushn 'x' 151).length = 151 := by simp
  refine ⟨_, validate_demonNamed (by omega), ⟨"name", .boundedText 150, false, true, none, none⟩,
    ?_, by decide, fun h => ?_⟩
  · simp [Table.columns, demonColumns]
  · have hfits : ("".pushn 'x' 151).length ≤ 150 := Column.fits_text.1 h
    omega

end Chronicle
