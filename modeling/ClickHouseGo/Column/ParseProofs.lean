/-
  ClickHouseGo.Column.ParseProofs — `DateTime.parse` (see `ClickHouseGo.Column.DateTime`).

  `parse` removes a leading `DateTime('` and a trailing `')` independently
  (`strings.TrimPrefix`, then `strings.TrimSuffix`) and hands what is left to
  `timezone.Load`.
  - `parse_trims_prefix_and_suffix_independently`: plain `DateTime` is accepted with the
    location untouched; `DateTime('z')` loads exactly `z`; so does the truncated
    `DateTime('z` whenever `z` does not end in `')`; in general a type other than
    `DateTime` is accepted exactly when the name left after the two trims loads, and
    `Type()` is then the string itself.
  - `a_truncated_zone_is_accepted`: with a `timezone.Load` that knows `UTC`, the string
    `DateTime('UTC` is accepted though it is not `DateTime` nor `DateTime('z')`.
-/

import ClickHouseGo.Column.DateTime

namespace ClickHouseGo.Column

namespace DateTime

theorem zoneName_quoted (z : String) : zoneName ("DateTime('" ++ z ++ "')") = z := by
  rw [zoneName, String.append_assoc, trimPrefix_append, trimSuffix_append]

theorem zoneName_truncated {z : String} (h : ¬ "')".data <:+ z.data) :
    zoneName ("DateTime('" ++ z) = z := by
  rw [zoneName, trimPrefix_append, trimSuffix_of_not_suffix h]

theorem quoted_ne (z : String) : "DateTime('" ++ z ++ "')" ≠ "DateTime" := by
  intro h
  have := congrArg String.length h
  simp only [String.length_append] at this
  change 10 + z.length + 2 = 8 at this
  omega

theorem truncated_ne (z : String) : "DateTime('" ++ z ≠ "DateTime" := by
  intro h
  have := congrArg String.length h
  simp only [String.length_append] at this
  change 10 + z.length = 8 at this
  omega

theorem parse_of_ne {ε : Type} (load : String → Except ε Location) (col : DateTime) {t : String}
    (h : t ≠ "DateTime") :
    col.parse load t =
      (load (zoneName t)).map fun l => { col with chType := t, col := { col.col with location := some l } } := by
  simp only [parse, h, if_false]
  cases load (zoneName t) <;> rfl

/-- Plain `DateTime` keeps the location; any other type string loads the name left after
removing a leading `DateTime('` and a trailing `')` independently: `DateTime('z')` loads
`z`, and so does the truncated `DateTime('z` when `z` does not end in `')`. -/
theorem parse_trims_prefix_and_suffix_independently {ε : Type} (load : String → Except ε Location)
    (col : DateTime) :
    col.parse load "DateTime" = .ok { col with chType := "DateTime" } ∧
    (∀ z, col.parse load ("DateTime('" ++ z ++ "')") =
      (load z).map fun l =>
        { col with chType := "DateTime('" ++ z ++ "')", col := { col.col with location := some l } }) ∧
    (∀ z, ¬ "')".data <:+ z.data → col.parse load ("DateTime('" ++ z) =
      (load z).map fun l =>
        { col with chType := "DateTime('" ++ z, col := { col.col with location := some l } }) ∧
    (∀ t, t ≠ "DateTime" → col.parse load t =
      (load (zoneName t)).map fun l =>
        { col with chType := t, col := { col.col with location := some l } }) := by
  refine ⟨by simp [parse], fun z => ?_, fun z hz => ?_, fun t ht => parse_of_ne load col ht⟩
  · rw [parse_of_ne load col (quoted_ne z), zoneName_quoted]
  · rw [parse_of_ne load col (truncated_ne z), zoneName_truncated hz]

/-- `time.LoadLocation` with no zone database installed: only `UTC` (and `""`) load. -/
def loadUTC (name : String) : Except String Location :=
  if name = "UTC" ∨ name = "" then .ok ⟨"UTC"⟩ else .error ("unknown time zone " ++ name)

/-- `DateTime('UTC`, with no closing `')`, is accepted. -/
theorem a_truncated_zone_is_accepted :
    (parse loadUTC ⟨"", "Col", ⟨[], none⟩⟩ "DateTime('UTC").toBool = true ∧
    ¬ ("DateTime('UTC" = "DateTime" ∨ ∃ z, "DateTime('UTC" = "DateTime('" ++ z ++ "')") := by
  refine ⟨by decide, ?_⟩
  rintro (h | ⟨z, h⟩)
  · exact absurd h (by decide)
  · have hs : "')".data <:+ ("DateTime('" ++ z ++ "')").data := List.suffix_append _ _
    rw [← h] at hs
    exact absurd hs (by decide)

end DateTime

end ClickHouseGo.Column
