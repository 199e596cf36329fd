/-
  ClickHouseGo.Column.BatchProofs — `Append` of a slice cut in two.

  A caller may hand a column its rows in one slice or in several of one element type.
  `Append(a ++ b)` is `Append(a)` followed, when that returns normally, by `Append(b)`,
  with the two null indicators joined; when `Append(a)` returns an error or panics,
  `Append(a ++ b)` ends the same way in the same state
  (`append_of_joined_slices_is_two_appends`). It holds for both codecs and all four
  slice types, `Date`'s `nil` indicator of a `[]time.Time` included (`nil ++ nil`).
-/

import ClickHouseGo.Column.Shared

namespace ClickHouseGo.Column

/-- `append(a, b...)` of two slices of one element type. -/
def Slice.join : Slice → Slice → Option Slice
  | .times a, .times b => some (.times (a ++ b))
  | .timePtrs a, .timePtrs b => some (.timePtrs (a ++ b))
  | .nullTimes a, .nullTimes b => some (.nullTimes (a ++ b))
  | .nullTimePtrs a, .nullTimePtrs b => some (.nullTimePtrs (a ++ b))
  | _, _ => none

/-- `n1, err := col.Append(a)`, returning on an error, then `n2, err := col.Append(b)`
and `append(n1, n2...)`. -/
def Date.appendThen (s : Date) (a b : Value) : Outcome (List UInt8) × Date :=
  match s.append a with
  | (.ok n, s') => ((s'.append b).1.map (n ++ ·), (s'.append b).2)
  | r => r

/-- `n1, err := col.Append(a)`, returning on an error, then `n2, err := col.Append(b)`
and `append(n1, n2...)`. -/
def DateTime.appendThen (s : DateTime) (a b : Value) : Outcome (List UInt8) × DateTime :=
  match s.append a with
  | (.ok n, s') => ((s'.append b).1.map (n ++ ·), (s'.append b).2)
  | r => r

/-- A loop over `l₁ ++ l₂` runs over `l₁`, then, if that returned normally, over `l₂`. -/
theorem forEach_append {σ α : Type} (body : σ → α → Outcome Unit × σ) (s : σ) (l₁ l₂ : List α) :
    forEach body s (l₁ ++ l₂) =
      match forEach body s l₁ with
      | (.ok (), t) => forEach body t l₂
      | r => r := by
  induction l₁ generalizing s with
  | nil => rfl
  | cons a l ih =>
    simp only [List.cons_append, forEach]
    rcases body s a with ⟨_ | e | _, t⟩
    · exact ih t
    all_goals rfl

theorem nilFlags_append {α : Type} (a b : List (Option α)) :
    nilFlags (a ++ b) = nilFlags a ++ nilFlags b :=
  List.map_append _ a b

theorem zeros_append {α : Type} (a b : List α) :
    List.replicate (a ++ b).length (0 : UInt8) =
      List.replicate a.length 0 ++ List.replicate b.length 0 := by
  rw [List.length_append, List.append_replicate_replicate]

section Col

variable {σ : Type} (C : Col σ)

theorem Col.finish_append {α : Type} (s : σ) (body : List Time → α → Outcome Unit × List Time)
    (a b : List α) (n₁ n₂ : List UInt8) :
    C.finish s (n₁ ++ n₂) (forEach body (C.rows s) (a ++ b)) =
      match C.finish s n₁ (forEach body (C.rows s) a) with
      | (.ok n, s') => ((C.finish s' n₂ (forEach body (C.rows s') b)).1.map (n ++ ·),
          (C.finish s' n₂ (forEach body (C.rows s') b)).2)
      | r => r := by
  rw [forEach_append]
  rcases forEach body (C.rows s) a with ⟨⟨⟨⟩⟩ | e | _, t⟩
  · dsimp only [Col.finish, Outcome.map]
    rw [C.rows_setRows, C.setRows_setRows]
    rcases forEach body t b with ⟨⟨⟨⟩⟩ | e | _, u⟩ <;> rfl
  all_goals rfl

/-- `Append` of a joined slice is the two `Append`s, when the `[]time.Time` indicator of
two joined slices is the two indicators joined. -/
theorem Col.append_join (hT : ∀ a b, C.timesNulls (a ++ b) = C.timesNulls a ++ C.timesNulls b)
    (s : σ) {a b sl : Slice} (h : a.join b = some sl) :
    C.append s (.slice sl) =
      match C.append s (.slice a) with
      | (.ok n, s') => ((C.append s' (.slice b)).1.map (n ++ ·), (C.append s' (.slice b)).2)
      | r => r := by
  cases a <;> cases b <;> cases h <;> simp only [Col.append, hT, nilFlags_append, zeros_append] <;>
    exact C.finish_append s _ _ _ _ _

end Col

theorem Date.append_join (s : Date) {a b sl : Slice} (h : a.join b = some sl) :
    s.append (.slice sl) = s.appendThen (.slice a) (.slice b) := by
  simp only [Date.appendThen, Date.append_eq_col, Col.append_join Date.asCol (fun _ _ => rfl) s h]
  rcases Date.asCol.append s (.slice a) with ⟨_ | _ | _, _⟩ <;> rfl

theorem DateTime.append_join (s : DateTime) {a b sl : Slice} (h : a.join b = some sl) :
    s.append (.slice sl) = s.appendThen (.slice a) (.slice b) := by
  simp only [DateTime.appendThen, DateTime.append_eq_col, Col.append_join DateTime.asCol zeros_append s h]
  rcases DateTime.asCol.append s (.slice a) with ⟨_ | _ | _, _⟩ <;> rfl

/-- For every column and two slices of one element type, `Append` of the joined slice is
`Append` of the first followed, when that returns normally, by `Append` of the second,
the null indicators joined; otherwise the first call's error or panic, in its state. -/
theorem append_of_joined_slices_is_two_appends (a b sl : Slice) (h : a.join b = some sl) :
    (∀ s : Date, s.append (.slice sl) = s.appendThen (.slice a) (.slice b)) ∧
    (∀ s : DateTime, s.append (.slice sl) = s.appendThen (.slice a) (.slice b)) :=
  ⟨fun s => Date.append_join s h, fun s => DateTime.append_join s h⟩

theorem append_of_joined_slices_is_two_appends_across_a_rejected_row :
    Slice.join (.times [minDate]) (.times [⟨-1, 0⟩]) = some (.times [minDate, ⟨-1, 0⟩]) ∧
    (∀ s : Date, s.append (.slice (.times [minDate, ⟨-1, 0⟩])) =
      s.appendThen (.slice (.times [minDate])) (.slice (.times [⟨-1, 0⟩]))) ∧
    (∀ s : DateTime, s.append (.slice (.times [minDate, ⟨-1, 0⟩])) =
      s.appendThen (.slice (.times [minDate])) (.slice (.times [⟨-1, 0⟩]))) :=
  ⟨rfl, append_of_joined_slices_is_two_appends _ _ _ rfl⟩

end ClickHouseGo.Column
