/-
  ClickHouseGo.Column.Codec — what `Date` and `DateTime` share: the overflow check,
  `AppendRow`'s body and the loops of `Append`, over the rows of the column's `proto`
  buffer (the instants handed to `col.col.Append`, in order).

  The two codecs differ here only in their `Codec`: the closed range, the layout their
  overflow errors print and the type name their converter errors give.

  - `dateOverflow_eq_none_iff`: the check passes exactly on the closed range, read on
    the line of instants.
  - `appendRow_rows`: `AppendRow` appends its value's instant (`Value.norm`) when it
    returns normally and leaves the rows as they were otherwise.
  - `forEach_stop` / `forEach_ok_rows`: a loop that stops early stops at the first
    element whose body does not return normally, after running the elements before it.
-/

import ClickHouseGo.Column.Base

namespace ClickHouseGo.Column

/-- Modelled from the spec: `dateOverflow` (not in the source) fails with an overflow
error naming the bounds, the offending value and the layout exactly when the value lies
outside the closed range `[min, max]`. -/
def dateOverflow (min max v : Time) (format : String) : Option Error :=
  if v.before min || v.after max then some (.dateOverflow min max v format) else none

structure Codec where
  min : Time
  max : Time
  format : String
  name : String

/-- The closed range, on the line of instants. -/
def Codec.InRange (c : Codec) (t : Time) : Prop :=
  c.min.toNanos ≤ t.toNanos ∧ t.toNanos ≤ c.max.toNanos

instance (c : Codec) (t : Time) : Decidable (c.InRange t) := inferInstanceAs (Decidable (_ ∧ _))

/-- `if err := dateOverflow(min, max, t, format); err != nil { return err }; col.col.Append(t)` -/
def checked (c : Codec) (rows : List Time) (t : Time) : Outcome Unit × List Time :=
  match dateOverflow c.min c.max t c.format with
  | some e => (.err e, rows)
  | none => (.ok (), rows ++ [t])

/-- A `*time.Time`: checked when set, the zero time when `nil`. -/
def timePtrRow (c : Codec) (rows : List Time) : Option Time → Outcome Unit × List Time
  | some t => checked c rows t
  | none => (.ok (), rows ++ [Time.zero])

/-- `AppendRow`'s body. `v.Valid` on a `nil` `*sql.NullTime` dereferences it: a panic. -/
def appendRow (c : Codec) (rows : List Time) : Value → Outcome Unit × List Time
  | .time v => checked c rows v
  | .timePtr v => timePtrRow c rows v
  | .nullTime v => (.ok (), rows ++ [if v.valid then v.time else Time.zero])
  | .nullTimePtr (some v) => (.ok (), rows ++ [if v.valid then v.time else Time.zero])
  | .nullTimePtr none => (.panic, rows)
  | .nil => (.ok (), rows ++ [Time.zero])
  | v => (.err (.converter "AppendRow" c.name v.typeName), rows)

/-- A `for ... range` loop whose body can end the call: `body` runs on the elements in
order and the loop stops at the first one that does not return normally. -/
def forEach {σ α : Type} (body : σ → α → Outcome Unit × σ) (s : σ) : List α → Outcome Unit × σ
  | [] => (.ok (), s)
  | a :: as =>
    match body s a with
    | (.ok (), s') => forEach body s' as
    | (.err e, s') => (.err e, s')
    | (.panic, s') => (.panic, s')

/-- A call made as a statement, its error unchecked: an error return goes on like a
normal one; a panic still ends the caller. -/
def dropErr {σ : Type} : Outcome Unit × σ → Outcome Unit × σ
  | (.err _, s) => (.ok (), s)
  | r => r

/-- `nulls[i] = 1` where `v[i] == nil`, on a `make([]uint8, len(v))`. -/
def nilFlags {α : Type} (v : List (Option α)) : List UInt8 := v.map fun p => if p.isSome then 0 else 1

/-- The destinations `ScanRow` switches on: a `*time.Time`, a `**time.Time` and a
`*sql.NullTime`, each `nil` when `isNil`, and a value of any other type (untyped `nil`
included), with the name `%T` prints for it. -/
inductive Dest where
  | time (isNil : Bool)
  | timePtr (isNil : Bool)
  | nullTime (isNil : Bool)
  | other (typeName : String)
  deriving DecidableEq, Repr

def Dest.isNil : Dest → Bool
  | .time n | .timePtr n | .nullTime n => n
  | .other _ => false

/-- `col.col.Row(i)`: the row at Go index `i` of the `proto` buffer, read back through
`read`, ch-go's round trip of an appended instant (its stored day or second as a
`time.Time`; not in this repository). `none` where the index expression panics. -/
def protoRow (read : Time → Time) (rows : List Time) (i : Int) : Option Time :=
  if 0 ≤ i then (rows[i.toNat]?).map read else none

/-- `Row(i, ptr)`: `col.row(i)`, behind a fresh pointer when `ptr`. -/
def row (read : Time → Time) (rows : List Time) (i : Int) (ptr : Bool) : Outcome Value :=
  match protoRow read rows i with
  | some t => .ok (if ptr then .timePtr (some t) else .time t)
  | none => .panic

/-- `ScanRow`'s body: the value written through `dest`. A destination of another type is
an error before the row is read; `col.row(row)` out of range panics, and so does writing
through a `nil` destination; `d.Scan(t)` of a `time.Time` sets `Valid`. -/
def scanRow (read : Time → Time) (from_ : String) (rows : List Time) (dest : Dest) (row : Int) :
    Outcome Value :=
  match dest, protoRow read rows row with
  | .other n, _ => .err (.converter "ScanRow" n from_)
  | .time false, some t => .ok (.time t)
  | .timePtr false, some t => .ok (.timePtr (some t))
  | .nullTime false, some t => .ok (.nullTime ⟨t, true⟩)
  | _, _ => .panic

/-! ## The overflow check -/

theorem dateOverflow_eq_none_iff (c : Codec) (t : Time) (f : String) :
    dateOverflow c.min c.max t f = none ↔ c.InRange t := by
  rw [Codec.InRange, ← not_lt, ← not_lt, ← Time.before_iff, ← Time.after_iff]
  unfold dateOverflow
  cases t.before c.min <;> cases t.after c.max <;> simp

theorem dateOverflow_eq_some {lo hi t : Time} {f : String} {e : Error}
    (h : dateOverflow lo hi t f = some e) : e = .dateOverflow lo hi t f := by
  unfold dateOverflow at h
  split at h <;> simp_all

theorem checked_of_inRange {c : Codec} {t : Time} (rows : List Time) (h : c.InRange t) :
    checked c rows t = (.ok (), rows ++ [t]) := by
  simp [checked, (dateOverflow_eq_none_iff c t c.format).mpr h]

theorem checked_of_not_inRange {c : Codec} {t : Time} (rows : List Time) (h : ¬ c.InRange t) :
    checked c rows t = (.err (.dateOverflow c.min c.max t c.format), rows) := by
  unfold checked
  split
  · rename_i e he; rw [dateOverflow_eq_some he]
  · rename_i he; exact absurd ((dateOverflow_eq_none_iff c t c.format).mp he) h

theorem checked_ok_iff (c : Codec) (rows : List Time) (t : Time) :
    (checked c rows t).1 = .ok () ↔ c.InRange t := by
  by_cases h : c.InRange t
  · simp [checked_of_inRange rows h, h]
  · simp [checked_of_not_inRange rows h, h]

theorem checked_rows (c : Codec) (rows : List Time) (t : Time) :
    (checked c rows t).2 = if (checked c rows t).1.isOk then rows ++ [t] else rows := by
  unfold checked
  split <;> rfl

/-! ## `AppendRow` -/

theorem appendRow_rows (c : Codec) (rows : List Time) (v : Value) :
    (appendRow c rows v).2 = if (appendRow c rows v).1.isOk then rows ++ [v.norm] else rows := by
  rcases v with t | (_ | t) | _ | (_ | _) | _ | _ | _
  case time | timePtr.some => exact checked_rows c rows t
  all_goals rfl

/-! ## Loops -/

section Loops

variable {σ α : Type} (body : σ → α → Outcome Unit × σ)

theorem forEach_map {β : Type} (f : β → α) (s : σ) (l : List β) :
    forEach body s (l.map f) = forEach (fun s b => body s (f b)) s l := by
  induction l generalizing s with
  | nil => rfl
  | cons b l ih => simp only [List.map_cons, forEach, ih]

/-- A loop over one part of a larger state (`get`/`set` a lens onto it) is the loop
over that part. -/
theorem forEach_lift {τ : Type} (get : σ → τ) (set : σ → τ → σ) (inner : τ → α → Outcome Unit × τ)
    (hgs : ∀ s x, get (set s x) = x) (hss : ∀ s x y, set (set s x) y = set s y)
    (hsg : ∀ s, set s (get s) = s) (s : σ) (l : List α) :
    forEach (fun s a => ((inner (get s) a).1, set s (inner (get s) a).2)) s l =
      ((forEach inner (get s) l).1, set s (forEach inner (get s) l).2) := by
  induction l generalizing s with
  | nil => simp [forEach, hsg]
  | cons a l ih =>
    simp only [forEach]
    rcases inner (get s) a with ⟨_ | e | _, t⟩ <;> simp [ih, hgs, hss]

/-- A loop that does not end normally stopped at an element: the ones before it all
returned normally, and that element's body is how the loop ended. -/
theorem forEach_stop (s : σ) (l : List α) (h : (forEach body s l).1.isOk = false) :
    ∃ pre a post t, l = pre ++ a :: post ∧ forEach body s pre = (.ok (), t) ∧
      body t a = forEach body s l := by
  induction l generalizing s with
  | nil => simp [forEach, Outcome.isOk] at h
  | cons a l ih =>
    simp only [forEach] at h ⊢
    rcases hb : body s a with ⟨_ | e | _, t⟩ <;> simp only [hb] at h ⊢
    · obtain ⟨pre, b, post, u, rfl, hpre, hb'⟩ := ih t h
      exact ⟨a :: pre, b, post, u, rfl, by simp [forEach, hb, hpre], hb'⟩
    · exact ⟨[], a, l, s, rfl, rfl, hb⟩
    · exact ⟨[], a, l, s, rfl, rfl, hb⟩

/-- What every body keeps, the loop keeps. -/
theorem forEach_preserves (P : σ → Prop) (l : List α) (hb : ∀ s a, a ∈ l → P s → P (body s a).2)
    (s : σ) (hs : P s) : P (forEach body s l).2 := by
  induction l generalizing s with
  | nil => exact hs
  | cons a l ih =>
    have hs' := hb s a (List.mem_cons_self a l) hs
    simp only [forEach]
    rcases hba : body s a with ⟨_ | e | _, t⟩ <;> rw [hba] at hs'
    · exact ih (fun s a ha => hb s a (List.mem_cons_of_mem _ ha)) t hs'
    all_goals exact hs'

end Loops

/-- A loop of bodies that each append `g a` when they return normally appends the
`g` of every element when it does. -/
theorem forEach_ok_rows {α : Type} (body : List Time → α → Outcome Unit × List Time) (g : α → Time)
    (hb : ∀ rows a, (body rows a).2 = if (body rows a).1.isOk then rows ++ [g a] else rows)
    (rows : List Time) (l : List α) (h : (forEach body rows l).1 = .ok ()) :
    (forEach body rows l).2 = rows ++ l.map g := by
  induction l generalizing rows with
  | nil => simp [forEach]
  | cons a l ih =>
    have hr := hb rows a
    simp only [forEach] at h ⊢
    rcases hba : body rows a with ⟨_ | e | _, t⟩ <;> simp only [hba, Outcome.isOk, if_true] at h hr ⊢
    · subst hr; rw [ih _ h]; simp
    all_goals cases h

end ClickHouseGo.Column
