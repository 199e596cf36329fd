/-
  ClickHouseGo.Column.Base — the Go values the `Date` and `DateTime` codecs of
  `lib/column` take and return.

  - `Time` is a `time.Time` instant: Unix seconds and the nanosecond within the
    second. `before`/`after` are `time.Time.Before`/`After` as Go computes them from
    `sec()`/`nsec()`; parsed bounds carry no monotonic reading, so that is the whole
    comparison. `before_iff`/`after_iff` put them on one line of nanoseconds.
  - `Value` is the `interface{}` that `Append` and `AppendRow` switch on: the four
    time shapes, the four slices of them, untyped `nil`, and a value of any other type
    (`other`, carrying the name `%T` prints).
  - `Outcome` is how a Go call ends: a normal return, a non-nil error, or a panic.
  - `trimPrefix`/`trimSuffix` are `strings.TrimPrefix`/`TrimSuffix`.
-/

import Mathlib.Tactic.Ring

namespace ClickHouseGo.Column

/-! ## `time.Time` -/

structure Time where
  sec : Int
  nsec : Fin 1000000000
  deriving DecidableEq, Repr

namespace Time

/-- `t.Before(u)`. -/
def before (t u : Time) : Bool := t.sec < u.sec || (t.sec == u.sec && t.nsec < u.nsec)

/-- `t.After(u)`. -/
def after (t u : Time) : Bool := t.sec > u.sec || (t.sec == u.sec && t.nsec > u.nsec)

/-- `time.Time{}`: January 1 of year 1, 00:00:00 UTC. -/
def zero : Time := ⟨-62135596800, 0⟩

def toNanos (t : Time) : Int := t.sec * 1000000000 + t.nsec.val

theorem before_iff (t u : Time) : t.before u = true ↔ t.toNanos < u.toNanos := by
  have := t.nsec.isLt; have := u.nsec.isLt
  simp only [before, toNanos, Bool.or_eq_true, Bool.and_eq_true, decide_eq_true_eq, beq_iff_eq,
    Fin.lt_def]
  omega

theorem after_iff (t u : Time) : t.after u = true ↔ u.toNanos < t.toNanos := by
  have := t.nsec.isLt; have := u.nsec.isLt
  simp only [after, toNanos, Bool.or_eq_true, Bool.and_eq_true, decide_eq_true_eq, beq_iff_eq,
    gt_iff_lt, Fin.lt_def]
  omega

end Time

/-- `sql.NullTime`. -/
structure NullTime where
  time : Time
  valid : Bool
  deriving DecidableEq, Repr

/-- A `*time.Location`, known by its name. -/
structure Location where
  name : String
  deriving DecidableEq, Repr

/-! ## The values `Append` and `AppendRow` receive -/

/-- The slice types `Append` accepts. A `nil` pointer is `none`. -/
inductive Slice where
  | times (v : List Time)
  | timePtrs (v : List (Option Time))
  | nullTimes (v : List NullTime)
  | nullTimePtrs (v : List (Option NullTime))
  deriving DecidableEq, Repr

inductive Value where
  | time (v : Time)
  | timePtr (v : Option Time)
  | nullTime (v : NullTime)
  | nullTimePtr (v : Option NullTime)
  | slice (v : Slice)
  | nil
  | other (typeName : String)
  deriving DecidableEq, Repr

/-- What `fmt.Sprintf("%T", v)` prints. -/
def Value.typeName : Value → String
  | .time _ => "time.Time"
  | .timePtr _ => "*time.Time"
  | .nullTime _ => "sql.NullTime"
  | .nullTimePtr _ => "*sql.NullTime"
  | .slice (.times _) => "[]time.Time"
  | .slice (.timePtrs _) => "[]*time.Time"
  | .slice (.nullTimes _) => "[]sql.NullTime"
  | .slice (.nullTimePtrs _) => "[]*sql.NullTime"
  | .nil => "<nil>"
  | .other n => n

/-- The slice's elements, each boxed as the `interface{}` that `AppendRow` would receive. -/
def Slice.rows : Slice → List Value
  | .times v => v.map .time
  | .timePtrs v => v.map .timePtr
  | .nullTimes v => v.map .nullTime
  | .nullTimePtrs v => v.map .nullTimePtr

/-- A value that denotes SQL `NULL`: a `nil` pointer, an invalid `sql.NullTime`, untyped `nil`. -/
def Value.isNull : Value → Bool
  | .timePtr none | .nullTimePtr none | .nil => true
  | .nullTime n | .nullTimePtr (some n) => !n.valid
  | _ => false

/-- The instant a row denotes: its time when not null, the zero time when null. -/
def Value.norm : Value → Time
  | .time t | .timePtr (some t) => t
  | .nullTime n | .nullTimePtr (some n) => if n.valid then n.time else Time.zero
  | _ => Time.zero

/-! ## Errors and outcomes -/

inductive Error where
  /-- `ColumnConverterError{Op, To, From}`. -/
  | converter (op to_ from_ : String)
  /-- `DateOverflowError{Min, Max, Value, Format}`. -/
  | dateOverflow (min max value : Time) (format : String)
  deriving DecidableEq, Repr

inductive Outcome (α : Type) where
  | ok (a : α)
  | err (e : Error)
  | panic
  deriving DecidableEq, Repr

def Outcome.map {α β : Type} (f : α → β) : Outcome α → Outcome β
  | .ok a => .ok (f a)
  | .err e => .err e
  | .panic => .panic

def Outcome.isOk {α : Type} : Outcome α → Bool
  | .ok _ => true
  | _ => false

theorem Outcome.eq_ok_of_isOk {o : Outcome Unit} (h : o.isOk = true) : o = .ok () := by
  cases o <;> first | rfl | cases h

@[simp] theorem Outcome.map_ok {α β : Type} (f : α → β) (a : α) : (Outcome.ok a).map f = .ok (f a) := rfl
@[simp] theorem Outcome.map_err {α β : Type} (f : α → β) (e : Error) : (Outcome.err e : Outcome α).map f = .err e := rfl
@[simp] theorem Outcome.map_panic {α β : Type} (f : α → β) : (Outcome.panic : Outcome α).map f = .panic := rfl

@[simp] theorem Outcome.map_const_unit {β : Type} (o : Outcome Unit) (b : β) :
    (o.map fun _ => b).map (fun _ => ()) = o := by
  cases o <;> rfl

@[simp] theorem Outcome.map_unit (o : Outcome Unit) : o.map (fun _ => ()) = o := by
  cases o <;> rfl

@[simp] theorem Outcome.map_const_eq_ok {β : Type} (o : Outcome Unit) (b a : β) :
    o.map (fun _ => b) = .ok a ↔ o = .ok () ∧ b = a := by
  cases o <;> simp [Outcome.map]

@[simp] theorem Outcome.map_const_eq_err {β : Type} (o : Outcome Unit) (b : β) (e : Error) :
    o.map (fun _ => b) = .err e ↔ o = .err e := by
  cases o <;> simp [Outcome.map]

/-! ## `strings` -/

/-- `strings.TrimPrefix(s, pre)`. -/
def trimPrefix (s pre : String) : String :=
  if pre.data <+: s.data then ⟨s.data.drop pre.length⟩ else s

/-- `strings.TrimSuffix(s, suf)`. -/
def trimSuffix (s suf : String) : String :=
  if suf.data <:+ s.data then ⟨s.data.take (s.length - suf.length)⟩ else s

theorem trimPrefix_append (pre z : String) : trimPrefix (pre ++ z) pre = z := by
  have h : pre.data <+: (pre ++ z).data := List.prefix_append pre.data z.data
  rw [trimPrefix, if_pos h]
  exact congrArg String.mk (List.drop_left pre.data z.data)

theorem trimSuffix_append (z suf : String) : trimSuffix (z ++ suf) suf = z := by
  have h : suf.data <:+ (z ++ suf).data := List.suffix_append z.data suf.data
  rw [trimSuffix, if_pos h, String.length_append, Nat.add_sub_cancel]
  exact congrArg String.mk (List.take_left z.data suf.data)

theorem trimSuffix_of_not_suffix {s suf : String} (h : ¬ suf.data <:+ s.data) :
    trimSuffix s suf = s := by
  rw [trimSuffix, if_neg h]

end ClickHouseGo.Column
