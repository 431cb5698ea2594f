import Switchboard.Fault
import Switchboard.Reading

/-!
What a value that was read tells of the data it came from. A reading is taken apart along the way in
which it was put together; limits that a reader checks hold of whatever it reads.
-/

namespace Switchboard

namespace Reading

variable {α β : Type}

theorem seq_good {f : Reading (α → β)} {x : Reading α} {b : β} (h : f <*> x = .good b) :
    ∃ g a, f = .good g ∧ x = .good a ∧ g a = b := by
  change seq f x = .good b at h
  cases f with
  | bad issues => cases x <;> cases h
  | good g =>
    cases x with
    | bad issues => cases h
    | good a =>
      cases h
      exact ⟨g, a, rfl, rfl, rfl⟩

theorem map_good {f : α → β} {x : Reading α} {b : β} (h : f <$> x = .good b) :
    ∃ a, x = .good a ∧ f a = b := by
  change map f x = .good b at h
  cases x with
  | bad issues => cases h
  | good a =>
    cases h
    exact ⟨a, rfl, rfl⟩

theorem seq_of_good {f : Reading (α → β)} {x : Reading α} {g : α → β} {a : α} (read : f = .good g)
    (read' : x = .good a) : f <*> x = .good (g a) := by
  subst read read'
  rfl

theorem map_of_good {f : α → β} {x : Reading α} {a : α} (read : x = .good a) : f <$> x = .good (f a) := by
  subst read
  rfl

theorem andThen_good {x : Reading α} {f : α → Reading β} {b : β} (h : x.andThen f = .good b) :
    ∃ a, x = .good a ∧ f a = .good b := by
  cases x with
  | bad issues => cases h
  | good a => exact ⟨a, rfl, h⟩

theorem andThen_of_good {x : Reading α} {f : α → Reading β} {a : α} (read : x = .good a) :
    x.andThen f = f a := by
  subst read
  rfl

theorem under_good {p : Place} {x : Reading α} {a : α} (h : x.under p = .good a) : x = .good a := by
  cases x with
  | bad issues => cases h
  | good a' => exact h

theorem under_good_iff {p : Place} {x : Reading α} {a : α} : x.under p = .good a ↔ x = .good a := by
  refine ⟨under_good, ?_⟩
  rintro rfl
  rfl

end Reading

namespace Reader

open Reading

variable {α : Type}

/-- What holds of the default and of all that the reader reads holds of the field. -/
theorem field_holds {P : α → Prop} {name : String} {r : Reader α} {default a : α}
    {fs : List (String × Data)} (fallback : P default) (read : ∀ d a, r d = .good a → P a)
    (h : field name r default fs = .good a) : P a := by
  unfold field at h
  split at h
  · exact read _ a (under_good h)
  · cases h
    exact fallback

theorem required_good {name : String} {r : Reader α} {fs : List (String × Data)} {a : α}
    (h : required name r fs = .good a) : ∃ d, r d = .good a := by
  unfold required at h
  split at h
  · exact ⟨_, under_good h⟩
  · cases h

theorem required_eq {name : String} {r : Reader α} {fs : List (String × Data)} {a : α} {d : Data}
    (found : Entries.get? fs name = some d) : required name r fs = .good a ↔ r d = .good a := by
  unfold required
  rw [found]
  exact under_good_iff

/-- A field that is there is read, whatever its default. -/
theorem field_of_good {name : String} {r : Reader α} {default a : α} {fs : List (String × Data)} {d : Data}
    (read : r d = .good a) (found : Entries.get? fs name = some d) : field name r default fs = .good a := by
  unfold field
  rw [found]
  exact under_good_iff.mpr read

theorem text_good_iff {d : Data} {s : String} : text d = .good s ↔ d = .text s := by
  constructor
  · intro h
    cases d <;> cases h
    rfl
  · rintro rfl
    rfl

/-- Texts under keys are kept as they are given. -/
theorem entries_text_good {d : Data} {es : Entries String String} (h : entries text d = .good es) :
    d = .object (es.map fun e => (e.1, .text e.2)) := by
  cases d with
  | object fs =>
    unfold entries at h
    dsimp only at h
    congr 1
    induction fs generalizing es with
    | nil =>
      cases h
      rfl
    | cons e rest ih =>
      obtain ⟨_, others, first, later, rfl⟩ := seq_good h
      obtain ⟨_, read, rfl⟩ := map_good first
      obtain ⟨level, worded, rfl⟩ := map_good (under_good read)
      rw [ih later, List.map_cons, ← text_good_iff.mp worded]
  | _ => cases h

theorem oneOf_good_iff {names : List String} {ofName? : String → Option α} {d : Data} {a : α} :
    oneOf names ofName? d = .good a ↔ ∃ s, d = .text s ∧ ofName? s = some a := by
  cases d with
  | text s =>
    cases known : ofName? s <;> simp [oneOf, known, flaw]
  | _ => simp [oneOf, flaw]

theorem someText_good {d : Data} {s : String} (h : someText d = .good s) : s.isEmpty = false := by
  obtain ⟨s', -, checked⟩ := andThen_good h
  split at checked
  · cases checked
  · rename_i some
    cases checked
    simpa using some

theorem bounded_good {admits : α → Bound → Bool} {bounds : List Bound} {r : Reader α} {d : Data}
    {a : α} (h : bounded admits bounds r d = .good a) :
    r d = .good a ∧ ∀ b ∈ bounds, admits a b = true := by
  obtain ⟨a', read, checked⟩ := andThen_good h
  split at checked
  · cases checked
  · rename_i clear
    cases checked
    refine ⟨read, fun b member => ?_⟩
    simpa using List.find?_eq_none.mp clear b member

theorem bounded_of_good {admits : α → Bound → Bool} {bounds : List Bound} {r : Reader α} {d : Data}
    {a : α} (read : r d = .good a) (admitted : ∀ b ∈ bounds, admits a b = true) :
    bounded admits bounds r d = .good a := by
  have clear : bounds.find? (fun b => !admits a b) = none := by simpa using admitted
  simp only [bounded, read, andThen, clear]

theorem nat_atLeast {least n : Nat} {d : Data} (h : nat [.atLeast least] d = .good n) : least ≤ n := by
  obtain ⟨i, read, rfl⟩ := map_good h
  have admitted := (bounded_good read).2 (.atLeast least) List.mem_cons_self
  have above : (least : Int) ≤ i := of_decide_eq_true admitted
  omega

/-! ### Numbers within limits -/

theorem admits_atLeast_zero {x : Float} : Bound.admitsFloat x (.atLeast 0) = true ↔ 0.0 ≤ x :=
  decide_eq_true_iff

theorem admits_above_zero {x : Float} : Bound.admitsFloat x (.above 0) = true ↔ 0.0 < x :=
  decide_eq_true_iff

theorem admits_atMost_one {x : Float} : Bound.admitsFloat x (.atMost 1) = true ↔ x ≤ 1.0 :=
  decide_eq_true_iff

theorem float_atLeast_zero {d : Data} {x : Float} (h : float [.atLeast 0] d = .good x) : 0.0 ≤ x :=
  admits_atLeast_zero.mp ((bounded_good h).2 _ List.mem_cons_self)

theorem float_above_zero {d : Data} {x : Float} (h : float [.above 0] d = .good x) : 0.0 < x :=
  admits_above_zero.mp ((bounded_good h).2 _ List.mem_cons_self)

theorem share_within {d : Data} {x : Float} (h : share d = .good x) : 0.0 ≤ x ∧ x ≤ 1.0 := by
  have admitted := (bounded_good h).2
  exact ⟨admits_atLeast_zero.mp (admitted (.atLeast 0) (by simp)),
    admits_atMost_one.mp (admitted (.atMost 1) (by simp))⟩

theorem float_of_admitted {bounds : List Bound} {x : Float}
    (admitted : ∀ b ∈ bounds, Bound.admitsFloat x b = true) : float bounds (.float x) = .good x :=
  bounded_of_good rfl admitted

theorem share_of_within {x : Float} (within : 0.0 ≤ x ∧ x ≤ 1.0) : share (.float x) = .good x := by
  refine float_of_admitted (List.forall_mem_cons.mpr ⟨admits_atMost_one.mpr within.2, ?_⟩)
  exact List.forall_mem_singleton.mpr (admits_atLeast_zero.mpr within.1)

theorem nat_of_atLeast {least n : Nat} (above : least ≤ n) : nat [.atLeast least] (.int n) = .good n := by
  have admitted : ∀ b ∈ [Bound.atLeast least], Bound.admitsInt n b = true :=
    List.forall_mem_singleton.mpr (decide_eq_true (Int.ofNat_le.mpr above))
  have read : bounded Bound.admitsInt [.atLeast least] int (.int n) = .good (n : Int) :=
    bounded_of_good rfl admitted
  exact congrArg (Reading.map Int.toNat) read

theorem record_good {title : String} {read : List (String × Data) → Reading α} {d : Data} {a : α}
    (h : record title read d = .good a) : ∃ fs, d = .object fs ∧ read fs = .good a := by
  cases d with
  | object fs => exact ⟨fs, rfl, h⟩
  | _ => cases h

theorem readFields_ok {home : Home} {title : String} {r : Reader α} {d : Data} {a : α}
    (h : r.readFields home title d = .ok a) : r d = .good a := by
  unfold readFields at h
  split at h
  · rename_i read
    cases h
    exact read
  · cases h
  · cases h

theorem readFields_of_good {home : Home} {title : String} {r : Reader α} {fs : List (String × Data)} {a : α}
    (h : r (.object fs) = .good a) : r.readFields home title (.object fs) = .ok a := by
  unfold readFields
  rw [h]

end Reader
end Switchboard
