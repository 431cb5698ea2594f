import Switchboard.Proofs.Settings.Merge
import Switchboard.Proofs.Step
import Switchboard.Toml.Document

/-!
A settings file that can be read holds each key once. No statement of it writes a key that its table has
already; what is written again is refused.
-/

namespace Switchboard.Toml

open Settings

/-! ### Values that are neither lists nor tables -/

theorem stop_ne_ok {α : Type} {problem : Problem} {rest : List Char} {a : α} :
    (stop problem rest : Except Error α) ≠ .ok a := nofun

theorem calendarValue?_plain {cs rest : List Char} {v : Data}
    (h : calendarValue? cs = some (.ok (v, rest))) : v.isObject = false := by
  obtain ⟨⟨⟨year, month, day⟩, behind⟩, -, h⟩ := Option.bind_eq_some_iff.mp h
  dsimp only at h
  split at h
  · cases h
  · split at h <;>
    · cases h
      rfl

theorem timeValue?_plain {cs rest : List Char} {v : Data} (h : timeValue? cs = some (v, rest)) :
    v.isObject = false := by
  obtain ⟨_, -, h⟩ := Option.map_eq_some_iff.mp h
  cases h
  rfl

theorem decimalNumber?_plain {cs rest : List Char} {v : Data}
    (h : decimalNumber? cs = some (.ok (v, rest))) : v.isObject = false := by
  obtain ⟨⟨ds, behind⟩, -, h⟩ := Option.bind_eq_some_iff.mp h
  dsimp only at h
  -- Whatever is read of a fraction and of an exponent, the end is a whole number, a double or a refusal.
  repeat' split at h
  all_goals cases h
  all_goals rfl

theorem namedNumber?_plain {cs rest : List Char} {v : Data} (h : namedNumber? cs = some (v, rest)) :
    v.isObject = false := by
  unfold namedNumber? at h
  dsimp only at h
  split at h
  · cases h
    rfl
  · split at h
    · cases h
      rfl
    · cases h

theorem plainValue_plain {cs rest : List Char} {v : Data} (h : plainValue cs = .ok (v, rest)) :
    v.isObject = false := by
  unfold plainValue at h
  split at h
  · rename_i r found
    exact calendarValue?_plain (h ▸ found)
  · split at h
    · rename_i r found
      cases h
      exact timeValue?_plain found
    · split at h
      · cases h
        rfl
      · split at h
        · rename_i r found
          exact decimalNumber?_plain (h ▸ found)
        · split at h
          · rename_i r found
            cases h
            exact namedNumber?_plain found
          · exact (stop_ne_ok h).elim

theorem asText_plain {r : Except Error (List Char × List Char)} {v : Data} {rest : List Char}
    (h : asText r = .ok (v, rest)) : v.isObject = false := by
  cases r with
  | error e => cases h
  | ok read =>
    cases h
    rfl

theorem scalar_plain {cs rest : List Char} {v : Data} (h : scalar cs = .ok (v, rest)) :
    v.isObject = false := by
  unfold scalar at h
  split at h
  iterate 4 exact asText_plain h
  · cases h
    rfl
  · cases h
    rfl
  · exact plainValue_plain h

/-! ### Tables -/

namespace Table

/-- The change leaves each key where it was only once. -/
def KeepsTidy (change : Table → Except Problem Table) : Prop :=
  ∀ table table', Tidy (.object table) → change table = .ok table' → Tidy (.object table')

theorem changeAt_tidy (enter : Bool) {change : Table → Except Problem Table} (keeps : KeepsTidy change)
    (path : Key) : KeepsTidy (changeAt enter change path) := by
  induction path with
  | nil => exact keeps
  | cons k path ih =>
    intro table table' tidy h
    unfold changeAt at h
    split at h
    · obtain ⟨inner, made, written⟩ := except_bind_ok h
      cases written
      exact tidy.put (ih [] inner tidy_empty made) k
    · rename_i inner held
      obtain ⟨inner', changed, written⟩ := except_bind_ok h
      cases written
      exact tidy.put (ih inner inner' ((tidy_object.mp tidy).2 k _ held) changed) k
    · split at h
      · split at h
        · obtain ⟨inner', -, written⟩ := except_bind_ok h
          cases written
          exact tidy.put (tidy_of_not_object rfl) k
        · cases h
      · cases h
    · cases h

theorem add_tidy (taken : Problem) (k : String) {v : Data} (inner : Tidy v) : KeepsTidy (add taken k v) := by
  intro table table' tidy h
  unfold add at h
  split at h
  · cases h
  · cases h
    exact tidy.put inner k

theorem appendTable_tidy (k : String) : KeepsTidy (appendTable k) := by
  intro table table' tidy h
  unfold appendTable at h
  split at h
  · cases h
    exact tidy.put (tidy_of_not_object rfl) k
  · cases h
    exact tidy.put (tidy_of_not_object rfl) k
  · cases h

end Table

theorem located_ok {α : Type} {rest : List Char} {r : Except Problem α} {a : α}
    (h : located rest r = .ok a) : r = .ok a := by
  cases r with
  | error problem => cases h
  | ok a' =>
    cases h
    rfl

/-! ### Values -/

/-- Values and the pairs of inline tables take each other's place in the fuel, so both are proved at once. -/
theorem valueFrom_pairsFrom_tidy (fuel : Nat) :
    (∀ cs v rest, valueFrom fuel cs = .ok (v, rest) → Tidy v) ∧
      ∀ table closed cs table' rest, Tidy (.object table) →
        pairsFrom fuel table closed cs = .ok (table', rest) → Tidy (.object table') := by
  induction fuel with
  | zero =>
    constructor
    · intro cs v rest h
      rw [valueFrom] at h
      exact (stop_ne_ok h).elim
    · intro table closed cs table' rest _ h
      rw [pairsFrom] at h
      exact (stop_ne_ok h).elim
  | succ fuel ih =>
    obtain ⟨values, pairs⟩ := ih
    constructor
    · intro cs v rest h
      unfold valueFrom at h
      split at h
      · obtain ⟨_, -, h⟩ := except_bind_ok h
        obtain ⟨_, -, h⟩ := except_bind_ok h
        cases h
        exact tidy_of_not_object rfl
      · split at h
        · cases h
          exact tidy_empty
        · obtain ⟨⟨table, _⟩, read, h⟩ := except_bind_ok h
          cases h
          exact pairs [] [] _ table _ tidy_empty read
      · exact tidy_of_not_object (scalar_plain h)
    · intro table closed cs table' rest tidy h
      rw [pairsFrom] at h
      obtain ⟨⟨path, _⟩, -, h⟩ := except_bind_ok h
      obtain ⟨_, -, h⟩ := except_bind_ok h
      obtain ⟨⟨item, _⟩, read, h⟩ := except_bind_ok h
      dsimp only at h
      split at h
      · cases h
      · obtain ⟨between, changed, h⟩ := except_bind_ok h
        have tidied : Tidy (.object between) :=
          Table.changeAt_tidy false (Table.add_tidy _ _ (values _ item _ read)) _ table between tidy
            (located_ok changed)
        split at h
        · cases h
          exact tidied
        · exact pairs between _ _ table' rest tidied h
        · exact (stop_ne_ok h).elim

theorem value_tidy {cs rest : List Char} {v : Data} (h : value cs = .ok (v, rest)) : Tidy v :=
  (valueFrom_pairsFrom_tidy _).1 cs v rest h

/-! ### Documents -/

namespace Document

/-- Each statement leaves every table with each of its keys once. -/
theorem pair_tidy {doc doc' : Document} {cs rest : List Char} (tidy : Tidy (.object doc.root))
    (h : doc.pair cs = .ok (doc', rest)) : Tidy (.object doc'.root) := by
  obtain ⟨⟨path, _⟩, -, h⟩ := except_bind_ok h
  obtain ⟨_, -, h⟩ := except_bind_ok h
  obtain ⟨⟨item, _⟩, read, h⟩ := except_bind_ok h
  dsimp only at h
  split at h
  · exact (stop_ne_ok h).elim
  · split at h
    · cases h
    · obtain ⟨root, changed, h⟩ := except_bind_ok h
      cases h
      exact Table.changeAt_tidy true (Table.add_tidy _ _ (value_tidy read)) _ doc.root root tidy
        (located_ok changed)

theorem table_tidy {doc doc' : Document} {cs rest : List Char} (tidy : Tidy (.object doc.root))
    (h : doc.table cs = .ok (doc', rest)) : Tidy (.object doc'.root) := by
  obtain ⟨⟨path, _⟩, -, h⟩ := except_bind_ok h
  dsimp only at h
  split at h
  · cases h
  · obtain ⟨root, changed, h⟩ := except_bind_ok h
    have opened : Table.KeepsTidy .ok := by
      rintro table table' tidy opening
      cases opening
      exact tidy
    split at h
    · cases h
      exact Table.changeAt_tidy true opened path doc.root root tidy (located_ok changed)
    · exact (stop_ne_ok h).elim

theorem listedTable_tidy {doc doc' : Document} {cs rest : List Char} (tidy : Tidy (.object doc.root))
    (h : doc.listedTable cs = .ok (doc', rest)) : Tidy (.object doc'.root) := by
  obtain ⟨⟨path, _⟩, -, h⟩ := except_bind_ok h
  dsimp only at h
  split at h
  · cases h
  · obtain ⟨root, changed, h⟩ := except_bind_ok h
    split at h
    · cases h
      exact Table.changeAt_tidy true (Table.appendTable_tidy _) _ doc.root root tidy (located_ok changed)
    · exact (stop_ne_ok h).elim

theorem statement_tidy {doc doc' : Document} {cs rest : List Char} (tidy : Tidy (.object doc.root))
    (h : doc.statement cs = .ok (doc', rest)) : Tidy (.object doc'.root) := by
  unfold statement at h
  split at h
  · cases h
    exact tidy
  · exact @listedTable_tidy doc.settle _ _ _ tidy h
  · exact @table_tidy doc.settle _ _ _ tidy h
  · cases h
    exact tidy
  · split at h
    · exact pair_tidy tidy h
    · exact (stop_ne_ok h).elim

theorem statements_tidy {fuel : Nat} {doc doc' : Document} {cs : List Char}
    (tidy : Tidy (.object doc.root)) (h : statements fuel doc cs = .ok doc') : Tidy (.object doc'.root) := by
  induction fuel generalizing doc cs with
  | zero =>
    cases h
    exact tidy
  | succ fuel ih =>
    unfold statements at h
    split at h
    · cases h
      exact tidy
    · exact ih tidy h
    · obtain ⟨⟨between, _⟩, stated, h⟩ := except_bind_ok h
      have tidied := statement_tidy tidy stated
      obtain ⟨_, -, h⟩ := except_bind_ok h
      split at h
      · cases h
        exact tidied
      · exact ih tidied h
      · exact (stop_ne_ok h).elim

end Document

/-- Every table of a document that can be read has each of its keys once. -/
theorem read_tidy {text : String} {table : Table} (h : read text = .ok table) : Tidy (.object table) := by
  unfold read at h
  dsimp only at h
  split at h
  · rename_i doc stated
    cases h
    exact Document.statements_tidy tidy_empty stated
  all_goals cases h

end Switchboard.Toml
