import Switchboard.Numeral

/-!
Which texts are numbers in the environment. Blanks around a number and underscores between its digits do not
count, and digits may be of any script; what is left is a sign or none and then a decimal or the name of an
infinity or of the undefined number. `anyFloat?_isSome_iff` says that just these texts are read.
-/

namespace Switchboard.Numeral

open Text

/-! ### The form of numbers -/

def Digits (cs : List Char) : Prop := ∀ c ∈ cs, c.isDigit = true

inductive Sign : List Char → Prop
  | none : Sign []
  | plus : Sign ['+']
  | minus : Sign ['-']

/-- Nothing, or the letter e and a whole number. -/
inductive Exponent : List Char → Prop
  | none : Exponent []
  | some {e : Char} {sign ds : List Char} (letter : e = 'e' ∨ e = 'E') (signed : Sign sign) (digits : Digits ds)
      (filled : ds ≠ []) : Exponent (e :: (sign ++ ds))

/-- Digits, with a point among them or at one of their ends or without, and an exponent or none. -/
inductive Decimal : List Char → Prop
  | whole {before e : List Char} (digits : Digits before) (filled : before ≠ []) (exponent : Exponent e) :
      Decimal (before ++ e)
  | pointed {before behind e : List Char} (digits : Digits before) (digits' : Digits behind)
      (filled : before ≠ [] ∨ behind ≠ []) (exponent : Exponent e) : Decimal (before ++ '.' :: (behind ++ e))

/-- The name of an infinity or of the undefined number, in any case. -/
def Named (cs : List Char) : Prop := cs.map Char.toLower ∈ ["inf".toList, "infinity".toList, "nan".toList]

def Spelled (cs : List Char) : Prop := ∃ sign body, cs = sign ++ body ∧ Sign sign ∧ (Named body ∨ Decimal body)

/-- Every underscore stands between two digits; before the text stands a digit or something else. -/
def Spaced (afterDigit : Bool) (cs : List Char) : Prop := ∀ before after, cs = before ++ '_' :: after →
  before.getLast?.elim afterDigit Char.isDigit = true ∧ after.head?.any Char.isDigit = true

def Blanks (cs : List Char) : Prop := ∀ c ∈ cs, isPlainBlank c = true

/-- In plain characters, the text is a number or the name of one between blanks. -/
def Written (s : String) : Prop := ∃ front core back, s.toList.map plain = front ++ core ++ back ∧
  Blanks front ∧ Blanks back ∧ Spaced false core ∧ Spelled (core.filter (· != '_'))

/-! ### Signs and digits -/

theorem splitSign_spec (cs : List Char) : ∃ sign, Sign sign ∧ cs = sign ++ (splitSign cs).2 := by
  unfold splitSign
  split
  · exact ⟨['-'], .minus, rfl⟩
  · exact ⟨['+'], .plus, rfl⟩
  · exact ⟨[], .none, rfl⟩

def Unsigned (cs : List Char) : Prop := ∀ c ∈ cs.head?, c ≠ '-' ∧ c ≠ '+'

theorem splitSign_append {sign body : List Char} (signed : Sign sign) (bare : Unsigned body) :
    (splitSign (sign ++ body)).2 = body := by
  cases signed with
  | plus => rfl
  | minus => rfl
  | none =>
    cases body with
    | nil => rfl
    | cons c rest =>
      obtain ⟨minus, plus⟩ := bare c rfl
      rw [List.nil_append]
      unfold splitSign
      split
      · rename_i same
        exact (minus (List.cons.inj same).1).elim
      · rename_i same
        exact (plus (List.cons.inj same).1).elim
      · rfl

theorem Digits.unsigned_append {ds rest : List Char} (digits : Digits ds) (after : Unsigned rest) :
    Unsigned (ds ++ rest) := by
  cases ds with
  | nil => exact after
  | cons d ds =>
    intro c first
    obtain rfl : d = c := Option.some.inj first
    have digit := digits d List.mem_cons_self
    constructor <;> rintro rfl <;> cases digit

theorem Digits.unsigned {ds : List Char} (digits : Digits ds) : Unsigned ds := by
  have empty : Unsigned [] := fun _ => nofun
  simpa using digits.unsigned_append empty

theorem splitDigits_spec (cs : List Char) :
    Digits (splitDigits cs).1 ∧ (∀ c ∈ (splitDigits cs).2.head?, c.isDigit = false) ∧
      cs = (splitDigits cs).1 ++ (splitDigits cs).2 := by
  refine ⟨List.all_eq_true.mp List.all_takeWhile, ?_, List.takeWhile_append_dropWhile.symm⟩
  intro c first
  have stopped := List.head?_dropWhile_not Char.isDigit cs
  rw [show (cs.dropWhile Char.isDigit).head? = some c from first] at stopped
  exact stopped

theorem splitDigits_append {ds rest : List Char} (digits : Digits ds)
    (stops : ∀ c ∈ rest.head?, c.isDigit = false) : splitDigits (ds ++ rest) = (ds, rest) := by
  have past : rest.takeWhile Char.isDigit = [] ∧ rest.dropWhile Char.isDigit = rest := by
    cases rest with
    | nil => exact ⟨rfl, rfl⟩
    | cons c rest => simp [stops c rfl]
  rw [splitDigits, List.takeWhile_append_of_pos digits, List.dropWhile_append_of_pos digits, past.1, past.2,
    List.append_nil]

theorem whole?_isSome_iff (cs : List Char) : (whole? cs).isSome = true ↔
    ∃ sign ds, cs = sign ++ ds ∧ Sign sign ∧ Digits ds ∧ ds ≠ [] := by
  unfold whole?
  dsimp only
  constructor
  · intro read
    split at read
    · rename_i filled
      obtain ⟨sign, signed, split⟩ := splitSign_spec cs
      simp only [Bool.and_eq_true, Bool.not_eq_true', List.isEmpty_eq_false_iff, List.all_eq_true] at filled
      exact ⟨sign, _, split, signed, filled.2, filled.1⟩
    · cases read
  · rintro ⟨sign, ds, rfl, signed, digits, filled⟩
    have all : ds.all Char.isDigit = true := List.all_eq_true.mpr digits
    simp [splitSign_append signed digits.unsigned, filled, all]

/-! ### Decimals -/

theorem exponent?_isSome_iff (cs : List Char) : (exponent? cs).isSome = true ↔ Exponent cs := by
  cases cs with
  | nil => exact ⟨fun _ => .none, fun _ => rfl⟩
  | cons e rest =>
    rw [exponent?]
    constructor
    · intro read
      split at read
      · rename_i letter
        rw [Option.isSome_map] at read
        obtain ⟨sign, ds, rfl, signed, digits, filled⟩ := (whole?_isSome_iff rest).mp read
        exact .some (by simpa using letter) signed digits filled
      · cases read
    · intro exponent
      cases exponent with
      | some letter signed digits filled =>
        have letter : (e == 'e' || e == 'E') = true := by simpa using letter
        rw [if_pos letter, Option.isSome_map]
        exact (whole?_isSome_iff _).mpr ⟨_, _, rfl, signed, digits, filled⟩

theorem Exponent.head {e : List Char} (exponent : Exponent e) : ∀ c ∈ e.head?, c = 'e' ∨ c = 'E' := by
  cases exponent with
  | none => exact fun _ => nofun
  | some letter =>
    rintro c ⟨⟩
    exact letter

theorem Exponent.stops {e : List Char} (exponent : Exponent e) : ∀ c ∈ e.head?, c.isDigit = false ∧ c ≠ '.' := by
  intro c first
  rcases exponent.head c first with rfl | rfl <;> decide

theorem decimal?_pointed {before : List Char} (digits : Digits before) (negative : Bool) (rest : List Char) :
    (decimal? negative (before ++ '.' :: rest)).isSome = true ↔
      (before ≠ [] ∨ (splitDigits rest).1 ≠ []) ∧ (exponent? (splitDigits rest).2).isSome = true := by
  rw [decimal?, splitDigits_append digits fun c first => by cases first; rfl]
  change (if (before.isEmpty && (splitDigits rest).1.isEmpty) = true then none else _).isSome = true ↔ _
  split
  · rename_i empty
    simp only [Bool.and_eq_true, List.isEmpty_iff] at empty
    simp [empty.1, empty.2]
  · rename_i filled
    rw [Bool.and_eq_true, List.isEmpty_iff, List.isEmpty_iff, Decidable.not_and_iff_or_not] at filled
    rw [Option.isSome_map, and_iff_right filled]
    rfl

theorem decimal?_whole {before rest : List Char} (digits : Digits before) (negative : Bool)
    (stops : ∀ c ∈ rest.head?, c.isDigit = false ∧ c ≠ '.') :
    (decimal? negative (before ++ rest)).isSome = true ↔ before ≠ [] ∧ (exponent? rest).isSome = true := by
  rw [decimal?, splitDigits_append digits fun c first => (stops c first).1]
  dsimp only
  split
  · exact ((stops '.' rfl).2 rfl).elim
  · rw [List.isEmpty_nil, Bool.and_true]
    split
    · rename_i empty
      simp [List.isEmpty_iff.mp empty]
    · rename_i filled
      rw [Option.isSome_map, and_iff_right (mt List.isEmpty_iff.mpr filled)]

theorem decimal?_isSome_iff (negative : Bool) (cs : List Char) :
    (decimal? negative cs).isSome = true ↔ Decimal cs := by
  constructor
  · intro read
    obtain ⟨digits, stops, split⟩ := splitDigits_spec cs
    generalize (splitDigits cs).1 = before at digits split
    generalize (splitDigits cs).2 = rest at stops split
    subst split
    by_cases point : rest.head? = some '.'
    · obtain ⟨rest, rfl⟩ := List.head?_eq_some_iff.mp point
      obtain ⟨filled, exponent⟩ := (decimal?_pointed digits negative rest).mp read
      obtain ⟨digits', -, split⟩ := splitDigits_spec rest
      have decimal := Decimal.pointed digits digits' filled ((exponent?_isSome_iff _).mp exponent)
      rwa [← split] at decimal
    · have stops : ∀ c ∈ rest.head?, c.isDigit = false ∧ c ≠ '.' :=
        fun c first => ⟨stops c first, fun same => point (same ▸ first)⟩
      obtain ⟨filled, exponent⟩ := (decimal?_whole digits negative stops).mp read
      exact .whole digits filled ((exponent?_isSome_iff rest).mp exponent)
  · intro decimal
    cases decimal with
    | whole digits filled exponent =>
      exact (decimal?_whole digits negative exponent.stops).mpr ⟨filled, (exponent?_isSome_iff _).mpr exponent⟩
    | pointed digits digits' filled exponent =>
      have behind := splitDigits_append digits' fun c first => (exponent.stops c first).1
      rw [decimal?_pointed digits, behind]
      exact ⟨filled, (exponent?_isSome_iff _).mpr exponent⟩

/-! ### Numbers and names -/

theorem Decimal.unsigned {cs : List Char} (decimal : Decimal cs) : Unsigned cs := by
  cases decimal with
  | whole digits filled exponent =>
    refine digits.unsigned_append fun c first => ?_
    rcases exponent.head c first with rfl | rfl <;> decide
  | pointed digits =>
    refine digits.unsigned_append fun c first => ?_
    cases first
    decide

theorem Named.unsigned {cs : List Char} (named : Named cs) : Unsigned cs := by
  intro c first
  obtain ⟨rest, rfl⟩ := List.head?_eq_some_iff.mp first
  constructor <;> rintro rfl <;> simp [Named] at named

theorem float?_isSome (cs : List Char) :
    (float? cs).isSome = true ↔ Named (splitSign cs).2 ∨ Decimal (splitSign cs).2 := by
  have same : ∀ s : String, String.ofList ((splitSign cs).2.map Char.toLower) = s ↔
      (splitSign cs).2.map Char.toLower = s.toList := by
    intro s
    rw [← String.toList_inj, String.toList_ofList]
  simp only [float?, Named, List.mem_cons, ← same, beq_iff_eq, Bool.or_eq_true, List.not_mem_nil, or_false,
    ← decimal?_isSome_iff (splitSign cs).1]
  split
  · rename_i infinite
    exact iff_of_true rfl (.inl (infinite.imp_right .inl))
  · rename_i finite
    obtain ⟨bounded, unbounded⟩ := not_or.mp finite
    split
    · rename_i undefined
      exact iff_of_true rfl (.inl (.inr (.inr undefined)))
    · rename_i defined
      simp only [bounded, unbounded, defined, false_or]

theorem float?_isSome_iff (cs : List Char) : (float? cs).isSome = true ↔ Spelled cs := by
  rw [float?_isSome]
  constructor
  · intro spelled
    obtain ⟨sign, signed, split⟩ := splitSign_spec cs
    exact ⟨sign, _, split, signed, spelled⟩
  · rintro ⟨sign, body, rfl, signed, spelled⟩
    have bare : Unsigned body := spelled.elim Named.unsigned Decimal.unsigned
    rwa [splitSign_append signed bare]

theorem spelled_of_whole {cs : List Char} (read : (whole? cs).isSome = true) : Spelled cs := by
  obtain ⟨sign, ds, rfl, signed, digits, filled⟩ := (whole?_isSome_iff cs).mp read
  refine ⟨sign, ds, rfl, signed, .inr ?_⟩
  simpa using Decimal.whole digits filled .none

/-! ### Blanks -/

def Solid (cs : List Char) : Prop := ∀ c ∈ cs, isPlainBlank c = false

theorem blank_cases {c : Char} (blank : isPlainBlank c = true) :
    c ∈ [' ', '\t', '\n', '\x0b', '\x0c', '\r'] := by
  rcases Bool.or_eq_true_iff.mp blank with space | control
  · simp [beq_iff_eq.mp space]
  · have within : c.toNat = 9 ∨ c.toNat = 10 ∨ c.toNat = 11 ∨ c.toNat = 12 ∨ c.toNat = 13 := by
      simp only [Bool.and_eq_true, decide_eq_true_eq] at control
      omega
    rw [← Char.ofNat_toNat c]
    rcases within with code | code | code | code | code <;> rw [code] <;> decide

theorem solid_of {p : Char → Bool} {cs : List Char} (all : ∀ c ∈ cs, p c = true)
    (apart : [' ', '\t', '\n', '\x0b', '\x0c', '\r'].any p = false) : Solid cs := by
  intro c member
  refine eq_false_of_ne_true fun blank => ?_
  exact List.any_eq_false.mp apart c (blank_cases blank) (all c member)

theorem Solid.append {cs ds : List Char} (solid : Solid cs) (solid' : Solid ds) : Solid (cs ++ ds) :=
  List.forall_mem_append.mpr ⟨solid, solid'⟩

theorem Digits.solid {ds : List Char} (digits : Digits ds) : Solid ds := solid_of digits (by decide)

theorem Sign.solid {cs : List Char} (signed : Sign cs) : Solid cs := by
  cases signed with
  | none => exact List.forall_mem_nil _
  | plus => exact List.forall_mem_singleton.mpr (by decide)
  | minus => exact List.forall_mem_singleton.mpr (by decide)

theorem Exponent.solid {e : List Char} (exponent : Exponent e) : Solid e := by
  cases exponent with
  | none => exact List.forall_mem_nil _
  | some letter signed digits =>
    refine List.forall_mem_cons.mpr ⟨?_, signed.solid.append digits.solid⟩
    rcases letter with rfl | rfl <;> decide

theorem Decimal.solid {cs : List Char} (decimal : Decimal cs) : Solid cs := by
  cases decimal with
  | whole digits _ exponent => exact digits.solid.append exponent.solid
  | pointed digits digits' _ exponent =>
    exact digits.solid.append (List.forall_mem_cons.mpr ⟨by decide, digits'.solid.append exponent.solid⟩)

theorem Named.solid {cs : List Char} (named : Named cs) : Solid cs := by
  have letters : ["inf".toList, "infinity".toList, "nan".toList].all (·.all "infatyn".toList.contains) = true := by
    decide
  refine solid_of (p := fun c => "infatyn".toList.contains c.toLower) (fun c member => ?_) (by decide)
  exact List.all_eq_true.mp (List.all_eq_true.mp letters _ named) _ (List.mem_map_of_mem member)

theorem Spelled.solid {cs : List Char} (spelled : Spelled cs) : Solid cs := by
  obtain ⟨sign, body, rfl, signed, named | decimal⟩ := spelled
  · exact signed.solid.append named.solid
  · exact signed.solid.append decimal.solid

theorem trim_spec (cs : List Char) :
    ∃ front back, cs = front ++ trim isPlainBlank cs ++ back ∧ Blanks front ∧ Blanks back := by
  let rest := cs.dropWhile isPlainBlank
  refine ⟨cs.takeWhile isPlainBlank, (rest.reverse.takeWhile isPlainBlank).reverse, ?_, ?_, ?_⟩
  · have split : trim isPlainBlank cs ++ (rest.reverse.takeWhile isPlainBlank).reverse = rest := by
      rw [trim, ← List.reverse_append, List.takeWhile_append_dropWhile, List.reverse_reverse]
    rw [List.append_assoc, split, List.takeWhile_append_dropWhile]
  · exact List.all_eq_true.mp List.all_takeWhile
  · intro c member
    exact List.all_eq_true.mp List.all_takeWhile c (List.mem_reverse.mp member)

theorem dropWhile_of_solid {cs : List Char} (solid : Solid cs) : cs.dropWhile isPlainBlank = cs := by
  cases cs with
  | nil => rfl
  | cons c cs => exact List.dropWhile_cons_of_neg (by simp [solid c List.mem_cons_self])

theorem trim_padded {front core back : List Char} (before : Blanks front) (behind : Blanks back)
    (solid : Solid core) : trim isPlainBlank (front ++ core ++ back) = core := by
  have behind' : Blanks back.reverse := fun c member => behind c (List.mem_reverse.mp member)
  have turned : Solid core.reverse := fun c member => solid c (List.mem_reverse.mp member)
  rw [trim, List.append_assoc, List.dropWhile_append_of_pos before]
  cases core with
  | nil =>
    rw [List.nil_append, ← List.append_nil back, List.dropWhile_append_of_pos behind]
    rfl
  | cons c core =>
    rw [List.cons_append, List.dropWhile_cons_of_neg (by simp [solid c List.mem_cons_self]), ← List.cons_append,
      List.reverse_append, List.dropWhile_append_of_pos behind', dropWhile_of_solid turned, List.reverse_reverse]

/-! ### Underscores -/

theorem spaced_cons (afterDigit : Bool) (c : Char) (cs : List Char) : Spaced afterDigit (c :: cs) ↔
    (c = '_' → afterDigit = true ∧ cs.head?.any Char.isDigit = true) ∧ Spaced c.isDigit cs := by
  have last : ∀ before : List Char, (c :: before).getLast?.elim afterDigit Char.isDigit =
      before.getLast?.elim c.isDigit Char.isDigit := by
    intro before
    rw [List.getLast?_cons]
    cases before.getLast? <;> rfl
  constructor
  · intro spaced
    refine ⟨fun same => spaced [] cs (same ▸ rfl), fun before after split => ?_⟩
    rw [← last before]
    exact spaced (c :: before) after (congrArg (c :: ·) split)
  · rintro ⟨first, spaced⟩ before after split
    cases before with
    | nil =>
      obtain ⟨same, rfl⟩ := List.cons.inj split
      exact first same
    | cons d before =>
      obtain ⟨rfl, behind⟩ := List.cons.inj split
      rw [last before]
      exact spaced before after behind

theorem dropUnderscores?_eq_some_iff (afterDigit : Bool) (cs ds : List Char) :
    dropUnderscores? afterDigit cs = some ds ↔ Spaced afterDigit cs ∧ cs.filter (· != '_') = ds := by
  induction cs generalizing afterDigit ds with
  | nil =>
    have spaced : Spaced afterDigit [] := fun before after split => by cases before <;> cases split
    rw [dropUnderscores?, and_iff_right spaced, List.filter_nil, Option.some_inj]
  | cons c cs ih =>
    rw [dropUnderscores?, spaced_cons]
    by_cases underscore : c = '_'
    · subst underscore
      rw [List.filter_cons_of_neg (by decide), if_pos (beq_self_eq_true '_')]
      split
      · rename_i between
        have between := Bool.and_eq_true_iff.mp between
        rw [ih, and_iff_right fun _ => between]
        rfl
      · rename_i stray
        have stray := mt Bool.and_eq_true_iff.mpr stray
        exact ⟨nofun, fun ⟨⟨between, _⟩, _⟩ => (stray (between rfl)).elim⟩
    · rw [List.filter_cons_of_pos (by simpa using underscore), if_neg (by simpa using underscore)]
      rw [Option.map_eq_map, Option.map_eq_some_iff, and_iff_right fun same => (underscore same).elim]
      simp only [ih]
      constructor
      · rintro ⟨_, ⟨spaced, rfl⟩, rfl⟩
        exact ⟨spaced, rfl⟩
      · rintro ⟨spaced, rfl⟩
        exact ⟨_, ⟨spaced, rfl⟩, rfl⟩

/-! ### Numbers in the environment -/

theorem plainForm_spelled_iff (s : String) :
    (∃ cs, plainForm s = some cs ∧ Spelled cs) ↔ Written s := by
  constructor
  · rintro ⟨cs, formed, spelled⟩
    obtain ⟨spaced, rfl⟩ := (dropUnderscores?_eq_some_iff false _ cs).mp formed
    obtain ⟨front, back, split, before, behind⟩ := trim_spec (s.toList.map plain)
    exact ⟨front, _, back, split, before, behind, spaced, spelled⟩
  · rintro ⟨front, core, back, split, before, behind, spaced, spelled⟩
    have solid : Solid core := by
      intro c member
      by_cases underscore : c = '_'
      · subst underscore
        decide
      · exact spelled.solid c (List.mem_filter.mpr ⟨member, by simpa using underscore⟩)
    refine ⟨_, ?_, spelled⟩
    rw [plainForm, split, trim_padded before behind solid]
    exact (dropUnderscores?_eq_some_iff false core _).mpr ⟨spaced, rfl⟩

theorem anyFloat?_isSome_iff (s : String) : (anyFloat? s).isSome = true ↔ Written s := by
  rw [← plainForm_spelled_iff, anyFloat?]
  cases plainForm s with
  | none => simp
  | some cs => simp [float?_isSome_iff]

instance : DecidablePred Written := fun s => decidable_of_iff _ (anyFloat?_isSome_iff s)

example : Written " +1_0.5e-٣\n" ∧ Written "nan" ∧ ¬Written "1__0" ∧ ¬Written "0x10" := by decide +kernel

theorem written_of_anyInt? {s : String} {n : Int} (read : anyInt? s = some n) : Written s := by
  obtain ⟨parts, whole, -⟩ := Option.bind_eq_some_iff.mp read
  obtain ⟨cs, formed, whole⟩ := Option.bind_eq_some_iff.mp whole
  exact (plainForm_spelled_iff s).mp ⟨cs, formed, spelled_of_whole (Option.isSome_of_mem whole)⟩

end Switchboard.Numeral
