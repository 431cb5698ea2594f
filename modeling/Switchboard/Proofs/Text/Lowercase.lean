import Switchboard.Text.Lowercase

/-!
The lower-case form of a part of a text. All characters but the capital sigma have one form wherever they
stand, and a sigma looks past some characters for a letter on either side. So a part keeps its form in every
text around it exactly if none of its sigmas looks beyond its ends: `lowerFrom_infix_iff`.
-/

namespace Switchboard.Text

/-! ### Looking for a letter -/

/-- Casing looks past all of these. -/
def Ignorable (cs : List Char) : Prop := ∀ c ∈ cs, caseIgnorable.has c = true

theorem sigma_not_ignorable : caseIgnorable.has 'Σ' = false := by decide +kernel

theorem sigma_cased : casedLetters.has 'Σ' = true := by decide +kernel

theorem Ignorable.no_sigma {cs : List Char} (past : Ignorable cs) : 'Σ' ∉ cs := by
  intro listed
  cases sigma_not_ignorable.symm.trans (past 'Σ' listed)

theorem Ignorable.reverse {cs : List Char} (past : Ignorable cs) : Ignorable cs.reverse := by
  intro c listed
  exact past c (List.mem_reverse.mp listed)

theorem meetsLetter_cons (c : Char) (rest : List Char) : meetsLetter (c :: rest) =
    if caseIgnorable.has c = true then meetsLetter rest else casedLetters.has c := by
  unfold meetsLetter
  by_cases past : caseIgnorable.has c = true <;> simp [past]

theorem meetsLetter_append_congr {ys ys' : List Char} (same : meetsLetter ys = meetsLetter ys')
    (xs : List Char) : meetsLetter (xs ++ ys) = meetsLetter (xs ++ ys') := by
  induction xs with
  | nil => exact same
  | cons c rest ih => rw [List.cons_append, List.cons_append, meetsLetter_cons, meetsLetter_cons, ih]

theorem meetsLetter_past {xs : List Char} (past : Ignorable xs) (ys : List Char) :
    meetsLetter (xs ++ ys) = meetsLetter ys := by
  induction xs with
  | nil => rfl
  | cons c rest ih =>
    obtain ⟨first, others⟩ := List.forall_mem_cons.mp past
    rw [List.cons_append, meetsLetter_cons, if_pos first]
    exact ih others

theorem meetsLetter_short {xs : List Char} (stops : ¬Ignorable xs) (ys : List Char) :
    meetsLetter (xs ++ ys) = meetsLetter xs := by
  induction xs with
  | nil => exact (stops (List.forall_mem_nil _)).elim
  | cons c rest ih =>
    rw [List.cons_append, meetsLetter_cons, meetsLetter_cons]
    by_cases first : caseIgnorable.has c = true
    · rw [if_pos first, if_pos first]
      exact ih fun past => stops (List.forall_mem_cons.mpr ⟨first, past⟩)
    · rw [if_neg first, if_neg first]

theorem meetsLetter_ignorable {xs : List Char} (past : Ignorable xs) : meetsLetter xs = false := by
  have beyond := meetsLetter_past past []
  rwa [List.append_nil] at beyond

theorem meetsLetter_letter {c : Char} (counts : caseIgnorable.has c = false) (cased : casedLetters.has c = true)
    (rest : List Char) : meetsLetter (c :: rest) = true := by
  rw [meetsLetter_cons, counts, if_neg Bool.false_ne_true, cased]

theorem meetsLetter_sigma (rest : List Char) : meetsLetter ('Σ' :: rest) = true :=
  meetsLetter_letter sigma_not_ignorable sigma_cased rest

/-! ### One stretch of a text -/

/-- What a character becomes behind some others, which are read backwards, and before some more. -/
def lowerOne (before after : List Char) (c : Char) : List Char :=
  if c.toNat < 0x80 then [c.toLower]
  else if c == 'Σ' then [sigma before after]
  else if c == 'İ' then ['i', '\u0307']
  else [lowerChar c]

/-- What a stretch of a text becomes in its place. -/
def lowerWithin (before after : List Char) : List Char → List Char
  | [] => []
  | c :: rest => lowerOne before (rest ++ after) c ++ lowerWithin (c :: before) after rest

theorem lowerOne_sigma (before after : List Char) : lowerOne before after 'Σ' = [sigma before after] := rfl

theorem lowerOne_other {c : Char} (other : c ≠ 'Σ') (before after before' after' : List Char) :
    lowerOne before after c = lowerOne before' after' c := by
  simp [lowerOne, other]

theorem lowerFrom_cons (before : List Char) (c : Char) (rest : List Char) :
    lowerFrom before (c :: rest) = lowerOne before rest c ++ lowerFrom (c :: before) rest := by
  rw [lowerFrom, lowerOne]
  split
  · rfl
  · split
    · rfl
    · split <;> rfl

theorem lowerFrom_append (before cs after : List Char) : lowerFrom before (cs ++ after) =
    lowerWithin before after cs ++ lowerFrom (cs.reverse ++ before) after := by
  induction cs generalizing before with
  | nil => rfl
  | cons c rest ih =>
    rw [List.cons_append, lowerFrom_cons, ih, lowerWithin, List.append_assoc, List.reverse_cons,
      List.append_assoc, List.singleton_append]

theorem lowerFrom_eq (before cs : List Char) : lowerFrom before cs = lowerWithin before [] cs := by
  have whole := lowerFrom_append before cs []
  rwa [List.append_nil, lowerFrom, List.append_nil] at whole

theorem lowerWithin_no_sigma {cs : List Char} (none : 'Σ' ∉ cs) (before after before' after' : List Char) :
    lowerWithin before after cs = lowerWithin before' after' cs := by
  induction cs generalizing before before' with
  | nil => rfl
  | cons c rest ih =>
    obtain ⟨other, none⟩ := not_or.mp (mt List.mem_cons.mpr none)
    rw [lowerWithin, lowerWithin, lowerOne_other (Ne.symm other) before _ before' (rest ++ after'), ih none]

-- A stretch sees of its surroundings no more than whether they meet it with a letter.
theorem lowerWithin_congr {before before' after after' : List Char}
    (behind : meetsLetter before = meetsLetter before') (ahead : meetsLetter after = meetsLetter after')
    (cs : List Char) : lowerWithin before after cs = lowerWithin before' after' cs := by
  induction cs generalizing before before' with
  | nil => rfl
  | cons c rest ih =>
    have further : meetsLetter (c :: before) = meetsLetter (c :: before') := by
      rw [meetsLetter_cons, meetsLetter_cons, behind]
    have one : lowerOne before (rest ++ after) c = lowerOne before' (rest ++ after') c := by
      by_cases capital : c = 'Σ'
      · rw [capital, lowerOne_sigma, lowerOne_sigma, sigma, sigma, behind, meetsLetter_append_congr ahead]
      · exact lowerOne_other capital _ _ _ _
    rw [lowerWithin, lowerWithin, one, ih further]

theorem lowerFrom_sigma (before cs after : List Char) : lowerFrom before (cs ++ 'Σ' :: after) =
    lowerWithin before ('Σ' :: after) cs ++
      sigma (cs.reverse ++ before) after :: lowerFrom ('Σ' :: (cs.reverse ++ before)) after := by
  rw [lowerFrom_append, lowerFrom_cons, lowerOne_sigma, List.singleton_append]

/-! ### Parts that keep their form -/

/-- No sigma of the text looks beyond an end of it, or it makes no difference what is there: the first
character that counts is no sigma without a letter behind it, and the last one no sigma with a letter before
it. -/
def Steady (cs : List Char) : Prop :=
  ∀ before after, cs = before ++ 'Σ' :: after →
    (Ignorable before → meetsLetter after = true) ∧ (Ignorable after → meetsLetter before.reverse = false)

theorem Steady.sigma {cs before after : List Char} (steady : Steady cs) (split : cs = before ++ 'Σ' :: after)
    (front back : List Char) :
    sigma (before.reverse ++ front) (after ++ back) = sigma before.reverse after := by
  obtain ⟨first, last⟩ := steady before after split
  have followed : ∀ more, meetsLetter after = true → meetsLetter (after ++ more) = true := by
    intro more meets
    have stops : ¬Ignorable after := fun past => by
      cases (meetsLetter_ignorable past).symm.trans meets
    rw [meetsLetter_short stops, meets]
  by_cases opens : Ignorable before
  · have meets := first opens
    rw [Text.sigma, Text.sigma, followed back meets, meets, Bool.not_true, Bool.and_false, Bool.and_false]
  · have stops : ¬Ignorable before.reverse := fun past => opens (List.reverse_reverse before ▸ past.reverse)
    rw [Text.sigma, Text.sigma, meetsLetter_short stops]
    by_cases closes : Ignorable after
    · rw [last closes, Bool.false_and, Bool.false_and]
    · rw [meetsLetter_short closes]

theorem Steady.lowerWithin {cs : List Char} (steady : Steady cs) {before rest : List Char}
    (split : cs = before ++ rest) (front back : List Char) :
    lowerWithin (before.reverse ++ front) back rest = lowerWithin before.reverse [] rest := by
  induction rest generalizing before with
  | nil => rfl
  | cons c rest ih =>
    have next : cs = (before ++ [c]) ++ rest := by simp [split]
    have others := ih next
    rw [List.reverse_append, List.reverse_singleton, List.singleton_append, List.cons_append] at others
    have one : lowerOne (before.reverse ++ front) (rest ++ back) c = lowerOne before.reverse (rest ++ []) c := by
      by_cases capital : c = 'Σ'
      · subst capital
        rw [lowerOne_sigma, lowerOne_sigma, steady.sigma split, List.append_nil]
      · exact lowerOne_other capital _ _ _ _
    rw [Text.lowerWithin, Text.lowerWithin, one, others]

theorem lowerFrom_infix {part whole : List Char} (steady : Steady part) (occurs : part <:+: whole) :
    lowerFrom [] part <:+: lowerFrom [] whole := by
  obtain ⟨front, back, rfl⟩ := occurs
  refine ⟨lowerWithin [] (part ++ back) front, lowerFrom (part.reverse ++ front.reverse) back, ?_⟩
  have kept := @Steady.lowerWithin part steady [] part rfl front.reverse back
  rw [List.reverse_nil, List.nil_append] at kept
  rw [lowerFrom_eq [] part, ← kept, List.append_assoc front, lowerFrom_append, List.append_nil,
    lowerFrom_append, List.append_assoc]

/-! ### Parts that change their form -/

theorem letter_alone (before after : List Char) : lowerOne before after 'a' = ['a'] := rfl

theorem letter_met (cs : List Char) : meetsLetter ('a' :: cs) = true :=
  meetsLetter_letter (by decide +kernel) (by decide +kernel) cs

theorem last_sigma_changes {before after : List Char} (closes : Ignorable after)
    (follows : meetsLetter before.reverse = true) :
    ¬lowerFrom [] (before ++ 'Σ' :: after) <:+: lowerFrom [] (before ++ 'Σ' :: after ++ ['a']) := by
  intro occurs
  have ahead : meetsLetter ('Σ' :: (after ++ ['a'])) = meetsLetter ('Σ' :: after) := by
    rw [meetsLetter_sigma, meetsLetter_sigma]
  have front := @lowerWithin_congr [] [] _ _ rfl ahead before
  have alone : sigma before.reverse after = 'ς' := by
    rw [sigma, follows, meetsLetter_ignorable closes]
    rfl
  have among : sigma before.reverse (after ++ ['a']) = 'σ' := by
    rw [sigma, meetsLetter_past closes, letter_met]
    simp
  have back := lowerWithin_no_sigma closes.no_sigma ('Σ' :: before.reverse) ['a'] ('Σ' :: before.reverse) []
  -- The part alone has one final sigma more than the text that it is said to occur in.
  have fewer := occurs.sublist.count_le 'ς'
  rw [List.append_assoc, List.cons_append, lowerFrom_sigma, lowerFrom_sigma, List.append_nil, front, alone,
    among, lowerFrom_append, back, lowerFrom_eq _ after, lowerFrom_cons, letter_alone] at fewer
  simp only [List.count_append, List.count_cons_self, lowerFrom, List.append_nil, ne_eq, Char.reduceEq,
    not_false_eq_true, List.count_cons_of_ne, List.count_nil] at fewer
  omega

theorem first_sigma_changes {before after : List Char} (opens : Ignorable before)
    (last : meetsLetter after = false) :
    ¬lowerFrom [] (before ++ 'Σ' :: after) <:+: lowerFrom [] ('a' :: (before ++ 'Σ' :: after)) := by
  intro occurs
  have front := lowerWithin_no_sigma opens.no_sigma ['a'] ('Σ' :: after) [] ('Σ' :: after)
  have alone : sigma before.reverse after = 'σ' := by
    rw [sigma, meetsLetter_ignorable opens.reverse]
    rfl
  have among : sigma (before.reverse ++ ['a']) after = 'ς' := by
    rw [sigma, meetsLetter_past opens.reverse, letter_met, last]
    rfl
  have behind : meetsLetter ('Σ' :: (before.reverse ++ ['a'])) = meetsLetter ('Σ' :: before.reverse) := by
    rw [meetsLetter_sigma, meetsLetter_sigma]
  have back := @lowerWithin_congr _ _ [] [] behind rfl after
  have fewer := occurs.sublist.count_le 'σ'
  rw [lowerFrom_cons, letter_alone, lowerFrom_sigma, lowerFrom_sigma, List.append_nil, front, alone, among,
    lowerFrom_eq _ after, lowerFrom_eq _ after, back] at fewer
  simp only [List.count_append, List.count_cons_self, List.cons_append, List.nil_append, ne_eq, Char.reduceEq,
    not_false_eq_true, List.count_cons_of_ne] at fewer
  omega

/-- A part is found in lower case in every text that has it if and only if it is steady. -/
theorem lowerFrom_infix_iff (part : List Char) :
    (∀ whole, part <:+: whole → lowerFrom [] part <:+: lowerFrom [] whole) ↔ Steady part := by
  constructor
  · rintro found before after rfl
    constructor
    · intro opens
      cases last : meetsLetter after with
      | true => rfl
      | false => exact (first_sigma_changes opens last (found _ (List.suffix_cons 'a' _).isInfix)).elim
    · intro closes
      cases follows : meetsLetter before.reverse with
      | false => rfl
      | true => exact (last_sigma_changes closes follows (found _ (List.prefix_append _ ['a']).isInfix)).elim
  · exact fun steady whole => lowerFrom_infix steady

end Switchboard.Text
