import Mathlib.Data.List.Find
import Switchboard.Proofs.Journal.Levels

/-!
How channels hang together. In whatever order they come into being, each hangs below the nearest of the beginnings
of its name that is a channel: this is what `mention_linked` and `setLevel_linked` keep. Below channels whose names
begin like that of the root it need not be so.
-/

namespace Switchboard.Journal

def ChannelNode.isChannel : ChannelNode → Bool
  | channel _ _ => true
  | place _ => false

def ChannelNode.above? : ChannelNode → Option String
  | channel _ above => above
  | place _ => none

namespace ChannelTree

/-! ### The beginnings of a name -/

theorem ancestorsBack_suffix {a : String} {l : List Char} (listed : a ∈ ancestorsBack l) :
    ∃ s, a = String.ofList s.reverse ∧ s <:+ l ∧ s.length < l.length := by
  fun_induction ancestorsBack l with
  | case1 c rest ih =>
    rcases List.mem_cons.mp listed with rfl | later
    · exact ⟨c :: rest, rfl, List.suffix_cons _ _, Nat.lt_succ_self _⟩
    · obtain ⟨s, rfl, suffix, shorter⟩ := ih later
      refine ⟨s, rfl, suffix.trans ((List.suffix_cons c rest).trans (List.suffix_cons _ _)), ?_⟩
      simp only [List.length_cons]
      omega
  | case2 c rest _ ih =>
    obtain ⟨s, rfl, suffix, shorter⟩ := ih listed
    exact ⟨s, rfl, suffix.trans (List.suffix_cons c rest), Nat.lt_succ_of_lt shorter⟩
  | case3 => cases listed

/-- The one name begins with the other and goes on. -/
def Begins (a name : String) : Prop := a.toList <+: name.toList ∧ a.length < name.length

theorem begins_of_suffix {s l : List Char} (suffix : s <:+ l) (shorter : s.length < l.length) :
    Begins (String.ofList s.reverse) (String.ofList l.reverse) := by
  constructor
  · simpa using suffix
  · simpa using shorter

theorem begins_of_ancestor {a name : String} (listed : a ∈ ancestors name) : Begins a name := by
  obtain ⟨s, rfl, suffix, shorter⟩ := ancestorsBack_suffix listed
  simpa using begins_of_suffix suffix shorter

theorem ancestorsBack_pairwise (l : List Char) : (ancestorsBack l).Pairwise fun a b => Begins b a := by
  fun_induction ancestorsBack l with
  | case1 c rest ih =>
    refine List.pairwise_cons.mpr ⟨fun b listed => ?_, ih⟩
    obtain ⟨s, rfl, suffix, shorter⟩ := ancestorsBack_suffix listed
    exact begins_of_suffix (suffix.trans (List.suffix_cons c rest)) (Nat.lt_succ_of_lt shorter)
  | case2 c rest _ ih => exact ih
  | case3 => exact List.Pairwise.nil

theorem ancestors_pairwise (name : String) : (ancestors name).Pairwise fun a b => Begins b a :=
  ancestorsBack_pairwise _

/-- No two points of the name stand side by side. -/
def Single (name : String) : Prop := ¬['.', '.'] <:+: name.toList

theorem ancestorsBack_cons {c : Char} (unpointed : c ≠ '.') (rest : List Char) :
    ancestorsBack (c :: rest) = ancestorsBack rest := by
  rw [ancestorsBack]
  rintro _ _ rfl
  exact (unpointed rfl).elim

theorem ancestorsBack_after {l : List Char} (single : ¬['.', '.'] <:+: l) {before after : List String} {a : String}
    (split : ancestorsBack l = before ++ a :: after) : after = ancestorsBack a.toList.reverse := by
  fun_induction ancestorsBack l generalizing before with
  | case1 c rest ih =>
    cases before with
    | nil =>
      obtain ⟨rfl, rfl⟩ := List.cons.inj split
      have unpointed : c ≠ '.' := by
        rintro rfl
        exact single ⟨[], rest, rfl⟩
      rw [String.toList_ofList, List.reverse_reverse, ancestorsBack_cons unpointed]
    | cons b before =>
      obtain ⟨-, later⟩ := List.cons.inj split
      exact ih (fun inside => single (inside.trans ⟨['.', c], [], by simp⟩)) later
  | case2 c rest _ ih =>
    exact ih (fun inside => single (inside.trans ⟨[c], [], by simp⟩)) split
  | case3 => simp at split

theorem ancestors_after {name a : String} (single : Single name) {before after : List String}
    (split : ancestors name = before ++ a :: after) : after = ancestors a := by
  refine ancestorsBack_after (fun inside => single ?_) split
  exact List.reverse_infix.mp inside

theorem Begins.single {a name : String} (begins : Begins a name) (single : Single name) : Single a :=
  fun inside => single (inside.trans begins.1.isInfix)

/-- None of the beginnings of the name begins the name of the root, that name itself apart. -/
def Apart (name : String) : Prop := ∀ a ∈ ancestors name, a.toList <+: rootName.toList → isRoot a = true

/-! ### Links -/

section links

variable {t t' : ChannelTree} {name x a : String}

/-- There is a channel at the name, which that of the root is not. -/
def isChannel (t : ChannelTree) (name : String) : Bool := (Entries.get? t.nodes name).any ChannelNode.isChannel

/-- The channel is to be told once there is a channel at the place. -/
def WaitsAt (t : ChannelTree) (name place : String) : Prop :=
  ∃ below, Entries.get? t.nodes place = some (.place below) ∧ name ∈ below

theorem WaitsAt.not_channel (waits : t.WaitsAt x a) : t.isChannel a = false := by
  obtain ⟨below, found, -⟩ := waits
  rw [isChannel, found]
  rfl

/-- Neither at the place nor on the way from the name up to it is there a channel. -/
def Open (t : ChannelTree) (name place : String) : Prop :=
  ∀ a ∈ ancestors name, a = place ∨ Begins place a → t.isChannel a = false

/-- Each channel hangs below the nearest of its beginnings that is one, and waits at those between. -/
structure Linked (t : ChannelTree) : Prop where
  root : ∀ x, isRoot x = true → t.isChannel x = false
  waiting : ∀ x a, t.WaitsAt x a → t.isChannel x = true ∧ a ∈ ancestors x
  waits : ∀ x, Apart x → t.isChannel x = true → ∀ a ∈ ancestors x, t.Open x a → t.WaitsAt x a
  above : ∀ x, Apart x → t.isChannel x = true → t.above? x = (ancestors x).find? t.isChannel

theorem linked_empty (root : Rank) : Linked { root } where
  root _ _ := rfl
  waiting x a waits := by
    obtain ⟨below, found, -⟩ := waits
    cases found
  waits x _ channel := by cases channel
  above x _ channel := by cases channel

/-- The one tree has the channels of the other in the same places. -/
structure SameLinks (t t' : ChannelTree) : Prop where
  isChannel : t'.isChannel = t.isChannel
  above : t'.above? = t.above?
  waits : t'.WaitsAt = t.WaitsAt

theorem SameLinks.linked (same : t.SameLinks t') (linked : t.Linked) : t'.Linked := by
  constructor
  case root => rw [same.isChannel]; exact linked.root
  case waiting => rw [same.isChannel, same.waits]; exact linked.waiting
  case waits =>
    unfold Open
    rw [same.isChannel, same.waits]
    exact linked.waits
  case above => rw [same.isChannel, same.above]; exact linked.above

theorem above?_eq (t : ChannelTree) (name : String) :
    t.above? name = (Entries.get? t.nodes name).bind ChannelNode.above? := by
  unfold above?
  cases Entries.get? t.nodes name with
  | none => rfl
  | some n => cases n <;> rfl

theorem isChannel_put (n : ChannelNode) :
    ({ t with nodes := Entries.put t.nodes name n } : ChannelTree).isChannel x =
      if name = x then n.isChannel else t.isChannel x := by
  unfold isChannel
  rw [Entries.get?_put]
  split <;> rfl

theorem above?_put (n : ChannelNode) :
    ({ t with nodes := Entries.put t.nodes name n } : ChannelTree).above? x =
      if name = x then n.above? else t.above? x := by
  rw [above?_eq, above?_eq, Entries.get?_put]
  split <;> rfl

theorem waitsAt_put_channel {l : Rank} {above : Option String} :
    ({ t with nodes := Entries.put t.nodes name (.channel l above) } : ChannelTree).WaitsAt x a ↔
      name ≠ a ∧ t.WaitsAt x a := by
  unfold WaitsAt
  rw [Entries.get?_put]
  split <;> simp [*]

/-- A channel that is written anew where it was has the same channels around it. -/
theorem rewrite_channel (channel : t.isChannel name = true) (l : Rank) (above : Option String) :
    ({ t with nodes := Entries.put t.nodes name (.channel l above) } : ChannelTree).isChannel = t.isChannel ∧
      ({ t with nodes := Entries.put t.nodes name (.channel l above) } : ChannelTree).WaitsAt = t.WaitsAt := by
  constructor
  · funext x
    rw [isChannel_put]
    split
    next same => rw [← same, channel]; rfl
    next => rfl
  · funext x a
    refine propext (waitsAt_put_channel.trans (and_iff_right_of_imp ?_))
    rintro waits rfl
    cases channel.symm.trans waits.not_channel

theorem waitsAt_put_place {below : List String} :
    ({ t with nodes := Entries.put t.nodes name (.place below) } : ChannelTree).WaitsAt x a ↔
      if name = a then x ∈ below else t.WaitsAt x a := by
  unfold WaitsAt
  rw [Entries.get?_put]
  split <;> simp

theorem isChannel_found (channel : t.isChannel name = true) :
    ∃ l above, Entries.get? t.nodes name = some (.channel l above) := by
  unfold isChannel at channel
  cases found : Entries.get? t.nodes name with
  | none => rw [found] at channel; cases channel
  | some n =>
    rw [found] at channel
    cases n with
    | channel l above => exact ⟨l, above, rfl⟩
    | place below => cases channel

theorem not_channel_cases (absent : t.isChannel name = false) :
    Entries.get? t.nodes name = none ∨ ∃ below, Entries.get? t.nodes name = some (.place below) := by
  unfold isChannel at absent
  cases found : Entries.get? t.nodes name with
  | none => exact .inl rfl
  | some n =>
    rw [found] at absent
    cases n with
    | channel l above => cases absent
    | place below => exact .inr ⟨below, rfl⟩

theorem above?_of_not_channel (absent : t.isChannel name = false) : t.above? name = none := by
  rw [above?_eq]
  rcases not_channel_cases absent with missing | ⟨below, found⟩
  · rw [missing]
    rfl
  · rw [found]
    rfl

/-! ### Making a channel -/

/-- What is above a channel once it was offered to hang below the name. -/
def taken (name : String) (above : Option String) : Option String :=
  if name.toList.isPrefixOf (above.getD rootName).toList then above else some name

theorem taken_taken (name : String) (above : Option String) : taken name (taken name above) = taken name above := by
  unfold taken
  split
  · rfl
  · rw [Option.getD_some, if_pos (by simp)]

structure TakenOver (name : String) (below : List String) (t t' : ChannelTree) : Prop where
  isChannel : t'.isChannel = t.isChannel
  waits : t'.WaitsAt = t.WaitsAt
  above : ∀ x, t'.above? x = if x ∈ below then taken name (t.above? x) else t.above? x

theorem takeOver_takes (channel : t.isChannel x = true) (name : String) : TakenOver name [x] t (takeOver name t x) := by
  unfold takeOver
  split
  next spared =>
    refine ⟨rfl, rfl, fun y => ?_⟩
    simp only [List.mem_singleton]
    split
    next same =>
      obtain rfl := same
      exact (if_pos spared).symm
    next => rfl
  next given =>
    obtain ⟨channels, waits⟩ := rewrite_channel channel (t.ownLevel x) (some name)
    constructor
    case isChannel => exact channels
    case waits => exact waits
    case above =>
      intro y
      rw [above?_put]
      simp only [List.mem_singleton]
      by_cases same : x = y
      · subst same
        rw [if_pos rfl, if_pos rfl]
        exact (if_neg given).symm
      · rw [if_neg same, if_neg (Ne.symm same)]

theorem foldl_takeOver_takes {below : List String} (channels : ∀ c ∈ below, t.isChannel c = true) (name : String) :
    TakenOver name below t (below.foldl (takeOver name) t) := by
  induction below generalizing t with
  | nil => exact ⟨rfl, rfl, fun x => rfl⟩
  | cons c rest ih =>
    obtain ⟨channel, others⟩ := List.forall_mem_cons.mp channels
    have first := takeOver_takes channel name
    rw [← first.isChannel] at others
    have later := ih others
    refine ⟨later.isChannel.trans first.isChannel, later.waits.trans first.waits, fun x => ?_⟩
    rw [List.foldl_cons, later.above, first.above]
    by_cases here : x = c
    · subst here
      rw [if_pos (List.mem_singleton_self x), if_pos List.mem_cons_self]
      split
      · -- The name may stand in the list twice: the second offer changes nothing.
        exact taken_taken _ _
      · rfl
    · have elsewhere : x ∈ c :: rest ↔ x ∈ rest := List.mem_cons.trans (or_iff_right here)
      rw [if_neg (fun listed => here (List.mem_singleton.mp listed))]
      simp only [elsewhere]

/-- The name waits at the empty places of the way up to the nearest channel. -/
structure Climbed (name : String) (way : List String) (t t' : ChannelTree) : Prop where
  isChannel : t'.isChannel = t.isChannel
  above : t'.above? = t.above?
  kept : ∀ x a, t.WaitsAt x a → t'.WaitsAt x a
  new : ∀ a ∈ way.takeWhile (!t.isChannel ·), t'.WaitsAt name a
  only : ∀ x a, t'.WaitsAt x a → t.WaitsAt x a ∨ (x = name ∧ a ∈ way)

theorem enroll_climbed {below : List String} (absent : t.isChannel a = false)
    (exact : ∀ x, t.WaitsAt x a ↔ x ∈ below) (name : String) :
    Climbed name [a] t { t with nodes := Entries.put t.nodes a (.place (below ++ [name])) } := by
  have enrolled (x p : String) :
      ({ t with nodes := Entries.put t.nodes a (.place (below ++ [name])) } : ChannelTree).WaitsAt x p ↔
        t.WaitsAt x p ∨ (x = name ∧ p = a) := by
    rw [waitsAt_put_place]
    by_cases here : a = p
    · subst here
      simp [exact]
    · simp [here, Ne.symm here]
  constructor
  case isChannel =>
    funext x
    rw [isChannel_put]
    split
    next same => rw [← same, absent]; rfl
    next => rfl
  case above =>
    funext x
    rw [above?_put]
    split
    next same => rw [← same, above?_of_not_channel absent]; rfl
    next => rfl
  case kept => exact fun x p waits => (enrolled x p).mpr (.inl waits)
  case new =>
    intro p listed
    have same : p = a := List.mem_singleton.mp (List.takeWhile_subset _ listed)
    exact (enrolled name p).mpr (.inr ⟨rfl, same⟩)
  case only =>
    intro x p waits
    exact ((enrolled x p).mp waits).imp_right fun ⟨same, here⟩ => ⟨same, List.mem_singleton.mpr here⟩

theorem Climbed.trans {t'' : ChannelTree} {rest : List String} (absent : t.isChannel a = false)
    (first : Climbed name [a] t t') (later : Climbed name rest t' t'') : Climbed name (a :: rest) t t'' := by
  constructor
  case isChannel => exact later.isChannel.trans first.isChannel
  case above => exact later.above.trans first.above
  case kept => exact fun x p waits => later.kept x p (first.kept x p waits)
  case new =>
    intro p listed
    rw [List.takeWhile_cons, absent, Bool.not_false, if_pos rfl] at listed
    rcases List.mem_cons.mp listed with rfl | further
    · exact later.kept name p (first.new p (by simp [absent]))
    · rw [← first.isChannel] at further
      exact later.new p further
  case only =>
    intro x p waits
    rcases later.only x p waits with earlier | ⟨same, listed⟩
    · exact (first.only x p earlier).imp_right fun ⟨same, listed⟩ => ⟨same, by simp_all⟩
    · exact .inr ⟨same, List.mem_cons_of_mem a listed⟩

theorem climb_climbs (name : String) (way : List String) (t : ChannelTree) :
    (climb name way t).1 = way.find? t.isChannel ∧ Climbed name way t (climb name way t).2 := by
  induction way generalizing t with
  | nil =>
    refine ⟨rfl, rfl, rfl, fun _ _ waits => waits, fun a listed => ?_, fun _ _ waits => .inl waits⟩
    cases listed
  | cons a rest ih =>
    rw [climb]
    split
    next l above found =>
      have channel : t.isChannel a = true := by rw [isChannel, found]; rfl
      refine ⟨by rw [List.find?_cons, channel], rfl, rfl, fun _ _ waits => waits, fun a listed => ?_,
        fun _ _ waits => .inl waits⟩
      rw [List.takeWhile_cons, channel] at listed
      cases listed
    next below found =>
      have absent : t.isChannel a = false := by rw [isChannel, found]; rfl
      have exact : ∀ x, t.WaitsAt x a ↔ x ∈ below := fun x => by simp [WaitsAt, found]
      have first := enroll_climbed absent exact name
      obtain ⟨highest, later⟩ := ih { t with nodes := Entries.put t.nodes a (.place (below ++ [name])) }
      refine ⟨?_, first.trans absent later⟩
      rw [highest, first.isChannel, List.find?_cons, absent]
    next missing =>
      have absent : t.isChannel a = false := by rw [isChannel, missing]; rfl
      have exact : ∀ x, t.WaitsAt x a ↔ x ∈ [] := fun x => by simp [WaitsAt, missing]
      have first := enroll_climbed absent exact name
      obtain ⟨highest, later⟩ := ih { t with nodes := Entries.put t.nodes a (.place [name]) }
      refine ⟨?_, first.trans absent later⟩
      have same := first.isChannel
      rw [List.nil_append] at same
      rw [highest, same, List.find?_cons, absent]

theorem open_takeWhile (listed : a ∈ ancestors name) (free : t.Open name a) :
    a ∈ (ancestors name).takeWhile (!t.isChannel ·) := by
  obtain ⟨before, after, split⟩ := List.append_of_mem listed
  have ordered := ancestors_pairwise name
  rw [split] at ordered ⊢
  have nearer : ∀ b ∈ before, (!t.isChannel b) = true := by
    intro b first
    have begins : Begins a b := (List.pairwise_append.mp ordered).2.2 b first a List.mem_cons_self
    rw [free b (split ▸ List.mem_append_left _ first) (.inr begins)]
    rfl
  rw [List.takeWhile_append_of_pos nearer, List.takeWhile_cons, free a listed (.inl rfl), Bool.not_false, if_pos rfl]
  exact List.mem_append_right _ List.mem_cons_self

structure Entered (name : String) (t t' : ChannelTree) : Prop where
  isChannel : ∀ x, t'.isChannel x = if name = x then true else t.isChannel x
  above : ∀ x, t'.above? x = if name = x then (ancestors name).find? t.isChannel else t.above? x
  kept : ∀ x a, name ≠ a → t.WaitsAt x a → t'.WaitsAt x a
  new : ∀ a ∈ ancestors name, t.Open name a → t'.WaitsAt name a
  only : ∀ x a, t'.WaitsAt x a → t.WaitsAt x a ∨ (x = name ∧ a ∈ ancestors name)

theorem Begins.ne (begins : Begins a name) : name ≠ a := by
  rintro rfl
  exact Nat.lt_irrefl _ begins.2

theorem enter_enters (name : String) (t : ChannelTree) : Entered name t (t.enter name) := by
  obtain ⟨highest, climbed⟩ := climb_climbs name (ancestors name) t
  unfold enter
  constructor
  case isChannel =>
    intro x
    rw [isChannel_put, climbed.isChannel]
    rfl
  case above =>
    intro x
    rw [above?_put, climbed.above, ← highest]
    rfl
  case kept => exact fun x a other waits => waitsAt_put_channel.mpr ⟨other, climbed.kept x a waits⟩
  case new =>
    intro a listed free
    exact waitsAt_put_channel.mpr ⟨(begins_of_ancestor listed).ne, climbed.new a (open_takeWhile listed free)⟩
  case only => exact fun x a waits => climbed.only x a (waitsAt_put_channel.mp waits).2

theorem taken_of_nearer {p : String} (begins : Begins name p) : taken name (some p) = some p :=
  if_pos (List.isPrefixOf_iff_prefix.mpr begins.1)

theorem taken_of_farther {above : Option String} (farther : ∀ p, above = some p → Begins p name)
    (apart : ¬name.toList <+: rootName.toList) : taken name above = some name := by
  refine if_neg fun begins => ?_
  have begins := List.isPrefixOf_iff_prefix.mp begins
  cases above with
  | none => exact apart begins
  | some p =>
    have longer := begins.length_le
    have shorter := (farther p rfl).2
    rw [Option.getD_some, String.length_toList, String.length_toList] at longer
    omega

section mention

variable {t₁ : ChannelTree} {below : List String} (linked : t.Linked) (absent : t.isChannel name = false)
  (inner : isRoot name = false) (waiting : ∀ x, t.WaitsAt x name ↔ x ∈ below)
  (moved : TakenOver name below t t₁) (entered : Entered name t₁ t')

include moved entered in
theorem find?_entered {l : List String} (apart : name ∉ l) : l.find? t'.isChannel = l.find? t.isChannel := by
  refine List.find?_congr fun a listed => ?_
  rw [entered.isChannel, moved.isChannel, if_neg (by rintro rfl; exact apart listed)]

include linked absent inner waiting moved entered in
theorem above?_entered (apart : Apart x) (channel : t.isChannel x = true) :
    t'.above? x = (ancestors x).find? t'.isChannel := by
  have before := linked.above x apart channel
  have other : name ≠ x := by
    rintro rfl
    cases absent.symm.trans channel
  rw [entered.above, if_neg other, moved.above]
  by_cases listed : name ∈ ancestors x
  · obtain ⟨nearer, farther, split⟩ := List.append_of_mem listed
    have ordered := ancestors_pairwise x
    rw [split] at ordered
    obtain ⟨-, tail, across⟩ := List.pairwise_append.mp ordered
    have apartNearer : name ∉ nearer := fun inside =>
      (across name inside name List.mem_cons_self).ne rfl
    rw [split, List.find?_append, List.find?_cons, absent] at before
    rw [split, List.find?_append, List.find?_cons, entered.isChannel name, if_pos rfl,
      find?_entered moved entered apartNearer]
    cases found : nearer.find? t.isChannel with
    | some p =>
      -- A nearer channel begins with the new name, so that it stays whether it is offered the new one or not.
      have begins : Begins name p := across p (List.mem_of_find?_eq_some found) name List.mem_cons_self
      rw [before, found, Option.some_or, taken_of_nearer begins, ite_self]
      rfl
    | none =>
      -- Nothing stood between, so that the channel waits at the new name and is told.
      have free : t.Open x name := by
        intro a ancestor here
        rcases here with rfl | begins
        · exact absent
        · rw [split] at ancestor
          rcases List.mem_append.mp ancestor with inside | rest
          · exact Bool.eq_false_iff.mpr (List.find?_eq_none.mp found a inside)
          · rcases List.mem_cons.mp rest with rfl | outside
            · exact (begins.ne rfl).elim
            · have shorter := ((List.pairwise_cons.mp tail).1 a outside).2
              have longer := begins.2
              omega
      have waits := (waiting x).mp (linked.waits x apart channel name listed free)
      rw [found, Option.none_or] at before
      rw [if_pos waits, before, taken_of_farther, Option.none_or]
      · intro p higher
        exact (List.pairwise_cons.mp tail).1 p (List.mem_of_find?_eq_some higher)
      · intro begins
        cases inner.symm.trans (apart name listed begins)
  · have idle : x ∉ below := fun waits => listed (linked.waiting x name ((waiting x).mpr waits)).2
    rw [if_neg idle, before, find?_entered moved entered listed]

include linked absent inner waiting moved entered in
theorem entered_linked : t'.Linked := by
  have own : name ∉ ancestors name := fun listed => (begins_of_ancestor listed).ne rfl
  constructor
  case root =>
    intro x root
    rw [entered.isChannel, moved.isChannel, if_neg]
    · exact linked.root x root
    · rintro rfl
      cases inner.symm.trans root
  case waiting =>
    intro x a waits
    rw [entered.isChannel, moved.isChannel]
    rcases entered.only x a waits with earlier | ⟨rfl, listed⟩
    · rw [moved.waits] at earlier
      obtain ⟨channel, listed⟩ := linked.waiting x a earlier
      rw [channel, ite_self]
      exact ⟨rfl, listed⟩
    · exact ⟨if_pos rfl, listed⟩
  case waits =>
    intro x apart channel a listed free
    -- A way that is open now was so before the name was entered.
    have emptier : t₁.Open x a := by
      intro b ancestor here
      have vacant := free b ancestor here
      rw [entered.isChannel] at vacant
      split at vacant
      · cases vacant
      · exact vacant
    by_cases same : name = x
    · subst same
      exact entered.new a listed emptier
    · rw [entered.isChannel, if_neg same] at channel
      have other : name ≠ a := by
        rintro rfl
        have taken := free name listed (.inl rfl)
        rw [entered.isChannel, if_pos rfl] at taken
        cases taken
      refine entered.kept x a other ?_
      unfold Open at emptier
      rw [moved.isChannel] at channel emptier
      rw [moved.waits]
      exact linked.waits x apart channel a listed emptier
  case above =>
    intro x apart channel
    by_cases same : name = x
    · subst same
      rw [entered.above, if_pos rfl, moved.isChannel, find?_entered moved entered own]
    · rw [entered.isChannel, if_neg same, moved.isChannel] at channel
      exact above?_entered linked absent inner waiting moved entered apart channel

end mention

theorem mention_linked (linked : t.Linked) (name : String) : (t.mention name).Linked := by
  unfold mention
  split
  next => exact linked
  next inner =>
    have inner : isRoot name = false := Bool.eq_false_iff.mpr inner
    split
    next => exact linked
    next below found =>
      have absent : t.isChannel name = false := by rw [isChannel, found]; rfl
      have waiting : ∀ x, t.WaitsAt x name ↔ x ∈ below := fun x => by simp [WaitsAt, found]
      have moved := foldl_takeOver_takes (fun c waits => (linked.waiting c name ((waiting c).mpr waits)).1) name
      exact entered_linked linked absent inner waiting moved (enter_enters name _)
    next missing =>
      have absent : t.isChannel name = false := by rw [isChannel, missing]; rfl
      have waiting : ∀ x, t.WaitsAt x name ↔ x ∈ [] := fun x => by simp [WaitsAt, missing]
      have moved : TakenOver name [] t t := ⟨rfl, rfl, fun x => rfl⟩
      exact entered_linked linked absent inner waiting moved (enter_enters name t)

theorem isChannel_mention (t : ChannelTree) {name : String} (inner : isRoot name = false) :
    (t.mention name).isChannel name = true := by
  unfold mention
  rw [inner, if_neg Bool.false_ne_true]
  split
  next l above found => rw [isChannel, found]; rfl
  next => rw [(enter_enters name _).isChannel, if_pos rfl]
  next => rw [(enter_enters name t).isChannel, if_pos rfl]

theorem mention_mention (t : ChannelTree) (name : String) : (t.mention name).mention name = t.mention name := by
  cases root : isRoot name with
  | true => rw [mention, if_pos root]
  | false =>
    obtain ⟨l, above, found⟩ := isChannel_found (isChannel_mention t root)
    rw [mention.eq_def (t.mention name), root, if_neg Bool.false_ne_true, found]

theorem setLevel_linked (linked : t.Linked) (name : String) (l : Rank) : (t.setLevel name l).Linked := by
  unfold setLevel
  split
  next =>
    have same : t.SameLinks { t with root := l } := ⟨rfl, rfl, rfl⟩
    exact same.linked linked
  next inner =>
    have mentioned := isChannel_mention t (Bool.eq_false_iff.mpr inner)
    obtain ⟨channels, waits⟩ := rewrite_channel mentioned l ((t.mention name).above? name)
    refine SameLinks.linked ⟨channels, ?_, waits⟩ (mention_linked linked name)
    funext x
    rw [above?_put]
    split
    next same => rw [← same]; rfl
    next => rfl

theorem setLevels_linked (levels : List (String × Rank)) {t : ChannelTree} (linked : t.Linked) :
    (setLevels levels t).Linked := by
  induction levels generalizing t with
  | nil => exact linked
  | cons e rest ih => exact ih (setLevel_linked linked e.1 e.2)

end links

end ChannelTree
end Switchboard.Journal
